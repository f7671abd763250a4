import Mathlib.Data.List.Chain
import Storyline.Condition.Evaluator
import Storyline.Proofs.Condition.Language
import Storyline.Proofs.Story

namespace Storyline.Condition
open Text

/-- Where a word may be cut out of a text: nothing beside it goes on with it. -/
structure Cut (before after : List Char) : Prop where
  left : ∀ c ∈ before.getLast?, continuesWord c = false
  right : ∀ c ∈ after.head?, continuesWord c = false

/-- A name stands in the text as a word of its own. -/
def StandsIn (name : String) (cs : List Char) : Prop :=
  ∃ before after, cs = before ++ (name.toList ++ after) ∧ Cut before after

section Denied
variable {name : String} {cs before : List Char}

theorem any_continuesWord {o : Option Char} :
    (!o.any continuesWord) = true ↔ ∀ c ∈ o, continuesWord c = false := by
  cases o <;> simp

theorem standsAtFront_iff : standsAtFront name cs = true ↔
    ∃ after, cs = name.toList ++ after ∧ ∀ c ∈ after.head?, continuesWord c = false := by
  rw [standsAtFront, Bool.and_eq_true, any_continuesWord, List.isPrefixOf_iff_prefix]
  constructor
  · rintro ⟨⟨after, rfl⟩, hend⟩
    rw [← String.length_toList, List.drop_left] at hend
    exact ⟨after, rfl, hend⟩
  · rintro ⟨after, rfl, hend⟩
    rw [← String.length_toList, List.drop_left]
    exact ⟨⟨after, rfl⟩, hend⟩

theorem denied_unblank (h : name ∈ deniedNames) :
    name.toList ≠ [] ∧ ∀ c ∈ name.toList, isBlank c = false := by
  have hall : deniedNames.all (fun name => !name.toList.isEmpty &&
    name.toList.all (!isBlank ·)) = true := by decide
  simpa using List.all_eq_true.mp hall name h

/-- The check finds the denied names that stand in the text as words. -/
theorem mentionsDenied_iff : mentionsDenied before.getLast? cs = true ↔
    ∃ name ∈ deniedNames, ∃ between after, cs = between ++ (name.toList ++ after) ∧
      Cut (before ++ between) after := by
  induction cs generalizing before with
  | nil =>
    simp only [mentionsDenied, Bool.false_eq_true, false_iff]
    rintro ⟨name, hname, between, after, heq, _⟩
    have hnil := List.append_eq_nil_iff.mp heq.symm
    exact (denied_unblank hname).1 (List.append_eq_nil_iff.mp hnil.2).1
  | cons c rest ih =>
    have hnext : some c = (before ++ [c]).getLast? := by simp
    rw [mentionsDenied, Bool.or_eq_true, Bool.and_eq_true, any_continuesWord, List.any_eq_true,
      hnext, ih]
    constructor
    · rintro (⟨hleft, name, hname, hfront⟩ | ⟨name, hname, between, after, rfl, hcut⟩)
      · obtain ⟨after, heq, hright⟩ := standsAtFront_iff.mp hfront
        exact ⟨name, hname, [], after, heq, by simpa using hleft, hright⟩
      · exact ⟨name, hname, c :: between, after, rfl, by simpa using hcut⟩
    · rintro ⟨name, hname, between, after, heq, hcut⟩
      cases between with
      | nil =>
        refine .inl ⟨by simpa using hcut.left, name, hname, ?_⟩
        exact standsAtFront_iff.mpr ⟨after, heq, hcut.right⟩
      | cons d between =>
        obtain ⟨rfl, rfl⟩ := List.cons.inj heq
        exact .inr ⟨name, hname, between, after, rfl, by simpa using hcut⟩

theorem isDenied_iff {s : String} :
    isDenied s = true ↔ ∃ name ∈ deniedNames, StandsIn name s.toList :=
  @mentionsDenied_iff s.toList []

theorem dropWhile_append_stop {p : Char → Bool} {xs ys : List Char} (hne : ys ≠ [])
    (hy : ∀ c ∈ ys, p c = false) (zs : List Char) :
    (xs ++ (ys ++ zs)).dropWhile p = xs.dropWhile p ++ (ys ++ zs) := by
  obtain ⟨y, ys, rfl⟩ := List.exists_cons_of_ne_nil hne
  have hstop : ((y :: ys) ++ zs).dropWhile p = (y :: ys) ++ zs := by
    simp [hy y List.mem_cons_self]
  rw [List.dropWhile_append, hstop]
  split
  · rename_i hnil
    rw [List.isEmpty_iff.mp hnil, List.nil_append]
  · rfl

theorem mem_getLast?_dropWhile {p : Char → Bool} {c : Char} (h : c ∈ (cs.dropWhile p).getLast?) :
    c ∈ cs.getLast? := by
  obtain ⟨taken, ht⟩ := List.dropWhile_suffix p (l := cs)
  rw [← ht, List.getLast?_append, Option.mem_def.mp h]
  rfl

/-- Trimming takes nothing from a word without blanks, and nothing that would go on with it. -/
theorem StandsIn.trimmed (h : StandsIn name cs) (hne : name.toList ≠ [])
    (hn : ∀ c ∈ name.toList, isBlank c = false) : StandsIn name (trimChars cs) := by
  obtain ⟨before, after, rfl, hcut⟩ := h
  refine ⟨before.dropWhile isBlank, (after.reverse.dropWhile isBlank).reverse, ?_,
    fun c hc => hcut.left c (mem_getLast?_dropWhile hc), fun c hc => hcut.right c ?_⟩
  · have hne' : name.toList.reverse ≠ [] := by simpa using hne
    have hn' : ∀ c ∈ name.toList.reverse, isBlank c = false := by simpa using hn
    rw [trimChars, dropWhile_append_stop hne hn, List.reverse_append, List.reverse_append,
      List.append_assoc, dropWhile_append_stop hne' hn']
    simp
  · rw [List.head?_reverse] at hc
    rw [← List.getLast?_reverse]
    exact mem_getLast?_dropWhile hc

/-- A text is its trimmed form between blanks. -/
theorem trimChars_between (cs : List Char) : ∃ front back, cs = front ++ (trimChars cs ++ back) ∧
    (∀ c ∈ front, isBlank c = true) ∧ ∀ c ∈ back, isBlank c = true := by
  refine ⟨cs.takeWhile isBlank, ((cs.dropWhile isBlank).reverse.takeWhile isBlank).reverse, ?_,
    fun c hc => List.mem_takeWhile_imp hc,
    fun c hc => List.mem_takeWhile_imp (List.mem_reverse.mp hc)⟩
  rw [trimChars, ← List.reverse_append, List.takeWhile_append_dropWhile, List.reverse_reverse,
    List.takeWhile_append_dropWhile]

end Denied

section Words
variable {c : Char}

/-- No word goes on with a blank. -/
theorem blankRanges_no_words :
    ∀ r ∈ blankRanges, ∀ w ∈ wordRanges, r.2 < w.1 ∨ w.2 < r.1 := by
  decide +kernel

theorem not_continuesWord_of_isBlank (h : isBlank c = true) : continuesWord c = false := by
  rw [← Bool.not_eq_true]
  intro hw
  rcases (Bool.or_eq_true _ _).mp hw with hw | hw
  · unfold isWordCharacter at hw
    split at hw
    · have hname : isNameCharacter c = true := by
        simp only [Char.isAlphanum, Bool.or_eq_true] at hw
        rcases hw with (hw | hw) | hw <;> simp [isNameCharacter, isNameStart, hw]
      rw [not_isNameCharacter_of_isBlank h] at hname
      cases hname
    · obtain ⟨w, hw, hin⟩ := List.any_eq_true.mp hw
      simp only [Bool.and_eq_true, decide_eq_true_eq] at hin
      obtain ⟨r, hr, hlow, hhigh⟩ := isBlank_iff.mp h
      rcases blankRanges_no_words r hr w hw with h | h <;> omega
  · rw [beq_iff_eq.mp hw] at h
    revert h
    decide

theorem not_continuesWord_of_symbol {s : Symbol} (h : c ∈ s.text.toList) :
    continuesWord c = false := by
  have hall : symbols.all (fun s => s.text.toList.all (!continuesWord ·)) = true := by
    decide +kernel
  simpa using List.all_eq_true.mp (List.all_eq_true.mp hall s (mem_symbols s)) c h

/-- Blanks around a text take no word from it. -/
theorem StandsIn.of_trimmed {name : String} {cs : List Char} (h : StandsIn name (trimChars cs)) :
    StandsIn name cs := by
  obtain ⟨front, back, hcs, hfront, hback⟩ := trimChars_between cs
  obtain ⟨before, after, heq, hcut⟩ := h
  refine ⟨front ++ before, after ++ back, by rw [hcs, heq]; simp, fun c hc => ?_, fun c hc => ?_⟩
  · rw [List.getLast?_append] at hc
    rcases Option.or_eq_some_iff.mp hc with hc | ⟨_, hc⟩
    · exact hcut.left c hc
    · exact not_continuesWord_of_isBlank (hfront c (List.mem_of_getLast? hc))
  · rw [List.head?_append] at hc
    rcases Option.or_eq_some_iff.mp hc with hc | ⟨_, hc⟩
    · exact hcut.right c hc
    · exact not_continuesWord_of_isBlank (hback c (List.mem_of_mem_head? hc))

theorem isDenied_trim {s : String} :
    isDenied (trim s) = true ↔ ∃ name ∈ deniedNames, StandsIn name s.toList := by
  rw [isDenied_iff, trim, String.toList_ofList]
  constructor
  · rintro ⟨name, hn, h⟩
    exact ⟨name, hn, h.of_trimmed⟩
  · rintro ⟨name, hn, h⟩
    obtain ⟨hne, hblank⟩ := denied_unblank hn
    exact ⟨name, hn, h.trimmed hne hblank⟩

end Words

def Lexeme.IsSymbol (l : Lexeme) : Prop := ∃ s, l = .symbol s

abbrev Alternating (ls : List Lexeme) : Prop := ls.IsChain fun l l' => l.IsSymbol ∨ l'.IsSymbol

section Phrases
variable {depth level : Nat} {e : Expression} {ls rs : List Lexeme}

theorem alternating_cons_symbol {s : Symbol} :
    Alternating (.symbol s :: ls) ↔ Alternating ls := by
  rw [Alternating, List.isChain_cons]
  exact and_iff_right fun _ _ => .inl ⟨s, rfl⟩

/-- A symbol may stand between any two texts. -/
theorem alternating_append_symbol {s : Symbol} :
    Alternating (ls ++ .symbol s :: rs) ↔ Alternating ls ∧ Alternating rs := by
  rw [Alternating, List.isChain_append]
  constructor
  · rintro ⟨hl, hr, _⟩
    exact ⟨hl, alternating_cons_symbol.mp hr⟩
  · rintro ⟨hl, hr⟩
    refine ⟨hl, alternating_cons_symbol.mpr hr, ?_⟩
    rintro _ _ _ ⟨⟩
    exact .inr ⟨s, rfl⟩

theorem alternating_singleton (l : Lexeme) : Alternating [l] := List.isChain_singleton l

theorem alternating_separated {arguments : List (List Lexeme)}
    (h : ∀ ls ∈ arguments, Alternating ls) : Alternating (separated arguments) := by
  induction arguments with
  | nil => exact List.isChain_nil
  | cons ls rest ih =>
    obtain ⟨hls, hrest⟩ := List.forall_mem_cons.mp h
    cases rest with
    | nil => rwa [separated_singleton]
    | cons rs rest =>
      rw [separated_cons_cons]
      exact alternating_append_symbol.mpr ⟨hls, ih hrest⟩

theorem Phrase.alternating (h : Phrase depth level e ls) : Alternating ls := by
  induction h with
  | tighter _ ih => exact ih
  | binary o _ _ iha ihb => exact alternating_append_symbol.mpr ⟨iha, ihb⟩
  | sign s _ ih => exact alternating_cons_symbol.mpr ih
  | dotted name _ ih => exact alternating_append_symbol.mpr ⟨ih, alternating_singleton _⟩
  | indexed _ _ ihe ihk =>
    refine alternating_append_symbol.mpr ⟨ihe, alternating_append_symbol.mpr ⟨ihk, ?_⟩⟩
    exact List.isChain_nil
  | @called _ _ _ arguments _ _ ihe iha =>
    have harguments : Alternating (separated (arguments.map Prod.snd)) := by
      refine alternating_separated fun ls hls => ?_
      obtain ⟨a, ha, rfl⟩ := List.mem_map.mp hls
      exact iha a ha
    refine alternating_append_symbol.mpr ⟨ihe, ?_⟩
    rw [← List.singleton_append, alternating_append_symbol]
    exact ⟨alternating_singleton _,
      alternating_append_symbol.mpr ⟨harguments, List.isChain_nil⟩⟩
  | literal l => exact alternating_singleton _
  | name _ => exact alternating_singleton _
  | grouped _ ih =>
    exact alternating_cons_symbol.mpr (alternating_append_symbol.mpr ⟨ih, List.isChain_nil⟩)

end Phrases

section Layout
variable {apart : Bool} {ls : List Lexeme} {cs : List Char}

theorem Spelled.symbol_eq {s : Symbol} (h : Spelled (.symbol s) cs) : cs = s.text.toList := by
  cases h
  rfl

theorem Spelled.name_eq {name : String} (h : Spelled (.name name) cs) :
    cs = name.toList ∧ isReserved name = false := by
  cases h with
  | name _ _ hr => exact ⟨by simp, hr⟩

/-- No word goes on into a text that does not start with one. -/
theorem Laid.cut_front (h : Laid apart ls cs) (hs : ∀ l ∈ ls.head?, l.IsSymbol) :
    ∀ c ∈ cs.head?, continuesWord c = false := by
  cases h with
  | done => simp
  | blank hb _ =>
    rintro c ⟨⟩
    exact not_continuesWord_of_isBlank hb
  | lexeme hl _ _ =>
    obtain ⟨s, rfl⟩ := hs _ rfl
    intro c hc
    rw [hl.symbol_eq, List.head?_append] at hc
    obtain ⟨d, ds, hd⟩ := List.exists_cons_of_ne_nil s.text_ne_nil
    rw [hd] at hc
    cases hc
    exact not_continuesWord_of_symbol (hd ▸ List.mem_cons_self)

/-- The names among alternating lexemes stand in the text, behind others that they do not go on
with, unless they start with a symbol anyway. -/
theorem Laid.standsIn (h : Laid apart ls cs) (ha : Alternating ls) {before : List Char}
    (hb : (∀ c ∈ before.getLast?, continuesWord c = false) ∨ ∀ l ∈ ls.head?, l.IsSymbol) :
    ∀ name, .name name ∈ ls → StandsIn name (before ++ cs) := by
  induction h generalizing before with
  | done => exact fun _ hm => nomatch hm
  | @blank ls c cs hc _ ih =>
    intro name hm
    have hlast : ∀ d ∈ (before ++ [c]).getLast?, continuesWord d = false := by
      rw [List.getLast?_concat]
      rintro d ⟨⟩
      exact not_continuesWord_of_isBlank hc
    simpa using ih ha (.inl hlast) name hm
  | @lexeme l ls written cs hl _ hrest ih =>
    intro name hm
    obtain ⟨hnext, ha⟩ := List.isChain_cons.mp ha
    rcases List.mem_cons.mp hm with rfl | hm
    · have hno : ¬ (Lexeme.name name).IsSymbol := by rintro ⟨s, ⟨⟩⟩
      obtain ⟨rfl, _⟩ := hl.name_eq
      refine ⟨before, cs, rfl, hb.resolve_right fun h => hno (h _ rfl), ?_⟩
      exact hrest.cut_front fun l hl => (hnext l hl).resolve_left hno
    · rw [← List.append_assoc]
      refine ih ha ?_ name hm
      by_cases hsym : l.IsSymbol
      · obtain ⟨s, rfl⟩ := hsym
        obtain rfl := hl.symbol_eq
        refine .inl fun c hc => ?_
        rw [List.getLast?_append_of_ne_nil _ s.text_ne_nil] at hc
        exact not_continuesWord_of_symbol (List.mem_of_getLast? hc)
      · exact .inr fun l hl => (hnext l hl).resolve_left hsym

theorem Laid.not_reserved (h : Laid apart ls cs) {name : String} (hm : .name name ∈ ls) :
    isReserved name = false := by
  obtain ⟨written, hl⟩ := h.allSpelled _ hm
  exact hl.name_eq.2

end Layout

/-- Every name that is read from a text that compiles stands in it as a word. -/
theorem compile_names {text : String} {e : Expression} (h : compile text = .ok e) :
    ∃ ts, tokens text = .ok ts ∧ ∀ t ∈ ts, ∀ name, t.lexeme = .name name →
      StandsIn name text.toList ∧ isReserved name = false := by
  obtain ⟨ts, ht, hparse⟩ := bind_eq_ok.mp h
  refine ⟨ts, ht, fun t hmem name hname => ?_⟩
  have hlaid : Laid false (lexemes ts) text.toList := tokensFrom_written ht (Nat.zero_le _)
  have halternating := ((parse_recognises _ ts).1 e hparse).alternating
  have hm : .name name ∈ lexemes ts := hname ▸ List.mem_map_of_mem hmem
  have hstands : StandsIn name ([] ++ text.toList) :=
    hlaid.standsIn halternating (.inl (by simp)) name hm
  exact ⟨hstands, hlaid.not_reserved hm⟩

theorem checked_eq_ok {s trimmed : String} :
    checked (.text s) = .ok trimmed ↔ trimmed = trim s ∧ isDenied (trim s) = false := by
  simp only [checked]
  split
  case isTrue hd => simp [hd]
  case isFalse hd => simp [hd, eq_comm (a := trim s)]

/-- A text with a denied name does not pass, blanks around it or not. -/
theorem checked_denied {text name : String} (hn : name ∈ deniedNames)
    (h : StandsIn name text.toList) :
    checked (.text text) = .error ⟨.text text, .denied⟩ ∧ isAllBlank text = false := by
  have hd : isDenied (trim text) = true := isDenied_trim.mpr ⟨name, hn, h⟩
  refine ⟨by simp [checked, hd], ?_⟩
  obtain ⟨hne, hblank⟩ := denied_unblank hn
  obtain ⟨before, after, heq, _⟩ := h
  obtain ⟨c, hc⟩ := List.exists_mem_of_ne_nil _ hne
  exact List.all_eq_false.mpr ⟨c, by simp [heq, hc], by simpa using hblank c hc⟩

/-- The border of the sandbox. A text passes the check if no denied name stands in it as a word of
its own. If it also compiles, none of its names is denied or reserved. A text with a denied name is
refused in every scope and with every cache, which stays as it is, and is found unsafe without being
evaluated. -/
theorem sandbox_holds :
    (∀ text, checked (.text text) = .ok (trim text) ↔
      ∀ name ∈ deniedNames, ¬ StandsIn name text.toList) ∧
    (∀ text trimmed e, checked (.text text) = .ok trimmed → compile trimmed = .ok e →
      ∃ ts, tokens trimmed = .ok ts ∧ ∀ t ∈ ts, ∀ name, t.lexeme = .name name →
        name ∉ deniedNames ∧ isReserved name = false) ∧
    ∀ text name, name ∈ deniedNames → StandsIn name text.toList →
      ∃ refusal : ConditionError,
        refusal.message = "Potentially unsafe expression detected: " ++ text ∧
        (∀ (ev : Evaluator) scope, ev.custom = none →
          ev.evaluate (.text text) scope = ⟨.error (.condition refusal), ev, none⟩) ∧
        validate (.text text) = .ok (some refusal.message) := by
  refine ⟨fun text => ?_, fun text trimmed e hc he => ?_, fun text name hn hs => ?_⟩
  · rw [checked_eq_ok, ← Bool.not_eq_true, isDenied_trim]
    simp
  · obtain ⟨ts, ht, hnames⟩ := compile_names he
    obtain ⟨rfl, hpassed⟩ := checked_eq_ok.mp hc
    refine ⟨ts, ht, fun t hm name hname => ?_⟩
    obtain ⟨hstands, hreserved⟩ := hnames t hm name hname
    refine ⟨fun hd => ?_, hreserved⟩
    rw [isDenied_iff.mpr ⟨name, hd, hstands⟩] at hpassed
    cases hpassed
  · obtain ⟨hc, hb⟩ := checked_denied hn hs
    refine ⟨⟨.text text, .denied⟩, rfl, fun ev scope hcustom => ?_, ?_⟩
    · simp [Evaluator.evaluate, hcustom, Evaluator.evaluateBuiltin, hb, hc]
    · simp only [validate, hc]
      rfl

/-- A denied name inside a longer word is allowed. A text with a denied name has no answer, even if
its tree is in the cache. -/
theorem sandbox_holds_eval :
    (∃ ts, tokens "!flags.evaluated" = .ok ts ∧ ∀ t ∈ ts, ∀ name, t.lexeme = .name name →
      name ∉ deniedNames ∧ isReserved name = false) ∧
    (Evaluator.evaluate ⟨1, [("eval(2) > 1", .literal (.bool true))], none⟩ (.text " eval(2) > 1")
        ⟨"hall", [], [], .int 0, []⟩).answer.isOk = false := by
  obtain ⟨_, hnames, hdenied⟩ := sandbox_holds
  constructor
  · have hread : (compile "!flags.evaluated").isOk = true := by decide +kernel
    cases he : compile "!flags.evaluated" with
    | error _ =>
      rw [he] at hread
      cases hread
    | ok _ => exact hnames "!flags.evaluated" _ _ rfl he
  · have hcut : Cut [' '] "(2) > 1".toList := by
      constructor <;> intro c hc <;> cases hc <;> decide
    obtain ⟨_, _, hev, _⟩ := hdenied " eval(2) > 1" "eval" (by decide) ⟨_, _, rfl, hcut⟩
    rw [hev _ _ rfl]
    rfl

/-- Behind a digit a name is no word of its own, and no phrase either. -/
example : checked (.text "2eval") = .ok "2eval" ∧
    compile "2eval" = .error (.unexpectedToken (.name "eval") 1) := ⟨rfl, by cbv⟩

end Storyline.Condition
