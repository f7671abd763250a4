import Storyline.Proofs.Condition.Evaluation
import Storyline.Proofs.Condition.Limit
import Storyline.Proofs.Condition.Recognition
import Storyline.Proofs.Condition.Spelling

namespace Storyline.Condition

/-- There is a way to write every literal and every name in the expression. -/
inductive Writable : Expression → Prop
  | literal {l : Literal} {cs : List Char} : Spelled l.lexeme cs → Writable (.literal l)
  | name {s : String} {cs : List Char} : literalName? s = none → Spelled (.name s) cs →
    Writable (.name s)
  | sign (s : Sign) {e : Expression} : Writable e → Writable (.sign s e)
  | binary (o : Operator) {left right : Expression} : Writable left → Writable right →
    Writable (.binary o left right)
  | member {target key : Expression} : Writable target → Writable key →
    Writable (.member target key)
  | includes {target : Expression} {arguments : List Expression} : Writable target →
    (∀ e ∈ arguments, Writable e) → Writable (.includes target arguments)

def AllSpelled (ls : List Lexeme) : Prop := ∀ l ∈ ls, ∃ cs, Spelled l cs

section Writing
variable {depth level : Nat} {e : Expression} {ls : List Lexeme}

/-- Every text can be put between quotes. -/
theorem exists_escaped (value : List Char) : ∃ written, Escaped '"' value written := by
  induction value with
  | nil => exact ⟨[], .nil⟩
  | cons c value ih =>
    obtain ⟨written, h⟩ := ih
    by_cases hq : c = '"'
    · subst hq
      exact ⟨_, Escaped.escape (c := '"') (by decide) h⟩
    by_cases hb : c = '\\'
    · subst hb
      exact ⟨_, Escaped.escape (c := '\\') (by decide) h⟩
    · exact ⟨_, .plain hq hb h⟩

theorem exists_spelled_text (s : String) : ∃ cs, Spelled (.text s) cs := by
  obtain ⟨written, h⟩ := exists_escaped s.toList
  have ht := Spelled.text (.inl rfl) h
  rw [String.ofList_toList] at ht
  exact ⟨_, ht⟩

theorem exists_spelled_method : ∃ cs, Spelled (.name methodName) cs := by
  have h : Spelled (.name (String.ofList ('i' :: "ncludes".toList))) _ :=
    .name (by decide) (List.all_eq_true.mp (by decide)) (by decide)
  exact ⟨_, h⟩

theorem allSpelled_symbol (s : Symbol) : AllSpelled [.symbol s] := by
  simpa [AllSpelled] using ⟨_, Spelled.symbol s⟩

theorem allSpelled_append {rs : List Lexeme} :
    AllSpelled (ls ++ rs) ↔ AllSpelled ls ∧ AllSpelled rs := List.forall_mem_append

/-- Lexemes that can be spelled can be laid out with blanks between them. -/
theorem AllSpelled.laid (h : AllSpelled ls) : ∃ cs, Laid true ls cs := by
  induction ls with
  | nil => exact ⟨[], .done⟩
  | cons l ls ih =>
    obtain ⟨⟨written, hl⟩, hrest⟩ := List.forall_mem_cons.mp h
    obtain ⟨cs, hcs⟩ := ih hrest
    refine ⟨written ++ ' ' :: cs, .lexeme hl ?_ (.blank (by decide) hcs)⟩
    rintro - c ⟨⟩
    decide

theorem Laid.allSpelled {apart : Bool} {cs : List Char} (h : Laid apart ls cs) :
    AllSpelled ls := by
  induction h with
  | done => simp [AllSpelled]
  | blank _ _ ih => exact ih
  | lexeme hl _ _ ih => exact List.forall_mem_cons.mpr ⟨⟨_, hl⟩, ih⟩

theorem allSpelled_separated {arguments : List (List Lexeme)} :
    AllSpelled (separated arguments) ↔ ∀ ls ∈ arguments, AllSpelled ls := by
  induction arguments with
  | nil => simp [separated, AllSpelled]
  | cons ls rest ih =>
    cases rest with
    | nil => simp [separated_singleton]
    | cons rs rest =>
      rw [separated_cons_cons, ← List.singleton_append, allSpelled_append, allSpelled_append, ih,
        List.forall_mem_cons]
      simp [allSpelled_symbol]

/-- What is spelled is writable. -/
theorem Phrase.writable (h : Phrase depth level e ls) (hs : AllSpelled ls) : Writable e := by
  induction h with
  | tighter _ ih => exact ih hs
  | binary o _ _ iha ihb =>
    obtain ⟨ha, hb⟩ := List.forall_mem_append.mp hs
    exact .binary o (iha ha) (ihb (List.forall_mem_cons.mp hb).2)
  | sign s _ ih => exact .sign s (ih (List.forall_mem_cons.mp hs).2)
  | dotted name _ ih =>
    obtain ⟨cs, hname⟩ := exists_spelled_text name
    exact .member (ih (List.forall_mem_append.mp hs).1) (.literal hname)
  | indexed _ _ ihe ihk =>
    obtain ⟨he, hk⟩ := List.forall_mem_append.mp hs
    exact .member (ihe he) (ihk (List.forall_mem_append.mp (List.forall_mem_cons.mp hk).2).1)
  | @called _ _ _ arguments _ _ ihe iha =>
    obtain ⟨he, ha⟩ := List.forall_mem_append.mp hs
    have ha : AllSpelled (separated (arguments.map Prod.snd)) := fun l hl => ha l (by simp [hl])
    refine .includes (ihe he) ?_
    intro x hx
    obtain ⟨a, hm, rfl⟩ := List.mem_map.mp hx
    exact iha a hm (allSpelled_separated.mp ha _ (List.mem_map_of_mem hm))
  | literal l =>
    obtain ⟨cs, hl⟩ := hs _ List.mem_cons_self
    exact .literal hl
  | name hname =>
    obtain ⟨cs, hn⟩ := hs _ List.mem_cons_self
    exact .name hname hn
  | grouped _ ih =>
    exact ih (List.forall_mem_append.mp (List.forall_mem_cons.mp hs).2).1

/-- The expression can be written where something of the level is wanted. -/
def WrittenAt (level : Nat) (e : Expression) : Prop :=
  ∃ depth ls, Phrase depth level e ls ∧ AllSpelled ls

/-- In parentheses, everything can stand anywhere. -/
theorem WrittenAt.anywhere (h : WrittenAt level e) {l : Nat} (hl : l ≤ atomLevel) :
    WrittenAt l e := by
  obtain ⟨depth, ls, hp, hs⟩ := h
  refine ⟨_, _, (Phrase.grouped (hp.loosen (Nat.zero_le _))).loosen hl, ?_⟩
  exact allSpelled_append.mpr ⟨allSpelled_symbol .openParen,
    allSpelled_append.mpr ⟨hs, allSpelled_symbol .closeParen⟩⟩

theorem exists_arguments {es : List Expression} (h : ∀ e ∈ es, WrittenAt 0 e) :
    ∃ depth, ∃ arguments : List (Expression × List Lexeme), es = arguments.map Prod.fst ∧
      (∀ a ∈ arguments, Phrase depth 0 a.1 a.2) ∧ ∀ a ∈ arguments, AllSpelled a.2 := by
  induction es with
  | nil => exact ⟨0, [], rfl, by simp, by simp⟩
  | cons e es ih =>
    obtain ⟨⟨d, ls, hp, hs⟩, hrest⟩ := List.forall_mem_cons.mp h
    obtain ⟨d', arguments, rfl, hps, hss⟩ := ih hrest
    refine ⟨max d d', (e, ls) :: arguments, rfl, ?_, List.forall_mem_cons.mpr ⟨hs, hss⟩⟩
    exact List.forall_mem_cons.mpr ⟨hp.deeper (Nat.le_max_left _ _),
      fun a ha => (hps a ha).deeper (Nat.le_max_right _ _)⟩

/-- What can be written in its parts can be written at every level. -/
theorem Writable.anywhere (h : Writable e) {l : Nat} (hl : l ≤ atomLevel) : WrittenAt l e := by
  induction h generalizing l with
  | @literal k cs hs =>
    have h : WrittenAt atomLevel (.literal k) :=
      ⟨0, _, .literal k, by simpa [AllSpelled] using ⟨_, hs⟩⟩
    exact h.anywhere hl
  | @name s cs hn hs =>
    have h : WrittenAt atomLevel (.name s) :=
      ⟨0, _, .name hn, by simpa [AllSpelled] using ⟨_, hs⟩⟩
    exact h.anywhere hl
  | sign s _ ih =>
    obtain ⟨depth, ls, hp, hs⟩ := ih (l := signLevel) (by decide)
    have h : WrittenAt signLevel (.sign s _) :=
      ⟨_, _, .sign s hp, allSpelled_append.mpr ⟨allSpelled_symbol s.symbol, hs⟩⟩
    exact h.anywhere hl
  | binary o _ _ iha ihb =>
    have ho : o.level + 1 ≤ atomLevel := Nat.le_trans o.level_lt (by decide)
    obtain ⟨d, ls, hp, hs⟩ := iha (Nat.le_of_succ_le ho)
    obtain ⟨d', rs, hp', hs'⟩ := ihb ho
    have h : WrittenAt o.level (.binary o _ _) :=
      ⟨max d d', _, .binary o (hp.deeper (Nat.le_max_left _ _)) (hp'.deeper (Nat.le_max_right _ _)),
        allSpelled_append.mpr ⟨hs, allSpelled_append.mpr ⟨allSpelled_symbol (.operator o), hs'⟩⟩⟩
    exact h.anywhere hl
  | member _ _ iht ihk =>
    obtain ⟨d, ls, hp, hs⟩ := iht (l := accessLevel) (by decide)
    obtain ⟨d', ks, hp', hs'⟩ := ihk (Nat.zero_le _)
    have h : WrittenAt accessLevel (.member _ _) :=
      ⟨max d d' + bracketDepth, _, .indexed (hp.deeper (by omega)) (hp'.deeper (by omega)),
        allSpelled_append.mpr ⟨hs, allSpelled_append.mpr ⟨allSpelled_symbol .openBracket,
          allSpelled_append.mpr ⟨hs', allSpelled_symbol .closeBracket⟩⟩⟩⟩
    exact h.anywhere hl
  | includes _ _ iht iha =>
    obtain ⟨d, ls, hp, hs⟩ := iht (l := accessLevel) (by decide)
    obtain ⟨d', arguments, rfl, hps, hss⟩ := exists_arguments fun e he => iha e he (Nat.zero_le _)
    have hmethod : AllSpelled [.name methodName] := by
      simpa [AllSpelled] using exists_spelled_method
    have harguments : AllSpelled (separated (arguments.map Prod.snd)) := by
      refine allSpelled_separated.mpr fun ls hls => ?_
      obtain ⟨a, ha, rfl⟩ := List.mem_map.mp hls
      exact hss a ha
    have h : WrittenAt accessLevel (.includes _ (arguments.map Prod.fst)) :=
      ⟨max d d' + bracketDepth, _,
        .called (hp.deeper (by omega)) fun a ha => (hps a ha).deeper (by omega),
        allSpelled_append.mpr ⟨hs, allSpelled_append.mpr ⟨allSpelled_symbol .dot,
          allSpelled_append.mpr ⟨hmethod, allSpelled_append.mpr ⟨allSpelled_symbol .openParen,
            allSpelled_append.mpr ⟨harguments, allSpelled_symbol .closeParen⟩⟩⟩⟩⟩⟩
    exact h.anywhere hl

/-- Exactly the expressions with writable literals and names are spelled in some text. -/
theorem writable_iff : Writable e ↔ ∃ depth ls cs, Phrase depth 0 e ls ∧ Laid true ls cs := by
  constructor
  · intro h
    obtain ⟨depth, ls, hp, hs⟩ := h.anywhere (Nat.zero_le _)
    obtain ⟨cs, hcs⟩ := hs.laid
    exact ⟨depth, ls, cs, hp, hcs⟩
  · rintro ⟨depth, ls, cs, hp, hcs⟩
    exact hp.writable hcs.allSpelled

end Writing

section Compiling
variable {text : String} {e : Expression} {ls : List Lexeme} {endAt : Nat} {ts : List Token}

theorem compile_tokens (ht : tokens text = .ok ts) : compile text = parse text.length ts := by
  rw [compile, ht]
  rfl

theorem parse_read (h : parseExpression endAt (parseFuel ts.length) maxDepth ts = .ok (e, [])) :
    parse endAt ts = .ok e := by
  rw [parse, h]
  rfl

theorem endsExpression_nil : EndsExpression [] := by
  constructor <;> rintro t ⟨⟩

/-- All the tokens of a phrase are read as what it spells, if they may be nested as deeply. -/
theorem parseExpression_phrase {depth : Nat} (hp : Phrase depth 0 e (lexemes ts)) :
    parseExpression endAt (parseFuel ts.length) depth ts = .ok (e, []) := by
  have hreads : ReadsExpression endAt depth e (lexemes ts) :=
    (hp.reads.chain (Nat.zero_le _)).expression
  have hfuel : 4 * (lexemes ts).length + 1 ≤ parseFuel ts.length := by
    rw [length_lexemes, parseFuel]
    omega
  simpa using hreads (parseFuel ts.length) ts [] hfuel rfl endsExpression_nil

/-- A text that spells an expression compiles to it, unless it is nested too deeply. -/
theorem compile_laid {depth : Nat} (hp : Phrase depth 0 e ls) (hl : Laid true ls text.toList) :
    compile text = .ok e ∨ maxDepth < depth ∧ compile text = .error .tooDeep := by
  obtain ⟨ts, ht, rfl⟩ : ∃ ts, tokens text = .ok ts ∧ lexemes ts = ls := tokensFrom_laid hl 0
  rw [compile_tokens ht]
  rcases Nat.lt_or_ge maxDepth depth with hd | hd
  · have hread : parseExpression text.length (parseFuel ts.length) depth ts = .ok (e, []) :=
      parseExpression_phrase hp
    rcases (limits text.length (parseFuel ts.length)).expression ts (Nat.le_of_lt hd) with h | h
    · refine .inr ⟨hd, ?_⟩
      rw [parse, h]
      rfl
    · exact .inl (parse_read (h.trans hread))
  · exact .inl (parse_read (parseExpression_phrase (hp.deeper hd)))

/-- What is made of all the tokens is spelled by them, or is a reason to refuse them. -/
theorem parse_recognises (endAt : Nat) (ts : List Token) :
    (∀ e, parse endAt ts = .ok e → Phrase maxDepth 0 e (lexemes ts)) ∧
      ∀ f, parse endAt ts = .error f → Refused maxDepth ts f := by
  have hfuel : 4 * ts.length + 4 ≤ parseFuel ts.length := Nat.le_refl _
  have h := (recognisers endAt (parseFuel ts.length)).expression maxDepth ts hfuel
  cases hr : parseExpression endAt (parseFuel ts.length) maxDepth ts with
  | error g =>
    have hparse : parse endAt ts = .error g := by
      rw [parse, hr]
      rfl
    rw [hr] at h
    rw [hparse]
    refine ⟨nofun, fun f hf => ?_⟩
    obtain rfl := Except.error.inj hf
    exact h
  | ok result =>
    obtain ⟨e, rest⟩ := result
    rw [hr] at h
    obtain ⟨used, hts, hp⟩ := h
    cases rest with
    | nil =>
      rw [parse_read hr, hts, List.append_nil]
      refine ⟨fun e' he => ?_, fun f hf => by cases hf⟩
      obtain rfl := Except.ok.inj he
      exact hp
    | cons t rest =>
      have hparse : parse endAt ts = .error (unexpected (t :: rest)) := by
        rw [parse, hr]
        rfl
      rw [hparse]
      refine ⟨nofun, fun f hf => ?_⟩
      obtain rfl := Except.error.inj hf
      exact .inl rfl

/-- Whatever compiles is spelled in the text. -/
theorem compile_written (h : compile text = .ok e) :
    ∃ ls, Phrase maxDepth 0 e ls ∧ Laid false ls text.toList := by
  obtain ⟨ts, ht, hparse⟩ := bind_eq_ok.mp h
  exact ⟨lexemes ts, (parse_recognises _ ts).1 e hparse, tokensFrom_written ht (Nat.zero_le _)⟩

/-- Why a text is refused: as malformed or forbidden, for brackets and signs that can be nested too
deeply, or for an integer that is too long. -/
inductive Refusable (text : String) (f : SyntaxFault) : Prop
  | malformed : Failing.sort f = .malformed → Refusable text f
  | forbidden : Failing.sort f = .forbidden → Refusable text f
  | tooDeep {ls : List Lexeme} : f = .tooDeep → Laid false ls text.toList → maxDepth < weight ls →
    Refusable text f
  | number {digits : List Char} {fault : NumberFault} : f = .number fault →
    digits <:+: text.toList → AllDecimal digits → maxIntegerDigits < digits.length →
    Refusable text f

theorem compile_refused {f : SyntaxFault} (h : compile text = .error f) : Refusable text f := by
  rcases bind_eq_error.mp h with ht | ⟨ts, ht, hparse⟩
  · cases tokensFrom_error ht with
    | character c position => exact .malformed rfl
    | name s => exact .forbidden rfl
    | number fault hin hd hlen => exact .number rfl hin hd hlen
  · rcases (parse_recognises _ ts).2 f hparse with hf | hf | ⟨hf, hw⟩
    · exact .malformed hf
    · exact .forbidden hf
    · exact .tooDeep hf (tokensFrom_written ht (Nat.zero_le _)) hw

end Compiling

/-- What a compiled expression comes to in a scope is the one result that the rules allow, unless it
is nested too deeply. -/
theorem value_evaluates (scope : Scope) (e : Expression) :
    ∃ r, (∀ r', Evaluates scope e r' ↔ r' = r) ∧
      (e.value scope = r ∨ maxDepth < e.height ∧ e.value scope = .error .tooDeep) := by
  refine ⟨e.run scope e.height, fun r => ?_, ?_⟩
  · rw [← run_iff (Nat.le_refl _), eq_comm]
  · rcases evaluated scope e maxDepth with h | h
    · exact .inr h
    · exact .inl (h.run (Nat.le_refl _)).symm

/-- The language of conditions. Exactly the expressions of writable literals and names are spelled
by phrases, a text that spells one compiles to it, whatever compiles is spelled in its text, and all
other texts are refused. In every scope, the value or fault of an expression is the one that the
rules of evaluation allow. Only what is nested too deeply is left out. -/
theorem condition_language :
    (∀ e, Writable e ↔ ∃ depth ls cs, Phrase depth 0 e ls ∧ Laid true ls cs) ∧
    (∀ text e ls depth, Phrase depth 0 e ls → Laid true ls text.toList →
      compile text = .ok e ∨ maxDepth < depth ∧ compile text = .error .tooDeep) ∧
    (∀ text e, compile text = .ok e →
      ∃ ls, Phrase maxDepth 0 e ls ∧ Laid false ls text.toList) ∧
    (∀ text f, compile text = .error f → Refusable text f) ∧
    ∀ scope e, ∃ r, (∀ r', Evaluates scope e r' ↔ r' = r) ∧
      (e.value scope = r ∨ maxDepth < e.height ∧ e.value scope = .error .tooDeep) :=
  ⟨fun _ => writable_iff, fun _ _ _ _ hp hl => compile_laid hp hl, fun _ _ h => compile_written h,
    fun _ _ h => compile_refused h, value_evaluates⟩

/-- A sign binds tighter than a connective, and the right operand of a disjunction is evaluated if
the left one is false. -/
theorem condition_language_door :
    compile "! true || door" =
      .ok (.binary .or (.sign .not (.literal (.bool true))) (.name "door")) ∧
    Expression.value ⟨"hall", [], [], .int 0, []⟩
        (.binary .or (.sign .not (.literal (.bool true))) (.name "door")) =
      .error (.undefinedName "door") := by
  constructor
  · have hnot : Phrase 1 signLevel (.sign .not (.literal (.bool true)))
        [.symbol .not, .name "true"] :=
      .sign .not ((Phrase.literal (.bool true)).loosen (by decide))
    have hdoor : Phrase 1 atomLevel (.name "door") [.name "door"] := .name (by decide)
    have hor := Phrase.binary .or (hnot.loosen (by decide)) (hdoor.loosen (by decide))
    have htrue : Spelled (.name "true") ['t', 'r', 'u', 'e'] :=
      .name (by decide) (List.all_eq_true.mp (by decide)) (by decide)
    have hname : Spelled (.name "door") ['d', 'o', 'o', 'r'] :=
      .name (by decide) (List.all_eq_true.mp (by decide)) (by decide)
    have hlaid : Laid true [.symbol .not, .name "true", .symbol (.operator .or), .name "door"]
        "! true || door".toList :=
      .lexeme (.symbol .not) (by rintro - c ⟨⟩; decide) <| .blank (by decide) <|
      .lexeme htrue (by rintro - c ⟨⟩; decide) <| .blank (by decide) <|
      .lexeme (.symbol (.operator .or)) (by rintro - c ⟨⟩; decide) <| .blank (by decide) <|
      .lexeme hname (by rintro - c ⟨⟩) .done
    rcases condition_language.2.1 _ _ _ _ hor hlaid with h | ⟨hd, _⟩
    · exact h
    · exact absurd hd (by decide)
  · obtain ⟨r, hr, hv⟩ := condition_language.2.2.2.2 ⟨"hall", [], [], .int 0, []⟩
      (.binary .or (.sign .not (.literal (.bool true))) (.name "door"))
    have hvalue := (hr _).mp (.unsettled rfl (.sign (.literal (.bool true))) rfl (.unknown rfl))
    rw [hvalue]
    exact hv.resolve_right fun h => absurd h.1 (by decide)

end Storyline.Condition
