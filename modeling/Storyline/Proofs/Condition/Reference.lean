import Storyline.Proofs.Condition.Reliance

namespace Storyline.Condition
open Text

inductive Expression.IsFlags : Expression → Prop
  | name : IsFlags (.name "flags")
  | member : IsFlags (.member (.name "state") (.literal (.text "flags")))

section Mentioning
variable {word n : String} {quoted : Bool} {depth level : Nat} {e : Expression}
  {ls rs : List Lexeme}

/-- The lexemes behind a word name a member of it, perhaps in quotes. Parentheses may come first. -/
inductive Named (n : String) : (quoted : Bool) → List Lexeme → Prop
  | dotted {ls : List Lexeme} : Named n false (.symbol .dot :: .name n :: ls)
  | quoted {ls : List Lexeme} (parens : Nat) : Named n true
    (.symbol .openBracket :: (List.replicate parens (.symbol .openParen) ++ .text n :: ls))
  | closed {quoted : Bool} {ls : List Lexeme} : Named n quoted ls →
    Named n quoted (.symbol .closeParen :: ls)

/-- Somewhere among the lexemes, the name of a member stands behind the word. -/
def Mentions (word n : String) (quoted : Bool) (ls : List Lexeme) : Prop :=
  ∃ rest, .name word :: rest <:+ ls ∧ Named n quoted rest

theorem Named.append (h : Named n quoted ls) (rs : List Lexeme) : Named n quoted (ls ++ rs) := by
  induction h with
  | dotted => exact .dotted
  | quoted parens =>
    rw [List.cons_append, List.append_assoc]
    exact .quoted parens
  | closed _ ih => exact .closed ih

theorem Named.behind (h : Named n quoted ls) (parens : Nat) :
    Named n quoted (List.replicate parens (.symbol .closeParen) ++ ls) := by
  induction parens with
  | zero => exact h
  | succ parens ih => exact .closed ih

theorem Mentions.within (h : Mentions word n quoted ls) (hi : ls <:+: rs) :
    Mentions word n quoted rs := by
  obtain ⟨rest, ⟨before, rfl⟩, hn⟩ := h
  obtain ⟨front, back, rfl⟩ := hi
  exact ⟨rest ++ back, ⟨front ++ before, by simp⟩, hn.append back⟩

/-- A text that stands alone has nothing before it but parentheses. -/
theorem Phrase.opens {s : String} (h : Phrase depth level (.literal (.text s)) ls) :
    ∃ parens more, ls = List.replicate parens (.symbol .openParen) ++ .text s :: more := by
  generalize he : Expression.literal (.text s) = e at h
  induction h with
  | tighter _ ih => exact ih he
  | literal l =>
    cases he
    exact ⟨0, [], rfl⟩
  | grouped _ ih =>
    obtain ⟨parens, more, rfl⟩ := ih he
    exact ⟨parens + 1, more ++ [.symbol .closeParen], by simp [List.replicate_succ]⟩
  | _ => cases he

def EndsWith (word : String) (ls : List Lexeme) : Prop :=
  ∃ parens, .name word :: List.replicate parens (.symbol .closeParen) <:+ ls

theorem EndsWith.grouped (h : EndsWith word ls) :
    EndsWith word (.symbol .openParen :: (ls ++ [.symbol .closeParen])) := by
  obtain ⟨parens, before, rfl⟩ := h
  exact ⟨parens + 1, .symbol .openParen :: before, by simp [List.replicate_succ']⟩

theorem EndsWith.mentions (h : EndsWith word ls) (hn : Named n quoted rs) :
    Mentions word n quoted (ls ++ rs) := by
  obtain ⟨parens, before, rfl⟩ := h
  exact ⟨_, ⟨before, by simp⟩, hn.behind parens⟩

theorem Phrase.name_closes (h : Phrase depth level (.name word) ls) : EndsWith word ls := by
  generalize he : Expression.name word = e at h
  induction h with
  | tighter _ ih => exact ih he
  | name _ =>
    cases he
    exact ⟨0, List.suffix_rfl⟩
  | grouped _ ih => exact (ih he).grouped
  | _ => cases he

/-- What says the flags ends with the word for them, or names them in quotes as a member of the
state. -/
theorem Phrase.closes (h : Phrase depth level e ls) (he : e.IsFlags) :
    Mentions "state" "flags" true ls ∨ EndsWith "flags" ls := by
  induction h with
  | tighter _ ih => exact ih he
  | @dotted _ _ ls _ _ _ =>
    cases he
    exact .inr ⟨0, ls ++ [.symbol .dot], by simp⟩
  | indexed hs hk _ _ =>
    cases he
    obtain ⟨parens, more, rfl⟩ := hk.opens
    rw [List.append_assoc, List.cons_append]
    exact .inl (hs.name_closes.mentions (.quoted parens))
  | name _ =>
    cases he
    exact .inr ⟨0, List.suffix_rfl⟩
  | @grouped _ _ ls _ ih =>
    rcases ih he with hq | hf
    · exact .inl (hq.within ⟨[.symbol .openParen], [.symbol .closeParen], by simp⟩)
    · exact .inr hf.grouped
  | _ => cases he

theorem infix_separated {arguments : List (List Lexeme)} (h : ls ∈ arguments) :
    ls <:+: separated arguments := by
  induction arguments with
  | nil => cases h
  | cons rs rest ih =>
    cases rest with
    | nil =>
      obtain rfl := List.mem_singleton.mp h
      rw [separated_singleton]
    | cons rs' rest =>
      rw [separated_cons_cons]
      rcases List.mem_cons.mp h with rfl | h
      · exact (List.prefix_append _ _).isInfix
      · exact (ih h).trans ((List.suffix_cons _ _).trans (List.suffix_append _ _)).isInfix

theorem mem_allLookups {es : List Expression} {p : Expression × Expression} :
    p ∈ allLookups es ↔ ∃ e ∈ es, p ∈ e.lookups := by
  induction es with
  | nil => simp [allLookups]
  | cons e es ih => simp [allLookups, ih]

/-- The flag is mentioned, unless the flags themselves are a quoted member of the state. -/
def Shows (n : String) (ls : List Lexeme) : Prop :=
  Mentions "state" "flags" true ls ∨ ∃ quoted, Mentions "flags" n quoted ls

theorem Shows.within (h : Shows n ls) (hi : ls <:+: rs) : Shows n rs :=
  h.imp (fun hq => hq.within hi) fun ⟨quoted, hm⟩ => ⟨quoted, hm.within hi⟩

/-- What stands behind the flags is the name of a flag. -/
theorem Phrase.shows (h : Phrase depth level e ls) (he : e.IsFlags) (hn : Named n quoted rs) :
    Shows n (ls ++ rs) :=
  (h.closes he).imp (fun hq => hq.within (List.prefix_append _ _).isInfix)
    fun hf => ⟨quoted, hf.mentions hn⟩

/-- Where an expression looks for a flag under its name, the lexemes show the flag. -/
theorem Phrase.lookup_shows (h : Phrase depth level e ls) {target : Expression}
    (hlookup : (target, .literal (.text n)) ∈ e.lookups) (ht : target.IsFlags) : Shows n ls := by
  induction h with
  | tighter _ ih => exact ih hlookup
  | binary o _ _ iha ihb =>
    rcases List.mem_append.mp hlookup with hlookup | hlookup
    · exact (iha hlookup).within (List.prefix_append _ _).isInfix
    · exact (ihb hlookup).within ((List.suffix_cons _ _).trans (List.suffix_append _ _)).isInfix
  | sign s _ ih => exact (ih hlookup).within (List.suffix_cons _ _).isInfix
  | dotted name he ih =>
    rcases List.mem_cons.mp hlookup with hhere | hlookup
    · cases hhere
      exact he.shows ht .dotted
    · rw [Expression.lookups, List.append_nil] at hlookup
      exact (ih hlookup).within (List.prefix_append _ _).isInfix
  | @indexed _ e key ls ks he hk ihe ihk =>
    rcases List.mem_cons.mp hlookup with hhere | hlookup
    · cases hhere
      obtain ⟨parens, more, rfl⟩ := hk.opens
      rw [List.append_assoc, List.cons_append]
      exact he.shows ht (.quoted parens)
    · rcases List.mem_append.mp hlookup with hlookup | hlookup
      · exact (ihe hlookup).within (List.prefix_append _ _).isInfix
      · exact (ihk hlookup).within
          ⟨ls ++ [.symbol .openBracket], [.symbol .closeBracket], by simp⟩
  | @called _ e ls arguments _ _ ihe iha =>
    rcases List.mem_append.mp hlookup with hlookup | hlookup
    · exact (ihe hlookup).within (List.prefix_append _ _).isInfix
    · obtain ⟨_, he, hlookup⟩ := mem_allLookups.mp hlookup
      obtain ⟨a, ha, rfl⟩ := List.mem_map.mp he
      refine ((iha a ha hlookup).within (infix_separated (List.mem_map_of_mem ha))).within ?_
      exact ⟨ls ++ [.symbol .dot, .name methodName, .symbol .openParen], [.symbol .closeParen],
        by simp⟩
  | literal l => cases hlookup
  | name _ => cases hlookup
  | @grouped _ _ ls _ ih =>
    exact (ih hlookup).within ⟨[.symbol .openParen], [.symbol .closeParen], by simp⟩

end Mentioning

section Scanning
variable {name written before after cs rest : List Char} {quote : Char} {n : String}

/-- Characters that belong to a reference are passed over. -/
theorem references_skip (cs rest : List Char) :
    references cs.length (cs ++ rest) = references 0 rest := by
  induction cs with
  | nil => rfl
  | cons c cs ih => rw [List.length_cons, List.cons_append, references, ih]

/-- A reference at the front is the first of the text, and the others come behind it. -/
theorem references_front (hne : cs ≠ []) (h : reference? (cs ++ rest) = some (n, cs.length)) :
    references 0 (cs ++ rest) = n :: references 0 rest := by
  obtain ⟨c, cs, rfl⟩ := List.exists_cons_of_ne_nil hne
  rw [List.cons_append] at h ⊢
  rw [references]
  simp only [h, List.length_cons, Nat.add_sub_cancel, references_skip]

theorem reference?_none {c : Char} (hc : c ≠ 'f') : reference? (c :: rest) = none := by
  have hword : "flags".toList.isPrefixOf (c :: rest) = false := by
    show ('f' == c && _) = false
    rw [beq_false_of_ne (Ne.symm hc), Bool.false_and]
  simp only [reference?, hword, Bool.not_false, if_true]

def Contained (written rest : List Char) : Prop :=
  ∀ cs, cs <:+ written → cs ≠ [] → ∀ r ∈ reference? (cs ++ rest), r.2 ≤ cs.length

/-- Every reference begins with the word for the flags. -/
theorem contained_of_ne (h : ∀ c ∈ written, c ≠ 'f') : Contained written rest := by
  intro cs hcs hne r hr
  obtain ⟨c, cs, rfl⟩ := List.exists_cons_of_ne_nil hne
  rw [List.cons_append, reference?_none (h c (hcs.subset List.mem_cons_self))] at hr
  cases hr

/-- What is contained hides no reference that stands behind it. -/
theorem Contained.references (h : Contained written rest) {skipped : Nat}
    (hs : skipped ≤ written.length) :
    Condition.references 0 rest ⊆ Condition.references skipped (written ++ rest) := by
  induction written generalizing skipped with
  | nil =>
    obtain rfl := Nat.le_zero.mp hs
    exact List.Subset.refl _
  | cons c written ih =>
    have htail : Contained written rest := fun cs hcs => h cs (hcs.trans (List.suffix_cons _ _))
    rw [List.cons_append]
    cases skipped with
    | succ skipped =>
      rw [Condition.references]
      exact ih htail (Nat.le_of_succ_le_succ hs)
    | zero =>
      rw [Condition.references]
      cases hr : reference? (c :: (written ++ rest)) with
      | none => exact ih htail (Nat.zero_le _)
      | some r =>
        obtain ⟨name, length⟩ := r
        have hlength : length ≤ written.length + 1 :=
          h (c :: written) List.suffix_rfl (List.cons_ne_nil _ _) _ hr
        exact List.subset_cons_of_subset _ (ih htail (Nat.sub_le_of_le_add hlength))

theorem closing?_append (hafter : ∀ c ∈ after, isBlank c = true) :
    closing? quote (quote :: (after ++ ']' :: rest)) = some (after.length + 2) := by
  have hblanks : (after ++ ']' :: rest).takeWhile isBlank = after :=
    takeWhile_append_stop hafter (by rintro c ⟨⟩; decide)
  simp only [closing?, hblanks, List.drop_left, List.head?_cons, beq_self_eq_true, Bool.and_self,
    if_true]

theorem quotedName?_append (hname : ∀ c ∈ name, c ≠ quote ∧ c ≠ '\n')
    (hafter : ∀ c ∈ after, isBlank c = true) :
    quotedName? quote (name ++ quote :: (after ++ ']' :: rest)) =
      some (name, name.length + (after.length + 2)) := by
  induction name with
  | nil =>
    rw [List.nil_append, quotedName?, closing?_append hafter, List.length_nil, Nat.zero_add]
  | cons c name ih =>
    obtain ⟨⟨hquote, hline⟩, hrest⟩ := List.forall_mem_cons.mp hname
    have hopen : closing? quote (c :: (name ++ quote :: (after ++ ']' :: rest))) = none := by
      simp [closing?, hquote]
    rw [List.cons_append, quotedName?, hopen, ih hrest]
    simp [hline]
    omega

/-- What stands behind the word for the flags names a flag directly: a point and a name, or in
brackets a quoted name on one line in which nothing is escaped. -/
inductive Direct (rest : List Char) : String → List Lexeme → List Char → Prop
  | dotted {n : String} {written : List Char} : Spelled (.name n) written →
    (∀ c ∈ rest.head?, isNameCharacter c = false) →
    Direct rest n [.symbol .dot, .name n] ('.' :: written)
  | quoted {quote : Char} {name before after : List Char} : quote = '"' ∨ quote = '\'' →
    '\\' ∉ name → (∀ c ∈ name, c ≠ quote ∧ c ≠ '\n') → (∀ c ∈ before, isBlank c = true) →
    (∀ c ∈ after, isBlank c = true) →
    Direct rest (String.ofList name)
      [.symbol .openBracket, .text (String.ofList name), .symbol .closeBracket]
      ('[' :: (before ++ quote :: (name ++ quote :: (after ++ [']']))))

theorem Direct.reference? {ls : List Lexeme} (h : Direct rest n ls written) :
    Condition.reference? ("flags".toList ++ (written ++ rest)) =
      some (n, ("flags".toList ++ written).length) := by
  have hword : "flags".toList.isPrefixOf ("flags".toList ++ (written ++ rest)) = true :=
    List.isPrefixOf_iff_prefix.mpr (List.prefix_append _ _)
  have hdrop : ("flags".toList ++ (written ++ rest)).drop 5 = written ++ rest := rfl
  have hlength : ("flags".toList ++ written).length = 5 + written.length :=
    List.length_append
  rw [Condition.reference?, hword, hdrop, hlength]
  cases h with
  | dotted hw hend =>
    cases hw with
    | @name c more hc hmore _ =>
      have hspan : (more ++ rest).takeWhile isNameCharacter = more :=
        takeWhile_append_stop hmore hend
      simp only [List.cons_append, hc, hspan, Bool.not_true, Bool.false_eq_true, if_false, if_true,
        List.length_cons, Option.some.injEq, Prod.mk.injEq, true_and]
      omega
  | @quoted quote name before after hquote _ hname hbefore hafter =>
    have hopens : ∀ c ∈ (quote :: (name ++ quote :: (after ++ ']' :: rest))).head?,
        isBlank c = false := by
      rintro c ⟨⟩
      rcases hquote with rfl | rfl <;> decide
    have hspan : (before ++ quote :: (name ++ quote :: (after ++ ']' :: rest))).takeWhile isBlank =
        before := takeWhile_append_stop hbefore hopens
    have hquotes : (quote == '"' || quote == '\'') = true := by simpa using hquote
    simp only [List.cons_append, List.append_assoc, List.nil_append, hspan, List.drop_left, hquotes,
      quotedName?_append hname hafter, Bool.not_true, Bool.false_eq_true, if_false, if_true,
      Option.map_some, List.length_cons, List.length_append, List.length_nil, Option.some.injEq,
      Prod.mk.injEq, true_and]
    omega

theorem Direct.named {m : String} {quoted : Bool} {ls more : List Lexeme}
    (h : Direct rest n ls written) (hm : Named m quoted (ls ++ more)) : m = n := by
  cases h with
  | dotted _ _ =>
    cases hm
    rfl
  | quoted _ _ _ _ _ =>
    generalize hls : [_, _, _] ++ more = ls at hm
    cases hm with
    | quoted parens =>
      cases parens with
      | zero =>
        cases hls
        rfl
      | succ parens => cases hls
    | dotted => cases hls
    | closed => cases hls

/-- The word for the flags is not part of a name that stands behind it, unless it is that name. -/
theorem Direct.suffix {ls more behind : List Lexeme} (h : Direct rest n ls written)
    (hs : .name "flags" :: behind <:+ ls ++ more) :
    .name "flags" :: behind <:+ more ∨ n = "flags" ∧ behind = more := by
  cases h with
  | dotted _ _ =>
    rcases List.suffix_cons_iff.mp hs with heq | hs
    · cases heq
    rcases List.suffix_cons_iff.mp hs with heq | hs
    · cases heq
      exact .inr ⟨rfl, rfl⟩
    · exact .inl hs
  | quoted _ _ _ _ _ =>
    rcases List.suffix_cons_iff.mp hs with heq | hs
    · cases heq
    rcases List.suffix_cons_iff.mp hs with heq | hs
    · cases heq
    rcases List.suffix_cons_iff.mp hs with heq | hs
    · cases heq
    · exact .inl hs

/-- A text that is written plainly: directly behind the word for the flags stands the name of a
flag, or no name stands there at all, and whatever else looks like a reference ends in the lexeme
in which it begins. -/
inductive Plain : List Lexeme → List Char → Prop
  | done : Plain [] []
  | blank {ls : List Lexeme} {c : Char} {cs : List Char} : isBlank c = true → Plain ls cs →
    Plain ls (c :: cs)
  | lexeme {l : Lexeme} {ls : List Lexeme} {written cs : List Char} : Spelled l written →
    (l = .name "flags" → ∀ n quoted, ¬ Named n quoted ls) → Contained written cs → Plain ls cs →
    Plain (l :: ls) (written ++ cs)
  | reference {n : String} {rs ls : List Lexeme} {written cs : List Char} :
    Direct cs n rs written → (n = "flags" → ∀ m quoted, ¬ Named m quoted ls) → Plain ls cs →
    Plain (.name "flags" :: (rs ++ ls)) ("flags".toList ++ (written ++ cs))

theorem Plain.mentioned {ls : List Lexeme} {quoted : Bool} (h : Plain ls cs)
    (hm : Mentions "flags" n quoted ls) : n ∈ references 0 cs := by
  obtain ⟨behind, hs, hn⟩ := hm
  induction h with
  | done => cases List.suffix_nil.mp hs
  | @blank ls c cs hb _ ih =>
    have hc : c ≠ 'f' := by
      rintro rfl
      revert hb
      decide
    rw [references]
    simp only [reference?_none hc]
    exact ih hs
  | lexeme _ hbare hcontained _ ih =>
    rcases List.suffix_cons_iff.mp hs with heq | hs
    · cases heq
      exact absurd hn (hbare rfl n quoted)
    · exact hcontained.references (Nat.zero_le _) (ih hs)
  | @reference m rs ls written cs hd hbare _ ih =>
    have href := hd.reference?
    rw [← List.append_assoc] at href ⊢
    rw [references_front (by simp) href]
    rcases List.suffix_cons_iff.mp hs with heq | hs
    · obtain rfl : behind = rs ++ ls := (List.cons.inj heq).2
      rw [hd.named hn]
      exact List.mem_cons_self
    · rcases hd.suffix hs with hs | ⟨rfl, rfl⟩
      · exact List.mem_cons_of_mem _ (ih hs)
      · exact absurd hn (hbare rfl n quoted)

/-- Listing each name once leaves out none. -/
theorem mem_listed {names listed : List String} : n ∈ names.foldl
    (fun listed name => if listed.contains name then listed else listed ++ [name]) listed ↔
      n ∈ listed ∨ n ∈ names := by
  induction names generalizing listed with
  | nil => simp
  | cons name names ih =>
    rw [List.foldl_cons, ih, List.mem_cons, ← or_assoc]
    refine or_congr ?_ Iff.rfl
    split
    · rename_i hlisted
      have hmem : name ∈ listed := List.contains_iff_mem.mp hlisted
      exact ⟨.inl, fun h => h.elim id fun hn => hn ▸ hmem⟩
    · simp

theorem mem_referencedFlags {text : String} :
    n ∈ referencedFlags text ↔ n ∈ references 0 text.toList := by
  rw [referencedFlags, mem_listed]
  simp

end Scanning

/-- The text says an expression plainly where it comes to the flags: they are looked into as the
flags or the flags of the state, which are not put in quotes, and the text is plain. -/
structure PlainlyWritten (text : String) (tree : Expression) : Prop where
  said : ∀ p ∈ tree.lookups, p.1.mayBe "flags" = true → p.1.IsFlags
  laid : ∃ ts, tokens (trim text) = .ok ts ∧ ¬ Mentions "state" "flags" true (lexemes ts) ∧
    Plain (lexemes ts) text.toList

/-- All that an expression reads of the flags is listed for a text that says it plainly. -/
theorem PlainlyWritten.lists {text : String} {tree : Expression} (h : PlainlyWritten text tree)
    (hcompile : compile (trim text) = .ok tree) : tree.flagsRead ⊆ referencedFlags text := by
  intro n hn
  obtain ⟨⟨target, key⟩, hp, hread⟩ := List.mem_filterMap.mp hn
  obtain ⟨ts, htokens, hunquoted, hplain⟩ := h.laid
  split at hread
  · rename_i hmay
    obtain rfl : key = .literal (.text n) := Expression.spelled_eq hread
    rw [compile_tokens htokens] at hcompile
    have hphrase := (parse_recognises _ ts).1 tree hcompile
    rcases hphrase.lookup_shows hp (h.said _ hp hmay) with hquoted | ⟨_, hmentions⟩
    · exact absurd hquoted hunquoted
    · exact mem_referencedFlags.mpr (hplain.mentioned hmentions)
  · cases hread

namespace Evaluator

/-- After any calls, a condition that looks into the flags only under names it spells out is
answered alike, or fails alike, in any two scopes that differ at most in other flags; and if its
text is written plainly, all these names are listed. -/
theorem references_cover {bound : Int} {fresh : Evaluator} (hmake : make bound = .ok fresh)
    (calls : List Call) (hlanguage : (fresh.after calls).custom = none) {text : String}
    {tree : Expression} (hcompile : compile (trim text) = .ok tree) (hreads : tree.ReadsByName) :
    (∀ s t : Scope, s.SameBut t tree.flagsRead →
      ((fresh.after calls).evaluate (.text text) s).answer =
        ((fresh.after calls).evaluate (.text text) t).answer) ∧
    (PlainlyWritten text tree → tree.flagsRead ⊆ referencedFlags text ∧
      ∀ s t : Scope, s.SameBut t (referencedFlags text) →
        ((fresh.after calls).evaluate (.text text) s).answer =
          ((fresh.after calls).evaluate (.text text) t).answer) := by
  have hfaithful := after_faithful hmake calls
  have halike : ∀ s t : Scope, s.SameBut t tree.flagsRead →
      ((fresh.after calls).evaluate (.text text) s).answer =
        ((fresh.after calls).evaluate (.text text) t).answer := by
    intro s t h
    rw [(hfaithful.evaluate text s).1, (hfaithful.evaluate text t).1, hlanguage]
    exact answerAlone_alike hcompile hreads h
  refine ⟨halike, fun hplain => ?_⟩
  have hlisted := hplain.lists hcompile
  exact ⟨hlisted, fun s t h => halike s t (h.mono hlisted)⟩

/-- A flag that is named plainly is covered by the references. One that is named with an escape is
listed as it is written, and the condition depends on a flag that is not listed. -/
theorem references_cover_cave :
    (∀ s t : Scope, s.SameBut t ["dark cave"] →
      ((new 8).evaluate (.text "!flags['dark cave']") s).answer =
        ((new 8).evaluate (.text "!flags['dark cave']") t).answer) ∧
    referencedFlags "flags['it\\'s']" = ["it\\'s"] ∧
    ∃ s t : Scope, s.SameBut t ["it\\'s"] ∧
      ((new 8).evaluate (.text "flags['it\\'s']") s).answer.toOption = some true ∧
      ((new 8).evaluate (.text "flags['it\\'s']") t).answer.toOption = some false := by
  refine ⟨?_, by decide +kernel, ?_⟩
  · have htokens : tokens (trim "!flags['dark cave']") = .ok [⟨.symbol .not, 0⟩,
        ⟨.name "flags", 1⟩, ⟨.symbol .openBracket, 6⟩, ⟨.text "dark cave", 7⟩,
        ⟨.symbol .closeBracket, 18⟩] := by decide +kernel
    have hcompile : compile (trim "!flags['dark cave']") =
        .ok (.sign .not (.member (.name "flags") (.literal (.text "dark cave")))) := by
      rw [compile_tokens htokens]
      with_unfolding_all rfl
    have hcave : Direct [] "dark cave"
        [.symbol .openBracket, .text "dark cave", .symbol .closeBracket] "['dark cave']".toList :=
      @Direct.quoted [] '\'' "dark cave".toList [] [] (.inr rfl) (by simp) (by simp) (by simp)
        (by simp)
    have hnot : Contained Symbol.not.text.toList "flags['dark cave']".toList :=
      contained_of_ne (by simp [Symbol.text])
    have hplain : PlainlyWritten "!flags['dark cave']"
        (.sign .not (.member (.name "flags") (.literal (.text "dark cave")))) := by
      refine ⟨?_, _, htokens, ?_, ?_⟩
      · simp [Expression.lookups, Expression.IsFlags.name]
      · rintro ⟨rest, hs, _⟩
        simp [lexemes, List.suffix_cons_iff] at hs
      · exact .lexeme (.symbol .not) (by simp) hnot (.reference hcave (by simp) .done)
    have hreads : Expression.ReadsByName
        (.sign .not (.member (.name "flags") (.literal (.text "dark cave")))) := by
      simp [Expression.ReadsByName, Expression.lookups, Expression.spelled?]
    have hlisted : referencedFlags "!flags['dark cave']" = ["dark cave"] := by decide +kernel
    have hmake : make 8 = .ok (new 8) := rfl
    exact hlisted ▸ ((references_cover hmake [] rfl hcompile hreads).2 hplain).2
  · exact ⟨⟨"hall", [("it's", .bool true)], [], .int 0, []⟩, ⟨"hall", [], [], .int 0, []⟩,
      ⟨rfl, rfl, rfl, rfl, by simp [Entries.get?]⟩, by decide +kernel, by decide +kernel⟩

end Evaluator
end Storyline.Condition
