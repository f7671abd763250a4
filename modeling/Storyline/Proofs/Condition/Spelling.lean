import Mathlib.Data.List.TakeWhile
import Storyline.Condition.Token
import Storyline.Proofs.Outcome

namespace Storyline.Condition
open Text

/-- Decimal digits of any script. -/
def AllDecimal (cs : List Char) : Prop := ∀ c ∈ cs, isDecimal c = true

inductive IsFraction : List Char → Prop
  | none : IsFraction []
  | some {digits : List Char} : AllDecimal digits → IsFraction ('.' :: digits)

inductive IsPower : List Char → Prop
  | none : IsPower []
  | some {e : Char} {sign digits : List Char} : e = 'e' ∨ e = 'E' →
    sign ∈ [[], ['-'], ['+']] → digits ≠ [] → AllDecimal digits → IsPower (e :: (sign ++ digits))

/-- Digits before the point or behind it, and perhaps a power of ten. -/
inductive IsNumeral : List Char → Prop
  | whole {digits fraction power : List Char} : digits ≠ [] → AllDecimal digits →
    IsFraction fraction → IsPower power → IsNumeral (digits ++ (fraction ++ power))
  | fraction {digits power : List Char} : digits ≠ [] → AllDecimal digits → IsPower power →
    IsNumeral ('.' :: (digits ++ power))

/-- Characters of a text as they stand between quotes: plain, or escaped by a backslash. -/
inductive Escaped (quote : Char) : (value written : List Char) → Prop
  | nil : Escaped quote [] []
  | plain {c : Char} {value written : List Char} : c ≠ quote → c ≠ '\\' →
    Escaped quote value written → Escaped quote (c :: value) (c :: written)
  | escape {c : Char} {value written : List Char} : c ≠ '\n' →
    Escaped quote value written → Escaped quote (unescaped c :: value) ('\\' :: c :: written)

inductive Spelled : Lexeme → List Char → Prop
  | number {n : Number} {cs : List Char} : IsNumeral cs → numberOf cs = .ok n →
    Spelled (.number n) cs
  | text {quote : Char} {value written : List Char} : quote = '"' ∨ quote = '\'' →
    Escaped quote value written →
    Spelled (.text (String.ofList value)) (quote :: (written ++ [quote]))
  | name {c : Char} {more : List Char} : isNameStart c = true →
    (∀ d ∈ more, isNameCharacter d = true) → isReserved (String.ofList (c :: more)) = false →
    Spelled (.name (String.ofList (c :: more))) (c :: more)
  | symbol (s : Symbol) : Spelled (.symbol s) s.text.toList

/-- A text that consists of spelled lexemes and blanks. If the lexemes are set apart, a blank stands
behind each of them, but for the last. -/
inductive Laid (apart : Bool) : List Lexeme → List Char → Prop
  | done : Laid apart [] []
  | blank {ls : List Lexeme} {c : Char} {cs : List Char} : isBlank c = true → Laid apart ls cs →
    Laid apart ls (c :: cs)
  | lexeme {l : Lexeme} {ls : List Lexeme} {written cs : List Char} : Spelled l written →
    (apart = true → ∀ c ∈ cs.head?, isBlank c = true) → Laid apart ls cs →
    Laid apart (l :: ls) (written ++ cs)

section Characters
variable {c : Char}

/-- No script has its digits among the blanks. -/
theorem blankRanges_apart :
    ∀ r ∈ blankRanges, ∀ first ∈ decimalZeros, r.2 < first ∨ first + 10 ≤ r.1 := by
  decide +kernel

theorem isDecimal_iff : isDecimal c = true ↔
    ∃ first ∈ decimalZeros, first ≤ c.toNat ∧ c.toNat < first + 10 := by
  simp [isDecimal, decimalValue?]

theorem isBlank_iff : isBlank c = true ↔ ∃ r ∈ blankRanges, r.1 ≤ c.toNat ∧ c.toNat ≤ r.2 := by
  simp [isBlank]

theorem not_isDecimal_of_isBlank (h : isBlank c = true) : isDecimal c = false := by
  rw [← Bool.not_eq_true, isDecimal_iff]
  rintro ⟨first, hf, hlow, hhigh⟩
  obtain ⟨r, hr, hrl, hrh⟩ := isBlank_iff.mp h
  rcases blankRanges_apart r hr first hf with h | h <;> omega

theorem blank_bounds (h : isBlank c = true) : c.toNat ≤ 0x20 ∨ 0x85 ≤ c.toNat := by
  have hout : ∀ r ∈ blankRanges, r.2 ≤ 0x20 ∨ 0x85 ≤ r.1 := by decide
  obtain ⟨r, hr, hlow, hhigh⟩ := isBlank_iff.mp h
  rcases hout r hr with h | h <;> omega

theorem decimal_bounds (h : isDecimal c = true) :
    0x30 ≤ c.toNat ∧ c.toNat ≤ 0x39 ∨ 0x660 ≤ c.toNat := by
  have hout : ∀ first ∈ decimalZeros, first = 0x30 ∨ 0x660 ≤ first := by decide
  obtain ⟨first, hf, hlow, hhigh⟩ := isDecimal_iff.mp h
  rcases hout first hf with h | h <;> omega

theorem nameStart_bounds (h : isNameStart c = true) :
    c.toNat = 0x24 ∨ 0x41 ≤ c.toNat ∧ c.toNat ≤ 0x7A := by
  have h : ((decide (c.val ≥ 'A'.val ∧ c.val ≤ 'Z'.val) ||
    (decide (c.val ≥ 'a'.val) && decide (c.val ≤ 'z'.val))) || c == '_' || c == '$') = true := h
  simp only [Bool.or_eq_true, Bool.and_eq_true, decide_eq_true_eq, beq_iff_eq, ge_iff_le,
    UInt32.le_iff_toNat_le] at h
  rcases h with ((⟨hlow, hhigh⟩ | ⟨hlow, hhigh⟩) | rfl) | rfl
  · exact .inr ⟨hlow, Nat.le_trans hhigh (by decide)⟩
  · exact .inr ⟨Nat.le_trans (by decide) hlow, hhigh⟩
  · exact .inr (by decide)
  · exact .inl (by decide)

theorem nameCharacter_bounds (h : isNameCharacter c = true) :
    c.toNat = 0x24 ∨ 0x30 ≤ c.toNat ∧ c.toNat ≤ 0x7A := by
  rcases (Bool.or_eq_true _ _).mp h with h | h
  · rcases nameStart_bounds h with h | h <;> omega
  · simp only [Char.isDigit, Bool.and_eq_true, decide_eq_true_eq, ge_iff_le,
      UInt32.le_iff_toNat_le] at h
    exact .inr ⟨h.1, Nat.le_trans h.2 (by decide)⟩

theorem not_isNameCharacter_of_isBlank (h : isBlank c = true) : isNameCharacter c = false := by
  rw [← Bool.not_eq_true]
  intro hn
  have := blank_bounds h
  have := nameCharacter_bounds hn
  omega

theorem not_isBlank_of_isDecimal (h : isDecimal c = true) : isBlank c = false := by
  rw [← Bool.not_eq_true]
  intro hb
  rw [not_isDecimal_of_isBlank hb] at h
  cases h

theorem not_isBlank_of_isNameStart (h : isNameStart c = true) : isBlank c = false := by
  rw [← Bool.not_eq_true]
  intro hb
  have := blank_bounds hb
  have := nameStart_bounds h
  omega

theorem not_isDecimal_of_isNameStart (h : isNameStart c = true) : isDecimal c = false := by
  rw [← Bool.not_eq_true]
  intro hd
  have := decimal_bounds hd
  have := nameStart_bounds h
  omega

end Characters
/-- What stands behind a token that is set apart: nothing, or a blank first. -/
def Apart (cs : List Char) : Prop := ∀ c ∈ cs.head?, isBlank c = true

section Forward
variable {c : Char} {cs rest : List Char} {position : Nat}

theorem takeWhile_append_stop {p : Char → Bool} (hd : ∀ c ∈ cs, p c = true)
    (hr : ∀ c ∈ rest.head?, p c = false) : (cs ++ rest).takeWhile p = cs := by
  rw [List.takeWhile_append_of_pos hd]
  cases rest with
  | nil => simp
  | cons c rest => simp [hr c rfl]

theorem Apart.clear {p : Char → Bool} (h : Apart rest) (hp : ∀ c, isBlank c = true → p c = false) :
    ∀ c ∈ rest.head?, p c = false :=
  fun c hc => hp c (h c hc)

theorem IsPower.not_decimal (h : IsPower cs) (hr : Apart rest) :
    ∀ c ∈ (cs ++ rest).head?, isDecimal c = false := by
  cases h with
  | none => exact hr.clear fun _ => not_isDecimal_of_isBlank
  | some he _ _ _ =>
    rintro c ⟨⟩
    rcases he with rfl | rfl <;> decide

/-- Digits do not start with a sign. -/
theorem AllDecimal.unsigned (hd : AllDecimal cs) (hne : cs ≠ []) :
    (cs ++ rest).head?.any (fun c => c == '-' || c == '+') = false := by
  cases cs with
  | nil => cases hne rfl
  | cons c cs =>
    have hdec := hd c List.mem_cons_self
    have hsign : ¬ (c = '-' ∨ c = '+') := by
      rintro (rfl | rfl) <;> revert hdec <;> decide
    simpa using hsign

theorem IsPower.not_point (h : IsPower cs) (hr : Apart rest) (more : List Char) :
    cs ++ rest ≠ '.' :: more := by
  intro heq
  cases h with
  | none =>
    have hblank : isBlank '.' = true := hr '.' (by rw [← List.nil_append rest, heq]; rfl)
    revert hblank
    decide
  | some he _ _ _ =>
    obtain ⟨rfl, _⟩ := List.cons.inj heq
    rcases he with he | he <;> cases he

theorem powerLength_append (h : IsPower cs) (hr : Apart rest) :
    powerLength (cs ++ rest) = cs.length := by
  cases h with
  | none =>
    cases rest with
    | nil => rfl
    | cons c rest =>
      have hc := hr c rfl
      have he : (c == 'e' || c == 'E') = false := by
        rw [← Bool.not_eq_true]
        simp only [Bool.or_eq_true, beq_iff_eq]
        rintro (rfl | rfl) <;> revert hc <;> decide
      simp only [List.nil_append, powerLength, he, Bool.false_eq_true, if_false, List.length_nil]
  | @some e sign digits he hs hne hd =>
    have he' : (e == 'e' || e == 'E') = true := by simpa using he
    have hdigits : (digits ++ rest).takeWhile isDecimal = digits :=
      takeWhile_append_stop hd (hr.clear fun _ => not_isDecimal_of_isBlank)
    have hlen : digits.length ≠ 0 := by simpa using hne
    have hunsigned : (digits ++ rest).head?.any (fun c => c == '-' || c == '+') = false :=
      hd.unsigned hne
    simp only [List.mem_cons, List.not_mem_nil, or_false] at hs
    rcases hs with rfl | rfl | rfl
    · simp only [List.nil_append, List.cons_append, powerLength, he', if_true, hunsigned,
        Bool.false_eq_true, if_false, List.drop_zero, hdigits, hlen, List.length_cons]
      omega
    all_goals
      simp only [List.cons_append, List.nil_append, powerLength, he', if_true, List.head?_cons,
        Option.any_some, beq_self_eq_true, Bool.true_or, Bool.or_true, List.drop_succ_cons,
        List.drop_zero, hdigits, hlen, if_false, List.length_cons]
      omega

theorem numberLength_append (h : IsNumeral cs) (hr : Apart rest) :
    numberLength (cs ++ rest) = cs.length := by
  cases h with
  | @whole digits fraction power hne hd hf hp =>
    have hpower := powerLength_append hp hr
    have hstop := hp.not_decimal hr
    cases hf with
    | none =>
      have hdigits : (digits ++ (power ++ rest)).takeWhile isDecimal = digits :=
        takeWhile_append_stop hd hstop
      simp only [List.nil_append, List.append_assoc, numberLength, hdigits, List.drop_left,
        List.length_append]
      split
      · rename_i more heq
        exact absurd heq (hp.not_point hr more)
      · simp [hpower]
    | @some places hf =>
      have hdigits : (digits ++ '.' :: (places ++ (power ++ rest))).takeWhile isDecimal = digits :=
        takeWhile_append_stop hd (by rintro c ⟨⟩; decide)
      have hplaces : (places ++ (power ++ rest)).takeWhile isDecimal = places :=
        takeWhile_append_stop hf hstop
      simp only [List.append_assoc, List.cons_append, numberLength, hdigits, List.drop_left,
        List.length_append, List.length_cons, hplaces]
      have hdrop : (digits ++ '.' :: (places ++ (power ++ rest))).drop
          (digits.length + (1 + places.length)) = power ++ rest := by
        rw [← List.cons_append, ← List.append_assoc]
        exact List.drop_left' (by simp; omega)
      rw [hdrop, hpower, Nat.add_comm 1 places.length]
      omega
  | @fraction places power hne hd hp =>
    have hpower := powerLength_append hp hr
    have hplaces : (places ++ (power ++ rest)).takeWhile isDecimal = places :=
      takeWhile_append_stop hd (hp.not_decimal hr)
    have hpoint : isDecimal '.' = false := by decide
    simp only [List.append_assoc, List.cons_append, numberLength, List.takeWhile_cons, hpoint,
      Bool.false_eq_true, if_false, List.length_nil, List.drop_zero, hplaces, Nat.zero_add]
    have hdrop : ('.' :: (places ++ (power ++ rest))).drop (1 + places.length) = power ++ rest := by
      rw [← List.cons_append]
      exact List.drop_left' (by simp; omega)
    rw [hdrop, hpower, Nat.add_comm 1 places.length, List.length_cons, List.length_append]
    omega

theorem IsNumeral.starts (h : IsNumeral (c :: cs)) :
    isBlank c = false ∧ startsNumber c (cs ++ rest) = true := by
  generalize hw : c :: cs = written at h
  cases h with
  | @whole digits fraction power hne hd _ _ =>
    cases digits with
    | nil => cases hne rfl
    | cons d ds =>
      cases hw
      have hdec := hd c List.mem_cons_self
      exact ⟨not_isBlank_of_isDecimal hdec, by simp [startsNumber, hdec]⟩
  | @fraction digits power hne hd _ =>
    cases digits with
    | nil => cases hne rfl
    | cons d ds =>
      cases hw
      exact ⟨by decide, by simp [startsNumber, hd d List.mem_cons_self]⟩

theorem stringBody_append {quote : Char} {value written : List Char} (hq : quote ≠ '\\')
    (h : Escaped quote value written) :
    stringBody quote (written ++ quote :: rest) = some (value, written.length + 1) := by
  induction h with
  | nil =>
    rw [List.nil_append, stringBody.eq_def]
    simp
  | @plain c value written hne hb _ ih =>
    rw [List.cons_append, stringBody.eq_def]
    simp [hne, hb, ih]
  | @escape c value written hc _ ih =>
    rw [List.cons_append, List.cons_append, stringBody.eq_def]
    simp [hq.symm, hc, ih]

/-- Behind a token that is set apart nothing counts as part of a symbol. -/
theorem isPrefixOf_append {p q : List Char} (hp : ∀ c ∈ p, isBlank c = false) (hr : Apart rest) :
    p.isPrefixOf (q ++ rest) = p.isPrefixOf q := by
  induction p generalizing q with
  | nil => simp
  | cons c p ih =>
    cases q with
    | nil =>
      cases rest with
      | nil => rfl
      | cons d rest =>
        have hne : (c == d) = false := by
          rw [← Bool.not_eq_true, beq_iff_eq]
          rintro rfl
          have hd := hr c rfl
          rw [hp c List.mem_cons_self] at hd
          cases hd
        simp [List.isPrefixOf, hne]
    | cons d q =>
      simp only [List.cons_append, List.isPrefixOf]
      rw [ih fun c hc => hp c (List.mem_cons_of_mem _ hc)]

theorem symbol_unblank : ∀ s ∈ symbols, ∀ c ∈ s.text.toList, isBlank c = false := by
  have h : symbols.all (fun s => s.text.toList.all (!isBlank ·)) = true := by decide
  simpa using h

theorem find_symbol (s : Symbol) :
    symbols.find? (fun t => t.text.toList.isPrefixOf s.text.toList) = some s := by
  cases s with
  | operator o => cases o <;> decide
  | _ => decide

theorem mem_symbols (s : Symbol) : s ∈ symbols := List.mem_of_find?_eq_some (find_symbol s)

/-- No symbol starts like a lexeme of another kind, and only one with a point. -/
theorem symbol_head {t : Symbol} {d : Char} (hd : d ∈ t.text.toList.head?) : isBlank d = false ∧
    isDecimal d = false ∧ (d == '"' || d == '\'') = false ∧ isNameStart d = false ∧
    (d = '.' → t = .dot) := by
  have h : symbols.all (fun t => t.text.toList.head?.all fun d => !isBlank d && !isDecimal d &&
    !(d == '"' || d == '\'') && !isNameStart d && (d != '.' || t == .dot)) = true := by decide
  have ht := List.all_eq_true.mp h t (mem_symbols t)
  simp only [Option.mem_def.mp hd, Option.all_some, Bool.and_eq_true, Bool.not_eq_true',
    Bool.or_eq_true, bne_iff_ne, beq_iff_eq] at ht
  obtain ⟨⟨⟨⟨hblank, hdecimal⟩, hquote⟩, hname⟩, hdot⟩ := ht
  exact ⟨hblank, hdecimal, hquote, hname, fun hc => hdot.resolve_left fun hne => hne hc⟩

/-- What starts like a symbol and is set apart is nothing else. -/
theorem symbol_starts (s : Symbol) (hw : c :: cs = s.text.toList) (hr : Apart rest) :
    isBlank c = false ∧ startsNumber c (cs ++ rest) = false ∧ (c == '"' || c == '\'') = false ∧
      isNameStart c = false := by
  have hhead : c ∈ s.text.toList.head? := by
    rw [← hw]
    rfl
  obtain ⟨hblank, hdecimal, hquote, hname, hdot⟩ := symbol_head hhead
  refine ⟨hblank, ?_, hquote, hname⟩
  by_cases hc : c = '.'
  · obtain rfl := hdot hc
    obtain ⟨rfl, rfl⟩ : c = '.' ∧ cs = [] := List.cons.inj hw
    cases rest with
    | nil => decide
    | cons d rest =>
      have hd := not_isDecimal_of_isBlank (hr d rfl)
      simp [startsNumber, hdecimal, hd]
  · simp [startsNumber, hdecimal, hc]

/-- A spelled lexeme that is set apart is found as it is spelled. -/
theorem scan_spelled {l : Lexeme} (h : Spelled l (c :: cs)) (hr : Apart rest) :
    scan position c (cs ++ rest) = .ok (some l, cs.length) := by
  generalize hw : c :: cs = written at h
  cases h with
  | @number n written hn hv =>
    subst hw
    have hstart : isBlank c = false ∧ startsNumber c (cs ++ rest) = true := hn.starts
    obtain ⟨hblank, hstarts⟩ := hstart
    have hlength := numberLength_append hn hr
    have htake : (c :: (cs ++ rest)).take (cs.length + 1) = c :: cs := by simp
    rw [List.cons_append, List.length_cons] at hlength
    simp only [scan, hblank, hstarts, hlength, htake, hv, Bool.false_eq_true, if_false, if_true,
      Nat.add_sub_cancel]
  | @text quote value written hq he =>
    obtain ⟨rfl, rfl⟩ := List.cons.inj hw
    have hbody : stringBody c (written ++ c :: rest) = some (value, written.length + 1) :=
      stringBody_append (by rcases hq with rfl | rfl <;> decide) he
    have hfirst : isBlank c = false ∧ isDecimal c = false ∧ (c == '.') = false ∧
        (c == '"' || c == '\'') = true := by
      rcases hq with rfl | rfl <;> decide
    obtain ⟨hblank, hdecimal, hpoint, hquote⟩ := hfirst
    simp [scan, startsNumber, hblank, hdecimal, hpoint, hquote, hbody]
  | @name d more hd hmore hres =>
    obtain ⟨rfl, rfl⟩ := List.cons.inj hw
    have hspan : (cs ++ rest).takeWhile isNameCharacter = cs :=
      takeWhile_append_stop hmore (hr.clear fun _ => not_isNameCharacter_of_isBlank)
    have hbounds := nameStart_bounds hd
    have hpoint : (c == '.') = false ∧ (c == '"' || c == '\'') = false := by
      simp only [← Bool.not_eq_true, Bool.or_eq_true, beq_iff_eq]
      refine ⟨?_, ?_⟩
      · rintro rfl
        revert hbounds
        decide
      · rintro (rfl | rfl) <;> revert hbounds <;> decide
    simp only [scan, startsNumber, not_isBlank_of_isNameStart hd, not_isDecimal_of_isNameStart hd,
      hpoint, hd, hspan, hres, Bool.false_eq_true, Bool.false_and, Bool.or_self, if_false, if_true]
  | symbol s =>
    have hsame : ∀ t : Symbol, t.text.toList.isPrefixOf (s.text.toList ++ rest) =
        t.text.toList.isPrefixOf s.text.toList :=
      fun t => isPrefixOf_append (symbol_unblank t (mem_symbols t)) hr
    have hfind : symbols.find? (fun t => t.text.toList.isPrefixOf (c :: (cs ++ rest))) =
        some s := by
      rw [← List.cons_append, hw, funext hsame]
      exact find_symbol s
    obtain ⟨hblank, hstart, hquote, hname⟩ := symbol_starts s hw hr
    have hlen : s.text.length - 1 = cs.length := by
      rw [← String.length_toList, ← hw]
      rfl
    simp only [scan, hblank, hstart, hquote, hname, hfind, hlen, Bool.false_eq_true, if_false]

end Forward
theorem IsNumeral.ne_nil {cs : List Char} (h : IsNumeral cs) : cs ≠ [] := by
  cases h with
  | whole hne _ _ _ => simp [hne]
  | fraction _ _ _ => simp

theorem Symbol.text_ne_nil (s : Symbol) : s.text.toList ≠ [] := by
  have hall : ∀ s ∈ symbols, s.text.toList ≠ [] := by decide
  exact hall s (mem_symbols s)

theorem Spelled.ne_nil {l : Lexeme} {cs : List Char} (h : Spelled l cs) : cs ≠ [] := by
  cases h with
  | number hn _ => exact hn.ne_nil
  | text _ _ => simp
  | name _ _ _ => simp
  | symbol s => exact s.text_ne_nil

theorem tokensFrom_skip (position : Nat) (cs rest : List Char) :
    tokensFrom position cs.length (cs ++ rest) = tokensFrom (position + cs.length) 0 rest := by
  induction cs generalizing position with
  | nil => rfl
  | cons c cs ih =>
    rw [List.length_cons, List.cons_append, tokensFrom, ih, Nat.add_right_comm, Nat.add_assoc]

/-- The lexemes of a text in which they are set apart are found. -/
theorem tokensFrom_laid {ls : List Lexeme} {cs : List Char} (h : Laid true ls cs)
    (position : Nat) : ∃ ts, tokensFrom position 0 cs = .ok ts ∧ ts.map Token.lexeme = ls := by
  induction h generalizing position with
  | done => exact ⟨[], rfl, rfl⟩
  | blank hb _ ih =>
    obtain ⟨ts, ht, hl⟩ := ih (position + 1)
    exact ⟨ts, by simp [tokensFrom, scan, hb, ht], hl⟩
  | @lexeme l ls written cs hs hr _ ih =>
    obtain ⟨c, more, rfl⟩ := List.exists_cons_of_ne_nil hs.ne_nil
    obtain ⟨ts, ht, hl⟩ := ih (position + 1 + more.length)
    have hscan : scan position c (more ++ cs) = .ok (some l, more.length) :=
      scan_spelled hs (hr rfl)
    refine ⟨⟨l, position⟩ :: ts, ?_, by rw [List.map_cons, hl]⟩
    rw [List.cons_append, tokensFrom]
    simp only [hscan, tokensFrom_skip, ht]
    rfl

section Backward
variable {c : Char} {cs rest : List Char} {position : Nat}

theorem take_takeWhile (p : Char → Bool) (cs : List Char) :
    cs.take (cs.takeWhile p).length = cs.takeWhile p :=
  (List.prefix_iff_eq_take.mp (List.takeWhile_prefix p)).symm

theorem takeWhile_decimal (cs : List Char) : AllDecimal (cs.takeWhile isDecimal) :=
  fun _ hc => List.mem_takeWhile_imp hc

theorem length_takeWhile_drop (n : Nat) (cs : List Char) :
    ((cs.drop n).takeWhile isDecimal).length ≤ cs.length - n := by
  rw [← List.length_drop]
  exact (List.takeWhile_prefix isDecimal).length_le

/-- A sign in front of a text, if there is one. -/
theorem take_sign (cs : List Char) {n : Nat}
    (hn : n = if cs.head?.any (fun c => c == '-' || c == '+') then 1 else 0) :
    cs.take n ∈ [[], ['-'], ['+']] ∧ n ≤ cs.length := by
  subst hn
  cases cs with
  | nil => decide
  | cons c cs =>
    by_cases hm : c = '-'
    · simp [hm]
    · by_cases hp : c = '+'
      · simp [hp]
      · simp [hm, hp]

theorem powerLength_written (cs : List Char) :
    IsPower (cs.take (powerLength cs)) ∧ powerLength cs ≤ cs.length := by
  cases cs with
  | nil => exact ⟨.none, Nat.le_refl _⟩
  | cons e rest =>
    simp only [powerLength]
    split
    · rename_i he
      generalize hsigned :
        (if rest.head?.any (fun c => c == '-' || c == '+') then 1 else 0) = signed
      obtain ⟨hsign, hle⟩ := take_sign rest hsigned.symm
      split
      · exact ⟨.none, Nat.zero_le _⟩
      · rename_i hne
        have hlen := length_takeWhile_drop signed rest
        have htake :
            (e :: rest).take (1 + signed + ((rest.drop signed).takeWhile isDecimal).length) =
              e :: (rest.take signed ++ (rest.drop signed).takeWhile isDecimal) := by
          rw [Nat.add_assoc, Nat.add_comm 1, List.take_succ_cons, List.take_add, take_takeWhile]
        rw [htake]
        refine ⟨.some (by simpa using he) hsign ?_ (takeWhile_decimal _), ?_⟩
        · intro hnil
          exact hne (by rw [hnil]; rfl)
        · rw [List.length_cons]
          omega
    · exact ⟨.none, Nat.zero_le _⟩

/-- A number takes its digits, a fraction and a power of ten. -/
theorem numberLength_parts (cs : List Char) : ∃ fraction,
    IsFraction ((cs.drop (cs.takeWhile isDecimal).length).take fraction) ∧
      (∀ more, cs.drop (cs.takeWhile isDecimal).length = '.' :: more →
        fraction = (more.takeWhile isDecimal).length + 1) ∧
      (cs.takeWhile isDecimal).length + fraction ≤ cs.length ∧
      numberLength cs = (cs.takeWhile isDecimal).length + fraction +
        powerLength (cs.drop ((cs.takeWhile isDecimal).length + fraction)) := by
  have hlen : (cs.takeWhile isDecimal).length ≤ cs.length :=
    (List.takeWhile_prefix isDecimal).length_le
  simp only [numberLength]
  split
  · rename_i more heq
    refine ⟨1 + (more.takeWhile isDecimal).length, ?_, ?_, ?_, rfl⟩
    · rw [heq, Nat.add_comm, List.take_succ_cons, take_takeWhile]
      exact .some (takeWhile_decimal _)
    · intro others hothers
      rw [heq] at hothers
      cases hothers
      exact Nat.add_comm _ _
    · have hmore := (List.takeWhile_prefix isDecimal (l := more)).length_le
      have hdrop := congrArg List.length heq
      rw [List.length_drop, List.length_cons] at hdrop
      omega
  · rename_i hno
    exact ⟨0, .none, fun more heq => absurd heq (hno more), hlen, rfl⟩

/-- What is scanned as a number is written like one. -/
theorem numberLength_written (h : startsNumber c rest = true) :
    IsNumeral ((c :: rest).take (numberLength (c :: rest))) ∧
      numberLength (c :: rest) ≤ (c :: rest).length := by
  generalize hcs : c :: rest = cs
  obtain ⟨fraction, hf, hpoint, hflen, hlength⟩ := numberLength_parts cs
  obtain ⟨hp, hplen⟩ :=
    powerLength_written (cs.drop ((cs.takeWhile isDecimal).length + fraction))
  rw [List.length_drop] at hplen
  refine ⟨?_, by omega⟩
  rw [hlength, List.take_add, List.take_add, take_takeWhile, List.append_assoc]
  by_cases hc : isDecimal c = true
  · refine .whole ?_ (takeWhile_decimal _) hf hp
    simp [← hcs, hc]
  · -- without digits in front there is a point, and a digit behind it
    obtain ⟨rfl, hd⟩ : c = '.' ∧ rest.head?.any isDecimal = true := by
      simpa [startsNumber, hc] using h
    have hnone : cs.takeWhile isDecimal = [] := by simp [← hcs, hc]
    have hfraction : fraction = (rest.takeWhile isDecimal).length + 1 :=
      hpoint rest (by rw [hnone, ← hcs]; rfl)
    have htake : cs.take fraction = '.' :: rest.takeWhile isDecimal := by
      rw [← hcs, hfraction, List.take_succ_cons, take_takeWhile]
    rw [hnone] at hp ⊢
    simp only [List.length_nil, List.drop_zero, Nat.zero_add, List.nil_append, htake] at hp ⊢
    refine .fraction ?_ (takeWhile_decimal _) hp
    cases rest with
    | nil => cases hd
    | cons d rest =>
      have hd : isDecimal d = true := hd
      simp [hd]

theorem stringBody_written {quote : Char} {value : List Char} {n : Nat}
    (h : stringBody quote cs = some (value, n)) : ∃ written more,
      cs = written ++ quote :: more ∧ Escaped quote value written ∧ n = written.length + 1 := by
  fun_induction stringBody quote cs generalizing value n with
  | case1 => cases h
  | case2 c rest hq =>
    cases h
    exact ⟨[], rest, by rw [beq_iff_eq.mp hq]; rfl, .nil, rfl⟩
  | case3 c => cases h
  | case4 c e => cases h
  | case5 c hq hb e more he ih =>
    obtain ⟨⟨value', n'⟩, hrest, h⟩ := Option.map_eq_some_iff.mp h
    cases h
    obtain ⟨written, left, rfl, hw, rfl⟩ := ih hrest
    rw [beq_iff_eq.mp hb]
    exact ⟨'\\' :: e :: written, left, rfl, .escape (by simpa using he) hw, rfl⟩
  | case6 c rest hq hb ih =>
    obtain ⟨⟨value', n'⟩, hrest, h⟩ := Option.map_eq_some_iff.mp h
    cases h
    obtain ⟨written, left, rfl, hw, rfl⟩ := ih hrest
    exact ⟨c :: written, left, rfl, .plain (by simpa using hq) (by simpa using hb) hw, rfl⟩

/-- What is found is spelled at the front of the text. -/
theorem scan_ok {l : Lexeme} {n : Nat} (h : scan position c rest = .ok (some l, n)) :
    n ≤ rest.length ∧ Spelled l (c :: rest.take n) := by
  unfold scan at h
  split at h
  · cases h
  split at h
  · rename_i hstarts
    obtain ⟨hn, hle⟩ := numberLength_written hstarts
    have hpos : numberLength (c :: rest) ≠ 0 := by
      intro hzero
      rw [hzero] at hn
      exact hn.ne_nil rfl
    dsimp only at h
    split at h
    · rename_i number hv
      cases h
      obtain ⟨k, hk⟩ := Nat.exists_eq_succ_of_ne_zero hpos
      rw [hk] at hn hv hle ⊢
      exact ⟨Nat.le_of_succ_le_succ hle, .number hn hv⟩
    · cases h
  split at h
  · rename_i hquote
    split at h
    · rename_i value n hb
      cases h
      obtain ⟨written, more, rfl, hw, rfl⟩ := stringBody_written hb
      have htake : (written ++ c :: more).take (written.length + 1) = written ++ [c] := by
        rw [List.append_cons]
        exact List.take_left' (by simp)
      rw [htake]
      exact ⟨by simp, .text (by simpa using hquote) hw⟩
    · cases h
  split at h
  · rename_i hname
    dsimp only at h
    split at h
    · cases h
    · rename_i hres
      cases h
      have hle := (List.takeWhile_prefix isNameCharacter (l := rest)).length_le
      rw [take_takeWhile]
      exact ⟨hle, .name hname (fun d hd => List.mem_takeWhile_imp hd) (by simpa using hres)⟩
  · split at h
    · rename_i s hf
      cases h
      have hprefix : s.text.toList.isPrefixOf (c :: rest) = true := by
        simpa using List.find?_some hf
      obtain ⟨more, hmore⟩ := List.isPrefixOf_iff_prefix.mp hprefix
      obtain ⟨d, ds, hs⟩ := List.exists_cons_of_ne_nil s.text_ne_nil
      rw [hs, List.cons_append] at hmore
      cases hmore
      have hlen : s.text.length - 1 = ds.length := by
        rw [← String.length_toList, hs]
        rfl
      rw [hlen, List.take_left, ← hs]
      exact ⟨by simp, .symbol s⟩
    · cases h

theorem scan_blank {n : Nat} (h : scan position c rest = .ok (none, n)) :
    isBlank c = true ∧ n = 0 := by
  unfold scan at h
  split at h
  · rename_i hb
    cases h
    exact ⟨hb, rfl⟩
  · repeat' first | split at h | cases h | dsimp only at h

/-- The characters that are to be skipped left aside, the text consists of the spelled lexemes that
are found, with blanks at most in between. -/
theorem tokensFrom_written {skipped : Nat} {ts : List Token}
    (h : tokensFrom position skipped cs = .ok ts) (hle : skipped ≤ cs.length) :
    Laid false (ts.map Token.lexeme) (cs.drop skipped) := by
  induction cs generalizing position skipped ts with
  | nil =>
    cases h
    rw [List.drop_nil]
    exact .done
  | cons c rest ih =>
    cases skipped with
    | succ skipped => exact ih h (Nat.le_of_succ_le_succ hle)
    | zero =>
      rw [tokensFrom] at h
      split at h
      · cases h
      · rename_i n hs
        obtain ⟨hb, rfl⟩ := scan_blank hs
        exact .blank hb (ih h (Nat.zero_le _))
      · rename_i l n hs
        obtain ⟨more, hmore, rfl⟩ := map_eq_ok.mp h
        obtain ⟨hn, hl⟩ := scan_ok hs
        have hcut : c :: rest = (c :: rest.take n) ++ rest.drop n := by
          rw [List.cons_append, List.take_append_drop]
        rw [List.drop_zero, hcut]
        exact .lexeme hl nofun (ih hmore hn)

theorem stripPadding_decimal (hd : AllDecimal cs) : stripPadding cs = cs := by
  have hno : ∀ ds : List Char, AllDecimal ds → ds.dropWhile isPadding = ds := by
    intro ds hds
    cases ds with
    | nil => rfl
    | cons c ds =>
      have hc : isPadding c = false := by
        rw [isPadding, ← Bool.not_eq_true, Bool.and_eq_true]
        rintro ⟨hb, _⟩
        rw [not_isBlank_of_isDecimal (hds c List.mem_cons_self)] at hb
        cases hb
      simp [hc]
  have hback : AllDecimal cs.reverse := fun c hc => hd c (List.mem_reverse.mp hc)
  rw [stripPadding, hno cs hd, hno _ hback, List.reverse_reverse]

theorem sign_decimal (hd : AllDecimal cs) : Reading.sign cs = (false, cs) := by
  unfold Reading.sign
  split
  · exact absurd (hd '-' List.mem_cons_self) (by decide)
  · exact absurd (hd '+' List.mem_cons_self) (by decide)
  · rfl

theorem digitsAfter_decimal (hd : AllDecimal cs) (before : Bool) :
    ∃ ds, Reading.digitsAfter before cs = (ds, []) ∧ ds.length = cs.length := by
  induction cs generalizing before with
  | nil => exact ⟨[], rfl, rfl⟩
  | cons c cs ih =>
    obtain ⟨d, hv⟩ := Option.isSome_iff_exists.mp (hd c List.mem_cons_self)
    obtain ⟨ds, hds, hlen⟩ := ih (fun c hc => hd c (List.mem_cons_of_mem _ hc)) true
    exact ⟨d :: ds, by simp [Reading.digitsAfter, hv, hds], by simp [hlen]⟩

/-- Digits are read as an integer, unless there are too many. -/
theorem integer_error {f : NumberFault} (hd : AllDecimal cs) (hne : cs ≠ [])
    (h : Reading.integer (String.ofList cs) = .error f) : maxIntegerDigits < cs.length := by
  obtain ⟨ds, hds, hlen⟩ := digitsAfter_decimal hd false
  rw [← hlen]
  have hnonempty : ds ≠ [] := by
    rintro rfl
    exact hne (List.eq_nil_of_length_eq_zero hlen.symm)
  simp only [Reading.integer, String.toList_ofList, stripPadding_decimal hd, sign_decimal hd,
    Reading.digits, hds] at h
  split at h
  · assumption
  · simp [hnonempty] at h

theorem numberOf_error {f : NumberFault} (hne : cs ≠ []) (h : numberOf cs = .error f) :
    AllDecimal cs ∧ maxIntegerDigits < cs.length := by
  unfold numberOf at h
  split at h
  · rename_i hall
    have hd : AllDecimal cs := List.all_eq_true.mp hall
    cases hi : Reading.integer (String.ofList cs) with
    | ok n =>
      rw [hi] at h
      cases h
    | error g => exact ⟨hd, integer_error hd hne hi⟩
  · cases h

/-- Why a text has no tokens: a character or a name that is out of place, or an integer that is too
long. -/
inductive Unscannable (cs : List Char) : SyntaxFault → Prop
  | character (c : Char) (position : Nat) : Unscannable cs (.unexpectedCharacter c position)
  | name (s : String) : Unscannable cs (.reservedName s)
  | number {digits : List Char} (f : NumberFault) : digits <:+: cs → AllDecimal digits →
    maxIntegerDigits < digits.length → Unscannable cs (.number f)

theorem Unscannable.cons {f : SyntaxFault} (h : Unscannable cs f) (c : Char) :
    Unscannable (c :: cs) f := by
  cases h with
  | character d p => exact .character d p
  | name s => exact .name s
  | number f hin hd hlen => exact .number f (List.infix_cons hin) hd hlen

theorem scan_error {f : SyntaxFault} (h : scan position c rest = .error f) :
    Unscannable (c :: rest) f := by
  unfold scan at h
  split at h
  · cases h
  split at h
  · rename_i hstarts
    dsimp only at h
    split at h
    · cases h
    · rename_i g hv
      cases h
      obtain ⟨hd, hlen⟩ := numberOf_error (numberLength_written hstarts).1.ne_nil hv
      exact .number g (List.take_prefix _ _).isInfix hd hlen
  split at h
  · split at h
    · cases h
    · cases h
      exact .character c position
  split at h
  · dsimp only at h
    split at h
    · cases h
      exact .name _
    · cases h
  · split at h
    · cases h
    · cases h
      exact .character c position

theorem tokensFrom_error {skipped : Nat} {f : SyntaxFault}
    (h : tokensFrom position skipped cs = .error f) : Unscannable cs f := by
  induction cs generalizing position skipped with
  | nil => cases h
  | cons c rest ih =>
    cases skipped with
    | succ skipped => exact (ih h).cons c
    | zero =>
      rw [tokensFrom] at h
      split at h
      · rename_i hs
        cases h
        exact scan_error hs
      · exact (ih h).cons c
      · rename_i l n _
        cases ht : tokensFrom (position + 1) n rest with
        | ok ts =>
          rw [ht] at h
          cases h
        | error g =>
          rw [ht] at h
          cases h
          exact (ih ht).cons c

end Backward
end Storyline.Condition
