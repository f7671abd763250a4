import Storyline.Json.Read
import Storyline.Json.Write
import Storyline.Proofs.Decimal
import Storyline.Proofs.Outcome

namespace Storyline.Json
open Decimal

def signed (negative : Bool) (cs : List Char) : List Char := if negative then '-' :: cs else cs

structure Leads (cs : List Char) : Prop where
  begun : cs ≠ []
  digits : ∀ c ∈ cs, c.isDigit = true
  lead : cs.head? = some '0' → cs = ['0']

def endsDigits (cs : List Char) : Bool := cs.head?.all fun c => !c.isDigit

def endsNumber (cs : List Char) : Bool :=
  cs.head?.all fun c => !c.isDigit && c != '.' && c != 'e' && c != 'E'

variable {ds whole frac rest : List Char} {negative : Bool}

theorem asciiDigits_append (hd : ∀ c ∈ ds, c.isDigit = true) (hr : endsDigits rest = true) :
    asciiDigits (ds ++ rest) = (ds.map (·.toNat - 48), rest) := by
  have hsame : isAsciiDigit = Char.isDigit := rfl
  have hnone : rest.takeWhile Char.isDigit = [] ∧ rest.dropWhile Char.isDigit = rest := by
    cases rest with
    | nil => exact ⟨rfl, rfl⟩
    | cons c rest =>
      have hc : c.isDigit = false := by simpa [endsDigits] using hr
      simp [hc]
  rw [asciiDigits, hsame, List.takeWhile_append_of_pos hd, List.dropWhile_append_of_pos hd, hnone.1,
    hnone.2, List.append_nil]

theorem wholeDigits_append (hw : Leads whole) (hr : endsDigits rest = true) :
    wholeDigits (whole ++ rest) = (whole.map (·.toNat - 48), rest) := by
  unfold wholeDigits
  split
  · rename_i rest' hcs
    have hz : whole.head? = some '0' := by
      rw [← List.head?_append_of_ne_nil _ hw.begun, hcs]
      rfl
    rw [hw.lead hz] at hcs ⊢
    cases hcs
    rfl
  · exact asciiDigits_append hw.digits hr

theorem minus_signed (hw : Leads whole) :
    minus (signed negative (whole ++ rest)) = (negative, whole ++ rest) := by
  cases negative with
  | true => rfl
  | false =>
    unfold signed minus
    split
    · rename_i rest' hcs
      have hm : whole.head? = some '-' := by
        rw [← List.head?_append_of_ne_nil _ hw.begun]
        exact congrArg List.head? hcs
      exact absurd (hw.digits '-' (List.mem_of_head? hm)) (by decide)
    · rfl

theorem readNumber_signed (hw : Leads whole) (hr : endsDigits rest = true) :
    readNumber (signed negative (whole ++ rest)) =
      behindWhole negative (whole.map (·.toNat - 48)) rest := by
  simp [readNumber, minus_signed hw, wholeDigits_append hw hr, hw.begun]

theorem endsDigits_of_number (h : endsNumber rest = true) : endsDigits rest = true := by
  cases rest with
  | nil => rfl
  | cons c rest =>
    simp only [endsNumber, List.head?_cons, Option.all_some, Bool.and_eq_true] at h
    exact h.1.1.1

theorem fraction_ended (h : endsNumber rest = true) : fraction rest = ([], rest) := by
  unfold fraction
  split
  · cases h
  · rfl

theorem power_ended (h : endsNumber rest = true) : power rest = (none, rest) := by
  cases rest with
  | nil => rfl
  | cons c rest =>
    simp only [endsNumber, List.head?_cons, Option.all_some, Bool.and_eq_true, bne_iff_ne] at h
    simp [power, h.1.2, h.2]

theorem fraction_append (hne : frac ≠ []) (hd : ∀ c ∈ frac, c.isDigit = true)
    (hr : endsDigits rest = true) :
    fraction ('.' :: (frac ++ rest)) = (frac.map (·.toNat - 48), rest) := by
  unfold fraction
  split
  · rename_i rest' hcs
    cases hcs
    rw [asciiDigits_append hd hr]
    split
    · rename_i hnil
      exact absurd (List.map_eq_nil_iff.mp (congrArg Prod.fst hnil)) hne
    · rfl
  · rename_i hno
    exact absurd rfl (hno _)

theorem power_append {below : Bool} (hne : ds ≠ []) (hd : ∀ c ∈ ds, c.isDigit = true)
    (hr : endsDigits rest = true) :
    power ('e' :: (if below then '-' else '+') :: (ds ++ rest)) =
      (some (if below then -(value ds : ℤ) else value ds), rest) := by
  have hsign : Reading.sign ((if below then '-' else '+') :: (ds ++ rest)) =
      (below, ds ++ rest) := by
    cases below <;> rfl
  simp only [power, hsign, asciiDigits_append hd hr, BEq.rfl, Bool.true_or, if_true]
  split
  · rename_i hnil
    exact absurd (List.map_eq_nil_iff.mp (congrArg Prod.fst hnil)) hne
  · rename_i hsome
    cases hsome
    rfl

theorem signed_append : signed negative ds ++ rest = signed negative (ds ++ rest) := by
  cases negative <;> rfl

theorem leads_toDigits (n : Nat) : Leads (Nat.toDigits 10 n) where
  begun := Nat.toDigits_ne_nil
  digits _ h := isDigit_of_mem_toDigits h
  lead h := by
    cases n with
    | zero => rfl
    | succ n => exact absurd h (head_toDigits n.succ_pos)

/-- An integer is read from its text, with nothing left of it. -/
theorem readNumber_integer {n : ℤ} {text : String} (h : integerText n = .ok text)
    (hr : endsNumber rest = true) : readNumber (text.toList ++ rest) = .ok (.int n, rest) := by
  unfold integerText at h
  dsimp only at h
  split at h
  · cases h
  · rename_i hshort
    cases h
    have htext : (String.ofList (if n < 0 then '-' :: Nat.toDigits 10 n.natAbs
        else Nat.toDigits 10 n.natAbs)).toList = signed (n < 0) (Nat.toDigits 10 n.natAbs) := by
      simp [signed]
    have hvalue : ofDigits ((Nat.toDigits 10 n.natAbs).map (·.toNat - 48)) = n.natAbs :=
      value_toDigits n.natAbs
    rw [htext, signed_append, readNumber_signed (leads_toDigits _) (endsDigits_of_number hr)]
    simp only [behindWhole, fraction_ended hr, power_ended hr, List.isEmpty_nil, Option.isNone_none,
      Bool.and_self, if_true, List.length_map, if_neg hshort, hvalue]
    congr 3
    simp only [decide_eq_true_eq]
    split <;> omega

/-- Digits with a point in between. -/
theorem readNumber_point (hw : Leads whole) (hne : frac ≠ []) (hd : ∀ c ∈ frac, c.isDigit = true)
    (hr : endsNumber rest = true) :
    readNumber (signed negative (whole ++ '.' :: (frac ++ rest))) =
      .ok (.double (.ofDecimal negative ⟨value (whole ++ frac), -frac.length⟩), rest) := by
  rw [readNumber_signed hw rfl]
  have hne' : frac.map (·.toNat - 48) ≠ [] := by simpa using hne
  simp [behindWhole, fraction_append hne hd (endsDigits_of_number hr), power_ended hr, hne, value]

/-- Digits with a power of ten behind them, and with a point in between if there are several. -/
theorem readNumber_power {below : Bool} {power : List Char} (hw : Leads whole)
    (hd : ∀ c ∈ frac, c.isDigit = true) (hne : power ≠ []) (hp : ∀ c ∈ power, c.isDigit = true)
    (hr : endsNumber rest = true) :
    readNumber (signed negative (whole ++ ((if frac = [] then [] else '.' :: frac) ++
        'e' :: (if below then '-' else '+') :: (power ++ rest)))) =
      .ok (.double (.ofDecimal negative ⟨value (whole ++ frac),
        (if below then -(value power : ℤ) else value power) - frac.length⟩), rest) := by
  have hpower : Json.power ('e' :: (if below then '-' else '+') :: (power ++ rest)) = _ :=
    power_append hne hp (endsDigits_of_number hr)
  by_cases hf : frac = []
  · subst hf
    rw [if_pos rfl, List.nil_append, readNumber_signed hw rfl]
    simp [behindWhole, fraction, hpower, value]
  · have hfrac :
        fraction ('.' :: (frac ++ 'e' :: (if below then '-' else '+') :: (power ++ rest))) =
        _ := fraction_append hf hd rfl
    rw [if_neg hf, List.cons_append, readNumber_signed hw rfl]
    simp [behindWhole, hfrac, hpower, value]

variable {d : Decimal}

theorem leads_take {k : Nat} (hne : ds ≠ []) (hd : ∀ c ∈ ds, c.isDigit = true)
    (hhead : ds.head? ≠ some '0') (zeros : Nat) :
    Leads (ds.take (k + 1) ++ List.replicate zeros '0') where
  begun := by simp [hne]
  digits c hc := by
    rcases List.mem_append.mp hc with hc | hc
    · exact hd c (List.mem_of_mem_take hc)
    · rw [List.eq_of_mem_replicate hc]
      rfl
  lead h := by
    cases ds with
    | nil => exact absurd rfl hne
    | cons c rest => exact absurd h hhead

/-- A decimal below one that is written out. -/
theorem readNumber_small {place : ℤ} (hd : ∀ c ∈ ds, c.isDigit = true) (hne : ds ≠ [])
    (hplace : place < 0) (hr : endsNumber rest = true) :
    readNumber (signed negative
        ('0' :: '.' :: (List.replicate (-place - 1).toNat '0' ++ ds) ++ rest)) =
      .ok (.double (.ofDecimal negative ⟨value ds, place + 1 - ds.length⟩), rest) := by
  have hw : Leads ['0'] := ⟨by simp, by simp, fun _ => rfl⟩
  have hdigits : ∀ c ∈ List.replicate (-place - 1).toNat '0' ++ ds, c.isDigit = true := by
    intro c hc
    rcases List.mem_append.mp hc with hc | hc
    · rw [List.eq_of_mem_replicate hc]
      rfl
    · exact hd c hc
  have hvalue : value (['0'] ++ (List.replicate (-place - 1).toNat '0' ++ ds)) = value ds :=
    value_zeros_append ds ((-place - 1).toNat + 1)
  have hread : readNumber (signed negative (['0'] ++ '.' :: _)) = _ :=
    readNumber_point hw (by simp [hne]) hdigits hr
  rw [List.cons_append, List.cons_append]
  refine hread.trans ?_
  rw [hvalue, List.length_append, List.length_replicate]
  congr 5
  push_cast
  omega

/-- A decimal that is written out with its point inside or behind its digits. -/
theorem readNumber_medium {place : Nat} (hd : ∀ c ∈ ds, c.isDigit = true) (hne : ds ≠ [])
    (hhead : ds.head? ≠ some '0') (hvalue : 0 < value ds) (hr : endsNumber rest = true) :
    readNumber (signed negative
        (ds.take (place + 1) ++ List.replicate ((place + 1 : Nat) - (ds.length : ℤ)).toNat '0' ++
          '.' :: (if ds.length ≤ place + 1 then ['0'] else ds.drop (place + 1)) ++ rest)) =
      .ok (.double (.ofDecimal negative ⟨value ds, (place : ℤ) + 1 - ds.length⟩), rest) := by
  have hw := leads_take (k := place) hne hd hhead (place + 1 - ds.length)
  rw [Int.toNat_sub, List.append_assoc _ _ rest, List.cons_append]
  by_cases hlen : ds.length ≤ place + 1
  · -- zeros up to the point and one behind it: a scaling of the digits
    have hread : readNumber (signed negative (_ ++ '.' :: (['0'] ++ rest))) = _ :=
      readNumber_point hw (by simp) (by simp) hr
    rw [if_pos hlen]
    refine hread.trans ?_
    have hzeros : ds.take (place + 1) ++ List.replicate (place + 1 - ds.length) '0' ++ ['0'] =
        ds ++ List.replicate (place + 1 - ds.length + 1) '0' := by
      rw [List.take_of_length_le hlen, List.replicate_succ', List.append_assoc]
    rw [hzeros, value_append_zeros, Double.ofDecimal_scale hvalue]
    congr 5
    rw [List.length_singleton]
    omega
  · have hread : readNumber (signed negative (_ ++ '.' :: (ds.drop (place + 1) ++ rest))) = _ :=
      readNumber_point hw (by simpa using hlen) (fun c hc => hd c (List.mem_of_mem_drop hc)) hr
    rw [if_neg hlen]
    refine hread.trans ?_
    rw [show place + 1 - ds.length = 0 by omega, List.replicate_zero, List.append_nil,
      List.take_append_drop, List.length_drop]
    congr 5
    omega

/-- A decimal that is written with a power of ten. -/
theorem readNumber_scientific {place : ℤ} (zeros : Nat)
    (hd : ∀ c ∈ ds, c.isDigit = true) (hne : ds ≠ [])
    (hhead : ds.head? ≠ some '0') (hr : endsNumber rest = true) :
    readNumber (signed negative
        (ds.take 1 ++ (if ds.length ≤ 1 then [] else '.' :: ds.drop 1) ++
          ['e', if place < 0 then '-' else '+'] ++
          List.replicate zeros '0' ++ Nat.toDigits 10 place.natAbs ++ rest)) =
      .ok (.double (.ofDecimal negative ⟨value ds, place + 1 - ds.length⟩), rest) := by
  have hw : Leads (ds.take 1) := by simpa using leads_take (k := 0) hne hd hhead 0
  let power := List.replicate zeros '0' ++ Nat.toDigits 10 place.natAbs
  have hp : ∀ c ∈ power, c.isDigit = true := by
    intro c hc
    rcases List.mem_append.mp hc with hc | hc
    · rw [List.eq_of_mem_replicate hc]
      rfl
    · exact isDigit_of_mem_toDigits hc
  have hpvalue : value power = place.natAbs :=
    (value_zeros_append _ _).trans (value_toDigits _)
  have hread : readNumber (signed negative (ds.take 1 ++
      ((if ds.drop 1 = [] then [] else '.' :: ds.drop 1) ++
        'e' :: (if decide (place < 0) = true then '-' else '+') :: (power ++ rest)))) = _ :=
    readNumber_power hw (fun c hc => hd c (List.mem_of_mem_drop hc))
      (List.append_ne_nil_of_right_ne_nil _ Nat.toDigits_ne_nil) hp hr
  have hlen : ds.drop 1 = [] ↔ ds.length ≤ 1 := List.drop_eq_nil_iff
  simp only [hlen, decide_eq_true_eq, hpvalue, List.take_append_drop, List.length_drop] at hread
  have hlength : 0 < ds.length := List.length_pos_iff.mpr hne
  simp only [power, List.append_assoc, List.cons_append, List.nil_append] at hread ⊢
  refine hread.trans ?_
  congr 5
  split <;> omega

/-- A decimal is read from its text as what it stands for. -/
theorem readNumber_layout {d : Decimal} (hpos : 0 < d.digits) (hr : endsNumber rest = true) :
    readNumber (signed negative (d.layout ++ rest)) =
      .ok (.double (.ofDecimal negative d), rest) := by
  rw [ofDecimal_significant hpos]
  have hd : ∀ c ∈ d.significant, c.isDigit = true := fun _ => isDigit_significant
  have hne := significant_ne_nil hpos
  have hhead := head_significant hpos
  obtain ⟨k, hv, _⟩ := d.digits_significant
  have hvalue : 0 < value d.significant := Nat.pos_of_mul_pos_right (hv ▸ hpos)
  unfold layout
  dsimp only
  split
  · rename_i hplace
    simp only [Bool.and_eq_true, decide_eq_true_eq] at hplace
    exact readNumber_small hd hne hplace.2 hr
  · split
    · rename_i hplace
      simp only [Bool.and_eq_true, decide_eq_true_eq] at hplace
      obtain ⟨place, hp⟩ := Int.eq_ofNat_of_zero_le hplace.1
      rw [hp, Int.toNat_natCast]
      exact readNumber_medium hd hne hhead hvalue hr
    · exact readNumber_scientific _ hd hne hhead hr

theorem readNumber_finite {m : Nat} {e : ℤ} (h : Canonical m e) (hr : endsNumber rest = true) :
    readNumber ((Double.finiteText negative m e).toList ++ rest) =
      .ok (.double (.finite negative m e h), rest) := by
  have htext : (Double.finiteText negative m e).toList =
      signed negative (if m = 0 then ['0', '.', '0'] else (Decimal.shortest m e).layout) := by
    simp [Double.finiteText, signed]
  rw [htext, signed_append]
  by_cases hm : m = 0
  · subst hm
    obtain rfl : e = -1074 := h.2.2.2.resolve_left (by decide)
    have hread : readNumber (signed negative (['0'] ++ '.' :: (['0'] ++ rest))) = _ :=
      readNumber_point ⟨by simp, by simp, fun _ => rfl⟩ (by simp) (by simp) hr
    exact hread
  · have hpos := Nat.pos_of_ne_zero hm
    rw [if_neg hm, readNumber_layout (shortest_pos hpos h) hr, ofDecimal_shortest hpos h]

/-- A name is no number. -/
theorem readNumber_named {cs name : List Char} {v : Value} (hname : (name, v) ∈ names)
    (h : name.isPrefixOf cs = true) : readNumber cs = stop .noValue cs := by
  obtain ⟨more, rfl⟩ := List.isPrefixOf_iff_prefix.mp h
  simp only [names, List.mem_cons, List.not_mem_nil, or_false, Prod.mk.injEq] at hname
  rcases hname with ⟨rfl, _⟩ | ⟨rfl, _⟩ | ⟨rfl, _⟩ | ⟨rfl, _⟩ | ⟨rfl, _⟩ | ⟨rfl, _⟩ <;> rfl

theorem readScalar_eq_readNumber {cs : List Char} (h : readNumber cs ≠ stop .noValue cs) :
    readScalar cs = (readNumber cs).map fun (n, rest) => (.number n, rest) := by
  unfold readScalar
  split
  · rename_i name v hname
    have hprefix : name.isPrefixOf cs = true := by
      simpa using List.find?_some hname
    exact absurd (readNumber_named (List.mem_of_find?_eq_some hname) hprefix) h
  · cases readNumber cs <;> rfl

theorem readScalar_of_number {cs : List Char} {n : Number} (h : readNumber cs = .ok (n, rest)) :
    readScalar cs = .ok (.number n, rest) := by
  rw [readScalar_eq_readNumber (by rw [h]; nofun), h]
  rfl

theorem readScalar_writeNumber {n : Number} {text : String} (h : writeNumber n = .ok text)
    (hr : endsNumber rest = true) : readScalar (text.toList ++ rest) = .ok (.number n, rest) := by
  cases n with
  | int n => exact readScalar_of_number (readNumber_integer (mapError_eq_ok.mp h) hr)
  | double d =>
    cases d with
    | nan =>
      cases h
      rfl
    | infinite negative =>
      cases negative <;> cases h <;> rfl
    | finite negative m e hc =>
      cases h
      exact readScalar_of_number (readNumber_finite hc hr)

/-- The text of an integer, of any length. -/
theorem toString_signed (n : ℤ) :
    (toString n).toList = signed (n < 0) (Nat.toDigits 10 n.natAbs) := by
  cases n <;> simp [signed, toString, Int.repr, Nat.repr]

variable {cs : List Char} {n : ℤ} {f : NumberFault}

theorem integerText_short (h : (Nat.toDigits 10 n.natAbs).length ≤ maxIntegerDigits) :
    integerText n = .ok (toString n) := by
  have htext := congrArg String.ofList (toString_signed n)
  rw [String.ofList_toList] at htext
  unfold integerText
  dsimp only
  rw [if_neg (Nat.not_lt.mpr h), htext]
  simp only [signed, decide_eq_true_eq]

/-- An integer with too many digits is not read. -/
theorem readNumber_tooLong (h : maxIntegerDigits < (Nat.toDigits 10 n.natAbs).length)
    (hr : endsNumber rest = true) :
    ∃ f, readNumber ((toString n).toList ++ rest) = .error (.number f) := by
  rw [toString_signed, signed_append, readNumber_signed (leads_toDigits _) (endsDigits_of_number hr)]
  simp only [behindWhole, fraction_ended hr, power_ended hr, List.isEmpty_nil, Option.isNone_none,
    Bool.and_self, if_true, List.length_map, if_pos h]
  exact ⟨_, rfl⟩

theorem readScalar_tooLong (h : readNumber cs = .error (.number f)) :
    readScalar cs = .error (.number f) := by
  rw [readScalar_eq_readNumber (by rw [h]; nofun), h]
  rfl

end Storyline.Json
