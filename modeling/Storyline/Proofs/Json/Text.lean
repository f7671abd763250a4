import Mathlib.Tactic.SplitIfs
import Storyline.Json.Read
import Storyline.Json.Write
import Storyline.Proofs.Outcome

namespace Storyline.Json
open Text

variable {rest : List Char} {asciiOnly : Bool}

theorem hexValue?_hexDigit {n : Nat} (h : n < 16) : hexValue? (hexDigit n) = some n := by
  have hall : ∀ n < 16, hexValue? (hexDigit n) = some n := by decide
  exact hall n h

theorem unit?_hexDigits {n : Nat} (hn : n < 0x10000) (hr : rest ≠ []) :
    unit? (hexDigits 4 n ++ rest) = some (n, rest) := by
  have hv (k : Nat) : hexValue? (hexDigit (k % 16)) = some (k % 16) :=
    hexValue?_hexDigit (Nat.mod_lt _ (by decide))
  simp only [hexDigits, List.nil_append, List.cons_append, unit?, List.isEmpty_iff, hr, if_false,
    List.mapM_cons, List.mapM_nil, hv]
  simp [List.foldl]
  omega

theorem unicode_plane {c : Char} (hc : c.toNat < 0x10000) (hr : rest ≠ []) :
    unicode (hexDigits 4 c.toNat ++ rest) = .ok (c, rest) := by
  have hvalid : ¬ (0xD800 ≤ c.toNat ∧ c.toNat < 0xDC00) := by
    rcases c.valid with h | ⟨h, _⟩ <;> unfold Char.toNat <;> omega
  unfold unicode
  rw [unit?_hexDigits hc hr]
  dsimp only
  split
  · rw [if_neg (fun h => hvalid ⟨h.1, h.2.1⟩), Char.ofNat_toNat]
  · rw [Char.ofNat_toNat]

theorem unicode_units {high low : Nat} (hh : 0xD800 ≤ high ∧ high < 0xDC00)
    (hl : 0xDC00 ≤ low ∧ low < 0xE000) (hr : rest ≠ []) :
    unicode (hexDigits 4 high ++ '\\' :: 'u' :: (hexDigits 4 low ++ rest)) =
      .ok (Char.ofNat (0x10000 + (high - 0xD800) * 0x400 + (low - 0xDC00)), rest) := by
  have hlength : 5 ≤ (hexDigits 4 low ++ rest).length := by
    have := List.length_pos_iff.mpr hr
    simp [hexDigits]
    omega
  have hlow : unit? (hexDigits 4 low ++ rest) = some (low, rest) := unit?_hexDigits (by omega) hr
  unfold unicode
  rw [unit?_hexDigits (by omega) (by simp)]
  simp only [hh, hl, hlength, hlow, and_self, if_true]

/-- A character outside the first plane is read from its two units. -/
theorem unicode_pair {c : Char} (hc : 0x10000 ≤ c.toNat) (hr : rest ≠ []) :
    unicode (hexDigits 4 (0xD800 + (c.toNat - 0x10000) / 0x400) ++
      '\\' :: 'u' :: (hexDigits 4 (0xDC00 + (c.toNat - 0x10000) % 0x400) ++ rest)) =
        .ok (c, rest) := by
  have htop : c.toNat < 0x110000 := by
    rcases c.valid with h | ⟨_, h⟩ <;> unfold Char.toNat <;> omega
  have hhigh : 0xD800 ≤ 0xD800 + (c.toNat - 0x10000) / 0x400 ∧
      0xD800 + (c.toNat - 0x10000) / 0x400 < 0xDC00 := by
    omega
  have hlow : 0xDC00 ≤ 0xDC00 + (c.toNat - 0x10000) % 0x400 ∧
      0xDC00 + (c.toNat - 0x10000) % 0x400 < 0xE000 := by
    omega
  have hchar : 0x10000 + (0xD800 + (c.toNat - 0x10000) / 0x400 - 0xD800) * 0x400 +
      (0xDC00 + (c.toNat - 0x10000) % 0x400 - 0xDC00) = c.toNat := by
    omega
  rw [unicode_units hhigh hlow hr, hchar, Char.ofNat_toNat]

theorem unicode_unicodeEscape (c : Char) (hr : rest ≠ []) :
    ∃ units, unicodeEscape c = '\\' :: 'u' :: units ∧ unicode (units ++ rest) = .ok (c, rest) := by
  by_cases hc : c.toNat < 0x10000
  · exact ⟨hexDigits 4 c.toNat, if_pos hc, unicode_plane hc hr⟩
  · have hpair := unicode_pair (Nat.le_of_not_lt hc) hr
    rw [← List.cons_append, ← List.cons_append, ← List.append_assoc] at hpair
    exact ⟨_, if_neg hc, hpair⟩

/-- One character is read from its escaped form, as long as the text goes on. -/
theorem stringBody_writeChar (left fuel : Nat) (read : List Char) (c : Char) (hr : rest ≠ []) :
    stringBody left (fuel + 1) read (writeChar asciiOnly c ++ rest) =
      stringBody left fuel (c :: read) rest := by
  unfold writeChar
  split
  · rename_i h
    rcases Bool.or_eq_true_iff.mp h with h | h <;> rw [eq_of_beq h] <;> rfl
  rename_i hquoted
  -- the short escapes
  iterate 5
    split
    · rename_i h
      rw [eq_of_beq h]
      rfl
  split
  · obtain ⟨units, hunits, hread⟩ := unicode_unicodeEscape c hr
    simp [hunits, stringBody, hread]
  · rename_i hplain
    simp only [Bool.or_eq_true, beq_iff_eq, decide_eq_true_eq, not_or] at hquoted hplain
    simp [stringBody, hquoted, hplain]

theorem stringBody_writeText (left : Nat) (s : List Char) :
    ∀ fuel read, s.length < fuel →
      stringBody left fuel read (s.flatMap (writeChar asciiOnly) ++ '"' :: rest) =
        .ok (String.ofList (read.reverse ++ s), rest) := by
  induction s with
  | nil =>
    intro fuel read h
    obtain ⟨fuel, rfl⟩ := Nat.exists_eq_succ_of_ne_zero (Nat.ne_of_gt h)
    simp [stringBody]
  | cons c s ih =>
    intro fuel read h
    obtain ⟨fuel, rfl⟩ := Nat.exists_eq_succ_of_ne_zero (Nat.ne_of_gt (Nat.zero_lt_of_lt h))
    rw [List.flatMap_cons, List.append_assoc, stringBody_writeChar left fuel read c (by simp),
      ih fuel (c :: read) (by simpa using h)]
    simp

theorem length_flatMap_writeChar (asciiOnly : Bool) (s : List Char) :
    s.length ≤ (s.flatMap (writeChar asciiOnly)).length := by
  induction s with
  | nil => exact Nat.le_refl 0
  | cons c s ih =>
    have hpos : 1 ≤ (writeChar asciiOnly c).length := by
      unfold writeChar unicodeEscape
      split_ifs <;> simp
    rw [List.flatMap_cons, List.length_append, List.length_cons]
    omega

/-- A text is read from behind its opening quote. -/
theorem readText_writeText (s : String) :
    ∃ body, (writeText asciiOnly s).toList ++ rest = '"' :: body ∧
      readText body = .ok (s, rest) := by
  refine ⟨s.toList.flatMap (writeChar asciiOnly) ++ '"' :: rest, by simp [writeText], ?_⟩
  have hlength := length_flatMap_writeChar asciiOnly s.toList
  rw [readText, stringBody_writeText _ _ _ _ (by rw [List.length_append]; omega)]
  simp

end Storyline.Json
