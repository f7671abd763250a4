import Storyline.Number.Reading
import Storyline.Proofs.Rounding

namespace Storyline

theorem toDigits_mul_pow {n : Nat} (hn : 0 < n) (k : Nat) :
    Nat.toDigits 10 (n * 10 ^ k) = Nat.toDigits 10 n ++ List.replicate k '0' := by
  induction k with
  | zero => simp
  | succ k ih =>
    have hstep : n * 10 ^ (k + 1) = 10 * (n * 10 ^ k) := by ring
    have hpos : 0 < n * 10 ^ k := by positivity
    rw [hstep, Nat.toDigits_of_base_le (by decide) (by omega),
      Nat.mul_div_cancel_left _ (by decide), Nat.mul_mod_right, ih, List.append_assoc,
      List.replicate_succ']
    rfl

theorem digitCount_mul_pow {n : Nat} (hn : 0 < n) (k : Nat) :
    digitCount (n * 10 ^ k) = digitCount n + k := by
  simp [digitCount, toDigits_mul_pow hn]

theorem digitCount_le_iff {n k : Nat} (hk : 0 < k) : digitCount n ≤ k ↔ n < 10 ^ k :=
  Nat.length_toDigits_le_iff (by decide) hk

namespace Double
variable {negative : Bool}

/-- Zeros at the end of the digits may as well be counted in the exponent. -/
theorem ofDecimal_scale {n : Nat} (hn : 0 < n) (k : Nat) (x : ℤ) :
    ofDecimal negative ⟨n * 10 ^ k, x⟩ = ofDecimal negative ⟨n, x + k⟩ := by
  have htop : x + (digitCount n + k : Nat) = x + k + digitCount n := by push_cast; ring
  have hratio : ofRatio negative (n * 10 ^ k * 10 ^ x.toNat) (10 ^ (-x).toNat) =
      ofRatio negative (n * 10 ^ (x + k).toNat) (10 ^ (-(x + k)).toNat) := by
    apply ofRatio_congr (by positivity) (by positivity)
    simp only [mul_assoc, ← pow_add]
    congr 2
    omega
  simp only [ofDecimal, Nat.pow_eq, digitCount_mul_pow hn, htop, hratio, hn.ne',
    show n * 10 ^ k ≠ 0 by positivity, if_false]

theorem make_sign {a : Bool} {m m' : Nat} {e e' : ℤ} {h : Canonical m e}
    (hf : make a m' e' = finite a m e h) : make negative m' e' = finite negative m e h := by
  unfold make at hf
  split at hf
  · rename_i hc
    cases hf
    exact dif_pos hc
  · cases hf

/-- The sign has no part in the rounding. -/
theorem ofRatio_sign {a : Bool} {num den m : Nat} {e : ℤ} {h : Canonical m e}
    (hf : ofRatio a num den = finite a m e h) :
    ofRatio negative num den = finite negative m e h := by
  unfold ofRatio at hf ⊢
  split at hf
  · rename_i hn
    rw [if_pos hn]
    cases hf
    rfl
  · rename_i hn
    rw [if_neg hn]
    dsimp only at hf ⊢
    split at hf
    · rename_i hm
      rw [if_pos hm]
      exact make_sign hf
    · rename_i hm
      rw [if_neg hm]
      exact make_sign hf

theorem ofDecimal_sign {a : Bool} {d : Decimal} {m : Nat} {e : ℤ} {h : Canonical m e}
    (hf : ofDecimal a d = finite a m e h) : ofDecimal negative d = finite negative m e h := by
  unfold ofDecimal at hf ⊢
  split at hf
  · rename_i hd
    rw [if_pos hd]
    cases hf
    rfl
  · rename_i hd
    rw [if_neg hd]
    dsimp only at hf ⊢
    split at hf
    · cases hf
    · rename_i hhigh
      rw [if_neg hhigh]
      split at hf
      · rename_i hlow
        rw [if_pos hlow]
        cases hf
        rfl
      · rename_i hlow
        rw [if_neg hlow]
        exact ofRatio_sign hf

theorem two_pow_le_ten_pow {n k : Nat} (h : n ≤ 3 * k) : 2 ^ n ≤ 10 ^ k :=
  calc 2 ^ n ≤ 2 ^ (3 * k) := Nat.pow_le_pow_right (by decide) h
    _ = 8 ^ k := Nat.pow_mul 2 3 k
    _ ≤ 10 ^ k := Nat.pow_le_pow_left (by decide) k

/-- Dividing by a small power of two leaves few zeros behind the point. -/
theorem lt_digitCount_mul_five_pow {m k : Nat} (hm : 0 < m) (hk : k ≤ 3 * 401) :
    k < 401 + digitCount (m * 5 ^ k) := by
  by_contra hcon
  have hpos : 0 < digitCount (m * 5 ^ k) := Nat.length_toDigits_pos
  have hless : m * 5 ^ k < 10 ^ (k - 401) := (digitCount_le_iff (by omega)).mp (by omega)
  have hle : 10 ^ (k - 401) * 10 ^ 401 ≤ m * 5 ^ k * 10 ^ 401 :=
    calc 10 ^ (k - 401) * 10 ^ 401 = 10 ^ k := by rw [← Nat.pow_add]; congr 1; omega
      _ = 5 ^ k * 2 ^ k := Nat.mul_pow 5 2 k
      _ ≤ m * 5 ^ k * 10 ^ 401 :=
        Nat.mul_le_mul (Nat.le_mul_of_pos_left _ hm) (two_pow_le_ten_pow hk)
  exact absurd (Nat.le_of_mul_le_mul_right hle (by positivity)) (by omega)

/-- The first digit of the exact decimal of a double is neither beyond all doubles nor below. -/
theorem exact_place {m : Nat} {e : ℤ} (hm : 0 < m) (h : Canonical m e) :
    min e 0 + digitCount (m * 2 ^ e.toNat * 5 ^ (-e).toNat) ≤ 400 ∧
      -400 ≤ min e 0 + digitCount (m * 2 ^ e.toNat * 5 ^ (-e).toNat) := by
  obtain ⟨hlt, hlow, hhigh, _⟩ := h
  rw [Nat.pow_eq] at hlt
  rcases le_or_gt 0 e with he | he
  · obtain ⟨k, rfl⟩ := Int.eq_ofNat_of_zero_le he
    have hk : digitCount (m * 2 ^ k * 5 ^ 0) ≤ 400 := by
      rw [digitCount_le_iff (by decide)]
      calc m * 2 ^ k * 5 ^ 0 = m * 2 ^ k := by simp
        _ < 2 ^ 53 * 2 ^ k := by gcongr
        _ = 2 ^ (53 + k) := (Nat.pow_add 2 53 k).symm
        _ ≤ 10 ^ 400 := two_pow_le_ten_pow (by omega)
    have hzero : (-(k : ℤ)).toNat = 0 := by omega
    rw [Int.toNat_natCast, hzero]
    omega
  · obtain ⟨k, hk⟩ := Int.eq_ofNat_of_zero_le (show 0 ≤ -e by omega)
    have hzero : e.toNat = 0 := by omega
    rw [hzero, hk, Int.toNat_natCast, pow_zero, mul_one, min_eq_left he.le]
    have hupper : digitCount (m * 5 ^ k) ≤ 18 + k := by
      rw [digitCount_le_iff (by omega)]
      calc m * 5 ^ k < 2 ^ 53 * 5 ^ k := by gcongr
        _ ≤ 10 ^ 18 * 10 ^ k :=
          Nat.mul_le_mul (two_pow_le_ten_pow (by decide)) (Nat.pow_le_pow_left (by decide) k)
        _ = 10 ^ (18 + k) := (Nat.pow_add 10 18 k).symm
    have hlower := lt_digitCount_mul_five_pow hm (show k ≤ 3 * 401 by omega)
    omega

/-- The exact decimal of a double reads back to it. -/
theorem ofDecimal_exact {m : Nat} {e : ℤ} (hm : 0 < m) (h : Canonical m e) :
    ofDecimal negative ⟨m * 2 ^ e.toNat * 5 ^ (-e).toNat, min e 0⟩ = finite negative m e h := by
  obtain ⟨hhigh, hlow⟩ := exact_place hm h
  have hratio : ofRatio negative (m * 2 ^ e.toNat * 5 ^ (-e).toNat * 10 ^ (min e 0).toNat)
      (10 ^ (-min e 0).toNat) = finite negative m e h := by
    rw [← ofRatio_exact hm h]
    apply ofRatio_congr (by positivity) (by positivity)
    have hten : 10 ^ (-e).toNat = 5 ^ (-e).toNat * 2 ^ (-e).toNat := Nat.mul_pow 5 2 _
    rw [show (min e 0).toNat = 0 by omega, show (-min e 0).toNat = (-e).toNat by omega, hten]
    ring
  simp only [ofDecimal, Nat.pow_eq, hratio]
  rw [if_neg (by positivity), if_neg (by omega), if_neg (by omega)]

end Double

namespace Decimal

theorem atPlace?_reads {target : Double} {num den : Nat} {place : ℤ} {d : Decimal}
    (h : atPlace? target num den place = some d) : Double.ofDecimal false d = target := by
  unfold atPlace? at h
  dsimp only at h
  split at h
  · rename_i hbelow habove
    split at h <;> cases h
    · exact eq_of_beq hbelow
    · exact eq_of_beq habove
  · rename_i hbelow _
    cases h
    exact eq_of_beq hbelow
  · rename_i _ habove
    cases h
    exact eq_of_beq habove
  · cases h

theorem search?_reads {target : Double} {num den places : Nat} {place : ℤ} {d : Decimal}
    (h : search? target num den places place = some d) : Double.ofDecimal false d = target := by
  induction places generalizing place with
  | zero => cases h
  | succ places ih =>
    unfold search? at h
    split at h
    · rename_i hd
      cases h
      exact atPlace?_reads hd
    · exact ih h

/-- The shortest decimal of a double reads back to it. -/
theorem ofDecimal_shortest {m : Nat} {e : ℤ} (hm : 0 < m) (h : Canonical m e) (negative : Bool) :
    Double.ofDecimal negative (shortest m e) = .finite negative m e h := by
  have hmake : Double.make false m e = .finite false m e h := dif_pos h
  unfold shortest
  dsimp only
  split
  · rename_i d hd
    exact Double.ofDecimal_sign ((search?_reads hd).trans hmake)
  · exact Double.ofDecimal_exact hm h

theorem shortest_pos {m : Nat} {e : ℤ} (hm : 0 < m) (h : Canonical m e) :
    0 < (shortest m e).digits := by
  apply Nat.pos_of_ne_zero
  intro hzero
  have hread := ofDecimal_shortest hm h false
  rw [Double.ofDecimal, if_pos hzero] at hread
  cases hread
  exact absurd hm (Nat.lt_irrefl 0)

def value (cs : List Char) : Nat := ofDigits (cs.map (·.toNat - 48))

theorem value_eq_ofDigitChars (cs : List Char) : value cs = Nat.ofDigitChars 10 cs 0 := by
  simp [value, ofDigits, Nat.ofDigitChars_eq_foldl, List.foldl_map]

theorem value_toDigits (n : Nat) : value (Nat.toDigits 10 n) = n := by
  rw [value_eq_ofDigitChars, Nat.ofDigitChars_ten_toDigits]

theorem value_append_zeros (cs : List Char) (k : Nat) :
    value (cs ++ List.replicate k '0') = value cs * 10 ^ k := by
  rw [value_eq_ofDigitChars, Nat.ofDigitChars_append, Nat.ofDigitChars_replicate_zero,
    ← value_eq_ofDigitChars, Nat.mul_comm]

theorem value_zeros_append (cs : List Char) (k : Nat) :
    value (List.replicate k '0' ++ cs) = value cs := by
  rw [value_eq_ofDigitChars, Nat.ofDigitChars_append, Nat.ofDigitChars_replicate_zero, Nat.mul_zero,
    ← value_eq_ofDigitChars]

theorem head_toDigits {n : Nat} (hn : 0 < n) : (Nat.toDigits 10 n).head? ≠ some '0' := by
  induction n using Nat.strongRecOn with
  | ind n ih =>
    rcases Nat.lt_or_ge n 10 with hlt | hge
    · have hsmall : ∀ n < 10, 0 < n → [Nat.digitChar n].head? ≠ some '0' := by decide
      rw [Nat.toDigits_of_lt_base hlt]
      exact hsmall n hlt hn
    · have hne : Nat.toDigits 10 (n / 10) ≠ [] := Nat.toDigits_ne_nil
      rw [Nat.toDigits_of_base_le (by decide) hge, List.head?_append_of_ne_nil _ hne]
      exact ih (n / 10) (by omega) (by omega)

theorem isDigit_of_mem_toDigits {n : Nat} {c : Char} (h : c ∈ Nat.toDigits 10 n) :
    c.isDigit = true :=
  Nat.isDigit_of_mem_toDigits (by decide) (by decide) h

/-- The digits are the significant ones and zeros behind them. -/
theorem toDigits_significant (d : Decimal) :
    ∃ k, Nat.toDigits 10 d.digits = d.significant ++ List.replicate k '0' := by
  let digits := Nat.toDigits 10 d.digits
  let zeros := digits.reverse.takeWhile (· == '0')
  have hzeros : zeros = List.replicate zeros.length '0' := by
    refine List.eq_replicate_iff.mpr ⟨rfl, fun c hc => ?_⟩
    exact eq_of_beq (List.all_eq_true.mp List.all_takeWhile c hc)
  refine ⟨zeros.length, ?_⟩
  calc digits = digits.reverse.reverse := digits.reverse_reverse.symm
    _ = (zeros ++ digits.reverse.dropWhile (· == '0')).reverse := by
      rw [List.takeWhile_append_dropWhile]
    _ = d.significant ++ zeros.reverse := List.reverse_append
    _ = d.significant ++ List.replicate zeros.length '0' := by
      rw [hzeros, List.reverse_replicate, List.length_replicate]

theorem digits_significant (d : Decimal) :
    ∃ k, d.digits = value d.significant * 10 ^ k ∧
      digitCount d.digits = d.significant.length + k := by
  obtain ⟨k, hk⟩ := d.toDigits_significant
  refine ⟨k, ?_, ?_⟩
  · rw [← value_append_zeros, ← hk, value_toDigits]
  · rw [digitCount, hk, List.length_append, List.length_replicate]

variable {d : Decimal} {negative : Bool}

theorem significant_ne_nil (hd : 0 < d.digits) : d.significant ≠ [] := by
  obtain ⟨k, hv, _⟩ := d.digits_significant
  intro hnil
  rw [hnil, show value [] = 0 from rfl, Nat.zero_mul] at hv
  exact absurd hv hd.ne'

theorem head_significant (hd : 0 < d.digits) : d.significant.head? ≠ some '0' := by
  obtain ⟨k, hk⟩ := d.toDigits_significant
  rw [← List.head?_append_of_ne_nil _ (significant_ne_nil hd), ← hk]
  exact head_toDigits hd

theorem isDigit_significant {c : Char} (h : c ∈ d.significant) : c.isDigit = true := by
  obtain ⟨k, hk⟩ := d.toDigits_significant
  exact isDigit_of_mem_toDigits (hk ▸ List.mem_append_left _ h)

/-- A decimal is its significant digits, the first of them at its place. -/
theorem ofDecimal_significant (hd : 0 < d.digits) :
    Double.ofDecimal negative d =
      .ofDecimal negative ⟨value d.significant, d.firstPlace + 1 - d.significant.length⟩ := by
  obtain ⟨k, hv, hc⟩ := d.digits_significant
  have hpos : 0 < value d.significant := Nat.pos_of_mul_pos_right (hv ▸ hd)
  have hplace : d.firstPlace + 1 - d.significant.length = d.exponent + k := by
    rw [firstPlace, hc]
    push_cast
    ring
  rw [hplace, ← Double.ofDecimal_scale hpos, ← hv]

end Decimal
end Storyline
