import Mathlib.Algebra.Order.Field.Power
import Mathlib.Data.Int.Log
import Mathlib.Data.Rat.Floor
import Mathlib.Tactic.Positivity
import Mathlib.Tactic.Ring
import Storyline.Number.Decimal

namespace Storyline
namespace Double
variable {num den num' den' : Nat} {negative : Bool}

/-- A power with an integer exponent is a quotient of two with natural ones. -/
theorem zpow_mul_toNat {b : ℚ} (hb : b ≠ 0) (n : ℤ) : b ^ n * b ^ (-n).toNat = b ^ n.toNat := by
  rw [← zpow_natCast, ← zpow_natCast, ← zpow_add₀ hb]
  congr 1
  omega

theorem roundQuotient_scale (num den : Nat) {c : Nat} (hc : 0 < c) :
    roundQuotient (num * c) (den * c) = roundQuotient num den := by
  have hm : 2 * (num % den * c) = 2 * (num % den) * c := (Nat.mul_assoc _ _ _).symm
  simp only [roundQuotient, Nat.mul_div_mul_right _ _ hc, Nat.mul_mod_mul_right, hm,
    Nat.mul_lt_mul_right hc, Nat.mul_right_cancel_iff hc]

theorem roundQuotient_congr (hd : 0 < den) (hd' : 0 < den') (h : num * den' = num' * den) :
    roundQuotient num den = roundQuotient num' den' :=
  calc roundQuotient num den = roundQuotient (num * den') (den * den') :=
      (roundQuotient_scale num den hd').symm
    _ = roundQuotient (num' * den) (den' * den) := by rw [h, Nat.mul_comm den]
    _ = roundQuotient num' den' := roundQuotient_scale num' den' hd

theorem roundQuotient_whole (n : Nat) {c : Nat} (hc : 0 < c) : roundQuotient (n * c) c = n := by
  simp [roundQuotient, hc]

/-- The leading place is the binary logarithm. -/
theorem leadingPlace_eq_log (hn : 0 < num) (hd : 0 < den) :
    leadingPlace num den = Int.log 2 ((num : ℚ) / den) := by
  have hn' : (0 : ℚ) < num := by exact_mod_cast hn
  have hd' : (0 : ℚ) < den := by exact_mod_cast hd
  have hx : (0 : ℚ) < num / den := by positivity
  have htest (g : ℤ) : den * 2 ^ g.toNat ≤ num * 2 ^ (-g).toNat ↔
      g ≤ Int.log 2 ((num : ℚ) / den) := by
    have hpos : (0 : ℚ) < 2 ^ (-g).toNat := by positivity
    rw [← Int.zpow_le_iff_le_log (by norm_num) hx, le_div_iff₀ hd', ← Nat.cast_le (α := ℚ)]
    push_cast
    rw [← zpow_mul_toNat two_ne_zero g, ← mul_assoc, mul_le_mul_iff_left₀ hpos, mul_comm]
  -- the logarithms of the two give it up to one
  have hlow : (Nat.log2 num : ℤ) - Nat.log2 den - 1 ≤ Int.log 2 ((num : ℚ) / den) := by
    rw [← Int.zpow_le_iff_le_log (by norm_num) hx, le_div_iff₀ hd']
    have hnum : (2 : ℚ) ^ Nat.log2 num ≤ num := by exact_mod_cast Nat.log2_self_le hn.ne'
    have hden : (den : ℚ) ≤ 2 ^ (Nat.log2 den + 1) := by exact_mod_cast Nat.lt_log2_self.le
    calc (2 : ℚ) ^ ((Nat.log2 num : ℤ) - Nat.log2 den - 1) * den
        ≤ 2 ^ ((Nat.log2 num : ℤ) - Nat.log2 den - 1) * 2 ^ (Nat.log2 den + 1) := by gcongr
      _ = 2 ^ Nat.log2 num := by
        rw [← zpow_natCast, ← zpow_natCast, ← zpow_add₀ two_ne_zero]
        congr 1
        push_cast
        ring
      _ ≤ num := hnum
  have hhigh : Int.log 2 ((num : ℚ) / den) < (Nat.log2 num : ℤ) - Nat.log2 den + 1 := by
    rw [← Int.lt_zpow_iff_log_lt (by norm_num) hx, div_lt_iff₀ hd']
    have hnum : (num : ℚ) < 2 ^ (Nat.log2 num + 1) := by exact_mod_cast Nat.lt_log2_self
    have hden : (2 : ℚ) ^ Nat.log2 den ≤ den := by exact_mod_cast Nat.log2_self_le hd.ne'
    calc (num : ℚ) < 2 ^ (Nat.log2 num + 1) := hnum
      _ = 2 ^ ((Nat.log2 num : ℤ) - Nat.log2 den + 1) * 2 ^ Nat.log2 den := by
        rw [← zpow_natCast, ← zpow_natCast, ← zpow_add₀ two_ne_zero]
        congr 1
        push_cast
        ring
      _ ≤ 2 ^ ((Nat.log2 num : ℤ) - Nat.log2 den + 1) * den := by gcongr
  simp only [leadingPlace, Nat.pow_eq, htest]
  split <;> omega

/-- Rounding depends on the rational number only. -/
theorem ofRatio_congr (hd : 0 < den) (hd' : 0 < den') (h : num * den' = num' * den) :
    ofRatio negative num den = ofRatio negative num' den' := by
  have hzero : num = 0 ↔ num' = 0 := by
    constructor
    · rintro rfl
      rw [Nat.zero_mul] at h
      exact (Nat.mul_eq_zero.mp h.symm).resolve_right hd.ne'
    · rintro rfl
      rw [Nat.zero_mul] at h
      exact (Nat.mul_eq_zero.mp h).resolve_right hd'.ne'
  by_cases hn : num = 0
  · simp [ofRatio, hn, hzero.mp hn]
  · have hn' : num' ≠ 0 := fun h' => hn (hzero.mpr h')
    have hq : (num : ℚ) / den = num' / den' := by
      rw [div_eq_div_iff (by exact_mod_cast hd.ne') (by exact_mod_cast hd'.ne')]
      exact_mod_cast h
    have hplace : leadingPlace num den = leadingPlace num' den' := by
      rw [leadingPlace_eq_log (Nat.pos_of_ne_zero hn) hd,
        leadingPlace_eq_log (Nat.pos_of_ne_zero hn') hd', hq]
    have hround (a b : Nat) (hb : 0 < b) :
        roundQuotient (num * a) (den * b) = roundQuotient (num' * a) (den' * b) := by
      apply roundQuotient_congr (Nat.mul_pos hd hb) (Nat.mul_pos hd' hb)
      rw [Nat.mul_mul_mul_comm, h, Nat.mul_mul_mul_comm]
    simp only [ofRatio, hn, hn', if_false, hplace, Nat.pow_eq,
      hround _ _ (Nat.two_pow_pos _)]

theorem log_dyadic {m : Nat} (hm : 0 < m) (e : ℤ) :
    Int.log 2 (((m * 2 ^ e.toNat : Nat) : ℚ) / (2 ^ (-e).toNat : Nat)) = Nat.log2 m + e := by
  have hm' : (0 : ℚ) < m := by exact_mod_cast hm
  have hx : (0 : ℚ) < m * 2 ^ e := by positivity
  have hq : ((m * 2 ^ e.toNat : Nat) : ℚ) / (2 ^ (-e).toNat : Nat) = m * 2 ^ e := by
    rw [div_eq_iff (by positivity)]
    push_cast
    rw [mul_assoc, zpow_mul_toNat two_ne_zero]
  rw [hq]
  apply le_antisymm
  · rw [← Int.lt_add_one_iff, ← Int.lt_zpow_iff_log_lt (by norm_num) hx,
      show (Nat.log2 m + e + 1 : ℤ) = (Nat.log2 m + 1 : Nat) + e by push_cast; ring,
      Nat.cast_ofNat, zpow_add₀ two_ne_zero, zpow_natCast]
    have hlt : (m : ℚ) < 2 ^ (Nat.log2 m + 1) := by exact_mod_cast Nat.lt_log2_self
    gcongr
  · rw [← Int.zpow_le_iff_le_log (by norm_num) hx, Nat.cast_ofNat, zpow_add₀ two_ne_zero,
      zpow_natCast]
    have hle : (2 : ℚ) ^ Nat.log2 m ≤ m := by exact_mod_cast Nat.log2_self_le hm.ne'
    gcongr

/-- A number that has a double is rounded to it. -/
theorem ofRatio_exact {m : Nat} {e : ℤ} (hm : 0 < m) (h : Canonical m e) :
    ofRatio negative (m * 2 ^ e.toNat) (2 ^ (-e).toNat) = finite negative m e h := by
  obtain ⟨hlt, hlow, hhigh, hlead⟩ := h
  rw [Nat.pow_eq] at hlt hlead
  have hplace : max (leadingPlace (m * 2 ^ e.toNat) (2 ^ (-e).toNat) - 52) (-1074) = e := by
    rw [leadingPlace_eq_log (by positivity) (by positivity), log_dyadic hm]
    have hlog : Nat.log2 m < 53 := (Nat.log2_lt hm.ne').mpr hlt
    rcases hlead with hlead | rfl
    · have := (Nat.le_log2 hm.ne').mpr hlead
      omega
    · omega
  have hround : roundQuotient (m * 2 ^ e.toNat * 2 ^ (-e).toNat) (2 ^ (-e).toNat * 2 ^ e.toNat) =
      m := by
    rw [Nat.mul_assoc, Nat.mul_comm (2 ^ (-e).toNat)]
    exact roundQuotient_whole m (by positivity)
  simp only [ofRatio, hplace, Nat.pow_eq, hround, hlt.ne, if_false, make]
  rw [if_neg (by positivity), dif_pos ⟨hlt, hlow, hhigh, hlead⟩]

end Double
end Storyline
