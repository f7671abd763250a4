import Mathlib.Data.EReal.Operations
import Mathlib.Tactic.Linarith
import Storyline.Proofs.Rounding
import Storyline.Time.Iso

namespace Storyline

noncomputable def Dyadic.value (d : Dyadic) : ℝ := d.numerator * 2 ^ d.exponent

theorem Dyadic.value_at (d : Dyadic) {low : ℤ} (h : low ≤ d.exponent) :
    d.value = d.numeratorAt low * 2 ^ low := by
  have hsplit : (2 : ℝ) ^ d.exponent = 2 ^ (d.exponent - low).toNat * 2 ^ low := by
    rw [← zpow_natCast, ← zpow_add₀ two_ne_zero]
    congr 1
    omega
  rw [value, numeratorAt, hsplit, Nat.pow_eq, ← mul_assoc]
  push_cast
  rfl

theorem Dyadic.order_eq (a b : Dyadic) : a.order b = compare a.value b.value := by
  have hpos : (0 : ℝ) < 2 ^ min a.exponent b.exponent := by positivity
  rw [a.value_at (min_le_left a.exponent b.exponent), b.value_at (min_le_right _ _), order]
  generalize a.numeratorAt _ = n
  generalize b.numeratorAt _ = m
  rcases lt_trichotomy n m with h | rfl | h
  · have hvalue : (n : ℝ) * 2 ^ min a.exponent b.exponent < m * 2 ^ min a.exponent b.exponent := by
      gcongr
    rw [compare_lt_iff_lt.mpr h, compare_lt_iff_lt.mpr hvalue]
  · rw [compare_eq_iff_eq.mpr rfl, compare_eq_iff_eq.mpr rfl]
  · have hvalue : (m : ℝ) * 2 ^ min a.exponent b.exponent < n * 2 ^ min a.exponent b.exponent := by
      gcongr
    rw [compare_gt_iff_gt.mpr h, compare_gt_iff_gt.mpr hvalue]

namespace Rank

noncomputable def place : Rank → EReal
  | least => ⊥
  | .at d => d.value
  | greatest => ⊤

theorem order_eq_lt (a b : Rank) : a.order b = .lt ↔ a.place < b.place := by
  cases a <;> cases b <;> simp [order, place, Dyadic.order_eq, compare_lt_iff_lt]

theorem order_eq_eq (a b : Rank) : a.order b = .eq ↔ a.place = b.place := by
  cases a <;> cases b <;> simp [order, place, Dyadic.order_eq]

end Rank

namespace Number

noncomputable def place? (n : Number) : Option EReal := n.rank?.map Rank.place

theorem less_iff {a b : Number} :
    a.less b = true ↔ ∃ x y, a.place? = some x ∧ b.place? = some y ∧ x < y := by
  unfold less order? place?
  cases a.rank? <;> cases b.rank? <;> simp [Rank.order_eq_lt]

theorem same_iff {a b : Number} :
    a.same b = true ↔ ∃ x, a.place? = some x ∧ b.place? = some x := by
  unfold same order? place?
  cases a.rank? with
  | none => simp
  | some x =>
    cases b.rank? with
    | none => simp
    | some y => simp [Rank.order_eq_eq, eq_comm (a := y.place)]

theorem place?_eq_none {n : Number} : n.place? = none ↔ n = .double .nan := by
  cases n with
  | int n => simp [place?, rank?]
  | double d =>
    cases d with
    | nan => simp [place?, rank?]
    | infinite negative => cases negative <;> simp [place?, rank?]
    | finite => simp [place?, rank?]

theorem same_comm (a b : Number) : a.same b = b.same a := by
  rw [Bool.eq_iff_iff, same_iff, same_iff]
  simp only [and_comm]

/-- Only NaN is not equal to itself. -/
theorem same_self {n : Number} : n.same n = true ↔ n ≠ .double .nan := by
  rw [same_iff, ne_eq, ← place?_eq_none, ← ne_eq, Option.ne_none_iff_exists']
  simp only [and_self]

theorem isZero_iff {n : Number} : n.isZero = true ↔ n.place? = some 0 := by
  cases n with
  | int n => simp [isZero, place?, rank?, Rank.place, Dyadic.value]
  | double d =>
    cases d with
    | nan => simp [isZero, Double.isZero, place?, rank?]
    | infinite negative =>
      cases negative <;> simp [isZero, Double.isZero, place?, rank?, Rank.place]
    | finite negative m e h =>
      have hpow : (2 : ℝ) ^ e ≠ 0 := by positivity
      cases negative <;>
        simp [isZero, Double.isZero, place?, rank?, Rank.place, Dyadic.value, hpow]

end Number

namespace Double
variable {num den num' den' : Nat}

noncomputable def place? (d : Double) : Option EReal := (Number.double d).place?

theorem roundQuotient_mono {n n' : Nat} (d : Nat) (h : n ≤ n') :
    roundQuotient n d ≤ roundQuotient n' d := by
  have hquotient : n / d ≤ n' / d := Nat.div_le_div_right h
  have hn := Nat.div_add_mod n d
  have hn' := Nat.div_add_mod n' d
  simp only [roundQuotient]
  rcases Nat.lt_or_eq_of_le hquotient with hlt | heq
  · split <;> split <;> omega
  · rw [heq] at hn ⊢
    split <;> split <;> omega

theorem roundQuotient_le {n d k : Nat} (hd : 0 < d) (h : n ≤ k * d) : roundQuotient n d ≤ k :=
  (roundQuotient_mono d h).trans (roundQuotient_whole k hd).le

theorem le_roundQuotient {n d k : Nat} (hd : 0 < d) (h : k * d ≤ n) : k ≤ roundQuotient n d :=
  (roundQuotient_whole k hd).ge.trans (roundQuotient_mono d h)

def exponentFor (num den : Nat) : ℤ := max (leadingPlace num den - 52) (-1074)

/-- The mantissa that goes with it. The largest of them, 2 ^ 53, is one place too long. -/
def mantissaFor (num den : Nat) : Nat :=
  roundQuotient (num * 2 ^ (-exponentFor num den).toNat) (den * 2 ^ (exponentFor num den).toNat)

/-- A quotient to the precision of doubles, but without a bound. -/
noncomputable def rounded (num den : Nat) : ℝ := mantissaFor num den * 2 ^ exponentFor num den

theorem exponentFor_mono (hn : 0 < num) (hd : 0 < den) (hd' : 0 < den')
    (h : num * den' ≤ num' * den) : exponentFor num den ≤ exponentFor num' den' := by
  have hn' : 0 < num' := by
    rcases Nat.eq_zero_or_pos num' with rfl | hpos
    · have := Nat.mul_pos hn hd'
      omega
    · exact hpos
  have hq : (num : ℚ) / den ≤ num' / den' := by
    rw [div_le_div_iff₀ (by exact_mod_cast hd) (by exact_mod_cast hd')]
    exact_mod_cast h
  have hlog : Int.log 2 ((num : ℚ) / den) ≤ Int.log 2 ((num' : ℚ) / den') :=
    Int.log_mono_right (by positivity) hq
  rw [exponentFor, exponentFor, leadingPlace_eq_log hn hd, leadingPlace_eq_log hn' hd']
  omega

/-- A comparison with a power of two, without fractions. -/
theorem pow_le_iff (hd : 0 < den) (k : Nat) (e : ℤ) : (2 : ℚ) ^ (k + e) ≤ num / den ↔
    2 ^ k * (den * 2 ^ e.toNat) ≤ num * 2 ^ (-e).toNat := by
  have hd' : (0 : ℚ) < den := by exact_mod_cast hd
  have hpos : (0 : ℚ) < 2 ^ (-e).toNat := by positivity
  rw [le_div_iff₀ hd', ← Nat.cast_le (α := ℚ), zpow_add₀ two_ne_zero, zpow_natCast]
  push_cast
  rw [← zpow_mul_toNat two_ne_zero e, ← mul_le_mul_iff_left₀ hpos]
  ring_nf

theorem mantissaFor_le (hn : 0 < num) (hd : 0 < den) : mantissaFor num den ≤ 2 ^ 53 := by
  apply roundQuotient_le (by positivity)
  by_contra hlt
  have hx : (0 : ℚ) < num / den := by positivity
  have hlarge := (pow_le_iff hd 53 _).mpr (Nat.lt_of_not_le hlt).le
  have hplace : (53 : ℕ) + exponentFor num den ≤ leadingPlace num den := by
    rw [leadingPlace_eq_log hn hd]
    exact (Int.zpow_le_iff_le_log (by decide) hx).mp (by exact_mod_cast hlarge)
  have : leadingPlace num den - 52 ≤ exponentFor num den := le_max_left _ _
  omega

theorem le_mantissaFor (hn : 0 < num) (hd : 0 < den) (he : -1074 < exponentFor num den) :
    2 ^ 52 ≤ mantissaFor num den := by
  apply le_roundQuotient (by positivity)
  have hx : (0 : ℚ) < num / den := by positivity
  apply (pow_le_iff hd 52 _).mp
  have hplace : (52 : ℕ) + exponentFor num den ≤ Int.log 2 ((num : ℚ) / den) := by
    rw [← leadingPlace_eq_log hn hd]
    unfold exponentFor at he ⊢
    omega
  exact_mod_cast (Int.zpow_le_iff_le_log (by decide) hx).mpr hplace

theorem rounded_nonneg (num den : Nat) : 0 ≤ rounded num den := by
  unfold rounded
  positivity

theorem rounded_zero (den : Nat) : rounded 0 den = 0 := by
  simp [rounded, mantissaFor, roundQuotient]

/-- Rounding keeps the order: in one binade it is the order of the mantissas, and a higher binade
starts where a lower one ends. -/
theorem rounded_mono (hd : 0 < den) (hd' : 0 < den') (h : num * den' ≤ num' * den) :
    rounded num den ≤ rounded num' den' := by
  rcases Nat.eq_zero_or_pos num with rfl | hn
  · rw [rounded_zero]
    exact rounded_nonneg _ _
  have hn' : 0 < num' := by
    rcases Nat.eq_zero_or_pos num' with rfl | hpos
    · have := Nat.mul_pos hn hd'
      omega
    · exact hpos
  rcases (exponentFor_mono hn hd hd' h).eq_or_lt with heq | hlt
  · unfold rounded
    rw [heq]
    gcongr
    unfold mantissaFor
    rw [heq]
    generalize (exponentFor num' den').toNat = a
    generalize (-exponentFor num' den').toNat = b
    rw [← roundQuotient_scale (num * _) _ hd', ← roundQuotient_scale (num' * _) _ hd]
    rw [show den' * 2 ^ a * den = den * 2 ^ a * den' by ring]
    apply roundQuotient_mono
    calc num * 2 ^ b * den' = num * den' * 2 ^ b := by ring
      _ ≤ num' * den * 2 ^ b := Nat.mul_le_mul_right _ h
      _ = num' * 2 ^ b * den := by ring
  · have hlow : -1074 ≤ exponentFor num den := le_max_right _ _
    have hm : (mantissaFor num den : ℝ) ≤ 2 ^ 53 := by exact_mod_cast mantissaFor_le hn hd
    have hm' : (2 : ℝ) ^ 52 ≤ mantissaFor num' den' := by
      exact_mod_cast le_mantissaFor hn' hd' (by omega)
    calc rounded num den ≤ 2 ^ 53 * 2 ^ exponentFor num den := by unfold rounded; gcongr
      _ = 2 ^ 52 * 2 ^ (exponentFor num den + 1) := by
        rw [zpow_add₀ two_ne_zero]
        ring
      _ ≤ 2 ^ 52 * 2 ^ exponentFor num' den' := by
        gcongr
        · norm_num
        · omega
      _ ≤ rounded num' den' := by unfold rounded; gcongr

noncomputable def capped (x : ℝ) : EReal := if 2 ^ (1024 : ℤ) ≤ x then ⊤ else x

theorem capped_mono {x y : ℝ} (h : x ≤ y) : capped x ≤ capped y := by
  unfold capped
  split
  · rw [if_pos (by linarith)]
  · split
    · exact le_top
    · exact_mod_cast h

theorem capped_zero : capped 0 = 0 := by
  have hpos : (0 : ℝ) < 2 ^ (1024 : ℤ) := by positivity
  rw [capped, if_neg hpos.not_ge, EReal.coe_zero]

theorem capped_nonneg {x : ℝ} (h : 0 ≤ x) : 0 ≤ capped x := capped_zero ▸ capped_mono h

noncomputable def signed (negative : Bool) (x : EReal) : EReal := if negative then -x else x

theorem place?_finite {negative : Bool} {m : Nat} {e : ℤ} (h : Canonical m e) :
    (finite negative m e h).place? = some (signed negative ((m : ℝ) * 2 ^ e : ℝ)) := by
  cases negative <;> simp [place?, Number.place?, Number.rank?, Rank.place, Dyadic.value, signed]

theorem place?_infinite (negative : Bool) :
    (infinite negative).place? = some (signed negative ⊤) := by
  cases negative <;> rfl

theorem place?_make {negative : Bool} {m : Nat} {e : ℤ} (hm : m < 2 ^ 53) (he : -1074 ≤ e)
    (hlead : 2 ^ 52 ≤ m ∨ e = -1074) :
    (make negative m e).place? = some (signed negative (capped (m * 2 ^ e))) := by
  have hm' : (m : ℝ) < 2 ^ 53 := by exact_mod_cast hm
  unfold make capped
  split
  · rename_i hc
    rw [place?_finite, if_neg]
    rw [not_le]
    calc (m : ℝ) * 2 ^ e < 2 ^ 53 * 2 ^ e := by gcongr
      _ ≤ 2 ^ 53 * 2 ^ (971 : ℤ) := by
        gcongr
        · norm_num
        · exact hc.2.2.1
      _ = 2 ^ (1024 : ℤ) := by rw [← zpow_natCast, ← zpow_add₀ two_ne_zero]; rfl
  · rename_i hc
    have hhigh : 972 ≤ e := by
      by_contra hlow
      exact hc ⟨hm, he, by omega, hlead⟩
    have hlead' : (2 : ℝ) ^ 52 ≤ m := by exact_mod_cast hlead.resolve_right (by omega)
    rw [place?_infinite, if_pos]
    calc (2 : ℝ) ^ (1024 : ℤ) = 2 ^ 52 * 2 ^ (972 : ℤ) := by
          rw [← zpow_natCast, ← zpow_add₀ two_ne_zero]; rfl
      _ ≤ m * 2 ^ e := by
        gcongr
        norm_num

/-- A quotient is rounded to the precision of doubles, and then to infinity if it is beyond them. -/
theorem place?_ofRatio (negative : Bool) (num : Nat) {den : Nat} (hd : 0 < den) :
    (ofRatio negative num den).place? = some (signed negative (capped (rounded num den))) := by
  rcases Nat.eq_zero_or_pos num with rfl | hn
  · rw [rounded_zero, ofRatio, if_pos rfl, zero, place?_finite, capped_zero]
    simp
  have hlow : -1074 ≤ exponentFor num den := le_max_right _ _
  have hunfold : ofRatio negative num den = if mantissaFor num den = 2 ^ 53
      then make negative (2 ^ 52) (exponentFor num den + 1)
      else make negative (mantissaFor num den) (exponentFor num den) := by
    rw [ofRatio, if_neg hn.ne']
    rfl
  rw [hunfold, rounded]
  split
  · rename_i hm
    rw [place?_make (by decide) (by omega) (.inl le_rfl), hm, zpow_add₀ two_ne_zero]
    congr 3
    push_cast
    ring
  · rename_i hm
    have hle := mantissaFor_le hn hd
    have hlead : 2 ^ 52 ≤ mantissaFor num den ∨ exponentFor num den = -1074 := by
      rcases hlow.eq_or_lt with heq | hlt
      · exact .inr heq.symm
      · exact .inl (le_mantissaFor hn hd hlt)
    exact place?_make (by omega) hlow hlead

noncomputable def nearest (num : ℤ) (den : Nat) : EReal :=
  signed (num < 0) (capped (rounded num.natAbs den))

theorem nearest_mono {num num' : ℤ} (hd : 0 < den) (hd' : 0 < den')
    (h : num * den' ≤ num' * den) : nearest num den ≤ nearest num' den' := by
  have hnonneg : ∀ n d, 0 ≤ capped (rounded n d) := fun n d => capped_nonneg (rounded_nonneg n d)
  unfold nearest
  rcases lt_or_ge num 0 with hn | hn <;> rcases lt_or_ge num' 0 with hn' | hn'
  · simp only [signed, hn, hn', decide_true, if_true, EReal.neg_le_neg_iff]
    apply capped_mono
    apply rounded_mono hd' hd
    zify
    rw [abs_of_neg hn, abs_of_neg hn']
    linarith
  · simp only [signed, hn, hn'.not_gt, decide_true, decide_false, if_true, Bool.false_eq_true,
      if_false]
    exact (EReal.neg_le_zero.mpr (hnonneg _ _)).trans (hnonneg _ _)
  · exfalso
    have : 0 ≤ num * den' := by positivity
    have : num' * den < 0 := mul_neg_of_neg_of_pos hn' (by exact_mod_cast hd)
    omega
  · simp only [signed, hn.not_gt, hn'.not_gt, decide_false, Bool.false_eq_true, if_false]
    apply capped_mono
    apply rounded_mono hd hd'
    zify
    rwa [abs_of_nonneg hn, abs_of_nonneg hn']

theorem place?_ofDyadic (d : Dyadic) (zeroNegative : Bool) :
    (ofDyadic d zeroNegative).place? = some (nearest d.ratio.1 d.ratio.2) := by
  have hd : 0 < d.ratio.2 := Nat.two_pow_pos _
  unfold ofDyadic nearest
  dsimp only
  split
  · rename_i hn
    rw [hn, Int.natAbs_zero, rounded_zero, zero, place?_finite, capped_zero]
    simp [signed]
  · exact place?_ofRatio _ _ hd

theorem Dyadic.value_ratio (d : Dyadic) : (d.ratio.1 : ℝ) = d.value * d.ratio.2 := by
  have hsplit : (2 : ℝ) ^ d.exponent * 2 ^ (-d.exponent).toNat = 2 ^ d.exponent.toNat := by
    rw [← zpow_natCast, ← zpow_natCast, ← zpow_add₀ two_ne_zero]
    congr 1
    omega
  simp only [Dyadic.ratio, Dyadic.value, Nat.pow_eq]
  push_cast
  rw [mul_assoc, hsplit]

/-- Dyadic numbers are rounded in their order. -/
theorem nearest_ratio_mono {a b : Dyadic} (h : a.value ≤ b.value) :
    nearest a.ratio.1 a.ratio.2 ≤ nearest b.ratio.1 b.ratio.2 := by
  have ha : 0 < a.ratio.2 := Nat.two_pow_pos _
  have hb : 0 < b.ratio.2 := Nat.two_pow_pos _
  apply nearest_mono ha hb
  rw [← Int.cast_le (R := ℝ)]
  push_cast
  rw [Dyadic.value_ratio, Dyadic.value_ratio, mul_right_comm, mul_right_comm b.value]
  have : (0 : ℝ) ≤ a.ratio.2 := by positivity
  have : (0 : ℝ) ≤ b.ratio.2 := by positivity
  rw [mul_assoc, mul_assoc b.value, mul_comm (a.ratio.2 : ℝ)]
  gcongr

theorem Dyadic.value_add (a b : Dyadic) : (a.add b).value = a.value + b.value := by
  have ha : min a.exponent b.exponent ≤ a.exponent := min_le_left _ _
  have hb : min a.exponent b.exponent ≤ b.exponent := min_le_right _ _
  rw [a.value_at ha, b.value_at hb, ← add_mul, Dyadic.value, Dyadic.add]
  push_cast
  rfl

/-- A double is itself the nearest one. -/
theorem ofDyadic_own {negative : Bool} {m : Nat} {e : ℤ} (h : Canonical m e) :
    ofDyadic ⟨if negative then -(m : Int) else m, e⟩ negative = finite negative m e h := by
  rcases Nat.eq_zero_or_pos m with rfl | hm
  · obtain rfl : e = -1074 := h.2.2.2.resolve_left (by decide)
    cases negative <;> rfl
  · have hpos : 0 < m * 2 ^ e.toNat := by positivity
    rw [← ofRatio_exact hm h]
    cases negative with
    | false =>
      have hnum : (m : ℤ) * (2 ^ e.toNat : Nat) = (m * 2 ^ e.toNat : Nat) := by push_cast; rfl
      simp only [ofDyadic, Dyadic.ratio, Nat.pow_eq, Bool.false_eq_true, if_false, hnum]
      rw [if_neg (by omega), Int.natAbs_natCast, decide_eq_false (by omega)]
    | true =>
      have hnum : -(m : ℤ) * (2 ^ e.toNat : Nat) = -(m * 2 ^ e.toNat : Nat) := by push_cast; ring
      simp only [ofDyadic, Dyadic.ratio, Nat.pow_eq, if_true, hnum]
      rw [if_neg (by omega), Int.natAbs_neg, Int.natAbs_natCast, decide_eq_true (by omega)]

theorem finite_of_place? {d : Double} {x : ℝ} (h : d.place? = some (x : EReal)) :
    ∃ negative m e hc, d = finite negative m e hc ∧
      x = Dyadic.value ⟨if negative then -(m : Int) else m, e⟩ := by
  cases d with
  | nan => cases h
  | infinite negative => cases negative <;> cases h
  | finite negative m e hc =>
    have hx : some ((Dyadic.value ⟨if negative then -(m : Int) else m, e⟩ : ℝ) : EReal) =
        some ↑x := h
    exact ⟨negative, m, e, hc, rfl, (EReal.coe_injective (Option.some.inj hx)).symm⟩

/-- The difference of two finite doubles is the exact one, rounded. -/
theorem place?_sub {t s : Double} {x y : ℝ} (ht : t.place? = some (x : EReal))
    (hs : s.place? = some (y : EReal)) : ∃ d : Dyadic, d.value = x - y ∧
      (t.sub s).place? = some (nearest d.ratio.1 d.ratio.2) := by
  obtain ⟨negative, m, e, _, rfl, rfl⟩ := finite_of_place? ht
  obtain ⟨negative', m', e', _, rfl, rfl⟩ := finite_of_place? hs
  refine ⟨_, ?_, place?_ofDyadic _ _⟩
  rw [Dyadic.value_add, sub_eq_add_neg]
  congr 1
  cases negative' <;> simp [Dyadic.value]

/-- A difference that is a double is exact. -/
theorem place?_sub_exact {t s u : Double} {x y : ℝ} (ht : t.place? = some (x : EReal))
    (hs : s.place? = some (y : EReal)) (hu : u.place? = some ((x - y : ℝ) : EReal)) :
    (t.sub s).place? = u.place? := by
  obtain ⟨d, hd, hplace⟩ := place?_sub ht hs
  obtain ⟨negative, m, e, hc, rfl, hvalue⟩ := finite_of_place? hu
  rw [hplace, ← ofDyadic_own hc, place?_ofDyadic]
  congr 1
  have hsame := hd.trans hvalue
  exact le_antisymm (nearest_ratio_mono hsame.le) (nearest_ratio_mono hsame.ge)

/-- A reading that is within a limit after an earlier one is at a finite distance from it. -/
theorem finite_of_sub_less {t s : Double} {limit : Number} {x z : EReal} (hs : s.place? = some x)
    (ht : t.place? = some z) (hxz : x ≤ z) (h : (Number.double (t.sub s)).less limit = true) :
    ∃ x' z' : ℝ, x = x' ∧ z = z' := by
  have hlimit : (Number.double (infinite false)).less limit ≠ true := by
    rw [ne_eq, Number.less_iff]
    rintro ⟨_, _, htop, _, hlt⟩
    cases htop
    exact not_top_lt hlt
  cases s with
  | nan => cases hs
  | infinite negative =>
    cases negative with
    | false =>
      cases hs
      obtain rfl := top_le_iff.mp hxz
      cases t with
      | nan => cases ht
      | infinite negative => cases negative <;> cases ht; cases h
      | finite => cases ht
    | true =>
      cases t with
      | nan => cases ht
      | infinite negative =>
        cases negative with
        | false => exact absurd h hlimit
        | true => cases h
      | finite => exact absurd h hlimit
  | finite =>
    cases hs
    cases t with
    | nan => cases ht
    | infinite negative =>
      cases negative with
      | false => exact absurd h hlimit
      | true =>
        cases ht
        exact absurd hxz (EReal.bot_lt_coe _).not_ge
    | finite =>
      cases ht
      exact ⟨_, _, rfl, rfl⟩

/-- Of two readings before a third one the later is the nearer to it, also as the differences are
rounded. -/
theorem sub_less_of_le {t a b : Double} {limit : Number} {x y z : EReal} (ha : a.place? = some x)
    (hb : b.place? = some y) (ht : t.place? = some z) (hxy : x ≤ y) (hyz : y ≤ z)
    (h : (Number.double (t.sub a)).less limit = true) :
    (Number.double (t.sub b)).less limit = true := by
  obtain ⟨x, z, rfl, rfl⟩ := finite_of_sub_less ha ht (hxy.trans hyz) h
  lift y to ℝ using ⟨ne_top_of_le_ne_top (EReal.coe_ne_top z) hyz,
    ne_bot_of_le_ne_bot (EReal.coe_ne_bot x) hxy⟩
  obtain ⟨d, hd, hplace⟩ := place?_sub ht ha
  obtain ⟨d', hd', hplace'⟩ := place?_sub ht hb
  have hle : d'.value ≤ d.value := by
    rw [hd, hd']
    have : x ≤ y := by exact_mod_cast hxy
    linarith
  obtain ⟨u, l, hu, hl, hlt⟩ := Number.less_iff.mp h
  rw [show (Number.double (t.sub a)).place? = some _ from hplace] at hu
  obtain rfl := Option.some.inj hu
  exact Number.less_iff.mpr ⟨_, l, hplace', hl, (nearest_ratio_mono hle).trans_lt hlt⟩

end Double

namespace Time
open Double

theorem ofRatio_infinite {negative sign : Bool} {num den : Nat}
    (h : ofRatio negative num den = .infinite sign) : sign = negative := by
  simp only [ofRatio, zero, make] at h
  split at h
  · cases h
  split at h <;> split at h <;> cases h
  · rfl
  · rfl

/-- The readings of a clock are its times in seconds, rounded. -/
theorem place?_seconds (ms : ℤ) : (seconds ms).place? = some (nearest ms 1000) := by
  have hsign : (decide (ms < 0) != decide ((1000 : ℤ) < 0)) = decide (ms < 0) := by simp
  have hseconds : seconds ms = ofRatio (ms < 0) ms.natAbs 1000 := by
    simp only [seconds, Number.quotient, hsign]
    split
    · rename_i sign hratio
      rw [ofRatio_infinite hratio] at hratio
      exact hratio.symm
    · rfl
  rw [hseconds]
  exact place?_ofRatio _ _ (by decide)

theorem seconds_less_of_le {t a b : ℤ} {limit : Number} (hab : a ≤ b) (hbt : b ≤ t)
    (h : (Number.double ((seconds t).sub (seconds a))).less limit = true) :
    (Number.double ((seconds t).sub (seconds b))).less limit = true := by
  have hmono : ∀ {x y : ℤ}, x ≤ y → nearest x 1000 ≤ nearest y 1000 := fun hxy =>
    nearest_mono (by decide) (by decide) (Int.mul_le_mul_of_nonneg_right hxy (by decide))
  exact sub_less_of_le (place?_seconds a) (place?_seconds b) (place?_seconds t) (hmono hab)
    (hmono hbt) h

end Time
end Storyline
