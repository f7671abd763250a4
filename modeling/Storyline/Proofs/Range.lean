import Storyline.Proofs.Condition.Cache
import Storyline.Proofs.Decimal
import Storyline.Proofs.Document
import Storyline.Proofs.Taking

namespace Storyline

namespace Number

def inRange : Number → Bool
  | int n => (Double.ofInt? n).isSome
  | double d => d.isFinite

end Number

namespace Double

/-- An integer beyond the range is rounded out of it. -/
theorem ofRatio_beyond {num : Nat} (h : 2 ^ 1024 ≤ num) (negative : Bool) :
    ofRatio negative num 1 = infinite negative := by
  have hpos : 0 < num := Nat.lt_of_lt_of_le (Nat.two_pow_pos _) h
  have hplace : 1024 ≤ leadingPlace num 1 := by
    have hx : (0 : ℚ) < num / (1 : Nat) := by positivity
    rw [leadingPlace_eq_log hpos Nat.one_pos, ← Int.zpow_le_iff_le_log (by decide) hx]
    simpa using (by exact_mod_cast h : (2 : ℚ) ^ 1024 ≤ num)
  have hexponent : ¬ max (leadingPlace num 1 - 52) (-1074) ≤ 971 := by omega
  have hbeyond : ∀ {m : Nat} {x : Int}, ¬ x ≤ 971 → make negative m x = infinite negative := by
    intro m x hx
    exact dif_neg fun hcanonical => hx hcanonical.2.2.1
  unfold ofRatio
  dsimp only
  rw [if_neg hpos.ne']
  split
  · exact hbeyond (by omega)
  · exact hbeyond hexponent

theorem isShort_of_lt {n : Int} {k : Nat} (h : n.natAbs < 2 ^ k) (hk : k ≤ 3 * maxIntegerDigits) :
    (Number.int n).isShort = true := by
  have hten : n.natAbs < 10 ^ maxIntegerDigits := Nat.lt_of_lt_of_le h (two_pow_le_ten_pow hk)
  have hcount : digitCount n.natAbs ≤ maxIntegerDigits := (digitCount_le_iff (by decide)).mpr hten
  exact decide_eq_true hcount

/-- An integer that has a double does not have too many digits. -/
theorem isShort_of_ofInt? {n : Int} (h : (ofInt? n).isSome = true) :
    (Number.int n).isShort = true := by
  have hlt : n.natAbs < 2 ^ 1024 := by
    by_contra hn
    rw [ofInt?, ofRatio_beyond (Nat.not_lt.mp hn)] at h
    cases h
  exact isShort_of_lt hlt (by decide)

/-- Nor does one that is a double itself. -/
theorem isShort_of_toInt? {d : Double} {n : Int} (h : d.toInt? = some n) :
    (Number.int n).isShort = true := by
  cases d with
  | finite negative m e hc =>
    obtain ⟨hm, _, he, _⟩ := hc
    obtain ⟨x, hx, hn⟩ := Option.bind_eq_some_iff.mp h
    cases hx
    have hnum : ((if negative then -(m : Int) else m) * Nat.pow 2 e.toNat).natAbs =
        m * 2 ^ e.toNat := by
      rw [Int.natAbs_mul]
      cases negative <;> simp
    dsimp only [Dyadic.ratio] at hn
    generalize (if negative then -(m : Int) else m) * Nat.pow 2 e.toNat = num at hn hnum
    have hle : n.natAbs ≤ num.natAbs := by
      split at hn
      · cases hn
        exact Int.natAbs_ediv_le_natAbs _ _
      · cases hn
    have hlt : n.natAbs < 2 ^ (53 + e.toNat) :=
      calc n.natAbs
        _ ≤ m * 2 ^ e.toNat := hnum ▸ hle
        _ < 2 ^ 53 * 2 ^ e.toNat := Nat.mul_lt_mul_of_pos_right hm (Nat.two_pow_pos _)
        _ = 2 ^ (53 + e.toNat) := (Nat.pow_add _ _ _).symm
    have hsize : 53 + e.toNat ≤ 3 * 4300 := by omega
    exact isShort_of_lt hlt hsize
  | _ => cases h

end Double

namespace Value

mutual

/-- A document can hold the value, and all numbers in it are finite and in the range of the
doubles. -/
def inRange : Value → Bool
  | .undefined | .host _ => false
  | .number n => n.inRange
  | .list items => allInRange items
  | .record fields => allFieldsInRange fields
  | _ => true

def allInRange : List Value → Bool
  | [] => true
  | v :: rest => inRange v && allInRange rest

def allFieldsInRange : List (String × Value) → Bool
  | [] => true
  | (_, v) :: rest => inRange v && allFieldsInRange rest

end

theorem allFieldsInRange_iff {fields : Entries Value} :
    allFieldsInRange fields = true ↔ ∀ e ∈ fields, e.2.inRange = true := by
  induction fields with
  | nil => simp [allFieldsInRange]
  | cons e rest ih =>
    obtain ⟨k, v⟩ := e
    simp [allFieldsInRange, ih]

mutual

theorem plain_of_inRange : ∀ {v : Value}, v.inRange = true → v.isPlain = true
  | .null, _ | .bool _, _ | .text _, _ | .number _, _ => rfl
  | .list _, h => allPlain_of_inRange h
  | .record _, h => allFieldsPlain_of_inRange h

theorem allPlain_of_inRange : ∀ {vs : List Value}, allInRange vs = true → allPlain vs = true
  | [], _ => rfl
  | _ :: _, h => by
    obtain ⟨hv, hrest⟩ := Bool.and_eq_true_iff.mp h
    exact Bool.and_eq_true_iff.mpr ⟨plain_of_inRange hv, allPlain_of_inRange hrest⟩

theorem allFieldsPlain_of_inRange : ∀ {fields : List (String × Value)},
    allFieldsInRange fields = true → allFieldsPlain fields = true
  | [], _ => rfl
  | _ :: _, h => by
    obtain ⟨hv, hrest⟩ := Bool.and_eq_true_iff.mp h
    exact Bool.and_eq_true_iff.mpr ⟨plain_of_inRange hv, allFieldsPlain_of_inRange hrest⟩

end

theorem inRange_of_get? {fields : Entries Value} {key : String} {v : Value}
    (h : allFieldsInRange fields = true) (hv : fields.get? key = some v) : v.inRange = true :=
  allFieldsInRange_iff.mp h (key, v) (Entries.mem_of_get? hv)

end Value

/-- A choice of a document can be decided on: its numbers are in range, it asks for numbers of
items, and no integer in its condition is overlong. -/
structure Choice.InRange (c : Choice) : Prop where
  effects : Value.allFieldsInRange c.effects = true
  requirements : Value.allFieldsInRange c.requirements = true
  counts : ∀ item ∈ c.inventory, ∃ n : Number, item.2 = .number n ∧ n.inRange = true
  condition : ∀ f, ¬ Condition.Overlong (c.condition.getD "") f

/-- A node has such choices, and no more of them than an integer can count that is not overlong. -/
structure Node.InRange (n : Node) : Prop where
  choices : ∀ c ∈ n.choices, c.InRange
  numbered : ∀ i : Nat, i < n.choices.length → (Number.int i).isShort = true

def Story.InRange (s : Story) : Prop := ∀ n ∈ s.nodes, n.InRange

namespace Rule
open Value
variable {flags : Entries Value} {c : Choice} {x : RuleContext}

theorem held_inRange {inventory : Entries Value} (h : allFieldsInRange inventory = true)
    (item : String) : (held inventory item).inRange = true := by
  unfold held
  split
  · rename_i n hn
    split
    · rfl
    · exact inRange_of_get? h hn
  · rfl

theorem inventoryOf_inRange (h : allFieldsInRange flags = true) :
    allFieldsInRange (inventoryOf flags) = true := by
  unfold inventoryOf
  split
  · rename_i fields hfields
    exact inRange_of_get? h hfields
  · rfl

/-- The standard rules do not look at what else is in sight. -/
theorem standard_blind (c : Choice) (x : RuleContext) (offered : List Choice) :
    ∀ rule ∈ standard, rule.check c { x with offered } = rule.check c x := by
  intro rule hrule
  simp only [standard, List.mem_cons, List.not_mem_nil, or_false] at hrule
  rcases hrule with rfl | rfl | rfl | rfl | rfl <;> rfl

end Rule

namespace Registry
variable {c : Choice} {x : RuleContext}

theorem standard_rules : standard.rules = Rule.standard := rfl

theorem firstFailure?_blind {rules : List Rule} (offered : List Choice)
    (h : ∀ rule ∈ rules, rule.check c { x with offered } = rule.check c x) (passed : Nat) :
    firstFailure? c { x with offered } passed rules = firstFailure? c x passed rules := by
  induction rules generalizing passed with
  | nil => rfl
  | cons rule rest ih =>
    obtain ⟨hrule, hrest⟩ := List.forall_mem_cons.mp h
    simp only [firstFailure?, hrule, ih hrest]

theorem standard_validate_blind (c : Choice) (x : RuleContext) (offered : List Choice) :
    standard.validate c { x with offered } = standard.validate c x := by
  have hblind := Rule.standard_blind c x offered
  simp only [validate, standard_rules, firstFailure?_blind offered hblind 0]

end Registry
end Storyline
