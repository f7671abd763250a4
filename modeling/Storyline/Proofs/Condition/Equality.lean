import Storyline.Proofs.Condition.Confinement
import Storyline.Proofs.Line

namespace Storyline.Condition

section Laws
variable {a b c : Operand}

/-- What a value is to the equality that does not convert: numbers are told by their size, and
objects by their place. -/
inductive Essence where
  | undefined
  | null
  | bool (b : Bool)
  | quantity (size : EReal)
  | text (s : String)
  | object (place : Option Place)

namespace Operand

noncomputable def essence? (a : Operand) : Option Essence :=
  match a.value with
  | .undefined => some .undefined
  | .null => some .null
  | .bool b => some (.bool b)
  | .number n => n.place?.map .quantity
  | .text s => some (.text s)
  | .list _ | .record _ | .host _ => some (.object a.place)

theorem essence?_eq_none : a.essence? = none ↔ a.value = .double .nan := by
  obtain ⟨v, p⟩ := a
  cases v <;> simp [essence?, Value.double, Number.place?_eq_none]

theorem strictEquals_iff :
    a.strictEquals b = true ↔ ∃ x, a.essence? = some x ∧ b.essence? = some x := by
  obtain ⟨v, p⟩ := a
  obtain ⟨w, q⟩ := b
  cases v <;> cases w <;> simp [strictEquals, essence?, Value.isObject, Value.strictEquals]
  case number.number => exact Number.same_iff
  all_goals exact eq_comm

theorem strictEquals_comm (a b : Operand) : a.strictEquals b = b.strictEquals a := by
  rw [Bool.eq_iff_iff, strictEquals_iff, strictEquals_iff]
  simp only [and_comm]

theorem strictEquals_trans (hab : a.strictEquals b = true) (hbc : b.strictEquals c = true) :
    a.strictEquals c = true := by
  obtain ⟨x, ha, hb⟩ := strictEquals_iff.mp hab
  obtain ⟨y, hb', hc⟩ := strictEquals_iff.mp hbc
  obtain rfl : x = y := Option.some.inj (hb.symm.trans hb')
  exact strictEquals_iff.mpr ⟨x, ha, hc⟩

theorem strictEquals_self : a.strictEquals a = true ↔ a.value ≠ .double .nan := by
  rw [strictEquals_iff, ne_eq, ← essence?_eq_none, ← ne_eq, Option.ne_none_iff_exists']
  simp only [and_self]

theorem looseEquals_comm (a b : Operand) : a.looseEquals b = b.looseEquals a := by
  unfold looseEquals
  rw [Bool.or_comm a.value.isNullish, Bool.and_comm a.value.isNullish,
    Bool.or_comm a.value.isObject, strictEquals_comm a b]
  split
  · rfl
  split
  · rfl
  -- Texts are compared with each other in a way of their own.
  cases a.value with
  | text s =>
    cases b.value with
    | text t => exact Bool.beq_comm
    | _ => exact Number.same_comm _ _
  | _ => cases b.value <;> exact Number.same_comm _ _

theorem looseEquals_of_strictEquals (h : a.strictEquals b = true) : a.looseEquals b = true := by
  obtain ⟨v, p⟩ := a
  obtain ⟨w, q⟩ := b
  cases v <;> cases w
  case bool.bool s t =>
    obtain rfl : s = t := beq_iff_eq.mp h
    exact Number.same_self.mpr nofun
  -- Values of one kind are compared alike, but for truths, and values of two kinds are not equal.
  all_goals first | exact h | cases h

theorem essence?_object {place : Option Place} :
    a.essence? = some (.object place) ↔ a.value.isObject = true ∧ a.place = place := by
  obtain ⟨v, p⟩ := a
  cases v <;> simp [essence?, Value.isObject]

/-- An object that a scope exposes is equal to itself alone. -/
theorem strictEquals_object {scope : Scope} (ha : scope.Exposes a) (hb : scope.Exposes b)
    (hobject : a.value.isObject = true) : a.strictEquals b = true ↔ a = b := by
  constructor
  · intro h
    obtain ⟨x, hx, hy⟩ := strictEquals_iff.mp h
    obtain rfl : Essence.object a.place = x :=
      Option.some.inj ((essence?_object.mpr ⟨hobject, rfl⟩).symm.trans hx)
    obtain ⟨hobject', hplace⟩ := essence?_object.mp hy
    obtain ⟨p, hp, hv⟩ := ha.contained hobject
    obtain ⟨q, hq, hw⟩ := hb.contained hobject'
    obtain rfl : p = q := Option.some.inj (hp.symm.trans (hplace.symm.trans hq))
    have hvalue : a.value = b.value := hv.unique hw
    cases a
    cases b
    cases hplace
    cases hvalue
    rfl
  · rintro rfl
    refine strictEquals_self.mpr fun hnan => ?_
    rw [hnan] at hobject
    cases hobject

end Operand

/-- What an operator says that asks for equality. -/
def Operator.equality? : Operator → Option (Operand → Operand → Bool)
  | .strictEqual => some Operand.strictEquals
  | .strictUnequal => some fun a b => !a.strictEquals b
  | .looseEqual => some Operand.looseEquals
  | .looseUnequal => some fun a b => !a.looseEquals b
  | _ => none

theorem Operator.apply_equality {o : Operator} {holds : Operand → Operand → Bool}
    (ho : o.equality? = some holds) : o.apply a b = .ok (.bool (holds a b)) := by
  cases o <;> cases ho <;> rfl

/-- To compare is to come to both operands and to answer. Only the operands can fail. -/
theorem run_equality {o : Operator} {holds : Operand → Operand → Bool}
    (ho : o.equality? = some holds) (scope : Scope) (d : Nat) (left right : Expression) :
    (Expression.binary o left right).run scope (d + 1) = (do
      let a ← left.run scope d
      let b ← right.run scope d
      return .of (.bool (holds a b))) := by
  have hplain : o.settledBy? = none := by
    cases o with
    | or | and => cases ho
    | _ => rfl
  rw [run_operator hplain]
  refine bind_congr fun a => bind_congr fun b => ?_
  rw [Operator.apply_equality ho]
  rfl

end Laws

/-- The laws of equality. Without conversion, it is symmetric, transitive and reflexive except for
NaN, and an object of a scope is equal to itself alone. With conversion, it is symmetric, and what
is equal without is equal with it. Neither fails: the fault of a comparison is one of its operands'
faults. -/
theorem equality_laws :
    (∀ a b : Operand, a.strictEquals b = b.strictEquals a) ∧
    (∀ a b c : Operand, a.strictEquals b = true → b.strictEquals c = true →
      a.strictEquals c = true) ∧
    (∀ a : Operand, a.strictEquals a = true ↔ a.value ≠ .double .nan) ∧
    (∀ (scope : Scope) (a b : Operand), scope.Exposes a → scope.Exposes b →
      a.value.isObject = true → (a.strictEquals b = true ↔ a = b)) ∧
    (∀ a b : Operand, a.looseEquals b = b.looseEquals a) ∧
    (∀ a b : Operand, a.strictEquals b = true → a.looseEquals b = true) ∧
    ∀ (o : Operator) (holds : Operand → Operand → Bool), o.equality? = some holds →
      ∀ (scope : Scope) (d : Nat) (left right : Expression),
        (Expression.binary o left right).run scope (d + 1) = (do
          let a ← left.run scope d
          let b ← right.run scope d
          return .of (.bool (holds a b))) :=
  ⟨Operand.strictEquals_comm, fun _ _ _ => Operand.strictEquals_trans,
    fun _ => Operand.strictEquals_self, fun _ _ _ => Operand.strictEquals_object,
    Operand.looseEquals_comm, fun _ _ => Operand.looseEquals_of_strictEquals,
    fun _ _ => run_equality⟩

/-- Integer and double zeros of either sign are strictly equal. NaN is not equal to itself. -/
theorem equality_laws_zero :
    (Operand.of (.int 0)).strictEquals (.of (.double (.zero false))) = true ∧
    (Operand.of (.double (.zero false))).strictEquals (.of (.double (.zero true))) = true ∧
    (Operand.of (.int 0)).strictEquals (.of (.double (.zero true))) = true ∧
    (Operand.of (.int 0)).looseEquals (.of (.double (.zero true))) = true ∧
    (Operand.of (.double .nan)).strictEquals (.of (.double .nan)) ≠ true := by
  obtain ⟨_, htrans, hself, _, _, hloose, _⟩ := equality_laws
  have hwhole : (Operand.of (.int 0)).strictEquals (.of (.double (.zero false))) = true := by
    decide +kernel
  have hsigns : (Operand.of (.double (.zero false))).strictEquals
      (.of (.double (.zero true))) = true := by
    decide +kernel
  have hboth := htrans _ _ _ hwhole hsigns
  exact ⟨hwhole, hsigns, hboth, hloose _ _ hboth, fun h => (hself _).mp h rfl⟩

/-- The equality that converts is not transitive. -/
example : (Operand.of (.text "")).looseEquals (.of (.int 0)) = true ∧
    (Operand.of (.int 0)).looseEquals (.of (.text "0")) = true ∧
    (Operand.of (.text "")).looseEquals (.of (.text "0")) = false := by
  decide +kernel

end Storyline.Condition
