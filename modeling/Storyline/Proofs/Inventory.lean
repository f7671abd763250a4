import Storyline.Proofs.Line
import Storyline.Proofs.Undecided

namespace Storyline

namespace Number

def Reaches (a b : Number) : Prop := ∃ x y, a.place? = some x ∧ b.place? = some y ∧ y ≤ x

/-- Two numbers are in order unless one of them is NaN. -/
theorem less_eq_false {a b : Number} :
    a.less b = false ↔ a.Reaches b ∨ a = .double .nan ∨ b = .double .nan := by
  rw [← place?_eq_none, ← place?_eq_none, ← Bool.not_eq_true, less_iff]
  unfold Reaches
  cases ha : a.place? with
  | none => simp
  | some x =>
    cases hb : b.place? with
    | none => simp
    | some y => simp

theorem less_congr {a a' : Number} (h : a.place? = a'.place?) (b : Number) :
    a.less b = a'.less b := by
  rw [Bool.eq_iff_iff, less_iff, less_iff, h]

/-- Zeros of all kinds are told alike. -/
theorem isZero_told {n : Number} (h : n.isZero = true) :
    Value.numberText n = Value.numberText (.int 0) := by
  cases n with
  | int n =>
    obtain rfl : n = 0 := by simpa [isZero] using h
    rfl
  | double d =>
    cases d with
    | finite negative m e hc =>
      obtain rfl : m = 0 := by simpa [isZero, Double.isZero] using h
      have hwhole : (Double.finite negative 0 e hc).toInt? = some 0 := by
        cases negative <;> simp [Double.toInt?, Double.dyadic?, Dyadic.ratio]
      simp only [Value.numberText, hwhole]
    | _ => cases h

end Number

namespace Rule
open Value
variable {flags : Entries Value} {item : String} {count need : Number} {c : Choice}
  {x : RuleContext}

/-- The quantity of an item that flags hold: the number that their inventory has for it, or nothing
if it has none. -/
inductive Holds (flags : Entries Value) (item : String) : Number → Prop
  | counted {fields : Entries Value} {n : Number} : flags.get? "inventory" = some (.record fields) →
    fields.get? item = some (.number n) → Holds flags item n
  | uncounted : (∀ (fields : Entries Value) (n : Number),
    flags.get? "inventory" = some (.record fields) → fields.get? item ≠ some (.number n)) →
    Holds flags item (.int 0)

def shortage (item : String) (need count : Number) : Except NumberFault String := do
  let need ← (Value.number need).toText
  let count ← (Value.number count).toText
  return item ++ " (need " ++ need ++ ", have " ++ count ++ ")"

def Suffices (flags : Entries Value) (r : String × Value) : Prop :=
  ∃ count need, Holds flags r.1 count ∧ r.2 = .number need ∧ count.Reaches need

/-- One of the quantities of an item, held or required, is NaN. -/
def Immeasurable (flags : Entries Value) (r : String × Value) : Prop :=
  Holds flags r.1 (.double .nan) ∨ r.2 = .double .nan

/-- What the rule makes of it: an item without a measure is never lacking. -/
def Enough (flags : Entries Value) (r : String × Value) : Prop :=
  Suffices flags r ∨ Immeasurable flags r

theorem inventoryOf_eq {fields : Entries Value}
    (h : flags.get? "inventory" = some (.record fields)) : inventoryOf flags = fields := by
  rw [inventoryOf, h]

theorem exists_holds (flags : Entries Value) (item : String) : ∃ count, Holds flags item count := by
  by_cases h : ∃ (fields : Entries Value) (n : Number),
      flags.get? "inventory" = some (.record fields) ∧ fields.get? item = some (.number n)
  · obtain ⟨fields, n, hfields, hn⟩ := h
    exact ⟨n, .counted hfields hn⟩
  · refine ⟨.int 0, .uncounted fun fields n hfields hn => h ⟨fields, n, hfields, hn⟩⟩

theorem Holds.unique {count' : Number} (h : Holds flags item count)
    (h' : Holds flags item count') : count = count' := by
  cases h with
  | counted hfields hn =>
    cases h' with
    | counted hfields' hn' =>
      cases hfields.symm.trans hfields'
      cases hn.symm.trans hn'
      rfl
    | uncounted hnone => exact absurd hn (hnone _ _ hfields)
  | uncounted hnone =>
    cases h' with
    | counted hfields' hn' => exact absurd hn' (hnone _ _ hfields')
    | uncounted => rfl

/-- The rule looks at the quantity that is held, but for the kind of a zero. -/
theorem Holds.held (h : Holds flags item count) :
    held (inventoryOf flags) item = if count.isZero then .int 0 else count := by
  unfold Rule.held
  cases h with
  | counted hfields hn => rw [inventoryOf_eq hfields, hn]
  | uncounted hnone =>
    split
    · rename_i n hn
      unfold inventoryOf at hn
      split at hn
      · rename_i fields hfields
        exact absurd hn (hnone fields n hfields)
      · cases hn
    · rfl

theorem Holds.held_less (h : Holds flags item count) (need : Number) :
    (Rule.held (inventoryOf flags) item).less need = count.less need := by
  rw [h.held]
  split
  · rename_i hzero
    apply Number.less_congr
    rw [Number.isZero_iff.mp hzero]
    exact Number.isZero_iff.mp rfl
  · rfl

theorem Holds.held_shortage (h : Holds flags item count) (need : Number) :
    shortage item need (Rule.held (inventoryOf flags) item) = shortage item need count := by
  rw [h.held]
  split
  · rename_i hzero
    have htold : (Value.number count).toText = (Value.number (.int 0)).toText :=
      Number.isZero_told hzero
    simp only [shortage, htold]
  · rfl

theorem Holds.enough_iff (h : Holds flags item count) :
    Enough flags (item, .number need) ↔ count.less need = false := by
  rw [Number.less_eq_false]
  constructor
  · rintro (⟨count', need', hcount, hneed, hreaches⟩ | hnan | hnan)
    · cases h.unique hcount
      cases hneed
      exact .inl hreaches
    · exact .inr (.inl (h.unique hnan))
    · cases hnan
      exact .inr (.inr rfl)
  · rintro (hreaches | rfl | rfl)
    · exact .inl ⟨count, need, h, rfl, hreaches⟩
    · exact .inr (.inl h)
    · exact .inr (.inr rfl)

theorem lacking_cons (inventory rest : Entries Value) (item : String) (need : Number) :
    lacking inventory ((item, .number need) :: rest) =
      if (held inventory item).less need then do
        let told ← (shortage item need (held inventory item)).mapError .number
        let more ← lacking inventory rest
        return told :: more
      else lacking inventory rest := by
  simp only [lacking, Value.quantity?, shortage]
  split
  · cases (Value.number need).toText <;>
      cases (Value.number (held inventory item)).toText <;> rfl
  · rfl

open Classical in
/-- What is lacking are the items of which there is not enough, in their order, as they are told. -/
theorem lacking_eq_ok {items : Entries Value}
    (h : ∀ r ∈ items, ∃ need : Number, r.2 = .number need) {found : List String} :
    lacking (inventoryOf flags) items = .ok found ↔
      List.Forall₂ (fun r s => ∃ count need, Holds flags r.1 count ∧ r.2 = .number need ∧
        shortage r.1 need count = .ok s) (items.filter fun r => ¬ Enough flags r) found := by
  induction items generalizing found with
  | nil =>
    rw [lacking, List.filter_nil, List.forall₂_nil_left_iff]
    simp [eq_comm]
  | cons r rest ih =>
    obtain ⟨item, v⟩ := r
    obtain ⟨⟨need, rfl⟩, hrest⟩ := List.forall_mem_cons.mp h
    obtain ⟨count, hcount⟩ := exists_holds flags item
    rw [lacking_cons, hcount.held_less, hcount.held_shortage]
    by_cases henough : Enough flags (item, .number need)
    · rw [List.filter_cons_of_neg (by simpa using henough), hcount.enough_iff.mp henough]
      exact ih hrest
    · have hless : count.less need = true := by
        rwa [hcount.enough_iff, Bool.not_eq_false] at henough
      rw [List.filter_cons_of_pos (by simpa using henough), if_pos hless,
        List.forall₂_cons_left_iff]
      simp only [bind_eq_ok, mapError_eq_ok, pure_eq_ok, ih hrest]
      constructor
      · rintro ⟨told, htold, more, hmore, rfl⟩
        exact ⟨told, more, ⟨count, need, hcount, rfl, htold⟩, hmore, rfl⟩
      · rintro ⟨told, more, ⟨count', need', hcount', hneed, htold⟩, hmore, rfl⟩
        cases hcount.unique hcount'
        cases hneed
        exact ⟨told, htold, more, hmore, rfl⟩

/-- All that is lacking can be told if each item of it can. -/
theorem lacking_isOk {items : Entries Value}
    (h : ∀ r ∈ items, ∃ need : Number, r.2 = .number need) :
    (lacking (inventoryOf flags) items).isOk = true ↔ ∀ r ∈ items, ¬ Enough flags r →
      ∃ count need s, Holds flags r.1 count ∧ r.2 = .number need ∧
        shortage r.1 need count = .ok s := by
  induction items with
  | nil => simp [lacking]
  | cons r rest ih =>
    obtain ⟨item, v⟩ := r
    obtain ⟨⟨need, rfl⟩, hrest⟩ := List.forall_mem_cons.mp h
    obtain ⟨count, hcount⟩ := exists_holds flags item
    rw [lacking_cons, hcount.held_less, hcount.held_shortage, List.forall_mem_cons, ← ih hrest]
    by_cases henough : Enough flags (item, .number need)
    · rw [hcount.enough_iff.mp henough]
      simp [henough]
    · have hless : count.less need = true := by
        rwa [hcount.enough_iff, Bool.not_eq_false] at henough
      rw [if_pos hless, Json.isOk_bind_bind_pure, Bool.and_eq_true, isOk_mapError, isOk_eq_true]
      refine and_congr_left fun _ => ?_
      constructor
      · rintro ⟨s, hs⟩ _
        exact ⟨count, need, s, hcount, rfl, hs⟩
      · intro htold
        obtain ⟨count', need', s, hcount', hneed, hs⟩ := htold henough
        cases hcount.unique hcount'
        cases hneed
        exact ⟨s, hs⟩

/-- The verdict tells what is lacking. -/
theorem inventoryConditions_verdict {found : List String}
    (h : lacking (inventoryOf x.state.flags) c.inventory = .ok found) :
    ∃ v, inventoryConditions.check c x = .ok v ∧ v.valid = found.isEmpty ∧
      v.failedConditions = found := by
  simp only [inventoryConditions, checkInventory, h, ok_bind]
  cases found with
  | nil => exact ⟨_, rfl, rfl, rfl⟩
  | cons s rest => exact ⟨_, rfl, rfl, rfl⟩

theorem inventoryConditions_eq_ok {v : Verdict} (h : inventoryConditions.check c x = .ok v) :
    ∃ found, lacking (inventoryOf x.state.flags) c.inventory = .ok found ∧
      v.valid = found.isEmpty ∧ v.failedConditions = found := by
  have hok : (lacking (inventoryOf x.state.flags) c.inventory).isOk = true := by
    rw [← inventoryConditions_isOk, h]
    rfl
  obtain ⟨found, hfound⟩ := isOk_eq_true.mp hok
  obtain ⟨w, hw, hverdict⟩ := inventoryConditions_verdict hfound
  cases h.symm.trans hw
  exact ⟨found, hfound, hverdict⟩

open Classical in
/-- What the rule of the inventory requires of a state, and what it tells of one that falls
short. -/
structure Weighs (c : Choice) (x : RuleContext) : Prop where
  passes : inventoryConditions.Passes c x ↔ ∀ r ∈ c.inventory, Enough x.state.flags r
  decides : (inventoryConditions.check c x).isOk = true ↔ ∀ r ∈ c.inventory,
    ¬ Enough x.state.flags r → ∃ count need s, Holds x.state.flags r.1 count ∧
      r.2 = .number need ∧ shortage r.1 need count = .ok s
  lists : ∀ v, inventoryConditions.check c x = .ok v → v.valid = false →
    List.Forall₂ (fun r s => ∃ count need, Holds x.state.flags r.1 count ∧ r.2 = .number need ∧
      shortage r.1 need count = .ok s) (c.inventory.filter fun r => ¬ Enough x.state.flags r)
      v.failedConditions

open Classical in
/-- A choice passes the rule of the inventory if of each required item as much is held as is
required, or more, or one of its quantities is NaN. Otherwise the rule tells the items of which too
little is held, one by one and in their order, unless a number of theirs is too long to be told. So
what is not a number counts as nothing, but NaN counts as any quantity. -/
theorem inventory_weighed (h : ∀ r ∈ c.inventory, ∃ need : Number, r.2 = .number need)
    (x : RuleContext) : Weighs c x where
  passes := by
    constructor
    · rintro ⟨v, hv, hvalid⟩
      obtain ⟨found, hfound, hempty, _⟩ := inventoryConditions_eq_ok hv
      obtain rfl : found = [] := List.isEmpty_iff.mp (hempty.symm.trans hvalid)
      have hnone := List.forall₂_nil_right_iff.mp ((lacking_eq_ok h).mp hfound)
      intro r hr
      simpa using List.filter_eq_nil_iff.mp hnone r hr
    · intro hall
      have hnone : (c.inventory.filter fun r => ¬ Enough x.state.flags r) = [] :=
        List.filter_eq_nil_iff.mpr fun r hr => by simpa using hall r hr
      have hfound : lacking (inventoryOf x.state.flags) c.inventory = .ok [] :=
        (lacking_eq_ok h).mpr (hnone ▸ .nil)
      obtain ⟨v, hv, hvalid, _⟩ := inventoryConditions_verdict hfound
      exact ⟨v, hv, hvalid⟩
  decides := by rw [inventoryConditions_isOk, lacking_isOk h]
  lists := by
    intro v hv _
    obtain ⟨found, hfound, _, hlists⟩ := inventoryConditions_eq_ok hv
    rw [hlists]
    exact (lacking_eq_ok h).mp hfound

def tollWay : Choice := { Engine.openWay with inventory := [("coins", .int 5)] }

def costlyWay : Choice := { tollWay with inventory := [("coins", .int 5), ("gems", .int 1)] }

/-- A state with NaN coins, and with a truth where gems are counted. -/
def tollContext : RuleContext where
  node := ⟨"gate", "A gate.", [tollWay, costlyWay]⟩
  state := ⟨"gate", [("inventory", .record [("coins", .double .nan), ("gems", .bool true)])],
    ["gate"]⟩
  offered := [tollWay, costlyWay]
  time := .int 0

/-- A NaN quantity passes the rule without being enough. A truth is no quantity. -/
theorem inventory_weighed_toll :
    ¬ Suffices tollContext.state.flags ("coins", .int 5) ∧
      inventoryConditions.Passes tollWay tollContext ∧
      ¬ inventoryConditions.Passes costlyWay tollContext := by
  have hcoins : Holds tollContext.state.flags "coins" (.double .nan) := .counted rfl rfl
  have hgems : Holds tollContext.state.flags "gems" (.int 0) := by
    refine .uncounted fun fields n hfields hn => ?_
    cases hfields
    cases hn
  have htoll : ∀ r ∈ tollWay.inventory, ∃ need : Number, r.2 = .number need := by
    simp [tollWay, Value.int]
  have hcostly : ∀ r ∈ costlyWay.inventory, ∃ need : Number, r.2 = .number need := by
    simp [costlyWay, Value.int]
  refine ⟨?_, ?_, ?_⟩
  · rintro ⟨count, need, hcount, _, x, y, hx, _⟩
    cases hcoins.unique hcount
    cases hx
  · apply (inventory_weighed htoll tollContext).passes.mpr
    intro r hr
    obtain rfl := List.mem_singleton.mp hr
    exact .inr (.inl hcoins)
  · intro hpasses
    have henough := (inventory_weighed hcostly tollContext).passes.mp hpasses ("gems", .int 1)
      (List.mem_cons_of_mem _ List.mem_cons_self)
    cases hgems.enough_iff.mp henough

end Rule
end Storyline
