import Storyline.Proofs.Definition
import Storyline.Proofs.Range
import Storyline.Proofs.Registry

namespace Storyline

/-- The powers of ten soon get beyond the doubles. -/
theorem Double.ofInt?_ten_pow {k : Nat} (h : 1024 ≤ 3 * k) : ofInt? (10 ^ k) = none := by
  have hbeyond : 2 ^ 1024 ≤ ((10 : Int) ^ k).natAbs := by
    rw [Int.natAbs_pow]
    exact two_pow_le_ten_pow h
  rw [ofInt?, ofRatio_beyond hbeyond]

/-- An integer that has a double is not too long to be told. -/
theorem Number.isShort_of_inRange {n : Number} (h : n.inRange = true) : n.isShort = true := by
  cases n with
  | int n => exact Double.isShort_of_ofInt? h
  | double d => rfl

namespace Value

mutual

/-- No integer in the value is too long to be told. What records hold is not told. -/
def tellable : Value → Bool
  | .number n => n.isShort
  | .list items => allTellable items
  | _ => true

def allTellable : List Value → Bool
  | [] => true
  | v :: rest => tellable v && allTellable rest

end

theorem numberText_tellable (n : Number) : (numberText n).isOk = n.isShort := by
  cases n with
  | int n => exact integerText_isOk n
  | double d =>
    cases hn : d.toInt? with
    | some n =>
      simp only [numberText, hn]
      rw [integerText_isOk]
      exact Double.isShort_of_toInt? hn
    | none =>
      simp only [numberText, hn]
      rfl

mutual

theorem toText_tellable : ∀ v : Value, v.toText.isOk = v.tellable
  | .undefined | .null | .bool _ | .text _ | .record _ | .host _ => rfl
  | .number n => numberText_tellable n
  | .list items => itemsText_tellable items

theorem itemsText_tellable : ∀ vs : List Value, (itemsText vs).isOk = allTellable vs
  | [] => rfl
  | v :: rest => by
    rw [itemsText, allTellable, ← itemsText_tellable rest]
    split
    · rename_i hnullish
      have hv : v.tellable = true := by cases v <;> first | rfl | cases hnullish
      rw [hv]
      exact Json.isOk_bind_bind_pure (pure "") _ _
    · rw [← toText_tellable v]
      exact Json.isOk_bind_bind_pure _ _ _

end

mutual

theorem tellable_of_inRange : ∀ {v : Value}, v.inRange = true → v.tellable = true
  | .null, _ | .bool _, _ | .text _, _ | .record _, _ => rfl
  | .number _, h => Number.isShort_of_inRange h
  | .list _, h => allTellable_of_inRange h

theorem allTellable_of_inRange : ∀ {vs : List Value}, allInRange vs = true → allTellable vs = true
  | [], _ => rfl
  | _ :: _, h => by
    obtain ⟨hv, hrest⟩ := Bool.and_eq_true_iff.mp h
    exact Bool.and_eq_true_iff.mpr ⟨tellable_of_inRange hv, allTellable_of_inRange hrest⟩

end

/-- An integer that has no double is neither true nor false. -/
theorem truthy_fails {v : Value} :
    v.truthy.isOk = false ↔ ∃ n, v = .number (.int n) ∧ Double.ofInt? n = none := by
  cases v with
  | number n =>
    cases n with
    | int n =>
      cases hd : Double.ofInt? n with
      | some d =>
        simp only [truthy, Number.isNaN, Number.toDouble, hd]
        split <;> simp [hd]
      | none =>
        have hzero : (Number.int n).isZero = false := by
          by_contra hzero
          obtain rfl : n = 0 := by simpa [Number.isZero] using hzero
          cases hd
        simp only [truthy, Number.isNaN, Number.toDouble, hd, hzero]
        simp [hd]
    | double d =>
      simp only [truthy, Number.isNaN, Number.toDouble]
      split <;> simp
  | _ => simp [truthy]

theorem truthy_isOk {v : Value} (h : v.inRange = true) : v.truthy.isOk = true := by
  by_contra hfails
  obtain ⟨n, rfl, hn⟩ := truthy_fails.mp (Bool.eq_false_iff.mpr hfails)
  exact absurd hn (Option.isSome_iff_ne_none.mp h)

end Value

namespace Rule
open Value
variable {flags inventory : Entries Value} {name : String} {required : Value}

/-- A requirement to which the flags give no answer. -/
inductive Unanswered (flags : Entries Value) (name : String) : Value → Prop
  | beyond {n : Int} {b : Bool} : flags.get? name = some (.number (.int n)) →
    Double.ofInt? n = none → Unanswered flags name (.bool b)
  | untold {v : Value} : (∀ b, v ≠ .bool b) → (flags.get? name).any (·.strictEquals v) = false →
    v.tellable = false → Unanswered flags name v

def truthOf (flags : Entries Value) (name : String) : Except RuleFault Bool :=
  match flags.get? name with
  | some v => v.truthy.mapError .number
  | none => .ok false

/-- What is required to be true or false is looked at as a truth. -/
theorem unmet?_bool (b : Bool) : unmet? flags name (.bool b) = (truthOf flags name).map fun truth =>
    if truth = b then none else some (if b then .missing name else .conflicting name) := by
  have htruth : unmet? flags name (.bool b) = (truthOf flags name >>= fun truth => pure
      (if truth = b then none else some (if b then .missing name else .conflicting name))) := by
    cases b with
    | false => exact bind_congr fun truth => by cases truth <;> rfl
    | true => exact bind_congr fun truth => by cases truth <;> rfl
  rw [htruth]
  cases truthOf flags name <;> rfl

theorem unmet?_other {v : Value} (h : ∀ b, v ≠ .bool b) : unmet? flags name v =
    if (flags.get? name).any (·.strictEquals v) then .ok none
    else (v.toText.mapError .number).map fun shown => some (.missing (name ++ "=" ++ shown)) := by
  cases v with
  | bool b => exact absurd rfl (h b)
  | _ => rfl

theorem unmet?_fails :
    (unmet? flags name required).isOk = false ↔ Unanswered flags name required := by
  by_cases hbool : ∃ b, required = .bool b
  · obtain ⟨b, rfl⟩ := hbool
    rw [unmet?_bool, isOk_map, truthOf]
    constructor
    · intro hfails
      split at hfails
      · rename_i v hv
        rw [isOk_mapError, truthy_fails] at hfails
        obtain ⟨n, rfl, hn⟩ := hfails
        exact .beyond hv hn
      · cases hfails
    · intro h
      cases h with
      | beyond hv hn =>
        rw [hv]
        exact isOk_mapError.trans (truthy_fails.mpr ⟨_, rfl, hn⟩)
      | untold hother => exact absurd rfl (hother b)
  · have hother : ∀ b, required ≠ .bool b := fun b hb => hbool ⟨b, hb⟩
    rw [unmet?_other hother]
    split
    · rename_i hequal
      refine ⟨fun hfails => (by cases hfails), fun h => ?_⟩
      cases h with
      | beyond => exact absurd rfl (hother _)
      | untold _ hdiffers => cases hequal.symm.trans hdiffers
    · rename_i hdiffers
      rw [isOk_map, isOk_mapError, toText_tellable]
      refine ⟨fun htext => .untold hother (Bool.not_eq_true _ ▸ hdiffers) htext, fun h => ?_⟩
      cases h with
      | beyond => exact absurd rfl (hother _)
      | untold _ _ htext => exact htext

theorem unmet_fails {requirements : Entries Value} : (unmet flags requirements).isOk = false ↔
    ∃ r ∈ requirements, Unanswered flags r.1 r.2 := by
  induction requirements with
  | nil => simp [unmet]
  | cons entry rest ih =>
    obtain ⟨name, required⟩ := entry
    rw [unmet, Json.isOk_bind_bind_pure, Bool.and_eq_false_iff, unmet?_fails, ih]
    simp

/-- Too few of an item are held, and the numbers cannot be told. -/
def Uncounted (inventory : Entries Value) (item : String) (need : Number) : Prop :=
  (held inventory item).less need = true ∧
    (need.isShort = false ∨ (held inventory item).isShort = false)

theorem lacking_fails {items : Entries Value}
    (h : ∀ item ∈ items, ∃ n : Number, item.2 = .number n) :
    (lacking inventory items).isOk = false ↔
      ∃ item ∈ items, ∃ need : Number, item.2 = .number need ∧ Uncounted inventory item.1 need := by
  induction items with
  | nil => simp [lacking]
  | cons entry rest ih =>
    obtain ⟨item, v⟩ := entry
    obtain ⟨⟨need, rfl⟩, hrest⟩ := List.forall_mem_cons.mp h
    have hstep : (lacking inventory ((item, .number need) :: rest)).isOk = false ↔
        Uncounted inventory item need ∨ (lacking inventory rest).isOk = false := by
      simp only [lacking, Value.quantity?, toText, Uncounted]
      split
      · rename_i hless
        rw [← numberText_tellable need, ← numberText_tellable (held inventory item)]
        simp only [hless, true_and]
        cases numberText need <;> cases numberText (held inventory item) <;>
          cases lacking inventory rest <;>
          simp
      · rename_i hless
        simp [hless]
    rw [hstep, ih hrest]
    simp

/-- A rule accepts a choice. -/
def Passes (rule : Rule) (c : Choice) (x : RuleContext) : Prop :=
  ∃ v, rule.check c x = .ok v ∧ v.valid = true

variable {c : Choice} {x : RuleContext}

theorem choiceExists_isOk : (choiceExists.check c x).isOk = true := by
  simp only [choiceExists, checkExists]
  split <;> rfl

theorem choiceEnabled_isOk : (choiceEnabled.check c x).isOk = true := by
  simp only [choiceEnabled, checkEnabled]
  split <;> rfl

theorem timeConditions_isOk : (timeConditions.check c x).isOk = true := by
  simp only [timeConditions, checkTime]
  split
  · rfl
  · split <;> rfl

theorem flagConditions_isOk :
    (flagConditions.check c x).isOk = (unmet x.state.flags c.requirements).isOk := by
  simp only [flagConditions, checkFlags]
  cases unmet x.state.flags c.requirements with
  | error f => rfl
  | ok found =>
    simp only [ok_bind]
    split <;> rfl

theorem flagConditions_fails : (flagConditions.check c x).isOk = false ↔
    ∃ r ∈ c.requirements, Unanswered x.state.flags r.1 r.2 := by
  rw [flagConditions_isOk, unmet_fails]

theorem inventoryConditions_isOk : (inventoryConditions.check c x).isOk =
    (lacking (inventoryOf x.state.flags) c.inventory).isOk := by
  simp only [inventoryConditions, checkInventory]
  cases lacking (inventoryOf x.state.flags) c.inventory with
  | error f => rfl
  | ok missing =>
    simp only [ok_bind]
    split <;> rfl

theorem inventoryConditions_fails (h : ∀ item ∈ c.inventory, ∃ n : Number, item.2 = .number n) :
    (inventoryConditions.check c x).isOk = false ↔ ∃ item ∈ c.inventory, ∃ need : Number,
      item.2 = .number need ∧ Uncounted (inventoryOf x.state.flags) item.1 need := by
  rw [inventoryConditions_isOk, lacking_fails h]

end Rule

/-- The standard rules come to no verdict on a choice: it exists, and the flags give no answer to
what it requires, or all else is well, and what is missing cannot be told. -/
inductive Choice.Undecided (c : Choice) (x : RuleContext) : Prop
  | unanswered {r : String × Value} : Rule.choiceExists.Passes c x → r ∈ c.requirements →
    Rule.Unanswered x.state.flags r.1 r.2 → Undecided c x
  | uncounted {item : String × Value} {need : Number} : Rule.choiceExists.Passes c x →
    Rule.flagConditions.Passes c x → Rule.choiceEnabled.Passes c x →
    Rule.timeConditions.Passes c x → item ∈ c.inventory → item.2 = .number need →
    Rule.Uncounted (Rule.inventoryOf x.state.flags) item.1 need → Undecided c x

/-- A choice whose numbers are all in range can be decided on. -/
theorem Choice.InRange.decided {c : Choice} (hc : c.InRange) {x : RuleContext}
    (hx : Value.allFieldsInRange x.state.flags = true) : ¬ c.Undecided x := by
  intro hun
  cases hun with
  | @unanswered r _ hr hunanswered =>
    obtain ⟨name, required⟩ := r
    cases hunanswered with
    | beyond hv hn =>
      have hflag : (Value.number (.int _)).inRange = true := Value.inRange_of_get? hx hv
      exact absurd hn (Option.isSome_iff_ne_none.mp hflag)
    | untold _ _ hlong =>
      have hrequired : required.inRange = true := Value.allFieldsInRange_iff.mp hc.requirements _ hr
      exact absurd (Value.tellable_of_inRange hrequired) (Bool.eq_false_iff.mp hlong)
  | @uncounted item need _ _ _ _ hitem hneed huncounted =>
    have hheld : (Rule.held (Rule.inventoryOf x.state.flags) item.1).inRange = true :=
      Rule.held_inRange (Rule.inventoryOf_inRange hx) item.1
    obtain ⟨n, hn, hrange⟩ := hc.counts item hitem
    cases hn.symm.trans hneed
    rcases huncounted.2 with hlong | hlong
    · exact absurd (Number.isShort_of_inRange hrange) (Bool.eq_false_iff.mp hlong)
    · exact absurd (Number.isShort_of_inRange hheld) (Bool.eq_false_iff.mp hlong)

namespace Registry
variable {c : Choice} {x : RuleContext} {r : Registry}

/-- Rules come to no verdict if the first does not, or if it accepts and the others do not. -/
theorem firstFailure?_fails {rule : Rule} {rest : List Rule} {passed : Nat} :
    (firstFailure? c x passed (rule :: rest)).isOk = false ↔
      (rule.check c x).isOk = false ∨
        rule.Passes c x ∧ (firstFailure? c x (passed + 1) rest).isOk = false := by
  rw [firstFailure?, Rule.Passes]
  cases rule.check c x with
  | error f => simp
  | ok v =>
    cases hvalid : v.valid <;>
      simp [hvalid]

theorem validate_fails :
    (r.validate c x).isOk = false ↔ (firstFailure? c x 0 r.rules).isOk = false := by
  rw [validate]
  cases firstFailure? c x 0 r.rules with
  | error f => rfl
  | ok failure => cases failure <;> rfl

theorem standard_fails (h : ∀ item ∈ c.inventory, ∃ n : Number, item.2 = .number n) :
    (standard.validate c x).isOk = false ↔ c.Undecided x := by
  rw [validate_fails, standard_rules, Rule.standard]
  simp only [firstFailure?_fails, Rule.choiceExists_isOk, Rule.flagConditions_fails,
    Rule.choiceEnabled_isOk, Rule.timeConditions_isOk, Rule.inventoryConditions_fails h]
  constructor
  · rintro (hno | ⟨hexists, ⟨r, hr, hunanswered⟩ | ⟨hflags, hno | ⟨henabled, hno | ⟨htime,
      ⟨item, hitem, need, hneed, huncounted⟩ | ⟨_, hno⟩⟩⟩⟩⟩)
    · cases hno
    · exact .unanswered hexists hr hunanswered
    · cases hno
    · cases hno
    · exact .uncounted hexists hflags henabled htime hitem hneed huncounted
    · cases hno
  · rintro (⟨hexists, hr, hunanswered⟩ | ⟨hexists, hflags, henabled, htime, hitem, hneed, hun⟩)
    · exact .inr ⟨hexists, .inl ⟨_, hr, hunanswered⟩⟩
    · exact .inr ⟨hexists, .inr ⟨hflags, .inr ⟨henabled, .inr ⟨htime,
        .inl ⟨_, hitem, _, hneed, hun⟩⟩⟩⟩⟩

theorem standard_validate_isOk (hc : c.InRange)
    (hx : Value.allFieldsInRange x.state.flags = true) :
    (standard.validate c x).isOk = true := by
  by_contra hfails
  have hcounted : ∀ item ∈ c.inventory, ∃ n : Number, item.2 = .number n :=
    fun item hitem => (hc.counts item hitem).imp fun _ hn => hn.1
  exact hc.decided hx ((standard_fails hcounted).mp (Bool.eq_false_iff.mpr hfails))

theorem available_fails {cs : List Choice} :
    (r.available x cs).isOk = false ↔ ∃ c ∈ cs, (r.validate c x).isOk = false := by
  induction cs with
  | nil => simp [available]
  | cons c rest ih =>
    rw [available, Json.isOk_bind_bind_pure, Bool.and_eq_false_iff, ih]
    simp

end Registry

namespace Story

/-- A story all of whose quantities are numbers. -/
def Counted (s : Story) : Prop := ∀ q ∈ s.asked, ∃ n : Number, q = .number n

theorem Counted.choice {s : Story} (h : s.Counted) {n : Node} (hn : n ∈ s.nodes) {c : Choice}
    (hc : c ∈ n.choices) : ∀ item ∈ c.inventory, ∃ need : Number, item.2 = .number need := by
  intro item hitem
  refine h item.2 (List.mem_flatMap.mpr ⟨n, hn, List.mem_flatMap.mpr ⟨c, hc, ?_⟩⟩)
  exact List.mem_map_of_mem hitem

end Story

namespace Engine
variable {e : Engine} {seen : List Choice} {time : Option Number} {customData : Entries Value}

/-- How an engine falters with some choices in sight: it cannot say which are available, or whether
any is, exactly if one of them is undecided, and it has no verdict on a choice exactly if that one
is. -/
structure Falters (e : Engine) (seen : List Choice) (time : Option Number)
    (customData : Entries Value) (x : RuleContext) : Prop where
  available : (e.available time customData).1.isOk = false ↔ ∃ c ∈ seen, c.Undecided x
  verdict : customData = [] → ∀ n ∈ e.story.nodes, ∀ c ∈ n.choices,
    ((e.verdict c time).1.isOk = false ↔ c.Undecided x)
  complete : customData = [] → time = none →
    (e.isComplete.1.isOk = false ↔ ∃ c ∈ seen, c.Undecided x)

theorem verdict_fst (e : Engine) (c : Choice) (time : Option Number) :
    (e.verdict c time).1 = ((e.visible []).1 >>= fun seen => do
      let x ← e.ruleContext seen time
      (e.rules.validate c x).mapError .rule) := by
  obtain ⟨evaluator, hev⟩ := visible_keeps (e := e) []
  unfold verdict
  rcases hv : e.visible [] with ⟨r, e₁⟩
  rw [hv] at hev
  cases hev
  cases r <;> rfl

theorem isComplete_fst (e : Engine) :
    e.isComplete.1 = (e.available none []).1.map List.isEmpty := by
  unfold isComplete
  rcases e.available none [] with ⟨r, e₁⟩
  cases r <;> rfl

theorem falters (h : e.story.Counted) (hr : e.rules = .standard)
    (hv : (e.visible customData).1 = .ok seen) :
    ∃ x, e.ruleContext seen time = .ok x ∧ e.Falters seen time customData x := by
  obtain ⟨node, _, hn, hshown, _⟩ := visible_eq_ok hv
  have hx : e.ruleContext seen time =
      .ok ⟨node, e.state, seen, time.getD (.double e.ambient.milliseconds)⟩ := by
    rw [ruleContext, hn]
    rfl
  have hstandard : ∀ n ∈ e.story.nodes, ∀ c ∈ n.choices, ∀ x,
      (e.rules.validate c x).isOk = false ↔ c.Undecided x := fun n hn c hc x =>
    hr ▸ Registry.standard_fails (h.choice hn hc)
  have havailable : (e.available time customData).1.isOk = false ↔ ∃ c ∈ seen,
      c.Undecided ⟨node, e.state, seen, time.getD (.double e.ambient.milliseconds)⟩ := by
    rw [available_fst, hv]
    simp only [ok_bind, hx, isOk_mapError, Registry.available_fails]
    refine exists_congr fun c => and_congr_right fun hc => ?_
    exact hstandard node (node_mem hn) c (shown_subset hshown hc) _
  refine ⟨_, hx, havailable, ?_, ?_⟩
  · rintro rfl n hnode c hc
    rw [verdict_fst, hv]
    simp only [ok_bind, hx, isOk_mapError]
    exact hstandard n hnode c hc _
  · rintro rfl rfl
    rwa [isComplete_fst, isOk_map]

/-- In a story whose quantities are numbers, the standard rules fail to judge a choice exactly if it
is undecided: a flag that has to be true or false is an integer that has no double, or an integer
that has to be told is too long. Once the choices in sight are known, nothing else keeps an engine
from saying which of them are available. -/
theorem validates_unless_undecided {story : Story} (h : story.Counted) :
    (∀ n ∈ story.nodes, ∀ c ∈ n.choices, ∀ x,
      (Registry.standard.validate c x).isOk = false ↔ c.Undecided x) ∧
    ∀ (e : Engine) (time : Option Number) (customData : Entries Value) (seen : List Choice),
      e.story = story → e.rules = .standard → (e.visible customData).1 = .ok seen →
      ∃ x, e.ruleContext seen time = .ok x ∧ e.Falters seen time customData x := by
  refine ⟨fun n hn c hc x => Registry.standard_fails (h.choice hn hc), ?_⟩
  intro e time customData seen hstory hr hv
  subst hstory
  exact falters h hr hv

def goldenWay : Choice := { openWay with requirements := [("gold", .bool true)] }

def hoard : Int := 10 ^ 400

theorem hoard_beyond : Double.ofInt? hoard = none := Double.ofInt?_ten_pow (by decide)

/-- A required truth is undecided on an integer beyond the doubles. Then it cannot be told what is
available, whether the choice is valid, or whether the story has ended. -/
theorem validates_unless_undecided_hoard :
    let e : Engine :=
      { atGateWith [goldenWay] with state := ⟨"gate", [("gold", .int hoard)], ["gate"]⟩ };
    (gateWith [goldenWay]).Counted ∧ e.story = gateWith [goldenWay] ∧ e.rules = .standard ∧
      (e.visible []).1 = .ok [goldenWay] ∧ (e.available none []).1.isOk = false ∧
      (e.verdict goldenWay none).1.isOk = false ∧ e.isComplete.1.isOk = false := by
  intro e
  have hcounted : (gateWith [goldenWay]).Counted := by
    intro q hq
    simp [Story.asked, gateWith, goldenWay, openWay, Entries.values] at hq
  have hv : (e.visible []).1 = .ok [goldenWay] := rfl
  obtain ⟨_, hengine⟩ := validates_unless_undecided hcounted
  obtain ⟨x, hx, hfalters⟩ := hengine e none [] [goldenWay] rfl rfl hv
  have hun : goldenWay.Undecided x := by
    cases hx
    exact .unanswered ⟨_, rfl, rfl⟩ (List.mem_singleton_self _) (.beyond rfl hoard_beyond)
  refine ⟨hcounted, rfl, rfl, hv, hfalters.available.mpr ⟨_, List.mem_singleton_self _, hun⟩, ?_,
    (hfalters.complete rfl rfl).mpr ⟨_, List.mem_singleton_self _, hun⟩⟩
  exact (hfalters.verdict rfl _ List.mem_cons_self _ List.mem_cons_self).mpr hun

end Engine
end Storyline
