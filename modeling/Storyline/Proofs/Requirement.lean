import Storyline.Proofs.Line
import Storyline.Proofs.Undecided

namespace Storyline

theorem Number.exists_place {n : Number} (h : n.inRange = true) : ∃ x, n.place? = some x := by
  cases n with
  | int n => exact ⟨_, rfl⟩
  | double d =>
    cases d with
    | finite => exact ⟨_, rfl⟩
    | nan => cases h
    | infinite => cases h

theorem Double.isNaN_of_ofInt? {n : Int} {d : Double} (h : ofInt? n = some d) :
    d.isNaN = false := by
  have hplace := place?_ofRatio (n < 0) n.natAbs Nat.one_pos
  unfold ofInt? at h
  split at h
  · cases h
  · cases h
    cases hd : ofRatio (n < 0) n.natAbs 1 with
    | nan => rw [hd] at hplace; cases hplace
    | _ => rfl

namespace Value

/-- What counts as false among the values of a document. -/
inductive Falsy : Value → Prop
  | null : Falsy .null
  | no : Falsy (.bool false)
  | zero {n : Number} : n.place? = some 0 → Falsy (.number n)
  | blank : Falsy (.text "")

/-- Equality of the values of documents: numbers by size, lists item by item, and records whatever
the order of their fields. A truth is no number. -/
inductive Agrees : Value → Value → Prop
  | null : Agrees .null .null
  | bool (b : Bool) : Agrees (.bool b) (.bool b)
  | number {m n : Number} {x : EReal} : m.place? = some x → n.place? = some x →
    Agrees (.number m) (.number n)
  | text (s : String) : Agrees (.text s) (.text s)
  | list {as bs : List Value} : as.length = bs.length →
    (∀ (i : Nat) (a b : Value), as[i]? = some a → bs[i]? = some b → Agrees a b) →
    Agrees (.list as) (.list bs)
  | record {as bs : Entries Value} : (∀ k, (as.get? k).isSome = (bs.get? k).isSome) →
    (∀ k a b, as.get? k = some a → bs.get? k = some b → Agrees a b) →
    Agrees (.record as) (.record bs)

mutual

/-- A value of a document is equal to a copy of itself. -/
theorem Agrees.refl : ∀ {v : Value}, v.inRange = true → v.Agrees v
  | .null, _ => .null
  | .bool b, _ => .bool b
  | .number _, h =>
    have ⟨_, hx⟩ := Number.exists_place h
    .number hx hx
  | .text s, _ => .text s
  | .list items, h => by
    refine .list rfl fun i a b ha hb => ?_
    cases ha.symm.trans hb
    exact Agrees.refl_items h a (List.mem_of_getElem? ha)
  | .record fields, h => by
    refine .record (fun _ => rfl) fun k a b ha hb => ?_
    cases ha.symm.trans hb
    exact Agrees.refl_fields h (k, a) (Entries.mem_of_get? ha)

theorem Agrees.refl_items : ∀ {vs : List Value}, allInRange vs = true → ∀ v ∈ vs, v.Agrees v
  | [], _ => List.forall_mem_nil _
  | _ :: _, h => by
    obtain ⟨hv, hrest⟩ := Bool.and_eq_true_iff.mp h
    exact List.forall_mem_cons.mpr ⟨Agrees.refl hv, Agrees.refl_items hrest⟩

theorem Agrees.refl_fields : ∀ {fields : List (String × Value)}, allFieldsInRange fields = true →
    ∀ e ∈ fields, e.2.Agrees e.2
  | [], _ => List.forall_mem_nil _
  | (_, _) :: _, h => by
    obtain ⟨hv, hrest⟩ := Bool.and_eq_true_iff.mp h
    exact List.forall_mem_cons.mpr ⟨Agrees.refl hv, Agrees.refl_fields hrest⟩

end

/-- The rules take two values for equal if they are, and are no containers. -/
theorem strictEquals_iff {v w : Value} (h : v.isPlain = true) :
    v.strictEquals w = true ↔ v.Agrees w ∧ w.isObject = false := by
  constructor
  · intro heq
    unfold strictEquals at heq
    split at heq
    · cases h
    · exact ⟨.null, rfl⟩
    · rename_i a b
      obtain rfl : a = b := beq_iff_eq.mp heq
      exact ⟨.bool a, rfl⟩
    · obtain ⟨x, ha, hb⟩ := Number.same_iff.mp heq
      exact ⟨.number ha hb, rfl⟩
    · rename_i a b
      obtain rfl : a = b := beq_iff_eq.mp heq
      exact ⟨.text a, rfl⟩
    · cases heq
  · rintro ⟨hagrees, hw⟩
    cases hagrees with
    | null => rfl
    | bool b => exact beq_self_eq_true b
    | number ha hb => exact Number.same_iff.mpr ⟨_, ha, hb⟩
    | text s => exact beq_self_eq_true s
    | list => cases hw
    | record => cases hw

theorem truthy_eq_false {v : Value} (h : v.inRange = true) : v.truthy = .ok false ↔ v.Falsy := by
  cases v with
  | undefined => cases h
  | null => exact ⟨fun _ => .null, fun _ => rfl⟩
  | bool b =>
    cases b with
    | false => exact ⟨fun _ => .no, fun _ => rfl⟩
    | true => constructor <;> intro hno <;> cases hno
  | number n =>
    have hnumber : (Value.number n).Falsy ↔ n.isZero = true := by
      rw [Number.isZero_iff]
      exact ⟨fun hfalsy => (by cases hfalsy; assumption), .zero⟩
    obtain ⟨d, hd, hnan⟩ : ∃ d, n.toDouble = .ok d ∧ d.isNaN = false := by
      cases n with
      | int n =>
        obtain ⟨d, hd⟩ := Option.isSome_iff_exists.mp h
        exact ⟨d, by simp [Number.toDouble, hd], Double.isNaN_of_ofInt? hd⟩
      | double d =>
        refine ⟨d, rfl, ?_⟩
        cases d with
        | nan => cases h
        | _ => rfl
    rw [hnumber, truthy, Number.isNaN, hd]
    simp [hnan]
  | text s =>
    have htext : (Value.text s).Falsy ↔ s = "" :=
      ⟨fun hfalsy => (by cases hfalsy; rfl), fun hs => hs ▸ .blank⟩
    rw [htext, truthy]
    simp
  | list => constructor <;> intro hno <;> cases hno
  | record => constructor <;> intro hno <;> cases hno
  | host => cases h

theorem truthy_eq_true {v : Value} (h : v.inRange = true) : v.truthy = .ok true ↔ ¬ v.Falsy := by
  obtain ⟨b, hb⟩ := isOk_eq_true.mp (truthy_isOk h)
  rw [← truthy_eq_false h, hb]
  simp

end Value

namespace Rule
open Value
variable {flags : Entries Value} {c : Choice} {x : RuleContext} {name : String} {required : Value}

/-- What a requirement means: the flag is set and true, or it is not, or it is set to a value equal
to the required one. -/
def Means (flags : Entries Value) : String × Value → Prop
  | (name, .bool true) => ∃ v, flags.get? name = some v ∧ ¬ v.Falsy
  | (name, .bool false) => ∀ v, flags.get? name = some v → v.Falsy
  | (name, required) => ∃ v, flags.get? name = some v ∧ v.Agrees required

/-- What the rule makes of it: nothing is equal to a container. -/
def Met (flags : Entries Value) (r : String × Value) : Prop :=
  Means flags r ∧ r.2.isObject = false

/-- How a requirement is told: by the name of the flag, and the value where one has to be equal. -/
def told : String × Value → Except NumberFault String
  | (name, .bool _) => .ok name
  | (name, required) => required.toText.map fun shown => name ++ "=" ++ shown

theorem means_other (h : ∀ b, required ≠ .bool b) :
    Means flags (name, required) ↔ ∃ v, flags.get? name = some v ∧ v.Agrees required := by
  cases required with
  | bool b => exact absurd rfl (h b)
  | _ => rfl

theorem told_other (h : ∀ b, required ≠ .bool b) :
    told (name, required) = required.toText.map fun shown => name ++ "=" ++ shown := by
  cases required with
  | bool b => exact absurd rfl (h b)
  | _ => rfl

/-- A requirement for another value than a truth is met if the flag is taken to be equal. -/
theorem met_other (hplain : ∀ v, flags.get? name = some v → v.isPlain = true)
    (h : ∀ b, required ≠ .bool b) :
    Met flags (name, required) ↔ (flags.get? name).any (·.strictEquals required) = true := by
  rw [Met, means_other h]
  cases hv : flags.get? name with
  | none => simp
  | some v =>
    rw [Option.any_some, strictEquals_iff (hplain v hv)]
    simp

/-- What is missing or in conflict where a requirement is not met. -/
def lack : String × Value → String → Unmet
  | (_, .bool false), s => .conflicting s
  | _, s => .missing s

theorem lack_other (h : ∀ b, required ≠ .bool b) (s : String) :
    lack (name, required) s = .missing s := by
  cases required with
  | bool b => exact absurd rfl (h b)
  | _ => rfl

theorem truthOf_isOk (hf : allFieldsInRange flags = true) (name : String) :
    (truthOf flags name).isOk = true := by
  unfold truthOf
  split
  · rename_i v hv
    exact isOk_mapError.trans (truthy_isOk (inRange_of_get? hf hv))
  · rfl

/-- A requirement for a truth is met if the flag has that truth. -/
theorem met_truth (hf : allFieldsInRange flags = true) (b : Bool) :
    Met flags (name, .bool b) ↔ truthOf flags name = .ok b := by
  have hmeans : Met flags (name, .bool b) ↔ Means flags (name, .bool b) := and_iff_left rfl
  rw [hmeans, truthOf]
  cases hv : flags.get? name with
  | none => cases b <;> simp [Means, hv]
  | some v =>
    have hrange : v.inRange = true := inRange_of_get? hf hv
    rw [mapError_eq_ok]
    cases b with
    | false => simp [truthy_eq_false hrange, Means, hv]
    | true => simp [truthy_eq_true hrange, Means, hv]

open Classical in
theorem unmet?_eq (hf : allFieldsInRange flags = true) (r : String × Value) :
    unmet? flags r.1 r.2 = if Met flags r then .ok none
      else ((told r).mapError .number).map fun s => some (lack r s) := by
  obtain ⟨name, required⟩ := r
  by_cases hbool : ∃ b, required = .bool b
  · obtain ⟨b, rfl⟩ := hbool
    obtain ⟨truth, htruth⟩ := isOk_eq_true.mp (truthOf_isOk hf name)
    simp only [unmet?_bool, met_truth hf, htruth]
    cases b <;> cases truth <;> rfl
  · have hother : ∀ b, required ≠ .bool b := fun b hb => hbool ⟨b, hb⟩
    have hmet : Met flags (name, required) ↔ _ :=
      met_other (fun _ hv => plain_of_inRange (inRange_of_get? hf hv)) hother
    rw [unmet?_other hother, told_other hother]
    simp only [hmet, lack_other hother]
    split
    · rfl
    · cases required.toText <;> rfl

theorem unmet_cons_eq_ok {r : String × Value} {rest : Entries Value} {found : List Unmet} :
    unmet flags (r :: rest) = .ok found ↔ ∃ first, unmet? flags r.1 r.2 = .ok first ∧
      ∃ more, unmet flags rest = .ok more ∧ first.toList ++ more = found := by
  simp only [unmet, bind_eq_ok, pure_eq_ok]

open Classical in
/-- What is lacking are the requirements that are not met, in their order, as they are told. -/
theorem unmet_eq_ok (hf : allFieldsInRange flags = true) {requirements : Entries Value}
    {found : List Unmet} : unmet flags requirements = .ok found ↔
      List.Forall₂ (fun r u => ∃ s, told r = .ok s ∧ lack r s = u)
        (requirements.filter fun r => ¬ Met flags r) found := by
  induction requirements generalizing found with
  | nil =>
    rw [unmet, List.filter_nil, List.forall₂_nil_left_iff]
    simp [eq_comm]
  | cons r rest ih =>
    simp only [unmet_cons_eq_ok, unmet?_eq hf, ih]
    by_cases hmet : Met flags r
    · rw [List.filter_cons_of_neg (by simpa using hmet), if_pos hmet]
      simp
    · rw [List.filter_cons_of_pos (by simpa using hmet), if_neg hmet, List.forall₂_cons_left_iff]
      constructor
      · rintro ⟨first, hfirst, more, hmore, rfl⟩
        obtain ⟨s, hs, rfl⟩ := map_eq_ok.mp hfirst
        exact ⟨lack r s, more, ⟨s, mapError_eq_ok.mp hs, rfl⟩, hmore, rfl⟩
      · rintro ⟨u, more, ⟨s, hs, rfl⟩, hmore, rfl⟩
        exact ⟨some (lack r s), map_eq_ok.mpr ⟨s, mapError_eq_ok.mpr hs, rfl⟩, more, hmore, rfl⟩

open Classical in
theorem unmet_tells (hf : allFieldsInRange flags = true) {requirements : Entries Value} :
    (unmet flags requirements).isOk = true ↔
      ∀ r ∈ requirements, ¬ Met flags r → (told r).isOk = true := by
  induction requirements with
  | nil => simp [unmet]
  | cons r rest ih =>
    rw [unmet, Json.isOk_bind_bind_pure, Bool.and_eq_true, unmet?_eq hf, ih, List.forall_mem_cons]
    refine and_congr_left fun _ => ?_
    split
    · rename_i hmet
      exact ⟨fun _ hno => absurd hmet hno, fun _ => rfl⟩
    · rename_i hmet
      rw [isOk_map, isOk_mapError]
      exact ⟨fun h _ => h, fun h => h hmet⟩

def missing (found : List Unmet) : List String :=
  found.filterMap fun | .missing s => some s | _ => none

def conflicting (found : List Unmet) : List String :=
  found.filterMap fun | .conflicting s => some s | _ => none

open Classical in
/-- What is missing belongs to the flags that have to be set, and what is in conflict to the
others. -/
theorem missing_conflicting {lacking : Entries Value} {found : List Unmet}
    (h : List.Forall₂ (fun r u => ∃ s, told r = .ok s ∧ lack r s = u) lacking found) :
    List.Forall₂ (fun r s => told r = .ok s) (lacking.filter (·.2 ≠ .bool false)) (missing found) ∧
    List.Forall₂ (fun r s => told r = .ok s) (lacking.filter (·.2 = .bool false))
      (conflicting found) := by
  induction h with
  | nil => exact ⟨.nil, .nil⟩
  | @cons r u lacking found hr _ ih =>
    obtain ⟨hmissing, hconflicting⟩ := ih
    obtain ⟨s, hs, rfl⟩ := hr
    obtain ⟨name, required⟩ := r
    by_cases hfalse : required = .bool false
    · subst hfalse
      exact ⟨by simpa [missing, lack] using hmissing,
        by simpa [conflicting, lack, hs] using hconflicting⟩
    · have hlack : lack (name, required) s = .missing s := by
        cases required with
        | bool b => cases b <;> first | rfl | exact absurd rfl hfalse
        | _ => rfl
      exact ⟨by simpa [missing, hlack, hfalse, hs] using hmissing,
        by simpa [conflicting, hlack, hfalse] using hconflicting⟩

/-- The verdict tells what is missing, and behind that what is in conflict. -/
theorem flagConditions_verdict {found : List Unmet}
    (h : unmet x.state.flags c.requirements = .ok found) :
    ∃ v, flagConditions.check c x = .ok v ∧ v.valid = found.isEmpty ∧
      v.failedConditions = missing found ++ conflicting found := by
  simp only [flagConditions, checkFlags, h, ok_bind]
  cases found with
  | nil => exact ⟨_, rfl, rfl, rfl⟩
  | cons u rest => exact ⟨_, rfl, rfl, rfl⟩

theorem flagConditions_eq_ok {v : Verdict} (h : flagConditions.check c x = .ok v) :
    ∃ found, unmet x.state.flags c.requirements = .ok found ∧ v.valid = found.isEmpty ∧
      v.failedConditions = missing found ++ conflicting found := by
  have hok : (unmet x.state.flags c.requirements).isOk = true := by
    rw [← flagConditions_isOk, h]
    rfl
  obtain ⟨found, hfound⟩ := isOk_eq_true.mp hok
  obtain ⟨w, hw, hverdict⟩ := flagConditions_verdict hfound
  cases h.symm.trans hw
  exact ⟨found, hfound, hverdict⟩

open Classical in
/-- The requirements that are not met: those of flags that have to be set, and then the others. -/
noncomputable def broken (flags requirements : Entries Value) : Entries Value :=
  let lacking := requirements.filter fun r => ¬ Met flags r
  lacking.filter (·.2 ≠ .bool false) ++ lacking.filter (·.2 = .bool false)

/-- What the rule of the flags requires of a state, and what it tells of one that falls short. -/
structure Requires (c : Choice) (x : RuleContext) : Prop where
  passes : flagConditions.Passes c x ↔ ∀ r ∈ c.requirements, Met x.state.flags r
  decides : (flagConditions.check c x).isOk = true ↔
    ∀ r ∈ c.requirements, ¬ Met x.state.flags r → (told r).isOk = true
  lists : ∀ v, flagConditions.check c x = .ok v → v.valid = false →
    List.Forall₂ (fun r s => told r = .ok s) (broken x.state.flags c.requirements)
      v.failedConditions

open Classical in
theorem requires (hf : allFieldsInRange x.state.flags = true) : Requires c x where
  passes := by
    constructor
    · rintro ⟨v, hv, hvalid⟩
      obtain ⟨found, hfound, hempty, _⟩ := flagConditions_eq_ok hv
      obtain rfl : found = [] := List.isEmpty_iff.mp (hempty.symm.trans hvalid)
      have hnone := List.forall₂_nil_right_iff.mp ((unmet_eq_ok hf).mp hfound)
      intro r hr
      simpa using List.filter_eq_nil_iff.mp hnone r hr
    · intro hall
      have hnone : (c.requirements.filter fun r => ¬ Met x.state.flags r) = [] :=
        List.filter_eq_nil_iff.mpr fun r hr => by simpa using hall r hr
      have hfound : unmet x.state.flags c.requirements = .ok [] :=
        (unmet_eq_ok hf).mpr (hnone ▸ .nil)
      obtain ⟨v, hv, hvalid, _⟩ := flagConditions_verdict hfound
      exact ⟨v, hv, hvalid⟩
  decides := by rw [flagConditions_isOk, unmet_tells hf]
  lists := by
    intro v hv _
    obtain ⟨found, hfound, _, hlists⟩ := flagConditions_eq_ok hv
    obtain ⟨hmissing, hconflicting⟩ := missing_conflicting ((unmet_eq_ok hf).mp hfound)
    rw [hlists]
    exact List.rel_append hmissing hconflicting

end Rule

namespace Engine
open Value Rule
variable {e e' : Engine} {c : Choice} {time : Option Number} {n : Node}

/-- After a choice the last of its effects on a flag holds. -/
theorem select_sets (h : e.Reachable) (hs : e.select c time = (.ok n, e')) {name : String}
    {v : Value} (hv : Entries.get? c.effects.reverse name = some v) :
    e'.state.flags.get? name = some v := by
  obtain ⟨_, evaluator, _, _, target, _, htake⟩ := select_eq_ok.mp hs
  obtain ⟨_, hstate⟩ := take_eq_ok (h.sound.withEvaluator evaluator) htake
  rw [hstate]
  calc (Entries.merge e.state.flags c.effects).get? name
    _ = (Entries.get? c.effects.reverse name).or (e.state.flags.get? name) :=
      Entries.get?_merge _ _ _
    _ = some v := by rw [hv, Option.some_or]

/-- The rule of the flags lets a choice pass if all that its requirements say holds and none of them
asks for a container. Otherwise it lists those that are not met, unless one of them cannot be told.
So a requirement of the value that a choice has just set holds, and is met unless that value is a
container. -/
theorem requirements_met {x : RuleContext} (hf : allFieldsInRange x.state.flags = true)
    (c : Choice) : Requires c x ∧
    ∀ (e e' : Engine) (d : Choice) (time : Option Number) (n : Node) (name : String) (v : Value),
      e.Reachable → e.select d time = (.ok n, e') → x.state = e'.state →
      Entries.get? d.effects.reverse name = some v → (∀ b, v ≠ .bool b) →
      Means x.state.flags (name, v) ∧
        (c.requirements = [(name, v)] → (flagConditions.Passes c x ↔ v.isObject = false)) := by
  refine ⟨requires hf, ?_⟩
  intro e e' d time n name v h hs hx hv hother
  have hset : x.state.flags.get? name = some v := hx ▸ select_sets h hs hv
  have hmeans : Means x.state.flags (name, v) :=
    (means_other hother).mpr ⟨v, hset, .refl (inRange_of_get? hf hset)⟩
  refine ⟨hmeans, fun hc => ?_⟩
  rw [(requires hf).passes, hc, List.forall_mem_singleton, Met]
  exact and_iff_right hmeans

/-- A choice that sets a list and a text, and two that require just these. -/
def stampingWay : Choice :=
  { openWay with effects := [("marks", .list [.int 1, .int 2]), ("rank", .text "captain")] }

def markedWay : Choice := { openWay with requirements := [("marks", .list [.int 1, .int 2])] }

def captainWay : Choice := { openWay with requirements := [("rank", .text "captain")] }

/-- A list that a choice has set does not meet the requirement of that list. A text that it has set
does. -/
theorem requirements_met_marks :
    ∃ n e', (atGateWith [stampingWay]).select stampingWay none = (.ok n, e') ∧
      ∀ x : RuleContext, x.state = e'.state → allFieldsInRange x.state.flags = true ∧
        Means x.state.flags ("marks", .list [.int 1, .int 2]) ∧
        ¬ flagConditions.Passes markedWay x ∧ flagConditions.Passes captainWay x := by
  have hs : (atGateWith [stampingWay]).select stampingWay none = (.ok ⟨"hall", "A hall.", []⟩,
      ((atGateWith [stampingWay]).select stampingWay none).2) := Prod.ext rfl rfl
  refine ⟨_, _, hs, fun x hx => ?_⟩
  have hf : allFieldsInRange x.state.flags = true := by
    rw [hx]
    rfl
  have hreach : (atGateWith [stampingWay]).Reachable := atGateWith_reachable _
  obtain ⟨hmeans, hmarked⟩ :=
    (requirements_met hf markedWay).2 _ _ _ _ _ "marks" _ hreach hs hx rfl nofun
  obtain ⟨_, hrank⟩ := (requirements_met hf captainWay).2 _ _ _ _ _ "rank" _ hreach hs hx rfl nofun
  refine ⟨hf, hmeans, fun hpasses => ?_, (hrank rfl).mpr rfl⟩
  cases (hmarked rfl).mp hpasses

end Engine
end Storyline
