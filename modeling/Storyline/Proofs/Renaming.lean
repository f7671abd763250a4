import Mathlib.Logic.Equiv.Basic
import Mathlib.Algebra.Group.End
import Mathlib.Algebra.Group.Nat.Defs
import Storyline.Proofs.Breakage
import Storyline.Proofs.Crowding
import Storyline.Proofs.Json.Text

namespace Storyline

namespace Text

theorem hexDigit_inj {n m : Nat} (hn : n < 16) (hm : m < 16) (h : hexDigit n = hexDigit m) :
    n = m := by
  have hvalue := Json.hexValue?_hexDigit hn
  rw [h, Json.hexValue?_hexDigit hm] at hvalue
  exact (Option.some.inj hvalue).symm

/-- Numbers with enough digits have digits of their own. -/
theorem hexDigits_inj {width n m : Nat} (hn : n < 16 ^ width) (hm : m < 16 ^ width)
    (h : hexDigits width n = hexDigits width m) : n = m := by
  induction width generalizing n m with
  | zero => omega
  | succ width ih =>
    rw [Nat.pow_succ] at hn hm
    obtain ⟨hhigh, hlow⟩ := List.append_inj' h rfl
    have hhigh := ih (Nat.div_lt_of_lt_mul (by omega)) (Nat.div_lt_of_lt_mul (by omega)) hhigh
    have hlow := hexDigit_inj (Nat.mod_lt n (by omega)) (Nat.mod_lt m (by omega))
      (List.singleton_inj.mp hlow)
    omega

end Text

/-- No id was given out twice. -/
def Ambient.Unrepeated (a : Ambient) : Prop :=
  ∀ n ≤ a.issued, ∀ m ≤ a.issued, id ⟨0, n⟩ = id ⟨0, m⟩ → n = m

theorem Ambient.unrepeated_of_lt {a : Ambient} (h : a.issued < 16 ^ 12) : a.Unrepeated :=
  fun _ hn _ hm hsame => Text.hexDigits_inj (Nat.lt_of_le_of_lt hn h) (Nat.lt_of_le_of_lt hm h)
    (String.ofList_injective hsame)

theorem Ambient.Unrepeated.earlier {a b : Ambient} (h : a.Unrepeated) (hle : b.issued ≤ a.issued) :
    b.Unrepeated :=
  fun n hn m hm => h n (Nat.le_trans hn hle) m (Nat.le_trans hm hle)

/-- The id of a checkpoint for which so many ids were given out. -/
def checkpointId (issued : Nat) : String := "cp-" ++ Ambient.id ⟨0, issued⟩

theorem checkpointId_issue (a : Ambient) : "cp-" ++ a.issue.id = checkpointId (a.issued + 1) := by
  simp only [checkpointId, Ambient.id, Ambient.issue]

theorem checkpointId_inj {a : Ambient} {n m : Nat} (h : a.Unrepeated) (hn : n ≤ a.issued)
    (hm : m ≤ a.issued) (hsame : checkpointId n = checkpointId m) : n = m :=
  h n hn m hm (by simpa [checkpointId] using hsame)

/-- Names can be exchanged so that some of them become given others. -/
theorem exists_renaming {α : Type} [DecidableEq α] {pairs : List (α × α)}
    (h : (pairs.map Prod.fst).Nodup) (h' : (pairs.map Prod.snd).Nodup) :
    ∃ ρ : Equiv.Perm α, (∀ p ∈ pairs, ρ p.1 = p.2) ∧
      ∀ x, x ∉ pairs.map Prod.fst → x ∉ pairs.map Prod.snd → ρ x = x := by
  induction pairs with
  | nil => exact ⟨1, List.forall_mem_nil _, fun _ _ _ => rfl⟩
  | cons p rest ih =>
    obtain ⟨a, b⟩ := p
    obtain ⟨ha, h⟩ := List.nodup_cons.mp h
    obtain ⟨hb, h'⟩ := List.nodup_cons.mp h'
    obtain ⟨ρ, hρ, hothers⟩ := ih h h'
    refine ⟨Equiv.swap (ρ a) b * ρ, ?_, ?_⟩
    · intro p hp
      rcases List.mem_cons.mp hp with rfl | hp
      · exact Equiv.swap_apply_left _ _
      · have hfirst : p.1 ≠ a := fun hsame => ha (List.mem_map.mpr ⟨p, hp, hsame⟩)
        have hsecond : p.2 ≠ b := fun hsame => hb (List.mem_map.mpr ⟨p, hp, hsame⟩)
        have hapart : p.2 ≠ ρ a := by
          rw [← hρ p hp]
          exact fun hsame => hfirst (ρ.injective hsame)
        rw [Equiv.Perm.mul_apply, hρ p hp, Equiv.swap_apply_of_ne_of_ne hapart hsecond]
    · intro x hx hx'
      simp only [List.map_cons, List.mem_cons, not_or] at hx hx'
      have hstays := hothers x hx.2 hx'.2
      have hapart : x ≠ ρ a := by
        intro hsame
        rw [← hstays] at hsame
        exact hx.1 (ρ.injective hsame)
      rw [Equiv.Perm.mul_apply, hstays, Equiv.swap_apply_of_ne_of_ne hapart hx'.1]

/-- The ids that one side gives out are called what the other side gives out in their place. -/
def InStep (ρ : String → String) (n m count : Nat) : Prop :=
  ∀ i < count, ρ (checkpointId (n + i + 1)) = checkpointId (m + i + 1)

theorem InStep.mono {ρ : String → String} {n m count count' : Nat} (h : InStep ρ n m count)
    (hle : count' ≤ count) : InStep ρ n m count' :=
  fun i hi => h i (Nat.lt_of_lt_of_le hi hle)

/-- The surroundings of the other side, after as many ids as were given out on this one. -/
def Ambient.along (a' a a₁ : Ambient) : Ambient := ⟨a₁.clock, a'.issued + (a₁.issued - a.issued)⟩

theorem Ambient.along_self {a a' : Ambient} (h : a'.clock = a.clock) : a'.along a a = a' := by
  rw [along, Nat.sub_self, Nat.add_zero, ← h]

theorem Ambient.along_issue {a a' : Ambient} (h : a'.clock = a.clock) :
    a'.issue = a'.along a a.issue := by
  have hissued : a.issue.issued - a.issued = 1 := Nat.add_sub_cancel_left _ _
  rw [along, hissued, issue, h]
  rfl

/-- One stretch of ids follows on another. -/
theorem Ambient.along_trans {a a₁ a₂ a' : Ambient} (h : a.issued ≤ a₁.issued)
    (h' : a₁.issued ≤ a₂.issued) : (a'.along a a₁).along a₁ a₂ = a'.along a a₂ := by
  have hsum : a'.issued + (a₁.issued - a.issued) + (a₂.issued - a₁.issued) =
      a'.issued + (a₂.issued - a.issued) := by omega
  simp only [along, hsum]

def Checkpoint.renamed (ρ : String → String) (c : Checkpoint) : Checkpoint :=
  { c with id := ρ c.id }

namespace Shelf
variable {ρ : String → String} {s : Shelf} {a a' : Ambient} {d : Draft}

def renamed (ρ : String → String) (s : Shelf) : Shelf :=
  { s with checkpoints := s.checkpoints.map (Checkpoint.renamed ρ) }

theorem renamed_id (s : Shelf) : s.renamed id = s := by
  have hsame : Checkpoint.renamed id = id := rfl
  rw [renamed, hsame, List.map_id]

theorem find?_renamed (h : Function.Injective ρ) (s : Shelf) (id : String) :
    (s.renamed ρ).find? (ρ id) = (s.find? id).map (Checkpoint.renamed ρ) := by
  have hsame : (fun c : Checkpoint => c.id == ρ id) ∘ Checkpoint.renamed ρ = (·.id == id) := by
    funext c
    simp [Checkpoint.renamed, h.eq_iff]
  rw [find?, renamed, List.find?_map, hsame, find?]

theorem has_renamed (h : Function.Injective ρ) (s : Shelf) (id : String) :
    (s.renamed ρ).has (ρ id) = s.has id := by
  rw [has, find?_renamed h, Option.isSome_map, has]

theorem stateOf?_renamed (h : Function.Injective ρ) (s : Shelf) (id : String) :
    (s.renamed ρ).stateOf? (ρ id) = s.stateOf? id := by
  rw [stateOf?, find?_renamed h, Option.map_map, stateOf?]
  rfl

theorem delete_renamed (h : Function.Injective ρ) (s : Shelf) (id : String) :
    (s.renamed ρ).delete (ρ id) = (s.delete id).renamed ρ := by
  have hsame : (fun c : Checkpoint => c.id != ρ id) ∘ Checkpoint.renamed ρ = (·.id != id) := by
    funext c
    simp [Checkpoint.renamed, bne, h.eq_iff]
  simp only [delete, renamed, List.filter_map, hsame]

theorem deleteAll_renamed (h : Function.Injective ρ) (s : Shelf) (ids : List String) :
    (ids.map ρ).foldl delete (s.renamed ρ) = (ids.foldl delete s).renamed ρ := by
  induction ids generalizing s with
  | nil => rfl
  | cons id rest ih => rw [List.map_cons, List.foldl_cons, delete_renamed h, ih, List.foldl_cons]

theorem put_renamed (h : Function.Injective ρ) (s : Shelf) (c : Checkpoint) :
    (s.renamed ρ).put (c.renamed ρ) = (s.put c).renamed ρ := by
  have hdelete := congrArg checkpoints (delete_renamed h s c.id)
  simp only [put, Checkpoint.renamed, hdelete]
  simp only [renamed, List.map_append, List.map_cons, List.map_nil, Checkpoint.renamed]

theorem mergeSort_renamed {β : Type} [LE β] [DecidableLE β] (key : String → β)
    (cs : List Checkpoint) :
    (cs.map (Checkpoint.renamed ρ)).mergeSort (fun a b => key a.timestamp ≤ key b.timestamp) =
      (cs.mergeSort fun a b => key a.timestamp ≤ key b.timestamp).map (Checkpoint.renamed ρ) := by
  symm
  apply List.map_mergeSort
  intro _ _ _ _
  rfl

theorem evictionOrder_renamed (strategy : Strategy) (cs : List Checkpoint) :
    evictionOrder strategy (cs.map (Checkpoint.renamed ρ)) =
      (evictionOrder strategy cs).map (Checkpoint.renamed ρ) := by
  cases strategy with
  | fifo => rfl
  | manual => rfl
  | timestamp => exact mergeSort_renamed Time.readStamp cs
  | lru => exact mergeSort_renamed Time.readStamp cs

/-- The same checkpoints are too many. -/
theorem cleanup_renamed (h : Function.Injective ρ) (s : Shelf) (o : CheckpointOptions) :
    (s.renamed ρ).cleanup o = (s.cleanup o).map fun r => (r.1, r.2.renamed ρ) := by
  have hstrategy : (s.renamed ρ).strategyFor o = s.strategyFor o := rfl
  unfold cleanup
  rw [hstrategy]
  cases s.strategyFor o with
  | error f => rfl
  | ok strategy =>
    simp only [ok_bind]
    split
    · rfl
    · have hgone : (excess ((s.renamed ρ).limitFor o)
          (evictionOrder strategy (s.renamed ρ).checkpoints)).map Checkpoint.id =
            ((excess (s.limitFor o) (evictionOrder strategy s.checkpoints)).map Checkpoint.id).map
              ρ := by
        have hlimit : (s.renamed ρ).limitFor o = s.limitFor o := rfl
        rw [hlimit, renamed, evictionOrder_renamed, excess, excess, List.length_map,
          ← List.map_take, List.map_map, List.map_map]
        rfl
      rw [hgone]
      generalize (excess (s.limitFor o) (evictionOrder strategy s.checkpoints)).map
        Checkpoint.id = gone
      have hsame : (fun c : Checkpoint => !(gone.map ρ).contains c.id) ∘ Checkpoint.renamed ρ =
          fun c => !gone.contains c.id := by
        funext c
        simp [Checkpoint.renamed, h.eq_iff]
      simp only [renamed, List.filter_map, hsame, List.length_map, pure_ok, map_ok]

theorem checkpointFor_renamed (hclock : a'.clock = a.clock)
    (hid : ρ ("cp-" ++ a.id) = "cp-" ++ a'.id) (s : Shelf) (d : Draft) :
    (s.renamed ρ).checkpointFor a' d = (s.checkpointFor a d).map (Checkpoint.renamed ρ) := by
  have hstamp : a'.stamp = a.stamp := by rw [Ambient.stamp, Ambient.stamp, hclock]
  unfold checkpointFor
  cases d.state.clone with
  | error f => rfl
  | ok state =>
    simp only [mapError_ok, ok_bind, pure_ok, map_ok, Checkpoint.renamed, hid, hstamp]
    rfl

def place (s : Shelf) (o : CheckpointOptions) :
    Except CheckpointFault Checkpoint → Except CheckpointFault Checkpoint × Shelf
  | .error fault => (.error fault, s)
  | .ok c =>
    match (s.put c).cleanup o with
    | .error fault => (.error fault, s.put c)
    | .ok (_, s') => (.ok c, s')

theorem place_renamed (h : Function.Injective ρ) (s : Shelf) (o : CheckpointOptions)
    (made : Except CheckpointFault Checkpoint) :
    (s.renamed ρ).place o (made.map (Checkpoint.renamed ρ)) =
      ((s.place o made).1.map (Checkpoint.renamed ρ), (s.place o made).2.renamed ρ) := by
  cases made with
  | error f => rfl
  | ok c =>
    have hcleanup := cleanup_renamed h (s.put c) o
    simp only [place, map_ok, put_renamed h]
    rw [hcleanup]
    cases (s.put c).cleanup o <;> rfl

theorem create_place (hcopy : Value.allFieldsCopyable d.metadata = true) :
    s.create a d = ((s.counting.place d.options (s.counting.checkpointFor a.issue d)).1,
      (s.counting.place d.options (s.counting.checkpointFor a.issue d)).2, a.issue) := by
  have hcounting :
      { s with created := s.created + 1, sequence := s.sequence + 1 } = s.counting := rfl
  simp only [create, hcopy, Bool.not_true, Bool.false_eq_true, if_false, hcounting]
  cases s.counting.checkpointFor a.issue d with
  | error f => rfl
  | ok c =>
    simp only [place]
    cases (s.counting.put c).cleanup d.options <;> rfl

/-- A new checkpoint comes to lie on the shelf in the same place. -/
theorem create_renamed (h : Function.Injective ρ) (hclock : a'.clock = a.clock) (s : Shelf)
    (d : Draft) (hids : InStep ρ a.issued a'.issued ((s.create a d).2.2.issued - a.issued)) :
    (s.renamed ρ).create a' d = ((s.create a d).1.map (Checkpoint.renamed ρ),
      (s.create a d).2.1.renamed ρ, a'.along a (s.create a d).2.2) := by
  cases hcopy : Value.allFieldsCopyable d.metadata with
  | false =>
    simp only [create, hcopy, Bool.not_false, if_true, Ambient.along_self hclock]
    rfl
  | true =>
    have hissued : a.issue.issued - a.issued = 1 := Nat.add_sub_cancel_left _ _
    rw [create_place hcopy, hissued] at hids
    have hid : ρ ("cp-" ++ a.issue.id) = "cp-" ++ a'.issue.id := by
      rw [checkpointId_issue, checkpointId_issue]
      exact hids 0 Nat.one_pos
    have hissue : a'.issue.clock = a.issue.clock := hclock
    have hmade := checkpointFor_renamed hissue hid s.counting d
    have hcounting : (s.renamed ρ).counting = s.counting.renamed ρ := rfl
    rw [create_place hcopy, create_place hcopy, hcounting, hmade, place_renamed h,
      Ambient.along_issue hclock]

end Shelf

namespace Autosave
variable {ρ : String → String} {a a' : Ambient}

/-- Two kinds of automatic saving that differ in ids, and in what they know of the latest save. -/
structure Renamed (ρ : String → String) (s s' : Autosave) : Prop where
  config : s'.config = s.config
  savedAt : s'.savedAt = s.savedAt
  ids : s'.ids = s.ids.map ρ

theorem Renamed.refl (s : Autosave) : Renamed id s s := ⟨rfl, rfl, s.ids.map_id.symm⟩

theorem Renamed.retain {s s' : Autosave} (h : Renamed ρ s s') (hρ : Function.Injective ρ)
    (shelf : Shelf) : Renamed ρ (s.retain shelf).1 (s'.retain (shelf.renamed ρ)).1 ∧
      (s'.retain (shelf.renamed ρ)).2 = (s.retain shelf).2.renamed ρ := by
  have hhas : (shelf.renamed ρ).has ∘ ρ = shelf.has := funext (Shelf.has_renamed hρ shelf)
  have hkept : (s'.forget (shelf.renamed ρ)).ids = (s.forget shelf).ids.map ρ := by
    rw [forget, forget, h.ids, List.filter_map, hhas]
  have hmax : (s'.forget (shelf.renamed ρ)).config = (s.forget shelf).config := h.config
  refine ⟨⟨h.config, h.savedAt, ?_⟩, ?_⟩
  · simp only [Autosave.retain, hmax, hkept, List.length_map, List.map_drop]
  · simp only [Autosave.retain, hmax, hkept, List.length_map, ← List.map_take,
      Shelf.deleteAll_renamed hρ]

/-- Two attempts to save that turn out alike under other ids. -/
structure Attempt.Renamed (ρ : String → String) (a a' : Ambient) (t t' : Attempt) : Prop where
  result : t'.result.isOk = t.result.isOk
  autosave : t.autosave.Renamed ρ t'.autosave
  shelf : t'.shelf = t.shelf.renamed ρ
  ambient : t'.ambient = a'.along a t.ambient

theorem sizeOf_renamed (ρ : String → String) (c : Checkpoint) :
    (sizeOf (c.renamed ρ)).isOk = (sizeOf c).isOk := by
  have hl : Json.Layout.measuring.showHosts = true := rfl
  have hshort : (Value.record (c.renamed ρ).fields).isShort = (Value.record c.fields).isShort := rfl
  simp only [sizeOf, isOk_map, Json.write, Json.writeAt_isOk, hl, Bool.true_or, hshort]

variable {s s' : Autosave}

theorem Renamed.failed (h : Renamed ρ s s') (shelf : Shelf) (a₁ : Ambient) (trigger : String)
    (f f' : Fault) : Attempt.Renamed ρ a a' (s.failed shelf a₁ trigger f)
      (s'.failed (shelf.renamed ρ) (a'.along a a₁) trigger f') :=
  ⟨rfl, ⟨h.config, h.savedAt, h.ids⟩, rfl, rfl⟩

/-- An attempt fails before any id is given out. -/
theorem Renamed.failed_early (h : Renamed ρ s s') (hclock : a'.clock = a.clock) (shelf : Shelf)
    (trigger : String) (f : Fault) : Attempt.Renamed ρ a a' (s.failed shelf a trigger f)
      (s'.failed (shelf.renamed ρ) a' trigger f) :=
  ⟨rfl, ⟨h.config, h.savedAt, h.ids⟩, rfl, (Ambient.along_self hclock).symm⟩

theorem Renamed.succeeded (h : Renamed ρ s s') (hρ : Function.Injective ρ) (shelf : Shelf)
    (a₁ : Ambient) (trigger : String) (c : Checkpoint) (size size' : Nat) :
    Attempt.Renamed ρ a a' (s.succeeded shelf a₁ trigger c size)
      (s'.succeeded (shelf.renamed ρ) (a'.along a a₁) trigger (c.renamed ρ) size') := by
  have hadded : Renamed ρ { s with savedAt := some a₁.seconds, ids := s.ids ++ [c.id] }
      { s' with
        savedAt := some (a'.along a a₁).seconds
        ids := s'.ids ++ [(c.renamed ρ).id] } :=
    ⟨h.config, rfl, by rw [h.ids, List.map_append]; rfl⟩
  obtain ⟨hretained, hshelf⟩ := hadded.retain hρ shelf
  exact ⟨rfl, ⟨hretained.config, hretained.savedAt, hretained.ids⟩, hshelf, rfl⟩

theorem Renamed.save (h : Renamed ρ s s') (hρ : Function.Injective ρ) (hclock : a'.clock = a.clock)
    (shelf : Shelf) (j : Job)
    (hids : InStep ρ a.issued a'.issued ((s.save shelf a j).ambient.issued - a.issued)) :
    Attempt.Renamed ρ a a' (s.save shelf a j) (s'.save (shelf.renamed ρ) a' j) := by
  have hname : ∀ node, nameFor s'.config a' node j.trigger = nameFor s.config a node j.trigger := by
    intro node
    rw [h.config, nameFor, nameFor, Ambient.milliseconds, Ambient.milliseconds, hclock]
  have hdraft : ∀ state name, draft s'.config j state name = draft s.config j state name := by
    rw [h.config]
    exact fun _ _ => rfl
  unfold Autosave.save at hids ⊢
  cases hcaptured : j.captured with
  | error f =>
    exact h.failed_early hclock shelf j.trigger (.state f)
  | ok state =>
    simp only [hcaptured] at hids ⊢
    rw [hname]
    cases hnamed : nameFor s.config a state.node j.trigger with
    | error f =>
      simp only [hnamed] at hids ⊢
      split
      · exact ⟨rfl, h, rfl, (Ambient.along_self hclock).symm⟩
      · exact h.failed_early hclock shelf j.trigger (.name f)
    | ok name =>
      simp only [hnamed] at hids ⊢
      have hcreate := Shelf.create_renamed hρ hclock shelf (draft s.config j state name)
      rw [hdraft]
      rcases hmade : shelf.create a (draft s.config j state name) with ⟨made, shelf₁, a₁⟩
      simp only [hmade] at hids hcreate ⊢
      cases made with
      | error f =>
        rw [hcreate hids]
        exact h.failed shelf₁ a₁ j.trigger (.checkpoint f) (.checkpoint f)
      | ok c =>
        have hsize := sizeOf_renamed ρ c
        cases hs : sizeOf c with
        | error f =>
          simp only [hs] at hids ⊢
          rw [hs] at hsize
          obtain ⟨f', hs'⟩ := isOk_eq_false.mp hsize
          rw [hcreate hids]
          simp only [map_ok, hs']
          exact h.failed shelf₁ a₁ j.trigger (.size f) (.size f')
        | ok size =>
          simp only [hs] at hids ⊢
          rw [hs] at hsize
          obtain ⟨size', hs'⟩ := isOk_eq_true.mp hsize
          rw [hcreate hids]
          simp only [map_ok, hs']
          exact h.succeeded hρ shelf₁ a₁ j.trigger c size size'

theorem Renamed.trigger (h : Renamed ρ s s') (hρ : Function.Injective ρ)
    (hclock : a'.clock = a.clock) (shelf : Shelf) (j : Job)
    (hids : ∀ t, s.trigger shelf a j = some t →
      InStep ρ a.issued a'.issued (t.ambient.issued - a.issued)) :
    Option.Rel (Attempt.Renamed ρ a a') (s.trigger shelf a j)
      (s'.trigger (shelf.renamed ρ) a' j) := by
  have hseconds : a'.seconds = a.seconds := by rw [Ambient.seconds, Ambient.seconds, hclock]
  have hthrottled : s'.throttled? a' = s.throttled? a := by
    rw [throttled?, throttled?, h.savedAt, h.config, hseconds]
  unfold Autosave.trigger at hids ⊢
  rw [h.config, hthrottled]
  split
  · exact .none
  · rename_i hheeds
    simp only [hheeds, Bool.false_eq_true, if_false] at hids
    cases hrecent : s.throttled? a with
    | some f =>
      exact .some (h.failed_early hclock shelf j.trigger f)
    | none =>
      simp only [hrecent] at hids
      exact .some (h.save hρ hclock shelf j (hids _ rfl))

end Autosave

def TimelineEntry.core (e : TimelineEntry) : NarrativeState × String × Action :=
  (e.state, e.timestamp, e.action)

namespace Timeline
variable {t t' : Timeline} {a a' : Ambient}

/-- Two timelines that differ in ids, and in what they tell about actions. -/
structure Renamed (t t' : Timeline) : Prop where
  config : t'.config = t.config
  past : t'.past.map TimelineEntry.core = t.past.map TimelineEntry.core
  future : t'.future.map TimelineEntry.core = t.future.map TimelineEntry.core
  restoring : t'.restoring = t.restoring

theorem Renamed.refl (t : Timeline) : Renamed t t := ⟨rfl, rfl, rfl, rfl⟩

theorem entryFor_core (hclock : a'.clock = a.clock) (s : NarrativeState) (action : Action)
    {metadata metadata' : Entries Value} (hm : Value.allFieldsCopyable metadata = true)
    (hm' : Value.allFieldsCopyable metadata' = true) :
    (∃ f, entryFor a s action metadata = .error f ∧ entryFor a' s action metadata' = .error f) ∨
      ∃ entry entry', entryFor a s action metadata = .ok entry ∧
        entryFor a' s action metadata' = .ok entry' ∧ entry'.core = entry.core := by
  have hstamp : a'.stamp = a.stamp := by rw [Ambient.stamp, Ambient.stamp, hclock]
  unfold entryFor
  cases s.clone with
  | error f => exact .inl ⟨_, rfl, rfl⟩
  | ok state =>
    simp only [mapError_ok, ok_bind, hm, hm', if_true, pure_ok]
    exact .inr ⟨_, _, rfl, rfl, by simp only [TimelineEntry.core, hstamp]⟩

theorem Renamed.record (h : Renamed t t') (hclock : a'.clock = a.clock) (s : NarrativeState)
    (action : Action) {metadata metadata' : Entries Value}
    (hm : Value.allFieldsCopyable metadata = true)
    (hm' : Value.allFieldsCopyable metadata' = true) :
    (t'.record a' s action metadata').1.isOk = (t.record a s action metadata).1.isOk ∧
      (t.record a s action metadata).2.1.Renamed (t'.record a' s action metadata').2.1 ∧
      (t'.record a' s action metadata').2.2 = a'.along a (t.record a s action metadata).2.2 := by
  have hissue : a'.issue.clock = a.issue.clock := hclock
  have hentry := entryFor_core hissue s action (keptMetadata_copyable (c := t.config) hm)
    (keptMetadata_copyable (c := t.config) hm')
  unfold Timeline.record
  rw [h.restoring, h.config]
  split
  · exact ⟨rfl, h, (Ambient.along_self hclock).symm⟩
  · dsimp only
    split
    · exact ⟨rfl, ⟨rfl, h.past, rfl, rfl⟩, (Ambient.along_self hclock).symm⟩
    · rcases hentry with ⟨f, he, he'⟩ | ⟨entry, entry', he, he', hcore⟩
      · rw [he, he']
        exact ⟨rfl, ⟨rfl, h.past, rfl, rfl⟩, Ambient.along_issue hclock⟩
      · rw [he, he']
        refine ⟨rfl, ⟨rfl, ?_, rfl, rfl⟩, Ambient.along_issue hclock⟩
        simp only [List.map_take, List.map_cons, hcore, h.past]

theorem Renamed.ahead (h : Renamed t t') (d : Direction) :
    (t'.ahead d).map TimelineEntry.core = (t.ahead d).map TimelineEntry.core := by
  cases d with
  | undo => exact h.past
  | redo => exact h.future

def trace (a : Ambient) (entry : TimelineEntry) (current : NarrativeState) : TimelineEntry :=
  ⟨"h-" ++ a.id, current, a.stamp, entry.action, [("nodeId", .text current.node)]⟩

def passed (t : Timeline) (d : Direction) (rest : List TimelineEntry) (left : TimelineEntry) :
    Timeline :=
  match d with
  | .undo =>
    { t with past := rest, future := (left :: t.future).take t.config.maxRedo, restoring := false }
  | .redo =>
    { t with future := rest, past := (left :: t.past).take t.config.maxUndo, restoring := false }

theorem travel_ahead {d : Direction} {entry : TimelineEntry} {rest : List TimelineEntry}
    (henabled : t.config.enabled = true) (hahead : t.ahead d = entry :: rest) (a : Ambient)
    (current : NarrativeState) :
    (t.travel a d (.ok current)).restored = some entry.state ∧
      (t.travel a d (.ok current)).timeline = t.passed d rest (trace a.issue entry current) ∧
      (t.travel a d (.ok current)).ambient = a.issue := by
  simp only [travel, depart, henabled, hahead, Bool.not_true, Bool.false_eq_true, if_false]
  cases d <;> exact ⟨trivial, rfl, trivial⟩

theorem Renamed.passed (h : Renamed t t') (d : Direction) {rest rest' : List TimelineEntry}
    {left left' : TimelineEntry}
    (hrest : rest'.map TimelineEntry.core = rest.map TimelineEntry.core)
    (hleft : left'.core = left.core) :
    (t.passed d rest left).Renamed (t'.passed d rest' left') := by
  cases d with
  | undo =>
    refine ⟨h.config, hrest, ?_, rfl⟩
    simp only [Timeline.passed, List.map_take, List.map_cons, h.config, h.future, hleft]
  | redo =>
    refine ⟨h.config, ?_, hrest, rfl⟩
    simp only [Timeline.passed, List.map_take, List.map_cons, h.config, h.past, hleft]

/-- A step back or forth leads to the same state. -/
theorem Renamed.travel (h : Renamed t t') (hclock : a'.clock = a.clock) (d : Direction)
    (captured : Except StateFault NarrativeState) :
    (t'.travel a' d captured).restored = (t.travel a d captured).restored ∧
      (t.travel a d captured).timeline.Renamed (t'.travel a' d captured).timeline ∧
      (t'.travel a' d captured).ambient = a'.along a (t.travel a d captured).ambient := by
  have hstays := (Ambient.along_self hclock).symm
  have hahead := h.ahead d
  cases henabled : t.config.enabled with
  | false =>
    simp only [Timeline.travel, depart, h.config, henabled, Bool.not_false, if_true]
    exact ⟨trivial, h, hstays⟩
  | true =>
    have henabled' : t'.config.enabled = true := by rw [h.config, henabled]
    cases hfirst : t.ahead d with
    | nil =>
      rw [hfirst, List.map_nil, List.map_eq_nil_iff] at hahead
      simp only [Timeline.travel, depart, henabled, henabled', hfirst, hahead, Bool.not_true,
        Bool.false_eq_true, if_false]
      exact ⟨trivial, h, hstays⟩
    | cons entry rest =>
      rw [hfirst, List.map_cons] at hahead
      obtain ⟨entry', rest', hfirst', hcore, hrest⟩ := List.map_eq_cons_iff.mp hahead
      cases captured with
      | error f =>
        simp only [Timeline.travel, depart, henabled, henabled', hfirst, hfirst', Bool.not_true,
          Bool.false_eq_true, if_false]
        exact ⟨trivial, h, hstays⟩
      | ok current =>
        obtain ⟨hstate, htimeline, hambient⟩ := travel_ahead henabled hfirst a current
        obtain ⟨hstate', htimeline', hambient'⟩ := travel_ahead henabled' hfirst' a' current
        have hstamp : a'.issue.stamp = a.issue.stamp := by
          rw [Ambient.stamp, Ambient.stamp, Ambient.issue, Ambient.issue, hclock]
        have hleft : (trace a'.issue entry' current).core = (trace a.issue entry current).core := by
          have haction : entry'.action = entry.action := congrArg (·.2.2) hcore
          simp only [TimelineEntry.core, trace, hstamp, haction]
        rw [hstate, hstate', htimeline, htimeline', hambient, hambient']
        exact ⟨congrArg (fun core => some core.1) hcore, h.passed d hrest hleft,
          Ambient.along_issue hclock⟩

end Timeline
end Storyline
