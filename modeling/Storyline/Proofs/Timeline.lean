import Storyline.Proofs.State
import Storyline.Timeline

namespace Storyline.Timeline

theorem entryFor_eq_ok {a : Ambient} {s : NarrativeState} {action : Action}
    {metadata : Entries Value} {entry : TimelineEntry}
    (h : entryFor a s action metadata = .ok entry) : s.clone = .ok entry.state := by
  obtain ⟨t, ht, h⟩ := bind_eq_ok.mp h
  split at h
  · cases h
    exact mapError_eq_ok.mp ht
  · cases h

/-- Recording leaves the timeline as it is, or gives up what could be redone and may keep a copy of
the state. -/
theorem record_cases (t : Timeline) (a : Ambient) (s : NarrativeState) (action : Action)
    (metadata : Entries Value) :
    (t.record a s action metadata).2.1 = t ∨
      (t.record a s action metadata).2.1 = { t with future := [] } ∨
      ∃ entry, s.clone = .ok entry.state ∧ (t.record a s action metadata).2.1 =
        { t with future := [], past := (entry :: t.past).take t.config.maxUndo } := by
  unfold record
  split
  · exact .inl rfl
  · dsimp only
    split
    · exact .inr (.inl rfl)
    · split
      · exact .inr (.inl rfl)
      · rename_i entry he
        exact .inr (.inr ⟨entry, entryFor_eq_ok he, rfl⟩)

theorem record_config (t : Timeline) (a : Ambient) (s : NarrativeState) (action : Action)
    (metadata : Entries Value) : (t.record a s action metadata).2.1.config = t.config := by
  rcases record_cases t a s action metadata with hr | hr | ⟨entry, _, hr⟩ <;> rw [hr]

/-- The record of an action that is tracked, if there is no fault. -/
theorem record_tracked {t t' : Timeline} {a a' : Ambient} {s : NarrativeState} {action : Action}
    {metadata : Entries Value} {x : Option TimelineEntry} (hr : t.restoring = false)
    (he : t.config.enabled = true) (ht : action ∈ t.config.actions)
    (h : t.record a s action metadata = (.ok x, t', a')) :
    ∃ entry, s.clone = .ok entry.state ∧
      t' = { t with future := [], past := (entry :: t.past).take t.config.maxUndo } := by
  simp only [record, hr, he, List.contains_iff_mem.mpr ht, Bool.not_true, Bool.or_self,
    Bool.false_eq_true, if_false] at h
  split at h
  · cases h
  · rename_i entry hf
    cases h
    exact ⟨entry, entryFor_eq_ok hf, by rw [hr]⟩

theorem erase_copyable {fields : Entries Value} (key : String)
    (h : Value.allFieldsCopyable fields = true) :
    Value.allFieldsCopyable (Entries.erase fields key) = true := by
  apply Value.allFieldsCopyable_iff.mpr
  intro d hd
  exact Value.allFieldsCopyable_iff.mp h d (List.mem_filter.mp hd).1

theorem keptMetadata_copyable {c : Config} {metadata : Entries Value}
    (h : Value.allFieldsCopyable metadata = true) :
    Value.allFieldsCopyable (keptMetadata c metadata) = true := by
  unfold keptMetadata
  cases c.keepsFlags <;> cases c.keepsText
  · exact erase_copyable _ (erase_copyable _ h)
  · exact erase_copyable _ h
  · exact erase_copyable _ h
  · exact h

/-- Nothing stands in the way of a record if the state and the metadata can be copied. -/
theorem record_ok (t : Timeline) (a : Ambient) {s s' : NarrativeState} (action : Action)
    {metadata : Entries Value} (hs : s.clone = .ok s')
    (hm : Value.allFieldsCopyable metadata = true) :
    ∃ x t' a', t.record a s action metadata = (.ok x, t', a') ∧ a'.clock = a.clock := by
  unfold record
  split
  · exact ⟨_, _, _, rfl, rfl⟩
  · dsimp only
    split
    · exact ⟨_, _, _, rfl, rfl⟩
    · simp only [entryFor, hs, mapError_ok, ok_bind, keptMetadata_copyable hm, if_true, pure_ok]
      exact ⟨_, _, _, rfl, rfl⟩

/-- A step changes nothing, or takes the first entry ahead and leaves the captured state behind. -/
theorem travel_cases (t : Timeline) (a : Ambient) (d : Direction)
    (captured : Except StateFault NarrativeState) :
    ((t.travel a d captured).outcome.success = false ∧ (t.travel a d captured).timeline = t ∧
        (t.travel a d captured).restored = none ∧ (t.travel a d captured).ambient = a) ∨
      ∃ entry rest current left, t.ahead d = entry :: rest ∧ captured = .ok current ∧
        left.state = current ∧ (t.travel a d captured).outcome.success = true ∧
        (t.travel a d captured).restored = some entry.state ∧
        (t.travel a d captured).timeline = match d with
          | .undo =>
            { t with past := rest, future := (left :: t.future).take t.config.maxRedo,
                     restoring := false }
          | .redo =>
            { t with future := rest, past := (left :: t.past).take t.config.maxUndo,
                     restoring := false } := by
  unfold travel depart
  by_cases he : t.config.enabled = true
  · cases ha : t.ahead d with
    | nil => exact .inl (by simp [he, Outcome.success])
    | cons entry rest =>
      cases captured with
      | error fault => exact .inl (by simp [he, Outcome.success])
      | ok current =>
        refine .inr ⟨entry, rest, current,
          ⟨"h-" ++ a.issue.id, current, a.issue.stamp, entry.action,
            [("nodeId", .text current.node)]⟩,
          rfl, rfl, rfl, ?_⟩
        cases d <;> simp [he, Outcome.success, arrive]
  · exact .inl (by simp [he, Outcome.success])

theorem travel_config (t : Timeline) (a : Ambient) (d : Direction)
    (captured : Except StateFault NarrativeState) :
    (t.travel a d captured).timeline.config = t.config := by
  rcases travel_cases t a d captured with ⟨_, ht, _⟩ | ⟨_, _, _, _, _, _, _, _, _, ht⟩ <;> rw [ht]
  cases d <;> rfl

/-- A step succeeds if there is one, and the current state can be captured. -/
theorem travel_success {t : Timeline} (a : Ambient) {d : Direction} {entry : TimelineEntry}
    {rest : List TimelineEntry} (current : NarrativeState) (he : t.config.enabled = true)
    (ha : t.ahead d = entry :: rest) : (t.travel a d (.ok current)).outcome.success = true := by
  simp [travel, depart, he, ha, Outcome.success]

end Storyline.Timeline
