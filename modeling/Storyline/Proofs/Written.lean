import Storyline.Engine.Saving
import Storyline.Proofs.Envelope
import Storyline.Proofs.Sound

namespace Storyline

namespace Save
open Schema

theorem StateRecord.read_payload {s : NarrativeState} (h : Text.isAllBlank s.node = false) :
    StateRecord.read s.payload = .ok ⟨s.node, s.flags, s.history, []⟩ := by
  have hne : shownText (.text s.node) = .ok s.node := by
    have hs : s.node.isEmpty = false := by
      cases he : s.node.isEmpty with
      | false => rfl
      | true => simp [String.isEmpty_iff.mp he, Text.isAllBlank] at h
    simp [shownText, hs]
  exact read_eq_ok.mpr ⟨_, rfl, required_present rfl rfl hne, field_present rfl rfl rfl,
    field_present rfl rfl (list_texts _), rfl⟩

theorem EventRecord.read_fields {x : FlowEvent} (h : ∃ d, x.timestamp = .double d) :
    EventRecord.read (.record x.fields) = .ok ⟨x, []⟩ := by
  obtain ⟨source, target, choiceText, timestamp⟩ := x
  obtain ⟨d, rfl⟩ := h
  exact read_eq_ok.mpr ⟨_, d, rfl, required_present rfl rfl rfl, required_present rfl rfl rfl,
    field_present rfl rfl rfl, field_present rfl rfl rfl, rfl, rfl⟩

theorem EventRecord.list_fields {xs : List FlowEvent}
    (h : ∀ x ∈ xs, ∃ d, x.timestamp = .double d) :
    list EventRecord.read (.list ((xs.map FlowEvent.fields).map .record)) =
      .ok (xs.map fun x => ⟨x, []⟩) := by
  refine list_eq_ok.mpr ⟨_, rfl, ?_⟩
  simp only [List.map_map]
  exact List.map_congr_left fun x hx => EventRecord.read_fields (h x hx)

theorem Performance.read_fields (p : Performance) :
    ∃ q, Performance.read (.record p.fields) = .ok q := by
  have hm : field p.fields "performance_mode" false bool = .ok p.mode := field_present rfl rfl rfl
  have hp : field p.fields "enable_profiling" false bool = .ok p.profiling :=
    field_present rfl rfl rfl
  have ht : field p.fields "background_tasks" [] (list text) = .ok p.tasks :=
    field_present rfl rfl (list_texts _)
  have hd : field p.fields "telemetry_data" [] (list record) = .ok p.telemetry :=
    field_present rfl rfl (list_records _)
  simp only [Performance.read, model, hm, hp, ht, hd, fill]
  exact ⟨_, rfl⟩

theorem Branching.read_fields (b : Branching) :
    ∃ q, Branching.read (.record b.fields) = .ok q := by
  have ha : field b.fields "active_branches" [] (list text) = .ok b.active :=
    field_present rfl rfl (list_texts _)
  have hs : field b.fields "branch_states" [] record = .ok b.states := field_present rfl rfl rfl
  have hc : field b.fields "convergence_points" [] (list text) = .ok b.convergence :=
    field_present rfl rfl (list_texts _)
  simp only [Branching.read, model, ha, hs, hc, fill]
  exact ⟨_, rfl⟩

/-- The rules of a save are read back as they were, beside fields of other names. -/
theorem RuleRecord.read_fields (r : RuleRecord) :
    ∃ others, RuleRecord.read (.record r.fields) =
      .ok ⟨r.disabled, r.custom, r.errors, others⟩ := by
  have hd : field r.fields "disabled_rules" [] (list text) = .ok r.disabled :=
    field_present rfl rfl (list_texts _)
  have hc : field r.fields "custom_rules" [] record = .ok r.custom := field_present rfl rfl rfl
  have he : field r.fields "validation_errors" [] (list text) = .ok r.errors :=
    field_present rfl rfl (list_texts _)
  simp only [RuleRecord.read, model, hd, hc, he, fill]
  exact ⟨_, rfl⟩

/-- The metadata of a save, with its checksum if it has one. -/
theorem Metadata.read_metadataOf (storyId : String) (a : Ambient) (o : SaveOptions)
    (digest : Option String) :
    ∃ m, Metadata.read (.record (metadataOf storyId a o ++
        (digest.map fun d => ("checksum", Value.text d)).toList)) = .ok m ∧
      m.engineVersion = Version.currentText ∧ m.storyId = some storyId ∧ m.checksum = digest ∧
      m.compression = .none := by
  cases digest with
  | none =>
    exact ⟨⟨_, _, _, _, _, _, _⟩, read_eq_ok.mpr ⟨_, rfl, required_present rfl rfl rfl,
      required_present rfl rfl rfl, field_present rfl rfl rfl, field_absent rfl,
      field_present rfl rfl rfl, field_present rfl rfl rfl, rfl⟩, rfl, rfl, rfl, rfl⟩
  | some d =>
    exact ⟨⟨_, _, _, _, _, _, _⟩, read_eq_ok.mpr ⟨_, rfl, required_present rfl rfl rfl,
      required_present rfl rfl rfl, field_present rfl rfl rfl, field_present rfl rfl rfl,
      field_present rfl rfl rfl, field_present rfl rfl rfl, rfl⟩, rfl, rfl, rfl, rfl⟩

/-- An envelope is read if its three main parts are, whichever of the others it has. -/
theorem Envelope.read_parts {sv ev mv : Value} {s : StateRecord} {xs : List EventRecord}
    {m : Metadata} (hs : StateRecord.read sv = .ok s) (he : list EventRecord.read ev = .ok xs)
    (hm : Metadata.read mv = .ok m) (o : SaveOptions) (events : List (Entries Value))
    (p : Performance) (b : Branching) (r : RuleRecord) :
    ∃ e, Envelope.read (.record ([("state", sv), ("flowEvents", ev), ("metadata", mv)] ++
        partsOf o ⟨events, some p.fields, some b.fields, some r.fields⟩)) = .ok e ∧
      e.state = s ∧ e.events = xs ∧ e.metadata = m := by
  obtain ⟨p', hp⟩ := p.read_fields
  obtain ⟨b', hb⟩ := b.read_fields
  obtain ⟨others, hr⟩ := r.read_fields
  have hp' : optional Performance.read (.record p.fields) = .ok (some p') := by
    simp [Schema.optional, hp]
  have hb' : optional Branching.read (.record b.fields) = .ok (some b') := by
    simp [Schema.optional, hb]
  have hr' : optional RuleRecord.read (.record r.fields) =
      .ok (some ⟨r.disabled, r.custom, r.errors, others⟩) := by
    simp [Schema.optional, hr]
  obtain ⟨performance, _, branching, rules, _, _⟩ := o
  -- which of the names there are depends on all three wishes
  have hparts : ∀ fields, fields = [("state", sv), ("flowEvents", ev), ("metadata", mv)] ++
      partsOf { performance, branching, rules }
        ⟨events, some p.fields, some b.fields, some r.fields⟩ →
      ∃ x y z, field fields "performance_state" none (optional Performance.read) = .ok x ∧
        field fields "branching_context" none (optional Branching.read) = .ok y ∧
        field fields "validation_state" none (optional RuleRecord.read) = .ok z := by
    rintro _ rfl
    refine ⟨if performance then some p' else none, if branching then some b' else none,
      if rules then some ⟨r.disabled, r.custom, r.errors, others⟩ else none, ?_⟩
    cases performance <;> cases branching <;> cases rules <;> refine ⟨?_, ?_, ?_⟩ <;>
      first
        | exact field_absent rfl
        | exact field_present rfl rfl hp'
        | exact field_present rfl rfl hb'
        | exact field_present rfl rfl hr'
  obtain ⟨x, y, z, hx, hy, hz⟩ := hparts _ rfl
  exact ⟨⟨s, xs, m, x, y, z, _⟩, read_eq_ok.mpr ⟨_, rfl, required_present rfl rfl hs,
    field_present rfl rfl he, required_present rfl rfl hm, hx, hy, hz, rfl⟩, rfl, rfl, rfl⟩

end Save
end Storyline
