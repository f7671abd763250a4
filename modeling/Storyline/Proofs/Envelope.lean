import Storyline.Proofs.Schema
import Storyline.Save.Envelope

namespace Storyline.Save
open Schema

theorem StateRecord.read_eq_ok {v : Value} {s : StateRecord} :
    read v = .ok s ↔ ∃ fields, v = .record fields ∧
      required fields "current_node_id" shownText = .ok s.node ∧
      field fields "flags" [] record = .ok s.flags ∧
      field fields "history" [] (list text) = .ok s.history ∧
      Schema.others fields ["current_node_id", "flags", "history"] = s.others := by
  cases s
  simp only [read, model_eq_ok, fill_eq_ok, Except.ok.injEq]
  constructor
  · rintro ⟨fields, rfl, _, _, ⟨_, _, ⟨_, _, ⟨_, _, rfl, hn, rfl⟩, hf, rfl⟩, hh, rfl⟩, rfl, he⟩
    cases he
    exact ⟨fields, rfl, hn, hf, hh, rfl⟩
  · rintro ⟨fields, rfl, hn, hf, hh, ho⟩
    exact ⟨fields, rfl, _, _, ⟨_, _, ⟨_, _, ⟨_, _, rfl, hn, rfl⟩, hf, rfl⟩, hh, rfl⟩, rfl,
      by rw [ho]⟩

theorem EventRecord.read_eq_ok {v : Value} {r : EventRecord} :
    read v = .ok r ↔ ∃ fields d, v = .record fields ∧
      required fields "from_node_id" text = .ok r.event.source ∧
      required fields "to_node_id" text = .ok r.event.target ∧
      field fields "choice_text" "" text = .ok r.event.choiceText ∧
      field fields "timestamp" (.zero false) double = .ok d ∧ r.event.timestamp = .double d ∧
      Schema.others fields ["from_node_id", "to_node_id", "choice_text", "timestamp"] =
        r.others := by
  obtain ⟨⟨source, target, choiceText, timestamp⟩, others⟩ := r
  simp only [read, model_eq_ok, fill_eq_ok, Except.ok.injEq]
  constructor
  · rintro ⟨fields, rfl, _, _, ⟨_, _, ⟨_, _, ⟨_, _, ⟨_, _, rfl, hs, rfl⟩, ht, rfl⟩, hc, rfl⟩,
      hd, rfl⟩, rfl, he⟩
    cases he
    exact ⟨fields, _, rfl, hs, ht, hc, hd, rfl, rfl⟩
  · rintro ⟨fields, d, rfl, hs, ht, hc, hd, rfl, rfl⟩
    exact ⟨fields, rfl, _, _, ⟨_, _, ⟨_, _, ⟨_, _, ⟨_, _, rfl, hs, rfl⟩, ht, rfl⟩, hc, rfl⟩,
      hd, rfl⟩, rfl, rfl⟩

theorem Metadata.read_eq_ok {v : Value} {m : Metadata} :
    read v = .ok m ↔ ∃ fields, v = .record fields ∧
      required fields "engine_version" text = .ok m.engineVersion ∧
      required fields "timestamp" text = .ok m.timestamp ∧
      field fields "story_id" none (optional text) = .ok m.storyId ∧
      field fields "checksum" none (optional text) = .ok m.checksum ∧
      field fields "compression" .none Compression.read = .ok m.compression ∧
      field fields "custom_metadata" [] record = .ok m.custom ∧
      Schema.others fields ["engine_version", "timestamp", "story_id", "checksum",
        "compression", "custom_metadata"] = m.others := by
  cases m
  simp only [read, model_eq_ok, fill_eq_ok, Except.ok.injEq]
  constructor
  · rintro ⟨fields, rfl, _, _, ⟨_, _, ⟨_, _, ⟨_, _, ⟨_, _, ⟨_, _, ⟨_, _, rfl, hv, rfl⟩, ht, rfl⟩,
      hs, rfl⟩, hd, rfl⟩, hc, rfl⟩, hu, rfl⟩, rfl, he⟩
    cases he
    exact ⟨fields, rfl, hv, ht, hs, hd, hc, hu, rfl⟩
  · rintro ⟨fields, rfl, hv, ht, hs, hd, hc, hu, rfl⟩
    exact ⟨fields, rfl, _, _, ⟨_, _, ⟨_, _, ⟨_, _, ⟨_, _, ⟨_, _, ⟨_, _, rfl, hv, rfl⟩, ht, rfl⟩,
      hs, rfl⟩, hd, rfl⟩, hc, rfl⟩, hu, rfl⟩, rfl, rfl⟩

theorem Envelope.read_eq_ok {v : Value} {e : Envelope} :
    read v = .ok e ↔ ∃ fields, v = .record fields ∧
      required fields "state" StateRecord.read = .ok e.state ∧
      field fields "flow_events" [] (list EventRecord.read) = .ok e.events ∧
      required fields "metadata" Metadata.read = .ok e.metadata ∧
      field fields "performance_state" none (optional Performance.read) = .ok e.performance ∧
      field fields "branching_context" none (optional Branching.read) = .ok e.branching ∧
      field fields "validation_state" none (optional RuleRecord.read) = .ok e.rules ∧
      Schema.others fields ["state", "flow_events", "metadata", "performance_state",
        "branching_context", "validation_state"] = e.others := by
  cases e
  simp only [read, model_eq_ok, fill_eq_ok, Except.ok.injEq]
  constructor
  · rintro ⟨fields, rfl, _, _, ⟨_, _, ⟨_, _, ⟨_, _, ⟨_, _, ⟨_, _, ⟨_, _, rfl, hs, rfl⟩, he, rfl⟩,
      hm, rfl⟩, hp, rfl⟩, hb, rfl⟩, hr, rfl⟩, rfl, heq⟩
    cases heq
    exact ⟨fields, rfl, hs, he, hm, hp, hb, hr, rfl⟩
  · rintro ⟨fields, rfl, hs, he, hm, hp, hb, hr, rfl⟩
    exact ⟨fields, rfl, _, _, ⟨_, _, ⟨_, _, ⟨_, _, ⟨_, _, ⟨_, _, ⟨_, _, rfl, hs, rfl⟩, he, rfl⟩,
      hm, rfl⟩, hp, rfl⟩, hb, rfl⟩, hr, rfl⟩, rfl, rfl⟩

/-- The times in a save are read as doubles. -/
theorem Envelope.read_timed {v : Value} {e : Envelope} (h : read v = .ok e) :
    ∀ r ∈ e.events, ∃ d, r.event.timestamp = .double d := by
  obtain ⟨fields, _, _, he, _⟩ := read_eq_ok.mp h
  have hlist : e.events = [] ∨ ∃ vs : List Value, vs.map EventRecord.read = e.events.map .ok := by
    rw [field_eq_ok] at he
    split at he
    · obtain ⟨vs, _, hvs⟩ := list_eq_ok.mp he
      exact .inr ⟨vs, hvs⟩
    · exact .inl he.symm
  intro r hr
  rcases hlist with hnil | ⟨vs, hvs⟩
  · simp [hnil] at hr
  · have hmem : Except.ok r ∈ vs.map EventRecord.read := hvs ▸ List.mem_map_of_mem hr
    obtain ⟨v, _, hv⟩ := List.mem_map.mp hmem
    obtain ⟨_, d, _, _, _, _, _, hd, _⟩ := EventRecord.read_eq_ok.mp hv
    exact ⟨d, hd⟩

end Storyline.Save
