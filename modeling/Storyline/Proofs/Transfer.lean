import Storyline.Proofs.Lasting
import Storyline.Proofs.RoundTrip

namespace Storyline

theorem Schema.shownText_eq_ok {v : Value} {s : String} :
    shownText v = .ok s ↔ v = .text s ∧ s.isEmpty = false := by
  unfold shownText
  split
  · split
    · rename_i hempty
      simp only [mismatch, reduceCtorEq, Value.text.injEq, false_iff]
      rintro ⟨rfl, hshown⟩
      cases hempty.symm.trans hshown
    · rename_i hshown
      simp only [Except.ok.injEq, Value.text.injEq]
      exact ⟨fun h => ⟨h, h ▸ Bool.eq_false_iff.mpr hshown⟩, And.left⟩
  · rename_i hnot
    simp only [mismatch, reduceCtorEq, false_iff]
    rintro ⟨rfl, _⟩
    exact hnot s rfl

namespace Checkpoint
open Schema
variable {c : Checkpoint} {story : Story} {data : Value} {sequence : Nat}

theorem Document.read_eq_ok {v : Value} {d : Document} :
    read v = .ok d ↔ ∃ fields, v = .record fields ∧
      required fields "id" shownText = .ok d.id ∧
      field fields "name" none (optional text) = .ok d.name ∧
      required fields "state" Save.StateRecord.read = .ok d.state ∧
      required fields "timestamp" text = .ok d.timestamp ∧
      field fields "description" none (optional text) = .ok d.description ∧
      field fields "tags" [] (list text) = .ok d.tags ∧
      field fields "metadata" [] record = .ok d.metadata := by
  cases d
  simp only [read, model_eq_ok, fill_eq_ok, Except.ok.injEq]
  constructor
  · rintro ⟨fields, rfl, _, _, ⟨_, _, ⟨_, _, ⟨_, _, ⟨_, _, ⟨_, _, ⟨_, _, rfl, hi, rfl⟩, hn, rfl⟩,
      hs, rfl⟩, ht, rfl⟩, hd, rfl⟩, hg, rfl⟩, hm, heq⟩
    cases heq
    exact ⟨fields, rfl, hi, hn, hs, ht, hd, hg, hm⟩
  · rintro ⟨fields, rfl, hi, hn, hs, ht, hd, hg, hm⟩
    exact ⟨fields, rfl, _, _, ⟨_, _, ⟨_, _, ⟨_, _, ⟨_, _, ⟨_, _, ⟨_, _, rfl, hi, rfl⟩, hn, rfl⟩,
      hs, rfl⟩, ht, rfl⟩, hd, rfl⟩, hg, rfl⟩, hm, rfl⟩

/-- All of a checkpoint is read back from its document, but for its place in the order of
creation. -/
theorem Document.read_fields (hid : c.id.isEmpty = false)
    (hnode : Text.isAllBlank c.state.node = false) :
    read (.record c.fields) = .ok ⟨c.id, c.name,
      ⟨c.state.node, c.state.flags, c.state.history, []⟩, c.timestamp, c.description, c.tags,
      c.metadata⟩ := by
  obtain ⟨id, state, timestamp, name, description, tags, metadata, _⟩ := c
  have hshown : shownText (.text id) = .ok id := shownText_eq_ok.mpr ⟨rfl, hid⟩
  -- a name and a description are there or were left out
  cases name <;> cases description <;>
    exact read_eq_ok.mpr ⟨_, rfl, required_present rfl rfl hshown,
      (by first | exact field_absent rfl | exact field_present rfl rfl rfl),
      required_present rfl rfl (Save.StateRecord.read_payload hnode), required_present rfl rfl rfl,
      (by first | exact field_absent rfl | exact field_present rfl rfl rfl),
      field_present rfl rfl (list_texts _), field_present rfl rfl rfl⟩

theorem ofDocument_named (h : ofDocument story sequence data = .ok c) : c.id.isEmpty = false := by
  obtain ⟨d, hd, h⟩ := bind_eq_ok.mp h
  obtain ⟨_, _, h⟩ := bind_eq_ok.mp h
  have hid : c.id = d.id := by
    split at h
    · cases h
      rfl
    · cases h
  obtain ⟨⟨v, keys⟩, _, hd⟩ := bind_eq_ok.mp hd
  replace hd := mapError_eq_ok.mp hd
  split at hd
  · obtain ⟨_, _, hread, _⟩ := Document.read_eq_ok.mp hd
    obtain ⟨_, _, hshown⟩ := required_eq_ok.mp hread
    rw [hid]
    exact (shownText_eq_ok.mp hshown).2
  · cases hd

end Checkpoint

namespace Shelf
variable {s s' : Shelf} {c : Checkpoint} {story : Story} {data : Value}

/-- All checkpoints have ids. -/
theorem Collected.named (h : Collected story s) : ∀ c ∈ s.checkpoints, c.id.isEmpty = false := by
  induction h with
  | made hm =>
    unfold make at hm
    split at hm
    · cases hm
    · split at hm <;> cases hm
      exact nofun
  | created a d _ ih =>
    intro c hc
    rcases mem_create_id hc with hc | ⟨_, hid⟩
    · exact ih c hc
    · rw [hid, ← checkpointId_issue]
      simp
  | imported _ hi ih =>
    obtain ⟨hc, count, hs⟩ := importFrom_eq_ok.mp hi
    intro d hd
    rcases mem_put (mem_cleanup hs hd) with hd | rfl
    · exact ih d hd
    · exact Checkpoint.ofDocument_named hc
  | deleted id _ ih => exact fun c hc => ih c (mem_delete hc)
  | cleaned _ hs ih => exact fun c hc => ih c (mem_cleanup hs hc)

end Shelf

namespace Engine
variable {e other : Engine} {c : Checkpoint} {text : String}

end Engine
end Storyline
