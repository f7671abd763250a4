import Storyline.Autosave
import Storyline.Proofs.State

namespace Storyline

namespace Shelf
variable {s shelf : Shelf} {c d : Checkpoint}

theorem mem_delete {id : String} (h : c ∈ (s.delete id).checkpoints) : c ∈ s.checkpoints :=
  (List.mem_filter.mp h).1

theorem mem_put (h : c ∈ (s.put d).checkpoints) : c ∈ s.checkpoints ∨ c = d := by
  rcases List.mem_append.mp h with hm | hm
  · exact .inl (mem_delete hm)
  · exact .inr (List.mem_singleton.mp hm)

theorem mem_cleanup {o : CheckpointOptions} {count : Nat} (h : s.cleanup o = .ok (count, shelf))
    (hc : c ∈ shelf.checkpoints) : c ∈ s.checkpoints := by
  obtain ⟨strategy, _, h⟩ := bind_eq_ok.mp h
  split at h
  · cases h
    exact hc
  · cases h
    exact (List.mem_filter.mp hc).1

theorem mem_foldl_delete {ids : List String} (h : c ∈ (ids.foldl delete s).checkpoints) :
    c ∈ s.checkpoints := by
  induction ids generalizing s with
  | nil => exact h
  | cons id rest ih => exact mem_delete (ih h)

theorem checkpointFor_state {a : Ambient} {draft : Draft} (h : s.checkpointFor a draft = .ok c) :
    draft.state.clone = .ok c.state := by
  obtain ⟨t, ht, h⟩ := bind_eq_ok.mp h
  cases h
  exact mapError_eq_ok.mp ht

/-- A checkpoint on the shelf after one was made is an old one, or has a copy of the draft's
state. -/
theorem mem_create {a : Ambient} {draft : Draft} (h : c ∈ (s.create a draft).2.1.checkpoints) :
    c ∈ s.checkpoints ∨ draft.state.clone = .ok c.state := by
  unfold create at h
  dsimp only at h
  split at h
  · exact .inl h
  · split at h
    · exact .inl h
    · rename_i made hm
      have hput : c ∈ (({ s with created := s.created + 1, sequence := s.sequence + 1 } :
          Shelf).put made).checkpoints := by
        split at h
        · exact h
        · rename_i hc
          exact mem_cleanup hc h
      rcases mem_put hput with hp | rfl
      · exact .inl hp
      · exact .inr (checkpointFor_state hm)

theorem ofDocument_fits {story : Story} {sequence : Nat} {data : Value}
    (h : Checkpoint.ofDocument story sequence data = .ok c) : c.state.Fits story := by
  obtain ⟨doc, _, h⟩ := bind_eq_ok.mp h
  obtain ⟨state, hs, h⟩ := bind_eq_ok.mp h
  split at h
  · rename_i hk
    cases h
    obtain ⟨_, _, _, hb, hc⟩ := Save.StateRecord.state_eq_ok (mapError_eq_ok.mp hs)
    exact ⟨hk, hb, hc⟩
  · cases h

/-- An import brings in one checkpoint, which fits. -/
theorem mem_imported {story : Story} {data : Value} (h : s.importFrom story data = .ok (d, shelf)) :
    d.state.Fits story ∧ ∀ c ∈ shelf.checkpoints, c ∈ s.checkpoints ∨ c = d := by
  obtain ⟨made, hm, h⟩ := bind_eq_ok.mp h
  obtain ⟨⟨count, cleaned⟩, hcl, h⟩ := bind_eq_ok.mp h
  cases h
  refine ⟨ofDocument_fits hm, ?_⟩
  intro c hc
  rcases mem_put (mem_cleanup hcl hc) with hp | rfl
  · exact .inl hp
  · exact .inr rfl

theorem mem_importFrom {story : Story} {data : Value} (h : s.importFrom story data = .ok (d, shelf))
    (hc : c ∈ shelf.checkpoints) : c ∈ s.checkpoints ∨ c.state.Fits story := by
  obtain ⟨hd, hall⟩ := mem_imported h
  rcases hall c hc with hc | rfl
  · exact .inl hc
  · exact .inr hd

theorem mem_of_stateOf? {id : String} {state : NarrativeState} (h : s.stateOf? id = some state) :
    ∃ c ∈ s.checkpoints, c.state = state := by
  obtain ⟨c, hc, hs⟩ := Option.map_eq_some_iff.mp h
  exact ⟨c, List.mem_of_find?_eq_some hc, hs⟩

end Shelf

namespace Autosave
variable {s : Autosave} {shelf : Shelf} {c : Checkpoint}

theorem mem_retain (h : c ∈ (s.retain shelf).2.checkpoints) : c ∈ shelf.checkpoints :=
  Shelf.mem_foldl_delete h

/-- A checkpoint on the shelf after an automatic save is an old one, or has a copy of the captured
state. -/
theorem mem_save {a : Ambient} {j : Job} (h : c ∈ (s.save shelf a j).shelf.checkpoints) :
    c ∈ shelf.checkpoints ∨ ∃ state, j.captured = .ok state ∧ state.clone = .ok c.state := by
  unfold save at h
  split at h
  · exact .inl h
  · rename_i state hs
    split at h
    · split at h <;> exact .inl h
    · rename_i name _
      have hmem : ∀ {made : Checkpoint}, made ∈ (shelf.create a
          (draft s.config j state name)).2.1.checkpoints → made ∈ shelf.checkpoints ∨
            ∃ state, j.captured = .ok state ∧ state.clone = .ok made.state :=
        fun hm => (Shelf.mem_create hm).imp_right fun hc => ⟨state, hs, hc⟩
      split at h
      · rename_i hcr
        exact hmem (by simpa [hcr, failed] using h)
      · rename_i hcr
        split at h
        · exact hmem (by simpa [hcr, failed] using h)
        · exact hmem (by simpa [hcr] using mem_retain h)

end Autosave
end Storyline
