import Storyline.Proofs.Story

namespace Storyline

namespace Value

theorem allFieldsCopyable_iff {fields : Entries Value} :
    allFieldsCopyable fields = true ↔ ∀ e ∈ fields, e.2.copyable = true := by
  induction fields with
  | nil => simp [allFieldsCopyable]
  | cons e rest ih =>
    obtain ⟨k, v⟩ := e
    simp [allFieldsCopyable, ih]

end Value

namespace Entries

theorem mem_put {α : Type} {es : Entries α} {key : String} {value : α} {e : String × α}
    (h : e ∈ es.put key value) : e ∈ es ∨ e = (key, value) := by
  induction es with
  | nil => exact .inr (List.mem_singleton.mp h)
  | cons d rest ih =>
    obtain ⟨k, v⟩ := d
    unfold put at h
    split at h
    · rename_i hk
      rcases List.mem_cons.mp h with rfl | h
      · exact .inr (by simp [eq_of_beq hk])
      · exact .inl (List.mem_cons_of_mem _ h)
    · rcases List.mem_cons.mp h with rfl | h
      · exact .inl List.mem_cons_self
      · exact (ih h).imp_left (List.mem_cons_of_mem _)

/-- A merge brings in nothing but the entries of its two parts. -/
theorem mem_merge {α : Type} {es added : Entries α} {e : String × α}
    (h : e ∈ merge es added) : e ∈ es ∨ e ∈ added := by
  induction added generalizing es with
  | nil => exact .inl h
  | cons d rest ih =>
    rcases @ih (es.put d.1 d.2) h with hm | hm
    · rcases mem_put hm with hm | rfl
      · exact .inl hm
      · exact .inr List.mem_cons_self
    · exact .inr (List.mem_cons_of_mem _ hm)

theorem mem_of_get? {α : Type} {es : Entries α} {key : String} {v : α}
    (h : es.get? key = some v) : (key, v) ∈ es := by
  induction es with
  | nil => cases h
  | cons d rest ih =>
    obtain ⟨k, w⟩ := d
    simp only [get?, List.lookup_cons] at h
    split at h
    · rename_i hk
      cases h
      exact eq_of_beq hk ▸ List.mem_cons_self
    · exact List.mem_cons_of_mem _ (ih h)

theorem get?_eq_none {α : Type} {es : Entries α} {key : String} :
    es.get? key = none ↔ key ∉ es.keys := by
  induction es with
  | nil => simp [get?, keys]
  | cons d rest ih =>
    obtain ⟨k, v⟩ := d
    have hrest : List.lookup key rest = none ↔ key ∉ rest.map (·.1) := ih
    simp only [get?, keys, List.lookup_cons, List.map_cons, List.mem_cons, not_or]
    split
    · rename_i hk
      simp [eq_of_beq hk]
    · rename_i hk
      rw [hrest, and_iff_right (ne_of_beq_false hk)]

end Entries

theorem Value.allFieldsCopyable_merge {es added : Entries Value}
    (hes : allFieldsCopyable es = true) (hadded : allFieldsCopyable added = true) :
    allFieldsCopyable (es.merge added) = true := by
  apply allFieldsCopyable_iff.mpr
  intro e hm
  rcases Entries.mem_merge hm with hm | hm
  · exact allFieldsCopyable_iff.mp hes e hm
  · exact allFieldsCopyable_iff.mp hadded e hm

namespace NarrativeState

/-- What is true of every state that an engine keeps: its node is one of the story, its history has
begun, and its flags can be copied. -/
structure Fits (story : Story) (s : NarrativeState) : Prop where
  known : story.has s.node = true
  begun : s.history ≠ []
  copyable : s.copyable = true

theorem make_eq_ok {node : Value} {flags : Entries Value} {history : List String}
    {s : NarrativeState} (h : make node flags history = .ok s) :
    node = .text s.node ∧ Text.isAllBlank s.node = false ∧ s.flags = flags ∧ s.history ≠ [] ∧
      (history ≠ [] → s.history = history) := by
  cases node <;> simp only [make, reduceCtorEq] at h
  split at h
  · cases h
  · rename_i hb
    cases h
    refine ⟨rfl, by simpa using hb, rfl, ?_, ?_⟩
    · cases history <;> simp
    · intro hne
      simp [hne]

theorem make_of_shown {node : String} {flags : Entries Value} {history : List String}
    (hn : Text.isAllBlank node = false) (hh : history ≠ []) :
    make (.text node) flags history = .ok ⟨node, flags, history⟩ := by
  simp [make, hn, hh]

theorem clone_eq_ok {s t : NarrativeState} (h : s.clone = .ok t) :
    t.node = s.node ∧ t.flags = s.flags ∧ t.history ≠ [] ∧
      (s.history ≠ [] → t.history = s.history) ∧ t.copyable = true := by
  unfold clone at h
  split at h
  · rename_i hc
    obtain ⟨hn, _, hf, hb, hh⟩ := make_eq_ok h
    exact ⟨(Value.text.inj hn).symm, hf, hb, hh, by simpa [NarrativeState.copyable, hf] using hc⟩
  · cases h

/-- A state with a history is its own copy. -/
theorem clone_eq_self {s t : NarrativeState} (h : s.clone = .ok t) (hb : s.history ≠ []) :
    t = s := by
  obtain ⟨hn, hf, _, hh, _⟩ := clone_eq_ok h
  cases s
  cases t
  simp_all

theorem Fits.clone {story : Story} {s : NarrativeState} (h : s.Fits story) (hs : story.Sound) :
    s.clone = .ok s := by
  simp [NarrativeState.clone, h.copyable, make_of_shown (hs.shown_of_has h.known) h.begun]

theorem fits_of_clone {story : Story} {s t : NarrativeState} (h : s.clone = .ok t)
    (hk : story.has s.node = true) : t.Fits story := by
  obtain ⟨hn, _, hb, _, hc⟩ := clone_eq_ok h
  exact ⟨hn ▸ hk, hb, hc⟩

theorem start_fits {story : Story} (h : story.Sound) : (start story.initial).Fits story :=
  ⟨h.begins, by simp [start], rfl⟩

theorem Fits.moveTo {story : Story} {s : NarrativeState} {id : String} (h : s.Fits story)
    (hid : story.has id = true) : (s.moveTo id).Fits story :=
  ⟨hid, by simp [NarrativeState.moveTo], h.copyable⟩

theorem Fits.withEffects {story : Story} {s : NarrativeState} {effects : Entries Value}
    (h : s.Fits story) (he : Value.allFieldsCopyable effects = true) :
    (s.withEffects effects).Fits story :=
  ⟨h.known, h.begun, Value.allFieldsCopyable_merge h.copyable he⟩

theorem ofPayload_copyable {v : Value} {s : NarrativeState} (h : ofPayload v = .ok s) :
    s.copyable = true ∧ s.history ≠ [] := by
  cases v <;> simp only [ofPayload, reduceCtorEq] at h
  split at h
  · split at h
    · cases h
    · split at h
      · split at h
        · rename_i flags _ _ _ _
          split at h
          · cases h
          · rename_i hc
            obtain ⟨history, _, h⟩ := bind_eq_ok.mp h
            obtain ⟨_, _, hf, hb, _⟩ := make_eq_ok (mapError_eq_ok.mp h)
            exact ⟨by simpa [NarrativeState.copyable, hf] using hc, hb⟩
        · cases h
      · cases h
  · cases h

end NarrativeState

/-- A state that fits is what it is read as. -/
theorem Save.StateRecord.state_of_fits {story : Story} {s : NarrativeState} (h : s.Fits story)
    (hs : story.Sound) (others : Entries Value) :
    (⟨s.node, s.flags, s.history, others⟩ : StateRecord).state = .ok s := by
  have hc : Value.allFieldsCopyable s.flags = true := h.copyable
  simp [state, hc, NarrativeState.make_of_shown (hs.shown_of_has h.known) h.begun]

/-- The state in a record of a save can be copied, and its history has begun. -/
theorem Save.StateRecord.state_eq_ok {r : StateRecord} {s : NarrativeState}
    (h : r.state = .ok s) :
    s.node = r.node ∧ s.flags = r.flags ∧ (r.history ≠ [] → s.history = r.history) ∧
      s.history ≠ [] ∧ s.copyable = true := by
  unfold state at h
  split at h
  · rename_i hc
    obtain ⟨hn, _, hf, hb, hh⟩ := NarrativeState.make_eq_ok (mapError_eq_ok.mp h)
    exact ⟨(Value.text.inj hn).symm, hf, hh, hb, by simpa [NarrativeState.copyable, hf] using hc⟩
  · cases h

end Storyline
