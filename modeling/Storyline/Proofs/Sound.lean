import Storyline.Proofs.Load
import Storyline.Proofs.Shelf
import Storyline.Proofs.Step
import Storyline.Proofs.Timeline

namespace Storyline

namespace Timeline

/-- Neither stack is longer than it may be, and nothing is being put back. -/
structure Settled (t : Timeline) : Prop where
  still : t.restoring = false
  past : t.past.length ≤ t.config.maxUndo
  future : t.future.length ≤ t.config.maxRedo

def states (t : Timeline) : List NarrativeState := (t.past ++ t.future).map TimelineEntry.state

theorem mem_states_past {t : Timeline} {x : TimelineEntry} (h : x ∈ t.past) : x.state ∈ t.states :=
  List.mem_map_of_mem (List.mem_append_left _ h)

theorem mem_states_future {t : Timeline} {x : TimelineEntry} (h : x ∈ t.future) :
    x.state ∈ t.states :=
  List.mem_map_of_mem (List.mem_append_right _ h)

theorem mem_states_of_subset {t t' : Timeline} {s : NarrativeState} (h : s ∈ t'.states)
    (hp : t'.past ⊆ t.past) (hf : t'.future ⊆ t.future) : s ∈ t.states := by
  obtain ⟨x, hx, rfl⟩ := List.mem_map.mp h
  rcases List.mem_append.mp hx with hx | hx
  · exact mem_states_past (hp hx)
  · exact mem_states_future (hf hx)

theorem Settled.record {t : Timeline} (h : t.Settled) (a : Ambient) (s : NarrativeState)
    (action : Action) (metadata : Entries Value) : (t.record a s action metadata).2.1.Settled := by
  rcases record_cases t a s action metadata with hr | hr | ⟨entry, _, hr⟩ <;> rw [hr]
  · exact h
  · exact ⟨h.still, h.past, Nat.zero_le _⟩
  · exact ⟨h.still, List.length_take_le _ _, Nat.zero_le _⟩

/-- A recorded state is the only new one. -/
theorem mem_states_record {t : Timeline} {a : Ambient} {s : NarrativeState} {action : Action}
    {metadata : Entries Value} {u : NarrativeState}
    (h : u ∈ (t.record a s action metadata).2.1.states) : u ∈ t.states ∨ s.clone = .ok u := by
  rcases record_cases t a s action metadata with hr | hr | ⟨entry, he, hr⟩
  · exact .inl (hr ▸ h)
  · rw [hr] at h
    exact .inl (mem_states_of_subset h (List.Subset.refl _) (List.nil_subset _))
  · rw [hr] at h
    obtain ⟨x, hx, rfl⟩ := List.mem_map.mp h
    rw [List.append_nil] at hx
    rcases List.mem_cons.mp (List.mem_of_mem_take hx) with rfl | hx
    · exact .inr he
    · exact .inl (mem_states_past hx)

theorem Settled.travel {t : Timeline} (h : t.Settled) (a : Ambient) (d : Direction)
    (captured : Except StateFault NarrativeState) :
    (t.travel a d captured).timeline.Settled := by
  rcases travel_cases t a d captured with
    ⟨_, ht, _⟩ | ⟨entry, rest, current, left, ha, _, _, _, _, ht⟩ <;>
    rw [ht]
  · exact h
  · cases d with
    | undo =>
      have hp := h.past
      rw [show t.past = entry :: rest from ha, List.length_cons] at hp
      exact ⟨rfl, Nat.le_of_lt hp, List.length_take_le _ _⟩
    | redo =>
      have hf := h.future
      rw [show t.future = entry :: rest from ha, List.length_cons] at hf
      exact ⟨rfl, List.length_take_le _ _, Nat.le_of_lt hf⟩

/-- After a step the stacks hold old states and the captured one, and what is put back is an old
one. -/
theorem mem_states_travel {t : Timeline} {a : Ambient} {d : Direction}
    {captured : Except StateFault NarrativeState} {u : NarrativeState}
    (h : u ∈ (t.travel a d captured).timeline.states ∨
      (t.travel a d captured).restored = some u) : u ∈ t.states ∨ captured = .ok u := by
  rcases travel_cases t a d captured with
    ⟨_, ht, hn, _⟩ | ⟨entry, rest, current, left, ha, hc, hl, _, hs, ht⟩
  · rw [ht, hn] at h
    exact h.imp_right nofun
  · have hrest : ∀ x ∈ entry :: rest, x.state ∈ t.states := by
      rw [← ha]
      cases d with
      | undo => exact fun x => mem_states_past
      | redo => exact fun x => mem_states_future
    rcases h with h | h
    · rw [ht] at h
      cases d with
      | undo =>
        obtain ⟨x, hx, rfl⟩ := List.mem_map.mp h
        rcases List.mem_append.mp hx with hx | hx
        · exact .inl (hrest x (List.mem_cons_of_mem _ hx))
        · rcases List.mem_cons.mp (List.mem_of_mem_take hx) with rfl | hx
          · exact .inr (hl ▸ hc)
          · exact .inl (mem_states_future hx)
      | redo =>
        obtain ⟨x, hx, rfl⟩ := List.mem_map.mp h
        rcases List.mem_append.mp hx with hx | hx
        · rcases List.mem_cons.mp (List.mem_of_mem_take hx) with rfl | hx
          · exact .inr (hl ▸ hc)
          · exact .inl (mem_states_past hx)
        · exact .inl (hrest x (List.mem_cons_of_mem _ hx))
    · rw [hs] at h
      cases h
      exact .inl (hrest entry List.mem_cons_self)

theorem Settled.configure {t : Timeline} (h : t.Settled) (c : Config) :
    (t.configure c).Settled := by
  unfold Timeline.configure
  split
  · exact ⟨h.still, List.length_take_le _ _, List.length_take_le _ _⟩
  · exact ⟨h.still, Nat.zero_le _, Nat.zero_le _⟩

theorem mem_states_configure {t : Timeline} {c : Config} {s : NarrativeState}
    (h : s ∈ (t.configure c).states) : s ∈ t.states := by
  unfold configure at h
  split at h
  · exact mem_states_of_subset h (List.take_subset _ _) (List.take_subset _ _)
  · cases h

end Timeline

namespace Engine

/-- What the operations of an engine may rely on. -/
structure Sound (e : Engine) : Prop where
  story : e.story.Sound
  live : e.state.Fits e.story
  recorded : ∀ s ∈ e.timeline.states, s.Fits e.story
  shelved : ∀ c ∈ e.shelf.checkpoints, c.state.Fits e.story
  settled : e.timeline.Settled
  timed : ∀ x ∈ e.events, ∃ d, x.timestamp = .double d

variable {e e' : Engine}

/-- The live state of a sound engine can always be captured, as it is. -/
theorem Sound.clone (h : e.Sound) : e.state.clone = .ok e.state := h.live.clone h.story

/-- A new engine has a state to start with, and nothing behind it. -/
theorem make_eq_ok {story : Story} {ambient : Ambient} {setup : Setup}
    (h : make story ambient setup = .ok e) :
    e.story = story ∧ firstState story setup.state = .ok e.state ∧
      (∃ c, e.timeline = .empty c) ∧ e.shelf.checkpoints = [] ∧ e.events = [] := by
  obtain ⟨state, hst, h⟩ := bind_eq_ok.mp h
  obtain ⟨ev, _, h⟩ := bind_eq_ok.mp h
  obtain ⟨shelf, hsh, h⟩ := bind_eq_ok.mp h
  obtain ⟨tc, _, h⟩ := bind_eq_ok.mp h
  obtain ⟨ac, _, h⟩ := bind_eq_ok.mp h
  cases h
  refine ⟨rfl, hst, ⟨tc, rfl⟩, ?_, rfl⟩
  replace hsh := mapError_eq_ok.mp hsh
  unfold Shelf.make at hsh
  split at hsh
  · cases hsh
  · split at hsh <;> cases hsh
    rfl

theorem firstState_fits {story : Story} {given : Option NarrativeState} {s : NarrativeState}
    (hs : story.Sound) (h : firstState story given = .ok s) : s.Fits story := by
  unfold firstState at h
  split at h
  · cases h
    exact NarrativeState.start_fits hs
  · split at h
    · rename_i hk
      exact NarrativeState.fits_of_clone (mapError_eq_ok.mp h) hk
    · cases h

theorem Sound.made {story : Story} {ambient : Ambient} {setup : Setup} (hs : story.Made)
    (h : make story ambient setup = .ok e) : e.Sound := by
  obtain ⟨rfl, hst, ⟨c, ht⟩, hshelf, hevents⟩ := make_eq_ok h
  exact ⟨hs.sound, firstState_fits hs.sound hst, by simp [ht, Timeline.states, Timeline.empty],
    by simp [hshelf], by rw [ht]; exact ⟨rfl, Nat.zero_le _, Nat.zero_le _⟩, by simp [hevents]⟩

theorem Sound.withState (h : e.Sound) {s : NarrativeState} (hs : s.Fits e.story) :
    ({ e with state := s } : Engine).Sound :=
  { h with live := hs }

section
variable {P : NarrativeState → Prop}

/-- What holds of the recorded states and of every copy of the live one still does when that is
recorded. -/
theorem recorded_track (hcopy : ∀ s, e.state.clone = .ok s → P s)
    (h : ∀ s ∈ e.timeline.states, P s) (action : Action) (metadata : Entries Value) :
    ∀ s ∈ (e.track action metadata).2.timeline.states, P s := by
  intro s hs
  rcases Timeline.mem_states_record hs with hs | hs
  · exact h s hs
  · exact hcopy s hs

/-- What holds of the live state, its copies and the recorded states still does after undo and
redo. -/
theorem travel_states (hcopy : ∀ s, e.state.clone = .ok s → P s) (live : P e.state)
    (h : ∀ s ∈ e.timeline.states, P s) (d : Timeline.Direction) :
    P (e.travel d).2.state ∧ ∀ s ∈ (e.travel d).2.timeline.states, P s := by
  have hall : ∀ s, s ∈ (e.timeline.travel e.ambient d e.state.clone).timeline.states ∨
      (e.timeline.travel e.ambient d e.state.clone).restored = some s → P s := by
    intro s hs
    rcases Timeline.mem_states_travel hs with hs | hs
    · exact h s hs
    · exact hcopy s hs
  refine ⟨?_, fun s hs => hall s (.inl hs)⟩
  show P ((e.timeline.travel e.ambient d e.state.clone).restored.getD e.state)
  cases hr : (e.timeline.travel e.ambient d e.state.clone).restored with
  | none => exact live
  | some s => exact hall s (.inr hr)

end

theorem Sound.copied (h : e.Sound) (s : NarrativeState) (hs : e.state.clone = .ok s) :
    s.Fits e.story :=
  NarrativeState.fits_of_clone hs h.live.known

theorem Sound.track (h : e.Sound) (action : Action) (metadata : Entries Value) :
    (e.track action metadata).2.Sound :=
  { h with
    recorded := recorded_track h.copied h.recorded action metadata
    settled := h.settled.record _ _ _ _ }

theorem Sound.travel (h : e.Sound) (d : Timeline.Direction) : (e.travel d).2.Sound := by
  obtain ⟨live, recorded⟩ := travel_states h.copied h.live h.recorded d
  exact { h with live, recorded, settled := h.settled.travel _ _ _ }

theorem Sound.follow (h : e.Sound) {c : Choice} {target : Node}
    (ht : e.story.find? c.target = some target) (hc : Value.allFieldsCopyable c.effects = true) :
    (e.follow c target).Sound := by
  obtain ⟨hk, hid⟩ := Story.has_eq_find? ht
  refine { h with live := (h.live.withEffects hc).moveTo (hid ▸ hk), timed := ?_ }
  intro x hx
  rcases List.mem_append.mp hx with hx | hx
  · exact h.timed x hx
  · exact ⟨_, by rw [List.mem_singleton.mp hx]⟩

theorem Sound.restored (h : e.Sound) {o : Save.LoadOptions} {data : Value} {l : Save.Loaded}
    (hl : Save.check e.story o data = .ok l) : (e.restored o l).Sound := by
  refine { h with live := Save.check_fits hl, timed := ?_ }
  intro x hx
  dsimp only [Engine.restored] at hx
  split at hx
  · obtain ⟨r, hr, rfl⟩ := List.mem_map.mp hx
    exact Save.check_timed hl r hr
  · exact h.timed x hx

theorem Sound.step {brought : NarrativeState → Prop} (hs : Step brought e e') (h : e.Sound) :
    e'.Sound := by
  cases hs with
  | learnt _ | ruled _ | stored _ | waited _ _ | throttled _ _ => exact { h with }
  | tracked action metadata => exact h.track action metadata
  | followed ht hc => exact h.follow ht hc
  | moved hk => exact h.withState (h.live.moveTo hk)
  | flagged hv =>
    exact h.withState (h.live.withEffects (by simp [Value.allFieldsCopyable, hv]))
  | restarted => exact { h with live := NarrativeState.start_fits h.story, timed := by simp }
  | placed _ hs => exact h.withState hs
  | loaded hl _ => exact h.restored hl
  | recalled hs hk =>
    obtain ⟨c, hc, rfl⟩ := Shelf.mem_of_stateOf? hs
    exact h.withState (h.shelved c hc)
  | travelled d => exact h.travel d
  | cleared =>
    exact { h with recorded := by simp [clearTimeline, Timeline.clear, Timeline.states],
                   settled := ⟨h.settled.still, Nat.zero_le _, Nat.zero_le _⟩ }
  | rebounded c =>
    exact { h with recorded := fun s hs => h.recorded s (Timeline.mem_states_configure hs),
                   settled := h.settled.configure c }
  | rescheduled c => exact { h with shelved := fun c hc => h.shelved c (Autosave.mem_retain hc) }
  | autosaved trigger metadata =>
    refine { h with shelved := ?_ }
    intro c hc
    rcases Autosave.mem_save hc with hc | ⟨s, hs, hc⟩
    · exact h.shelved c hc
    · have hs' : e.state.clone = .ok s := hs
      rw [h.clone] at hs'
      cases hs'
      exact NarrativeState.fits_of_clone hc h.live.known
  | kept hd =>
    refine { h with shelved := ?_ }
    intro c hc
    rcases Shelf.mem_create hc with hc | hc
    · exact h.shelved c hc
    · exact NarrativeState.fits_of_clone (hd ▸ hc) h.live.known
  | deleted id => exact { h with shelved := fun c hc => h.shelved c (Shelf.mem_delete hc) }
  | cleaned hcl => exact { h with shelved := fun c hc => h.shelved c (Shelf.mem_cleanup hcl hc) }
  | imported hi _ =>
    refine { h with shelved := ?_ }
    intro c hc
    rcases Shelf.mem_importFrom hi hc with hc | hc
    · exact h.shelved c hc
    · exact hc

theorem Sound.attempt (h : e.Sound) (op : Operation) : (e.attempt op).2.Sound :=
  (attempt_steps e op).keeps Sound.step h

theorem Reachable.sound (h : Reachable e) : e.Sound := h.keeps Sound.made Sound.step

end Engine
end Storyline
