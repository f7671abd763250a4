import Storyline.Proofs.Taking

namespace Storyline

namespace NarrativeState
variable {s t : NarrativeState}

/-- The history ends at the node. -/
def Arrived (s : NarrativeState) : Prop := s.history.getLast? = some s.node

theorem start_arrived (node : String) : (start node).Arrived := rfl

theorem moveTo_arrived (s : NarrativeState) (node : String) : (s.moveTo node).Arrived := by
  simp [Arrived, moveTo]

theorem Arrived.withEffects (h : s.Arrived) (effects : Entries Value) :
    (s.withEffects effects).Arrived :=
  h

/-- Copying a state does not change its way. -/
theorem Arrived.clone (h : s.Arrived) (hc : s.clone = .ok t) : t.Arrived := by
  have hb : s.history ≠ [] := by
    intro hnil
    simp [Arrived, hnil] at h
  rw [clone_eq_self hc hb]
  exact h

end NarrativeState

namespace Engine
variable {e e' : Engine} {brought : NarrativeState → Prop}

/-- All states that an engine keeps: the live one, those on the timeline, and those of the
checkpoints. -/
def states (e : Engine) : List NarrativeState :=
  e.state :: (e.timeline.states ++ e.shelf.checkpoints.map Checkpoint.state)

theorem forall_mem_states {P : NarrativeState → Prop} : (∀ s ∈ e.states, P s) ↔
    P e.state ∧ (∀ s ∈ e.timeline.states, P s) ∧ ∀ c ∈ e.shelf.checkpoints, P c.state := by
  simp [states, or_imp, forall_and]

/-- Every state that the engine keeps has arrived. -/
structure Arrived (e : Engine) : Prop where
  live : e.state.Arrived
  recorded : ∀ s ∈ e.timeline.states, s.Arrived
  shelved : ∀ c ∈ e.shelf.checkpoints, c.state.Arrived

theorem Arrived.copied (h : e.Arrived) (s : NarrativeState) (hs : e.state.clone = .ok s) :
    s.Arrived :=
  h.live.clone hs

theorem Arrived.track (h : e.Arrived) (action : Action) (metadata : Entries Value) :
    (e.track action metadata).2.Arrived :=
  { h with recorded := recorded_track h.copied h.recorded action metadata }

theorem Arrived.travel (h : e.Arrived) (d : Timeline.Direction) : (e.travel d).2.Arrived := by
  obtain ⟨live, recorded⟩ := travel_states h.copied h.live h.recorded d
  exact { h with live, recorded }

/-- No step leads astray, unless what is brought is already. -/
theorem Arrived.step (hs : Step brought e e') (hb : ∀ s, brought s → s.Arrived) (h : e.Arrived) :
    e'.Arrived := by
  cases hs with
  | learnt _ | ruled _ | stored _ | waited _ _ | throttled _ _ => exact { h with }
  | tracked action metadata => exact h.track action metadata
  | followed _ _ => exact { h with live := NarrativeState.moveTo_arrived _ _ }
  | moved _ => exact { h with live := NarrativeState.moveTo_arrived _ _ }
  | flagged _ => exact { h with live := h.live.withEffects _ }
  | restarted => exact { h with live := NarrativeState.start_arrived _ }
  | placed hs _ => exact { h with live := hb _ hs }
  | loaded _ hs => exact { h with live := hb _ hs }
  | recalled hs _ =>
    obtain ⟨c, hc, rfl⟩ := Shelf.mem_of_stateOf? hs
    exact { h with live := h.shelved c hc }
  | travelled d => exact h.travel d
  | cleared =>
    exact { h with recorded := by simp [clearTimeline, Timeline.clear, Timeline.states] }
  | rebounded c =>
    exact { h with recorded := fun s hs => h.recorded s (Timeline.mem_states_configure hs) }
  | rescheduled c => exact { h with shelved := fun c hc => h.shelved c (Autosave.mem_retain hc) }
  | autosaved trigger metadata =>
    refine { h with shelved := ?_ }
    intro c hc
    rcases Autosave.mem_save hc with hc | ⟨s, hs, hc⟩
    · exact h.shelved c hc
    · exact (h.live.clone hs).clone hc
  | kept hd =>
    refine { h with shelved := ?_ }
    intro c hc
    rcases Shelf.mem_create hc with hc | hc
    · exact h.shelved c hc
    · exact h.live.clone (hd ▸ hc)
  | deleted id => exact { h with shelved := fun c hc => h.shelved c (Shelf.mem_delete hc) }
  | cleaned hcl => exact { h with shelved := fun c hc => h.shelved c (Shelf.mem_cleanup hcl hc) }
  | imported hi hs =>
    refine { h with shelved := ?_ }
    intro c hc
    rcases (Shelf.mem_imported hi).2 c hc with hc | rfl
    · exact h.shelved c hc
    · exact hb _ hs

/-- The engines that come about while every state from outside has arrived: the one that an engine
is made with, if any, and all that its operations bring. -/
inductive Guided : Engine → Prop
  | made {story : Story} {ambient : Ambient} {setup : Setup} {e : Engine} : story.Made →
    make story ambient setup = .ok e → (setup.state.isSome = true → e.state.Arrived) → Guided e
  | next {e : Engine} (op : Operation) :
    Guided e → (∀ s, op.Brings e s → s.Arrived) → Guided (e.attempt op).2

theorem Arrived.made {story : Story} {ambient : Ambient} {setup : Setup}
    (h : make story ambient setup = .ok e) (hs : setup.state.isSome = true → e.state.Arrived) :
    e.Arrived := by
  obtain ⟨_, hst, ⟨c, ht⟩, hshelf, _⟩ := make_eq_ok h
  refine ⟨?_, by simp [ht, Timeline.states, Timeline.empty], by simp [hshelf]⟩
  cases hg : setup.state with
  | none =>
    rw [hg] at hst
    rw [← Except.ok.inj hst]
    exact NarrativeState.start_arrived _
  | some s => exact hs (by rw [hg]; rfl)

theorem Guided.arrived (h : e.Guided) : e.Arrived := by
  induction h with
  | made _ hm hs => exact .made hm hs
  | next op _ hb ih => exact (attempt_steps _ op).keeps (fun hs h => h.step hs hb) ih

/-- The current node is the given one, and the history is longer by it. -/
def WentTo (e : Engine) (id : String) (e' : Engine) : Prop :=
  e'.state.node = id ∧ e'.state.history = e.state.history ++ [id]

theorem select_went {c : Choice} {time : Option Number} {n : Node} (h : e.Sound)
    (hs : e.select c time = (.ok n, e')) : e.WentTo c.target e' := by
  obtain ⟨_, ev, _, _, target, ht, htake⟩ := select_eq_ok.mp hs
  obtain ⟨_, hst⟩ := take_eq_ok (h.withEvaluator ev) htake
  rw [(Story.has_eq_find? ht).2] at hst
  rw [WentTo, hst]
  exact ⟨rfl, rfl⟩

theorem choose_went {index : Value} {time : Option Number} {n : Node} (h : e.Sound)
    (hc : e.choose index time = (.ok n, e')) : ∃ seen c, (e.visible []).1 = .ok seen ∧
      choiceAt? seen index = some c ∧ e.WentTo c.target e' := by
  obtain ⟨seen, e₁, hv, hc⟩ := andThen_eq_ok.mp hc
  obtain ⟨ev, hev⟩ := visible_keeps (e := e) []
  rw [hv] at hev
  cases hev
  split at hc
  · cases hc
  · rename_i c hat
    have hwent : ({ e with evaluator := ev } : Engine).WentTo c.target e' :=
      select_went (h.withEvaluator ev) hc
    exact ⟨seen, c, by rw [hv], hat, hwent⟩

theorem goTo_went {id : String} {n : Node} (hg : e.goTo id = (.ok n, e')) : e.WentTo id e' := by
  unfold goTo at hg
  split at hg
  · cases hg
  · obtain ⟨_, e₁, ht, hg⟩ := andThen_eq_ok.mp hg
    cases hg
    rw [WentTo, (track_keeps ht).2.1]
    exact ⟨rfl, rfl⟩

/-- All states that an engine keeps are on nodes of its story and have a history. It ends at their
node, if it does so for all states that come from outside. Choices and leaps make it longer by just
the node that they lead to. -/
theorem states_on_trail (h : e.Reachable) :
    (∀ s ∈ e.states, e.story.has s.node = true ∧ s.history ≠ []) ∧
      (e.Guided → ∀ s ∈ e.states, s.Arrived) ∧
      (∀ index time n e', e.choose index time = (.ok n, e') → ∃ seen c,
        (e.visible []).1 = .ok seen ∧ choiceAt? seen index = some c ∧ e.WentTo c.target e') ∧
      (∀ c time n e', e.select c time = (.ok n, e') → e.WentTo c.target e') ∧
      ∀ id n e', e.goTo id = (.ok n, e') → e.WentTo id e' := by
  have hs := h.sound
  refine ⟨?_, ?_, fun _ _ _ _ => choose_went hs, fun _ _ _ _ => select_went hs,
    fun _ _ _ => goTo_went⟩
  · have hfits : ∀ s ∈ e.states, s.Fits e.story :=
      forall_mem_states.mpr ⟨hs.live, hs.recorded, hs.shelved⟩
    exact fun s hmem => ⟨(hfits s hmem).known, (hfits s hmem).begun⟩
  · intro hg
    exact forall_mem_states.mpr ⟨hg.arrived.live, hg.arrived.recorded, hg.arrived.shelved⟩

/-- An engine with a checkpoint that was made in the hall, stepped back to the gate. -/
def steppedBack : Engine :=
  atGate.after [.choose (.int 0) none, .createCheckpoint none { strategy := "manual" } [],
    .travel .undo]

theorem steppedBack_reachable : steppedBack.Reachable :=
  .next _ (.next _ (.next _ atGate_reachable))

theorem steppedBack_guided : steppedBack.Guided := by
  have hm : make .hallway ⟨0, 0⟩ { timeline := some .standard, autosave := some .off } =
      .ok atGate := rfl
  have h : atGate.Guided := .made Story.hallway_made hm nofun
  exact .next _ (.next _ (.next _ h nofun) nofun) nofun

/-- The states that are kept are the live one, one that can be redone, and that of a checkpoint. All
are on nodes of the story with a history that ends there, and a choice and a direct move extend the
history by their target. -/
theorem states_on_trail_gate :
    steppedBack.states = [⟨"gate", [], ["gate"]⟩, ⟨"hall", [], ["gate", "hall"]⟩,
      ⟨"hall", [], ["gate", "hall"]⟩] ∧
    (∀ s ∈ steppedBack.states, Story.hallway.has s.node = true ∧ s.Arrived) ∧
    steppedBack.WentTo "hall" (steppedBack.select openWay none).2 ∧
    steppedBack.WentTo "hall" (steppedBack.goTo "hall").2 := by
  obtain ⟨hfits, harrived, _, hselect, hgo⟩ := states_on_trail steppedBack_reachable
  refine ⟨rfl, fun s hs => ⟨(hfits s hs).1, harrived steppedBack_guided s hs⟩, ?_, ?_⟩
  · exact hselect openWay none _ _ rfl
  · exact hgo "hall" _ _ rfl

end Engine
end Storyline
