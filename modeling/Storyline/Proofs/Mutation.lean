import Storyline.Proofs.Refusal
import Storyline.Proofs.Sound

namespace Storyline.Engine

/-- Operations that change the state and leave a record of it. -/
def Operation.mutates : Operation → Bool
  | .choose _ _ | .select _ _ | .goTo _ | .setFlag _ _ | .reset | .load _ _ | .loadFrom _ _
  | .restore _ => true
  | .loadState _ tracked | .loadPayload _ tracked => tracked
  | _ => false

/-- All that can be tracked is. -/
structure Tracking (e : Engine) : Prop where
  enabled : e.timeline.config.enabled = true
  actions : Action.trackable ⊆ e.timeline.config.actions

/-- The second engine has a record of the state of the first, and nothing to redo. -/
def Recorded (e e' : Engine) : Prop :=
  ∃ entry : TimelineEntry, entry.state = e.state ∧ e'.timeline = { e.timeline with
    future := [], past := (entry :: e.timeline.past).take e.timeline.config.maxUndo }

variable {e e₁ e' : Engine}

theorem visible_keeps (customData : Entries Value) :
    ∃ evaluator, (e.visible customData).2 = { e with evaluator } := by
  unfold visible
  split
  · exact ⟨_, rfl⟩
  · exact ⟨_, rfl⟩

theorem available_keeps {time : Option Number} {customData : Entries Value}
    {r : Except EngineFault (List Choice)} (h : e.available time customData = (r, e')) :
    ∃ evaluator, e' = { e with evaluator } := by
  obtain rfl : (e.available time customData).2 = e' := congrArg Prod.snd h
  refine andThen_keeps (I := fun e' => ∃ evaluator, e' = { e with evaluator })
    (visible_keeps customData) ?_
  rintro seen _ _ ⟨ev, rfl⟩
  exact ⟨ev, rfl⟩

/-- Two engines with one state, one timeline and one trail. -/
structure Alike (e e' : Engine) : Prop where
  state : e'.state = e.state
  timeline : e'.timeline = e.timeline
  events : e'.events = e.events

/-- An automatic save leaves all of that alone. -/
theorem happened_alike {trigger : Autosave.Trigger} {metadata : Entries Value}
    {r : Except EngineFault Unit} (h : e.happened trigger metadata = (r, e')) : e.Alike e' := by
  obtain rfl : (e.happened trigger metadata).2 = e' := congrArg Prod.snd h
  unfold happened
  split
  · exact ⟨rfl, rfl, rfl⟩
  · refine andThen_keeps (I := e.Alike) ?_ fun _ _ _ => id
    unfold triggerAutosave
    split
    · exact ⟨rfl, rfl, rfl⟩
    · refine andThen_keeps (I := e.Alike) ?_ fun _ _ _ => id
      exact ⟨rfl, rfl, rfl⟩

/-- A tracked action that is recorded without a fault leaves its record. -/
theorem track_recorded {action : Action} {metadata : Entries Value} (hs : e.Sound)
    (ht : e.Tracking) (ha : action ∈ Action.trackable)
    (h : e.track action metadata = (.ok (), e')) : e.Recorded e' := by
  unfold track at h
  rcases hr : e.timeline.record e.ambient e.state action metadata with ⟨x, t, a⟩
  rw [hr] at h
  cases x with
  | error fault => cases h
  | ok x =>
    cases h
    obtain ⟨entry, hc, rfl⟩ :=
      Timeline.record_tracked hs.settled.still ht.enabled (ht.actions ha) hr
    exact ⟨entry, NarrativeState.clone_eq_self hc hs.live.begun, rfl⟩

theorem take_recorded {c : Choice} {target n : Node} (hs : e.Sound) (ht : e.Tracking)
    (h : e.take c target = (.ok n, e')) : e.Recorded e' := by
  obtain ⟨_, e₁, h₁, h⟩ := andThen_eq_ok.mp h
  have hr := track_recorded hs ht (by decide) h₁
  split at h
  · cases h
  · obtain ⟨_, e₂, h₂, h⟩ := andThen_eq_ok.mp h
    cases h
    obtain ⟨entry, he, htl⟩ := hr
    exact ⟨entry, he, (happened_alike h₂).timeline.trans htl⟩

theorem commit_recorded {c : Choice} {available : List Choice} {time : Option Number} {n : Node}
    (hs : e.Sound) (ht : e.Tracking) (h : e.commit c available time = (.ok n, e')) :
    e.Recorded e' := by
  unfold commit at h
  split at h
  · cases h
  · split at h
    · cases h
    · split at h
      · cases h
      · exact take_recorded hs ht h

theorem select_recorded {c : Choice} {time : Option Number} {n : Node} (hs : e.Sound)
    (ht : e.Tracking) (h : e.select c time = (.ok n, e')) : e.Recorded e' := by
  obtain ⟨cs, e₁, h₁, h⟩ := andThen_eq_ok.mp h
  obtain ⟨ev, rfl⟩ := available_keeps h₁
  exact commit_recorded (e := { e with evaluator := ev }) { hs with } ⟨ht.enabled, ht.actions⟩ h

theorem choose_recorded {index : Value} {time : Option Number} {n : Node} (hs : e.Sound)
    (ht : e.Tracking) (h : e.choose index time = (.ok n, e')) : e.Recorded e' := by
  obtain ⟨seen, e₁, h₁, h⟩ := andThen_eq_ok.mp h
  obtain ⟨ev, hev⟩ := visible_keeps (e := e) []
  rw [h₁] at hev
  cases hev
  split at h
  · cases h
  · exact select_recorded (e := { e with evaluator := ev }) { hs with } ⟨ht.enabled, ht.actions⟩ h

theorem goTo_recorded {id : String} {n : Node} (hs : e.Sound) (ht : e.Tracking)
    (h : e.goTo id = (.ok n, e')) : e.Recorded e' := by
  unfold goTo at h
  split at h
  · cases h
  · obtain ⟨_, e₁, h₁, h⟩ := andThen_eq_ok.mp h
    cases h
    have hrec : e.Recorded e₁ := track_recorded hs ht (by decide) h₁
    exact hrec

theorem setFlag_recorded {name value : Value} (hs : e.Sound) (ht : e.Tracking)
    (h : e.setFlag name value = (.ok (), e')) : e.Recorded e' := by
  unfold setFlag at h
  split at h
  · cases h
  · obtain ⟨_, e₁, h₁, h⟩ := andThen_eq_ok.mp h
    have hr : e.Recorded e₁ := track_recorded hs ht (by decide) h₁
    obtain ⟨entry, he, htl⟩ := hr
    split at h
    · exact ⟨entry, he, (happened_alike h).timeline.trans htl⟩
    · cases h

theorem reset_recorded (hs : e.Sound) (ht : e.Tracking) (h : e.reset = (.ok (), e')) :
    e.Recorded e' := by
  obtain ⟨_, e₁, h₁, h⟩ := andThen_eq_ok.mp h
  cases h
  have hrec : e.Recorded e₁ := track_recorded hs ht (by decide) h₁
  exact hrec

theorem replace_recorded {s : NarrativeState} (hs : e.Sound) (ht : e.Tracking)
    (h : e.replace s true = (.ok (), e')) : e.Recorded e' := by
  unfold replace at h
  split at h
  · cases h
  · obtain ⟨_, e₁, h₁, h⟩ := andThen_eq_ok.mp h
    have hr : e.Recorded e₁ := track_recorded hs ht (by decide) h₁
    obtain ⟨entry, he, htl⟩ := hr
    exact ⟨entry, he, (happened_alike h).timeline.trans htl⟩

theorem loadState_recorded {s : NarrativeState} (hs : e.Sound) (ht : e.Tracking)
    (h : e.loadState s true = (.ok (), e')) : e.Recorded e' := by
  unfold loadState at h
  split at h
  · cases h
  · exact replace_recorded hs ht h

theorem loadPayload_recorded {payload : Value} (hs : e.Sound) (ht : e.Tracking)
    (h : e.loadPayload payload true = (.ok (), e')) : e.Recorded e' := by
  unfold loadPayload at h
  split at h
  · cases h
  · exact replace_recorded hs ht h

theorem load_recorded {o : Save.LoadOptions} {data : Value} {r : Save.Result} (hs : e.Sound)
    (ht : e.Tracking) (h : e.load o data = (.ok r, e')) (hr : r.success = true) :
    e.Recorded e' := by
  rcases load_eq_ok h with ⟨hf, _⟩ | ⟨l, e₁, _, _, h₁, h₂⟩
  · rw [hr] at hf
    cases hf
  · obtain ⟨entry, he, htl⟩ := track_recorded hs ht (by decide) h₁
    exact ⟨entry, he, (happened_alike h₂).timeline.trans htl⟩

theorem loadFrom_recorded {key : Value} {o : Save.LoadOptions} {r : Save.Result} (hs : e.Sound)
    (ht : e.Tracking) (h : e.loadFrom key o = (.ok r, e')) (hr : r.success = true) :
    e.Recorded e' := by
  unfold loadFrom at h
  split at h
  · cases h
    cases hr
  · exact load_recorded hs ht h hr

theorem restore_recorded {id : String} {r : Save.Result} (hs : e.Sound) (ht : e.Tracking)
    (h : e.restore id = (.ok r, e')) (hr : r.success = true) : e.Recorded e' := by
  unfold restore at h
  split at h
  · cases h
    cases hr
  · split at h
    · cases h
      cases hr
    · obtain ⟨_, e₁, h₁, h⟩ := andThen_eq_ok.mp h
      cases h
      have hrec : e.Recorded e₁ := track_recorded hs ht (by decide) h₁
      exact hrec

theorem returned_eq_true {α : Type} {o : Outcome α} (h : (returned o).1 = true) :
    ∃ a, o = (.ok a, (returned o).2) := by
  obtain ⟨r | a, e'⟩ := o
  · cases h
  · exact ⟨a, rfl⟩

theorem succeeded_eq_true {o : Outcome Save.Result} (h : (succeeded o).1 = true) :
    ∃ r, o = (.ok r, (succeeded o).2) ∧ r.success = true := by
  obtain ⟨r | r, e'⟩ := o
  · cases h
  · exact ⟨r, rfl, h⟩

/-- Every successful change of the state is recorded. -/
theorem attempt_recorded {op : Operation} (hs : e.Sound) (ht : e.Tracking)
    (hm : op.mutates = true) (h : (e.attempt op).1 = true) : e.Recorded (e.attempt op).2 := by
  cases op with
  | choose index time =>
    obtain ⟨n, hn⟩ := returned_eq_true h
    exact choose_recorded hs ht hn
  | select c time =>
    obtain ⟨n, hn⟩ := returned_eq_true h
    exact select_recorded hs ht hn
  | goTo id =>
    obtain ⟨n, hn⟩ := returned_eq_true h
    exact goTo_recorded hs ht hn
  | setFlag name value =>
    obtain ⟨_, hn⟩ := returned_eq_true h
    exact setFlag_recorded hs ht hn
  | reset =>
    obtain ⟨_, hn⟩ := returned_eq_true h
    exact reset_recorded hs ht hn
  | loadState s tracked =>
    cases hm
    obtain ⟨_, hn⟩ := returned_eq_true h
    exact loadState_recorded hs ht hn
  | loadPayload payload tracked =>
    cases hm
    obtain ⟨_, hn⟩ := returned_eq_true h
    exact loadPayload_recorded hs ht hn
  | load o data =>
    obtain ⟨r, hr, hsuccess⟩ := succeeded_eq_true h
    exact load_recorded hs ht hr hsuccess
  | loadFrom key o =>
    obtain ⟨r, hr, hsuccess⟩ := succeeded_eq_true h
    exact loadFrom_recorded hs ht hr hsuccess
  | restore id =>
    obtain ⟨r, hr, hsuccess⟩ := succeeded_eq_true h
    exact restore_recorded hs ht hr hsuccess
  | _ => cases hm

end Storyline.Engine
