import Storyline.Proofs.Sight
import Storyline.Service

namespace Storyline

namespace Engine
variable {e₀ e e' : Engine}

def Operation.Served : Operation → Prop
  | .look _ | .consider _ _ | .choose _ _ | .goTo _ | .setFlag _ _ | .reset | .saveTo _ _
  | .createCheckpoint _ _ _ | .restore _ | .travel _ => True
  | .load o _ | .loadFrom _ o => o.restoreRules = false
  | _ => False

/-- What stays of an engine during a request: its story, its rules, its custom evaluator and how it
saves automatically. The clock stays too, and ids are given out one after the other. -/
structure Steady (e₀ e : Engine) : Prop where
  story : e.story = e₀.story
  rules : e.rules = e₀.rules
  custom : e.evaluator.custom = e₀.evaluator.custom
  config : e.autosave.config = e₀.autosave.config
  clock : e.ambient.clock = e₀.ambient.clock
  issued : e₀.ambient.issued ≤ e.ambient.issued

theorem Steady.refl (e : Engine) : Steady e e := ⟨rfl, rfl, rfl, rfl, rfl, Nat.le_refl _⟩

theorem evaluate_custom (ev : Condition.Evaluator) (expression : Value) (scope : Condition.Scope) :
    (ev.evaluate expression scope).evaluator.custom = ev.custom := by
  cases hcustom : ev.custom with
  | some custom => simp only [Condition.Evaluator.evaluate, hcustom]
  | none =>
    rw [Condition.Evaluator.evaluate_builtin hcustom, ← hcustom]
    cases expression with
    | text s =>
      rcases Condition.Evaluator.evaluateBuiltin_cases s scope with ⟨answer, hev, _⟩ | ⟨hev, _⟩
      · rw [hev]
      · rw [hev, Condition.Evaluator.consult]
        split
        · rfl
        · split
          · rfl
          · exact ev.remember_custom _ _
    | _ => rfl

theorem shown_custom (scope : Condition.Scope) (ev : Condition.Evaluator) (cs : List Choice) :
    (shown scope ev cs).2.custom = ev.custom := by
  induction cs generalizing ev with
  | nil => rfl
  | cons c rest ih =>
    have hfirst : (isShown ev scope c).2.custom = ev.custom := by
      unfold isShown
      dsimp only
      split
      · rfl
      · exact evaluate_custom ev _ scope
    unfold shown
    rcases hs : isShown ev scope c with ⟨r, ev'⟩
    rw [hs] at hfirst
    cases r with
    | error f => exact hfirst
    | ok seen => exact (ih ev').trans hfirst

theorem record_steady (t : Timeline) (a : Ambient) (s : NarrativeState) (action : Action)
    (metadata : Entries Value) : (t.record a s action metadata).2.2.clock = a.clock ∧
      a.issued ≤ (t.record a s action metadata).2.2.issued := by
  unfold Timeline.record
  split
  · exact ⟨rfl, Nat.le_refl _⟩
  · dsimp only
    split
    · exact ⟨rfl, Nat.le_refl _⟩
    · split <;> exact ⟨rfl, Nat.le_succ _⟩

theorem Steady.track (h : Steady e₀ e) (action : Action) (metadata : Entries Value) :
    Steady e₀ (e.track action metadata).2 := by
  obtain ⟨hclock, hissued⟩ := record_steady e.timeline e.ambient e.state action metadata
  exact ⟨h.story, h.rules, h.custom, h.config, hclock.trans h.clock, Nat.le_trans h.issued hissued⟩

theorem Steady.visible (h : Steady e₀ e) (customData : Entries Value) :
    Steady e₀ (e.visible customData).2 := by
  unfold Engine.visible
  split
  · exact h
  · exact { h with custom := (shown_custom _ _ _).trans h.custom }

theorem Steady.available (h : Steady e₀ e) (time : Option Number) (customData : Entries Value) :
    Steady e₀ (e.available time customData).2 :=
  andThen_keeps (h.visible customData) fun _ _ _ h => h

theorem create_steady (s : Shelf) (a : Ambient) (d : Shelf.Draft) :
    (s.create a d).2.2.clock = a.clock ∧ a.issued ≤ (s.create a d).2.2.issued := by
  unfold Shelf.create
  dsimp only
  split
  · exact ⟨rfl, Nat.le_refl _⟩
  · split
    · exact ⟨rfl, Nat.le_succ _⟩
    · split <;> exact ⟨rfl, Nat.le_succ _⟩

theorem save_steady (s : Autosave) (shelf : Shelf) (a : Ambient) (j : Autosave.Job) :
    (s.save shelf a j).autosave.config = s.config ∧ (s.save shelf a j).ambient.clock = a.clock ∧
      a.issued ≤ (s.save shelf a j).ambient.issued := by
  unfold Autosave.save
  split
  · exact ⟨rfl, rfl, Nat.le_refl _⟩
  · split
    · split <;> exact ⟨rfl, rfl, Nat.le_refl _⟩
    · rename_i name _
      obtain ⟨hclock, hissued⟩ := create_steady shelf a (Autosave.draft s.config j _ name)
      split
      · rename_i hcreate
        rw [hcreate] at hclock hissued
        exact ⟨rfl, hclock, hissued⟩
      · rename_i hcreate
        rw [hcreate] at hclock hissued
        split <;> exact ⟨rfl, hclock, hissued⟩

theorem Steady.triggerAutosave (h : Steady e₀ e) (trigger : String) (metadata : Entries Value) :
    Steady e₀ (e.triggerAutosave trigger metadata).2 := by
  unfold Engine.triggerAutosave Autosave.trigger
  split
  · exact h
  · rename_i a ha
    refine andThen_keeps ?_ fun _ _ _ h => h
    split at ha
    · cases ha
    · split at ha <;> cases ha
      · exact ⟨h.story, h.rules, h.custom, h.config, h.clock, h.issued⟩
      · obtain ⟨hconfig, hclock, hissued⟩ :=
          save_steady e.autosave e.shelf e.ambient (e.job trigger metadata)
        exact ⟨h.story, h.rules, h.custom, hconfig.trans h.config, hclock.trans h.clock,
          Nat.le_trans h.issued hissued⟩

theorem Steady.happened (h : Steady e₀ e) (trigger : Autosave.Trigger)
    (metadata : Entries Value) : Steady e₀ (e.happened trigger metadata).2 := by
  unfold Engine.happened
  split
  · exact h
  · exact andThen_keeps (h.triggerAutosave _ _) fun _ _ _ h => h

theorem Steady.commit (h : Steady e₀ e) (c : Choice) (offered : List Choice)
    (time : Option Number) : Steady e₀ (e.commit c offered time).2 := by
  unfold Engine.commit
  split
  · exact h
  · split
    · exact h
    · split
      · exact h
      · rename_i target _
        refine andThen_keeps (h.track _ _) ?_
        intro _ e' _ h
        split
        · exact h
        · have hfollowed : Steady e₀ (e'.follow c target) := { h with }
          exact andThen_keeps (hfollowed.happened _ _) fun _ _ _ h => h

theorem Steady.choose (h : Steady e₀ e) (index : Value) (time : Option Number) :
    Steady e₀ (e.choose index time).2 := by
  refine andThen_keeps (h.visible []) ?_
  intro seen e' _ h
  split
  · exact h
  · exact andThen_keeps (h.available time []) fun offered _ _ h => h.commit _ offered time

theorem Steady.goTo (h : Steady e₀ e) (id : String) : Steady e₀ (e.goTo id).2 := by
  unfold Engine.goTo
  split
  · exact h
  · exact andThen_keeps (h.track _ _) fun _ _ _ h => { h with }

theorem Steady.setFlag (h : Steady e₀ e) (name value : Value) :
    Steady e₀ (e.setFlag name value).2 := by
  unfold Engine.setFlag
  split
  · exact h
  · rename_i name _
    refine andThen_keeps (h.track _ _) ?_
    intro _ e' _ h
    dsimp only
    split
    · have hflagged : Steady e₀ { e' with state := e'.state.withEffects [(name, value)] } :=
        { h with }
      exact hflagged.happened _ _
    · exact h

theorem Steady.load (h : Steady e₀ e) {o : Save.LoadOptions} (ho : o.restoreRules = false)
    (data : Value) : Steady e₀ (e.load o data).2 := by
  unfold Engine.load
  split
  · exact h
  · exact h
  · rename_i l _
    refine andThen_keeps (h.track _ _) ?_
    intro _ e' _ h
    have hrules : (e'.restored o l).rules = e'.rules := by simp [restored, ho]
    have hrestored : Steady e₀ (e'.restored o l) :=
      ⟨h.story, hrules.trans h.rules, h.custom, h.config, h.clock, h.issued⟩
    exact andThen_keeps (hrestored.happened _ _) fun _ _ _ h => h

theorem Steady.restore (h : Steady e₀ e) (id : String) : Steady e₀ (e.restore id).2 := by
  unfold Engine.restore
  split
  · exact h
  · split
    · exact h
    · exact andThen_keeps (h.track _ _) fun _ _ _ h => { h with }

theorem travel_steady (t : Timeline) (a : Ambient) (d : Timeline.Direction)
    (captured : Except StateFault NarrativeState) :
    (t.travel a d captured).ambient.clock = a.clock ∧
      a.issued ≤ (t.travel a d captured).ambient.issued := by
  have hdepart : ∀ step, t.depart a d captured = .ok step → step.ambient = a.issue := by
    intro step hstep
    unfold Timeline.depart at hstep
    split at hstep
    · cases hstep
    · split at hstep <;> cases hstep
      rfl
  unfold Timeline.travel
  split
  · exact ⟨rfl, Nat.le_refl _⟩
  · rename_i step hstep
    rw [hdepart step hstep]
    exact ⟨rfl, Nat.le_succ _⟩

/-- No operation that a session is asked for touches these. -/
theorem Steady.attempt (h : Steady e₀ e) {op : Operation} (hop : op.Served) :
    Steady e₀ (e.attempt op).2 := by
  cases op with
  | look customData => exact h.visible customData
  | consider c time => exact andThen_keeps (h.visible []) fun _ _ _ h => h
  | choose index time => exact h.choose index time
  | goTo id => exact h.goTo id
  | setFlag name value => exact h.setFlag name value
  | reset => exact andThen_keeps (h.track _ _) fun _ _ _ h => { h with }
  | load o data => exact h.load hop data
  | saveTo key o =>
    show Steady e₀ (e.saveTo key o).2
    unfold saveTo
    split
    · exact h
    · exact { h with }
  | loadFrom key o =>
    show Steady e₀ (e.loadFrom key o).2
    unfold loadFrom
    split
    · exact h
    · exact h.load hop _
  | createCheckpoint name o tags =>
    obtain ⟨hclock, hissued⟩ := create_steady e.shelf e.ambient
      { state := e.state, name, options := o, node := e.story.find? e.state.node, tags }
    exact ⟨h.story, h.rules, h.custom, h.config, hclock.trans h.clock,
      Nat.le_trans h.issued hissued⟩
  | restore id => exact h.restore id
  | travel d =>
    obtain ⟨hclock, hissued⟩ := travel_steady e.timeline e.ambient d e.state.clone
    exact ⟨h.story, h.rules, h.custom, h.config, hclock.trans h.clock,
      Nat.le_trans h.issued hissued⟩
  | _ => exact absurd hop id

def Serves (e₀ e : Engine) : Prop :=
  ∃ ops : List Operation, (∀ op ∈ ops, op.Served) ∧ e₀.after ops = e

theorem Serves.refl (e : Engine) : Serves e e := ⟨[], List.forall_mem_nil _, rfl⟩

theorem Serves.next (h : Serves e₀ e) (op : Operation) (hop : op.Served) :
    Serves e₀ (e.attempt op).2 := by
  obtain ⟨ops, hops, rfl⟩ := h
  refine ⟨ops ++ [op], ?_, by simp [after]⟩
  intro o ho
  rcases List.mem_append.mp ho with ho | ho
  · exact hops o ho
  · rw [List.mem_singleton.mp ho]
    exact hop

/-- What every such operation keeps is kept while a session is asked. -/
theorem Serves.keeps {I : Engine → Prop} (h : Serves e₀ e) (first : I e₀)
    (step : ∀ {e op}, Operation.Served op → I e → I (e.attempt op).2) : I e := by
  obtain ⟨ops, hops, rfl⟩ := h
  induction ops generalizing e₀ with
  | nil => exact first
  | cons op rest ih =>
    obtain ⟨hop, hrest⟩ := List.forall_mem_cons.mp hops
    exact ih (step hop first) hrest

theorem Serves.steady (h : Serves e₀ e) : Steady e₀ e :=
  h.keeps (.refl e₀) fun hop h => h.attempt hop

theorem Serves.reachable (h : Serves e₀ e) (hr : e₀.Reachable) : e.Reachable :=
  h.keeps hr fun {_ op} _ h => .next op h

end Engine

namespace Service
open Engine
variable {e₀ e : Engine} {α : Type}

theorem respond_keeps {I : Engine → Prop} {o : Outcome α} {refuse : EngineFault → Option Reply}
    {go : α → Engine → Reply × Engine} (first : I o.2)
    (second : ∀ a e, o = (.ok a, e) → I e → I (go a e).2) : I (respond o refuse go).2 := by
  obtain ⟨r, e⟩ := o
  cases r with
  | error f => exact first
  | ok a => exact second a e rfl first

theorem judge_serves (h : Serves e₀ e) (cs : List Choice) : Serves e₀ (judge e cs).2 := by
  induction cs generalizing e with
  | nil => exact h
  | cons c rest ih =>
    have hverdict : Serves e₀ (e.verdict c none).2 := h.next (.consider c none) trivial
    exact andThen_keeps hverdict fun _ _ _ h => andThen_keeps (ih h) fun _ _ _ h => h

theorem offersOf_serves (h : Serves e₀ e) : Serves e₀ (offersOf e).2 := by
  have hvisible : Serves e₀ (e.visible []).2 := h.next (.look []) trivial
  exact andThen_keeps hvisible fun seen _ _ h => judge_serves h seen

theorem view_serves (h : Serves e₀ e) (id : String) : Serves e₀ (view id e).2 := by
  unfold view
  split
  · exact h
  · exact andThen_keeps (offersOf_serves h) fun _ _ _ h => h

theorem present_serves (h : Serves e₀ e) (id : String) (status : Nat) :
    Serves e₀ (present id status e).2 :=
  respond_keeps (view_serves h id) fun _ _ _ h => h

/-- Handing out a save leaves the engine as it is. -/
theorem exportSave_engine (id : String) (e : Engine) :
    (SessionAsk.exportSave.run id e).2 = e := by
  unfold SessionAsk.run
  dsimp only
  split <;> rfl

/-- Whatever a session is asked, its engine does a chain of operations. -/
theorem run_serves (id : String) (e : Engine) (ask : SessionAsk) : Serves e (ask.run id e).2 := by
  have hresult : ∀ (failure : Nat) (r : Save.Result) (e' : Engine), Serves e e' →
      Serves e (resultReply failure r e').2 := by
    intro failure r e' h
    unfold resultReply
    split <;> exact h
  cases ask with
  | look => exact present_serves (.refl e) id 200
  | close => exact .refl e
  | listChoices => exact respond_keeps (offersOf_serves (.refl e)) fun _ _ _ h => h
  | choose index =>
    have hdone : Serves e (e.choose (.int index) none).2 :=
      (Serves.refl e).next (.choose (.int index) none) trivial
    exact respond_keeps hdone fun _ _ _ h => present_serves h id 200
  | goTo node =>
    have hdone : Serves e (e.goTo node).2 := (Serves.refl e).next (.goTo node) trivial
    exact respond_keeps hdone fun _ _ _ h => present_serves h id 200
  | setFlag name value =>
    have hdone : Serves e (e.setFlag (.text name) value).2 :=
      (Serves.refl e).next (.setFlag (.text name) value) trivial
    exact respond_keeps hdone fun _ _ _ h => present_serves h id 200
  | reset =>
    have hdone : Serves e e.reset.2 := (Serves.refl e).next .reset trivial
    exact respond_keeps hdone fun _ _ _ h => present_serves h id 200
  | travel d =>
    have hdone : Serves e (e.travel d).2 := (Serves.refl e).next (.travel d) trivial
    exact respond_keeps (view_serves hdone id) fun _ _ _ h => h
  | keep name description tags =>
    have hdone : Serves e (e.createCheckpoint name { describes := true, description } tags).2 :=
      (Serves.refl e).next (.createCheckpoint name _ tags) trivial
    exact respond_keeps hdone fun _ _ _ h => h
  | listCheckpoints => exact .refl e
  | restore checkpoint =>
    have hdone : Serves e (e.restore checkpoint).2 :=
      (Serves.refl e).next (.restore checkpoint) trivial
    refine respond_keeps hdone fun r e' _ h => ?_
    split
    · exact h
    · exact present_serves h id 200
  | save key =>
    have hdone : Serves e (e.saveTo (.text key) saveOptions).2 :=
      (Serves.refl e).next (.saveTo (.text key) saveOptions) trivial
    exact respond_keeps hdone fun r e' _ h => hresult 400 r e' h
  | load key =>
    show Serves e (loadStored e key).2
    unfold loadStored
    split
    · split <;> exact .refl e
    · exact .refl e
    · have hdone : Serves e (e.loadFrom (.text key) _).2 := (Serves.refl e).next
        (.loadFrom (.text key) { verifyChecksum := true, restoreEvents := true }) rfl
      exact respond_keeps hdone fun r e' _ h => hresult 422 r e' h
  | exportSave =>
    rw [exportSave_engine]
    exact .refl e
  | importSave envelope =>
    have hdone : Serves e (e.load { restoreEvents := true } (.record envelope)).2 :=
      (Serves.refl e).next (.load { restoreEvents := true } (.record envelope)) rfl
    exact respond_keeps hdone fun r e' _ h => hresult 422 r e' h

end Service
end Storyline
