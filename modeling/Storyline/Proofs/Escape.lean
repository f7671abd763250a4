import Storyline.Proofs.Failure
import Storyline.Proofs.Template

namespace Storyline

/-- A save gets a name that asks a value for what it does not have, or for a number beyond all
bounds. -/
def Autosave.Unnamed (c : Config) (a : Ambient) (node trigger : String) : Prop :=
  ∃ f, nameFor c a node trigger = .error f ∧ escapes f = true

namespace Engine
variable {e e₁ : Engine} {α : Type} {o quiet : Outcome α} {t : Autosave.Trigger} {v : α}

/-- What an operation sets off if it succeeds. -/
def Operation.trigger? : Operation → Option Autosave.Trigger
  | .choose _ _ | .select _ _ => some .choice
  | .setFlag _ _ => some .flagChange
  | .load _ _ | .loadFrom _ _ => some .stateLoad
  | .loadState _ tracked | .loadPayload _ tracked => if tracked then some .stateLoad else none
  | _ => none

/-- Where an operation comes to a value without automatic saves, it sets off a save. -/
def Concludes (e : Engine) (t : Autosave.Trigger) (o quiet : Outcome α) : Prop :=
  ∀ v e₁, quiet = (.ok v, e₁) → ∃ metadata, o =
    andThen (({ e₁ with autosave := e.autosave } : Engine).happened t metadata) fun _ e =>
      (.ok v, e)

theorem concludes_error {f : EngineFault} : e.Concludes t o (.error f, e₁) := by
  intro v e₂ hq
  cases hq

theorem concludes_happened (e₁ : Engine) {metadata : Entries Value}
    (ha : e₁.autosave = e.autosave) :
    e.Concludes t (andThen (e₁.happened t metadata) fun _ e => (.ok v, e))
      (andThen (e₁.silent.happened t metadata) fun _ e => (.ok v, e)) := by
  rw [silent_happened]
  rintro _ _ ⟨⟩
  have hback : ({ e₁.silent with autosave := e.autosave } : Engine) = e₁ := by
    rw [← ha]
    rfl
  exact ⟨metadata, by rw [hback]⟩

/-- An operation without a value ends with its save. -/
theorem concludes_unit (e₁ : Engine) {metadata : Entries Value} (ha : e₁.autosave = e.autosave) :
    e.Concludes t (e₁.happened t metadata) (e₁.silent.happened t metadata) := by
  have hsame : ∀ o : Outcome Unit, andThen o (fun _ e => (.ok (), e)) = o := by
    rintro ⟨_ | _, _⟩ <;> rfl
  rw [← hsame (e₁.happened t metadata), ← hsame (e₁.silent.happened t metadata)]
  exact concludes_happened e₁ ha

/-- What is recorded first is recorded without automatic saves too. -/
theorem concludes_tracked {action : Action} {metadata : Entries Value}
    {next : Unit → Engine → Outcome α}
    (h : ∀ e₁ : Engine, e₁.autosave = e.autosave → e.Concludes t (next () e₁) (next () e₁.silent)) :
    e.Concludes t (andThen (e.track action metadata) next)
      (andThen (e.silent.track action metadata) next) := by
  rcases ht : e.track action metadata with ⟨f | u, e₁⟩
  · rw [silent_track ht]
    exact concludes_error
  · rw [silent_track ht]
    obtain rfl : (e.track action metadata).2 = e₁ := congrArg Prod.snd ht
    exact h _ rfl

theorem take_concludes {c : Choice} {target : Node} :
    e.Concludes .choice (e.take c target) (e.silent.take c target) := by
  refine concludes_tracked fun e₁ ha => ?_
  cases hc : Value.allFieldsCopyable c.effects with
  | false => exact concludes_error
  | true => exact concludes_happened (e₁.follow c target) ha

theorem commit_concludes {c : Choice} {offered : List Choice} {time : Option Number} :
    e.Concludes .choice (e.commit c offered time) (e.silent.commit c offered time) := by
  unfold commit
  rw [silent_finalVerdict, silent_story]
  split
  · exact concludes_error
  · split
    · exact concludes_error
    · split
      · exact concludes_error
      · exact take_concludes

theorem select_concludes {c : Choice} {time : Option Number} :
    e.Concludes .choice (e.select c time) (e.silent.select c time) := by
  unfold select
  rcases ha : e.available time [] with ⟨f | offered, e₁⟩
  · rw [silent_available ha]
    exact concludes_error
  · rw [silent_available ha]
    obtain ⟨evaluator, rfl⟩ := available_keeps ha
    exact commit_concludes (e := { e with evaluator })

theorem choose_concludes {index : Value} {time : Option Number} :
    e.Concludes .choice (e.choose index time) (e.silent.choose index time) := by
  unfold choose
  rcases hv : e.visible [] with ⟨f | seen, e₁⟩
  · rw [silent_visible hv]
    exact concludes_error
  · rw [silent_visible hv]
    obtain ⟨evaluator, hev⟩ := visible_keeps (e := e) []
    rw [hv] at hev
    cases hev
    simp only [andThen]
    split
    · exact concludes_error
    · exact select_concludes (e := { e with evaluator })

theorem setFlag_concludes {name value : Value} :
    e.Concludes .flagChange (e.setFlag name value) (e.silent.setFlag name value) := by
  unfold setFlag
  split
  · exact concludes_error
  · rename_i name _
    refine concludes_tracked fun e₁ ha => ?_
    dsimp only
    split
    · exact concludes_unit { e₁ with state := e₁.state.withEffects [(name, value)] } ha
    · exact concludes_error

theorem replace_concludes {s : NarrativeState} :
    e.Concludes .stateLoad (e.replace s true) (e.silent.replace s true) := by
  unfold replace
  rw [silent_story]
  split
  · exact concludes_error
  · exact concludes_tracked fun e₁ ha => concludes_unit { e₁ with state := s } ha

theorem loadState_concludes {s : NarrativeState} :
    e.Concludes .stateLoad (e.loadState s true) (e.silent.loadState s true) := by
  unfold loadState
  split
  · exact concludes_error
  · exact replace_concludes

theorem loadPayload_concludes {payload : Value} :
    e.Concludes .stateLoad (e.loadPayload payload true) (e.silent.loadPayload payload true) := by
  unfold loadPayload
  split
  · exact concludes_error
  · exact replace_concludes

/-- A load that is accepted; one that is refused sets off nothing. -/
theorem load_concludes {o : Save.LoadOptions} {data : Value} {r : Save.Result}
    (hq : e.silent.load o data = (.ok r, e₁)) (hr : r.success = true) : ∃ metadata,
    e.load o data = andThen (({ e₁ with autosave := e.autosave } : Engine).happened .stateLoad
      metadata) fun _ e => (.ok r, e) := by
  unfold load at hq ⊢
  rw [silent_story, silent_state] at hq
  cases hl : Save.load e.story o data with
  | error f =>
    rw [hl] at hq
    cases hq
  | ok outcome =>
    rw [hl] at hq
    obtain ⟨result, _ | l⟩ := outcome
    · cases hq
      unfold Save.load at hl
      split at hl <;> cases hl
      cases hr
    · refine concludes_tracked (fun e₂ ha => ?_) r e₁ hq
      exact concludes_happened (e₂.restored o l) ha

/-- An outcome that only an automatic save can spoil. -/
theorem Concludes.returned (h : e.Concludes t o quiet) (hq : (Engine.returned quiet).1 = true) :
    ∃ metadata, Engine.returned o = Engine.returned (({ (Engine.returned quiet).2 with
      autosave := e.autosave } : Engine).happened t metadata) := by
  obtain ⟨_ | v, e₁⟩ := quiet
  · cases hq
  · obtain ⟨metadata, rfl⟩ := h v e₁ rfl
    refine ⟨metadata, ?_⟩
    rw [andThen_returns]
    exact Prod.ext isOk_map rfl

theorem load_attempt {options : Save.LoadOptions} {data : Value}
    (hq : (succeeded (e.silent.load options data)).1 = true) : ∃ metadata,
    succeeded (e.load options data) = Engine.returned
      (({ (succeeded (e.silent.load options data)).2 with autosave := e.autosave } :
        Engine).happened .stateLoad metadata) := by
  rcases hl : e.silent.load options data with ⟨f | r, e₁⟩
  · rw [hl] at hq
    cases hq
  · rw [hl] at hq
    have hr : r.success = true := hq
    obtain ⟨metadata, hload⟩ := load_concludes hl hr
    refine ⟨metadata, ?_⟩
    rw [hload, andThen_returns]
    refine Prod.ext ?_ rfl
    simp only [succeeded, Engine.returned]
    cases (({ e₁ with autosave := e.autosave } : Engine).happened .stateLoad metadata).1
    · rfl
    · exact hr

/-- The engine that has an operation behind it, done without automatic saves, and the save that it
sets off before it. -/
def beforeSave (e : Engine) (op : Operation) : Engine :=
  { (e.silent.attempt op).2 with autosave := e.autosave }

theorem Sound.beforeSave (h : e.Sound) (op : Operation) : (e.beforeSave op).Sound := by
  have hquiet : e.silent.Sound := { h with }
  exact { hquiet.attempt op with }

/-- An operation that succeeds without automatic saves comes down to the save that it sets off. -/
theorem attempt_concludes {op : Operation} (hop : op.trigger? = some t)
    (hq : (e.silent.attempt op).1 = true) :
    ∃ metadata, e.attempt op = Engine.returned ((e.beforeSave op).happened t metadata) := by
  cases op with
  | choose index time =>
    cases hop
    exact choose_concludes.returned hq
  | select c time =>
    cases hop
    exact select_concludes.returned hq
  | setFlag name value =>
    cases hop
    exact setFlag_concludes.returned hq
  | loadState s tracked =>
    cases tracked <;> cases hop
    exact loadState_concludes.returned hq
  | loadPayload payload tracked =>
    cases tracked <;> cases hop
    exact loadPayload_concludes.returned hq
  | load options data =>
    cases hop
    exact load_attempt hq
  | loadFrom key options =>
    cases hop
    simp only [beforeSave, attempt, loadFrom, silent_storage] at hq ⊢
    split at hq
    · cases hq
    · exact load_attempt hq
  | _ => cases hop

/-- A save touches automatic saves, checkpoints and surroundings only. -/
theorem happened_frame (t : Autosave.Trigger) (metadata : Entries Value) :
    ∃ autosave shelf ambient,
      (e.happened t metadata).2 = { e with autosave, shelf, ambient } := by
  let frame (e' : Engine) : Prop :=
    ∃ autosave shelf ambient, e' = { e with autosave, shelf, ambient }
  unfold happened
  split
  · exact ⟨_, _, _, rfl⟩
  · refine andThen_keeps (I := frame) ?_ fun _ _ _ => id
    unfold triggerAutosave
    split
    · exact ⟨_, _, _, rfl⟩
    · exact andThen_keeps (I := frame) ⟨_, _, _, rfl⟩ fun _ _ _ => id

/-- A save by hand throws only because of its name. -/
theorem saveNow_breaks (h : e.Sound) (metadata : Entries Value) :
    (∃ f, (e.saveNow metadata).1 = .error f) ↔ Autosave.Unnamed e.autosave.config e.ambient
      e.state.node Autosave.manualTrigger := by
  have hsave : (∃ f, (e.autosave.save e.shelf e.ambient
      (e.job Autosave.manualTrigger metadata)).result = .error f) ↔
        Autosave.Unnamed e.autosave.config e.ambient e.state.node Autosave.manualTrigger :=
    Autosave.save_breaks h.clone
  rw [← hsave]
  constructor
  · rintro ⟨_, hf⟩
    obtain ⟨f, hf, _⟩ := mapError_eq_error.mp hf
    exact ⟨f, hf⟩
  · rintro ⟨f, hf⟩
    exact ⟨.template f, mapError_eq_error.mpr ⟨f, hf, rfl⟩⟩

/-- An automatic save throws only because of its name, whether by hand or by a trigger, and the
change that set it off stays. With bare placeholders nothing is thrown. -/
theorem autosave_escapes (h : e.Reachable) :
    (∀ trigger metadata, (∃ f, (e.triggerAutosave trigger metadata).1 = .error f) ↔
      e.autosave.Escapes e.ambient e.state.node trigger) ∧
    (∀ metadata, (∃ f, (e.saveNow metadata).1 = .error f) ↔ Autosave.Unnamed e.autosave.config
      e.ambient e.state.node Autosave.manualTrigger) ∧
    (∀ op t, op.trigger? = some t → (e.silent.attempt op).1 = true →
      ((e.attempt op).1 = false ↔
        e.autosave.Escapes (e.beforeSave op).ambient (e.beforeSave op).state.node t.name) ∧
      ∃ autosave shelf ambient,
        (e.attempt op).2 = { e.beforeSave op with autosave, shelf, ambient }) ∧
    (Template.usesOnly Autosave.placeholders e.autosave.config.pattern = true →
      ∀ a node trigger, ¬ Autosave.Unnamed e.autosave.config a node trigger) := by
  refine ⟨triggerAutosave_breaks h.sound, saveNow_breaks h.sound, ?_, ?_⟩
  · intro op t hop hq
    obtain ⟨metadata, ho⟩ := attempt_concludes hop hq
    obtain ⟨autosave, shelf, ambient, hframe⟩ := happened_frame (e := e.beforeSave op) t metadata
    rw [ho]
    refine ⟨?_, autosave, shelf, ambient, hframe⟩
    have hautosave : (e.beforeSave op).autosave = e.autosave := rfl
    rw [← hautosave, ← happened_breaks (h.sound.beforeSave op) t metadata]
    exact isOk_eq_false
  · rintro hdoc a node trigger ⟨f, hf, hescapes⟩
    rw [Autosave.nameFor_documented hdoc hf] at hescapes
    cases hescapes

/-- An engine at the gate. Each choice sets off an automatic save, with a name that asks for what no
node has. -/
def atBrandedGate : Engine := fresh .hallway ⟨0, 0⟩ { branded with triggers := [.choice] }

/-- A choice whose automatic save cannot be named ends in a fault, with the engine at its target. A
save by hand ends in a fault too. -/
theorem autosave_escapes_branded :
    (∃ f, (atBrandedGate.saveNow []).1 = .error f) ∧
      (atBrandedGate.attempt (.choose (.int 0) none)).1 = false ∧
      (atBrandedGate.attempt (.choose (.int 0) none)).2.state.node = "hall" := by
  obtain ⟨_, hnow, hop, _⟩ :=
    autosave_escapes (e := atBrandedGate) (fresh_reachable Story.hallway_made _ _)
  have hunnamed : Autosave.nameFor atBrandedGate.autosave.config ⟨0, 0⟩ "gate" "manual" =
    .error (.noAttribute "str" "brass") := rfl
  obtain ⟨hfalse, _, _, _, hafter⟩ := hop (.choose (.int 0) none) .choice rfl rfl
  refine ⟨(hnow []).mpr ⟨_, hunnamed, rfl⟩, hfalse.mpr ⟨rfl, rfl, _, rfl, rfl⟩, ?_⟩
  rw [hafter]
  rfl

end Engine
end Storyline
