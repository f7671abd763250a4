import Storyline.Proofs.Escape
import Storyline.Proofs.Lasting

namespace Storyline

namespace Autosave
variable {s : Autosave} {shelf : Shelf} {a : Ambient} {j : Job}

/-- What was last has no part in an attempt, and is forgotten if there is a result. -/
theorem save_last (x : Option Result) : { s with last := x }.save shelf a j =
    { s.save shelf a j with
      autosave := { (s.save shelf a j).autosave with
        last := (s.save shelf a j).result.toOption.or x } } := by
  cases hj : j.captured with
  | error f => simp only [save, hj, failed, Except.toOption, Option.some_or]
  | ok state =>
    cases hname : nameFor s.config a state.node j.trigger with
    | error f =>
      simp only [save, hj, hname]
      split <;> simp only [failed, Except.toOption, Option.some_or, Option.none_or]
    | ok name =>
      rcases hcreate : shelf.create a (draft s.config j state name) with ⟨f | n, shelf', a'⟩
      · simp only [save, hj, hname, hcreate, failed, Except.toOption, Option.some_or]
      · simp only [save, hj, hname, hcreate]
        cases sizeOf n <;> rfl

/-- Nor has it a part in what comes of a trigger. -/
theorem trigger_last (x : Option Result) : { s with last := x }.trigger shelf a j =
    (s.trigger shelf a j).map fun t =>
      { t with autosave := { t.autosave with last := t.result.toOption.or x } } := by
  have hthrottle : { s with last := x }.throttled? a = s.throttled? a := rfl
  unfold trigger
  rw [hthrottle, save_last]
  split
  · rfl
  · split <;> rfl

def Fault.Lasting (f : Fault) : Prop := ∀ seconds, f ≠ .throttled seconds

/-- What comes of an attempt to save: no checkpoint is made, or one that has no size, or one that is
kept among the saves. -/
inductive Tried (s : Autosave) (shelf : Shelf) (a : Ambient) (j : Job) : Attempt → Prop
  | unmade {r : Except Template.Fault Result} {shelf' : Shelf} {a' : Ambient} :
    (∀ x, r.toOption = some x → ∃ f : Fault, f.Lasting ∧ x = ⟨j.trigger, .error f⟩) →
    shelf'.checkpoints = shelf.checkpoints →
    Tried s shelf a j ⟨r, { s with last := r.toOption.or s.last }, shelf', a'⟩
  | unsized {d : Shelf.Draft} {n : Checkpoint} {f : Json.WriteFault} {shelf' : Shelf}
    {a' : Ambient} : d.options.limit = 0 → d.options.strategy = "" →
    shelf.create a d = (.ok n, shelf', a') →
    Tried s shelf a j (s.failed shelf' a' j.trigger (.size f))
  | saved {d : Shelf.Draft} {n : Checkpoint} {size : Nat} {shelf' : Shelf} {a' : Ambient} :
    d.options.limit = 0 → d.options.strategy = "" → shelf.create a d = (.ok n, shelf', a') →
    Tried s shelf a j (s.succeeded shelf' a' j.trigger n size)

theorem unmade_failed {shelf' : Shelf} {a' : Ambient} {f : Fault} (hf : f.Lasting)
    (h : shelf'.checkpoints = shelf.checkpoints) :
    Tried s shelf a j (s.failed shelf' a' j.trigger f) := by
  refine .unmade (r := .ok ⟨j.trigger, .error f⟩) ?_ h
  rintro _ ⟨⟩
  exact ⟨f, hf, rfl⟩

theorem save_tried (s : Autosave) (shelf : Shelf) (a : Ambient) (j : Job) :
    Tried s shelf a j (s.save shelf a j) := by
  unfold save
  split
  · exact unmade_failed (fun _ => nofun) rfl
  · split
    · split
      · exact .unmade nofun rfl
      · exact unmade_failed (fun _ => nofun) rfl
    · split
      · rename_i hcreate
        exact unmade_failed (fun _ => nofun) (create_unmade rfl hcreate)
      · rename_i hcreate
        split
        · exact .unsized rfl rfl hcreate
        · exact .saved rfl rfl hcreate

/-- Neither an attempt nor its result depends on when there was a success before. -/
theorem save_whenever (x : Option Double) :
    ({ s with savedAt := x }.save shelf a j).result = (s.save shelf a j).result ∧
      ({ s with savedAt := x }.save shelf a j).shelf = (s.save shelf a j).shelf := by
  cases hj : j.captured with
  | error f => simp only [save, hj, failed, and_self]
  | ok state =>
    cases hname : nameFor s.config a state.node j.trigger with
    | error f =>
      simp only [save, hj, hname]
      split <;> simp only [failed, and_self]
    | ok name =>
      rcases hcreate : shelf.create a (draft s.config j state name) with ⟨f | n, shelf', a'⟩
      · simp only [save, hj, hname, hcreate, failed, and_self]
      · simp only [save, hj, hname, hcreate]
        cases sizeOf n <;> exact ⟨rfl, rfl⟩

theorem throttled?_congr {a' : Ambient} (h : a'.clock = a.clock) :
    s.throttled? a' = s.throttled? a := by
  have hseconds : a'.seconds = a.seconds := congrArg Time.seconds h
  unfold throttled?
  rw [hseconds]

/-- A save that was made: the id of its checkpoint, and the clock at that time. -/
structure Entry where
  id : String
  clock : Int

end Autosave

namespace Engine
variable {e e₁ : Engine} {α β : Type} {name : Option String}

def Operation.call? : Operation → Option String
  | .triggerAutosave trigger _ => some trigger
  | op => op.trigger?.map Autosave.Trigger.name

/-- The result of the attempt to save that an operation comes to, if there is one. -/
def saving? (e : Engine) (op : Operation) : Option Autosave.Result :=
  (({ e with autosave := { e.autosave with last := none } } : Engine).attempt op).2.autosave.last

def withSaves (e : Engine) (s : Autosave) : Engine := { e with autosave := s }

section
variable (s : Autosave)

@[simp] theorem withSaves_story : (e.withSaves s).story = e.story := rfl

@[simp] theorem withSaves_node : (e.withSaves s).node = e.node := rfl

@[simp] theorem withSaves_shelf : (e.withSaves s).shelf = e.shelf := rfl

@[simp] theorem withSaves_timeline : (e.withSaves s).timeline = e.timeline := rfl

@[simp] theorem withSaves_save (o : Save.SaveOptions) : (e.withSaves s).save o = e.save o := rfl

@[simp] theorem withSaves_finalVerdict (c : Choice) (offered : List Choice)
    (time : Option Number) :
    (e.withSaves s).finalVerdict c offered time = e.finalVerdict c offered time := rfl

@[simp] theorem withSaves_track (action : Action) (metadata : Entries Value) :
    (e.withSaves s).track action metadata =
      ((e.track action metadata).1, (e.track action metadata).2.withSaves s) := rfl

end

structure Meanwhile (e e₁ : Engine) : Prop where
  shelf : e₁.shelf = e.shelf
  clock : e₁.ambient.clock = e.ambient.clock
  issued : e.ambient.issued ≤ e₁.ambient.issued
  restoring : e₁.timeline.restoring = e.timeline.restoring

theorem Meanwhile.refl (e : Engine) : e.Meanwhile e := ⟨rfl, rfl, Nat.le_refl _, rfl⟩

theorem track_meanwhile (action : Action) (metadata : Entries Value) :
    e.Meanwhile (e.track action metadata).2 := by
  obtain ⟨hclock, hissued⟩ := record_steady e.timeline e.ambient e.state action metadata
  refine ⟨rfl, hclock, hissued, ?_⟩
  show (e.timeline.record e.ambient e.state action metadata).2.1.restoring = e.timeline.restoring
  rcases Timeline.record_cases e.timeline e.ambient e.state action metadata with
    hr | hr | ⟨_, _, hr⟩ <;> rw [hr]

/-- An operation that makes its change without a look at automatic saves. If it succeeds, it calls
for a save. -/
inductive Calls (e : Engine) (name : Option String) (after : Autosave → Bool × Engine) : Prop
  | refused {e₁ : Engine} : e.Meanwhile e₁ → (∀ s, after s = (false, e₁.withSaves s)) →
    Calls e name after
  | quiet {e₁ : Engine} : name = none → e.Meanwhile e₁ →
    (∀ s, after s = (true, e₁.withSaves s)) → Calls e name after
  | calling {trigger : String} {metadata : Entries Value} {e₁ : Engine} : name = some trigger →
    e.Meanwhile e₁ →
    (∀ s, after s = returned ((e₁.withSaves s).triggerAutosave trigger metadata)) →
    Calls e name after

theorem calls_happened {after : Autosave → Bool × Engine} (trigger : Autosave.Trigger)
    (metadata : Entries Value) (hstill : e.timeline.restoring = false) (h : e.Meanwhile e₁)
    (ha : ∀ s, after s = returned ((e₁.withSaves s).happened trigger metadata)) :
    e.Calls (some trigger.name) after := by
  have hafter : ∀ s, after s =
      returned ((e₁.withSaves s).triggerAutosave trigger.name metadata) := by
    intro s
    rw [ha, happened, if_neg (by simp [h.restoring, hstill]), andThen_returns]
    exact Prod.ext isOk_map rfl
  exact .calling rfl h hafter

theorem returned_andThen (o : Outcome α) (v : β) :
    returned (andThen o fun _ e => (.ok v, e)) = returned o := by
  rw [andThen_returns]
  exact Prod.ext isOk_map rfl

/-- What is recorded first is recorded without a look at automatic saves too. -/
theorem calls_tracked {after : Autosave → Bool × Engine} (tell : Outcome α → Bool × Engine)
    (htell : ∀ f e, tell (.error f, e) = (false, e)) (action : Action) (metadata : Entries Value)
    {next : Unit → Engine → Outcome α}
    (ha : ∀ s, after s = tell (andThen ((e.withSaves s).track action metadata) next))
    (h : ∀ e₁, e.Meanwhile e₁ → e.Calls name fun s => tell (next () (e₁.withSaves s))) :
    e.Calls name after := by
  have hmeanwhile : e.Meanwhile (e.track action metadata).2 := track_meanwhile action metadata
  obtain rfl : after = fun s => tell (andThen ((e.withSaves s).track action metadata) next) :=
    funext ha
  simp only [withSaves_track]
  cases (e.track action metadata).1 with
  | error f => exact .refused hmeanwhile fun s => htell f _
  | ok u => exact h _ hmeanwhile

theorem take_calls (hstill : e.timeline.restoring = false) (c : Choice) (target : Node) :
    e.Calls (some "choice") fun s => returned ((e.withSaves s).take c target) := by
  refine calls_tracked returned (fun _ _ => rfl) .choice (e.takeMetadata c) (fun _ => rfl)
    fun e₁ h => ?_
  cases hc : Value.allFieldsCopyable c.effects with
  | false => exact .refused h fun _ => rfl
  | true =>
    have hfollowed : e.Meanwhile (e₁.follow c target) := { h with }
    exact calls_happened .choice _ hstill hfollowed fun s => returned_andThen _ _

theorem commit_calls (hstill : e.timeline.restoring = false) (c : Choice) (offered : List Choice)
    (time : Option Number) :
    e.Calls (some "choice") fun s => returned ((e.withSaves s).commit c offered time) := by
  unfold commit
  simp only [withSaves_finalVerdict, withSaves_story]
  split
  · exact .refused (.refl e) fun _ => rfl
  · split
    · exact .refused (.refl e) fun _ => rfl
    · split
      · exact .refused (.refl e) fun _ => rfl
      · exact take_calls hstill c _

theorem visible_withSaves (s : Autosave) (customData : Entries Value) :
    (e.withSaves s).visible customData =
      ((e.visible customData).1, (e.visible customData).2.withSaves s) := by
  unfold visible
  rw [withSaves_node]
  split <;> rfl

theorem available_withSaves (s : Autosave) (time : Option Number) (customData : Entries Value) :
    (e.withSaves s).available time customData =
      ((e.available time customData).1, (e.available time customData).2.withSaves s) := by
  unfold available
  rw [visible_withSaves]
  rcases e.visible customData with ⟨_ | _, _⟩ <;> rfl

theorem Calls.learnt {after : Autosave → Bool × Engine} {evaluator : Condition.Evaluator}
    (h : ({ e with evaluator } : Engine).Calls name after) : e.Calls name after := by
  cases h with
  | refused h ha => exact .refused { h with } ha
  | quiet hname h ha => exact .quiet hname { h with } ha
  | calling hname h ha => exact .calling hname { h with } ha

theorem visible_meanwhile (customData : Entries Value) :
    e.Meanwhile (e.visible customData).2 := by
  obtain ⟨evaluator, hev⟩ := visible_keeps (e := e) customData
  rw [hev]
  exact { Meanwhile.refl e with }

theorem select_calls (hstill : e.timeline.restoring = false) (c : Choice) (time : Option Number) :
    e.Calls (some "choice") fun s => returned ((e.withSaves s).select c time) := by
  simp only [select, available_withSaves]
  rcases ha : e.available time [] with ⟨f | offered, e₁⟩ <;>
    obtain ⟨evaluator, rfl⟩ := available_keeps ha
  · exact .learnt (.refused (.refl _) fun _ => rfl)
  · exact .learnt (commit_calls (e := { e with evaluator }) hstill c offered time)

theorem choose_calls (hstill : e.timeline.restoring = false) (index : Value)
    (time : Option Number) :
    e.Calls (some "choice") fun s => returned ((e.withSaves s).choose index time) := by
  obtain ⟨evaluator, hev⟩ := visible_keeps (e := e) []
  simp only [choose, visible_withSaves, hev]
  cases (e.visible []).1 with
  | error f => exact .learnt (.refused (.refl _) fun _ => rfl)
  | ok seen =>
    simp only [andThen]
    split
    · exact .learnt (.refused (.refl _) fun _ => rfl)
    · exact .learnt (select_calls (e := { e with evaluator }) hstill _ time)

theorem setFlag_calls (hstill : e.timeline.restoring = false) (flag value : Value) :
    e.Calls (some "flag-change") fun s => returned ((e.withSaves s).setFlag flag value) := by
  unfold setFlag
  split
  · exact .refused (.refl e) fun _ => rfl
  · rename_i flag _
    refine calls_tracked returned (fun _ _ => rfl) .flagChange
      [("nodeId", .text e.state.node), ("flagsChanged", .texts [flag])] (fun _ => rfl)
      fun e₁ h => ?_
    dsimp only
    split
    · have hflagged : e.Meanwhile { e₁ with state := e₁.state.withEffects [(flag, value)] } :=
        { h with }
      exact calls_happened .flagChange _ hstill hflagged fun _ => rfl
    · exact .refused h fun _ => rfl

/-- Only what is tracked calls for a save. -/
theorem replace_calls (hstill : e.timeline.restoring = false) (state : NarrativeState)
    (tracked : Bool) : e.Calls (if tracked then some "state-load" else none) fun s =>
      returned ((e.withSaves s).replace state tracked) := by
  have hs : ∀ s, (e.withSaves s).story = e.story := fun _ => rfl
  generalize hname : (if tracked then some "state-load" else none) = name
  unfold replace
  simp only [hs]
  split
  · exact .refused (.refl e) fun _ => rfl
  · cases tracked with
    | false =>
      have hplaced : e.Meanwhile { e with state } := { Meanwhile.refl e with }
      exact .quiet hname.symm hplaced fun _ => rfl
    | true =>
      cases hname
      refine calls_tracked returned (fun _ _ => rfl) .stateLoad
        [("nodeId", .text e.state.node)] (fun _ => rfl) fun e₁ h => ?_
      have hplaced : e.Meanwhile { e₁ with state } := { h with }
      exact calls_happened .stateLoad _ hstill hplaced fun _ => rfl

theorem loadState_calls (hstill : e.timeline.restoring = false) (state : NarrativeState)
    (tracked : Bool) : e.Calls (if tracked then some "state-load" else none) fun s =>
      returned ((e.withSaves s).loadState state tracked) := by
  unfold loadState
  cases state.clone with
  | error f => exact .refused (.refl e) fun _ => rfl
  | ok copy => exact replace_calls hstill copy tracked

theorem loadPayload_calls (hstill : e.timeline.restoring = false) (payload : Value)
    (tracked : Bool) : e.Calls (if tracked then some "state-load" else none) fun s =>
      returned ((e.withSaves s).loadPayload payload tracked) := by
  unfold loadPayload
  cases NarrativeState.ofPayload payload with
  | error f => exact .refused (.refl e) fun _ => rfl
  | ok state => exact replace_calls hstill state tracked

theorem load_calls (hstill : e.timeline.restoring = false) (o : Save.LoadOptions) (data : Value) :
    e.Calls (some "state-load") fun s => succeeded ((e.withSaves s).load o data) := by
  have hs : ∀ s, (e.withSaves s).story = e.story := fun _ => rfl
  unfold load Save.load
  simp only [hs]
  cases Save.check e.story o data with
  | error rejection => cases rejection <;> exact .refused (.refl e) fun _ => rfl
  | ok l =>
    have hloaded : ∀ o : Outcome Unit,
        succeeded (andThen o fun _ e => (.ok l.result, e)) = returned o := by
      rintro ⟨_ | _, _⟩ <;> rfl
    refine calls_tracked succeeded (fun _ _ => rfl) .stateLoad [("nodeId", .text e.state.node)]
      (fun _ => rfl) fun e₁ h => ?_
    have hrestored : e.Meanwhile (e₁.restored o l) := { h with }
    exact calls_happened .stateLoad _ hstill hrestored fun s => hloaded _

theorem loadFrom_calls (hstill : e.timeline.restoring = false) (key : Value)
    (o : Save.LoadOptions) :
    e.Calls (some "state-load") fun s => succeeded ((e.withSaves s).loadFrom key o) := by
  have hs : ∀ s, (e.withSaves s).storage = e.storage := fun _ => rfl
  unfold loadFrom
  simp only [hs]
  cases Save.fetchFrom e.storage key with
  | error reason => exact .refused (.refl e) fun _ => rfl
  | ok envelope => exact load_calls hstill o envelope

/-- What an operation comes to, as far as automatic saves are concerned. What it calls for is not
always tried. -/
inductive Account (e : Engine) (op : Operation) : Prop
  | quiet : e.saving? op = none → (e.attempt op).2.autosave = e.autosave →
    (¬ op.ByHand → (e.attempt op).2.shelf = e.shelf) →
    ((e.attempt op).1 = true → ∀ name, op.call? = some name →
      Autosave.heeds e.autosave.config name = false) → Account e op
  | configured (c : Autosave.Config) : op.call? = none → e.saving? op = none →
    ((e.attempt op).2.autosave, (e.attempt op).2.shelf) = e.autosave.configure c e.shelf →
    Account e op
  | throttled {name : String} {f : Autosave.Fault} : op.call? = some name →
    Autosave.heeds e.autosave.config name = true → e.autosave.throttled? e.ambient = some f →
    e.saving? op = some ⟨name, .error f⟩ →
    (e.attempt op).2.autosave = { e.autosave with last := some ⟨name, .error f⟩ } →
    (e.attempt op).2.shelf = e.shelf → Account e op
  | tried {a : Ambient} {j : Autosave.Job} : a.clock = e.ambient.clock →
    e.ambient.issued ≤ a.issued →
    (∀ name, op.call? = some name → j.trigger = name ∧
      Autosave.heeds e.autosave.config name = true ∧ e.autosave.throttled? e.ambient = none) →
    e.saving? op = (e.autosave.save e.shelf a j).result.toOption →
    (e.attempt op).2.autosave = (e.autosave.save e.shelf a j).autosave →
    (e.attempt op).2.shelf = (e.autosave.save e.shelf a j).shelf →
    (e.attempt op).2.ambient = (e.autosave.save e.shelf a j).ambient → Account e op

variable {op : Operation}

theorem Account.of_quiet {b : Bool} (hshelf : ¬ op.ByHand → e₁.shelf = e.shelf)
    (hcall : b = true → ∀ name, op.call? = some name →
      Autosave.heeds e.autosave.config name = false)
    (h : ∀ s, s.config = e.autosave.config →
      (e.withSaves s).attempt op = (b, e₁.withSaves s)) : Account e op := by
  have hback : e.attempt op = (b, e₁.withSaves e.autosave) := h e.autosave rfl
  have hsaving : e.saving? op = none :=
    congrArg (·.2.autosave.last) (h { e.autosave with last := none } rfl)
  refine .quiet hsaving ?_ ?_ ?_ <;> rw [hback]
  · rfl
  · exact hshelf
  · exact hcall

variable {trigger : String} {metadata : Entries Value}

theorem triggerAutosave_none
    (h : e.autosave.trigger e.shelf e.ambient (e.job trigger metadata) = none) :
    e.triggerAutosave trigger metadata = (.ok none, e) := by
  rw [triggerAutosave, h]

theorem triggerAutosave_some {t : Autosave.Attempt}
    (h : e.autosave.trigger e.shelf e.ambient (e.job trigger metadata) = some t) :
    e.triggerAutosave trigger metadata =
      ((t.result.mapError .template).map some, (e.attempted t).2) := by
  rw [triggerAutosave, h]
  dsimp only [attempted]
  cases t.result <;> rfl

theorem triggerAutosave_unheeded (h : Autosave.heeds e.autosave.config trigger = false) :
    returned (e.triggerAutosave trigger metadata) = (true, e) :=
  congrArg returned (triggerAutosave_none (if_pos (by rw [job, h]; rfl)))

theorem triggerAutosave_attempted {t : Autosave.Attempt}
    (h : e.autosave.trigger e.shelf e.ambient (e.job trigger metadata) = some t) :
    returned (e.triggerAutosave trigger metadata) = returned (e.attempted t) := by
  rw [triggerAutosave_some h]
  exact Prod.ext isOk_map rfl

theorem triggerAutosave_throttled {f : Autosave.Fault}
    (h : Autosave.heeds e.autosave.config trigger = true)
    (hf : e.autosave.throttled? e.ambient = some f) :
    returned (e.triggerAutosave trigger metadata) =
      returned (e.attempted (e.autosave.failed e.shelf e.ambient trigger f)) := by
  apply triggerAutosave_attempted
  rw [Autosave.trigger, if_neg (by rw [job, h]; decide), hf]
  rfl

theorem triggerAutosave_free (h : Autosave.heeds e.autosave.config trigger = true)
    (hf : e.autosave.throttled? e.ambient = none) :
    returned (e.triggerAutosave trigger metadata) = returned (e.attempted
      (e.autosave.save e.shelf e.ambient (e.job trigger metadata))) := by
  apply triggerAutosave_attempted
  rw [Autosave.trigger, if_neg (by rw [job, h]; decide), hf]

theorem Account.of_calling (hname : op.call? = some trigger) (h : e.Meanwhile e₁)
    (ha : ∀ s, (e.withSaves s).attempt op =
      returned ((e₁.withSaves s).triggerAutosave trigger metadata)) : Account e op := by
  have hthrottle : ∀ s : Autosave, s.throttled? e₁.ambient = s.throttled? e.ambient :=
    fun _ => Autosave.throttled?_congr h.clock
  cases hheeds : Autosave.heeds e.autosave.config trigger with
  | false =>
    refine .of_quiet (b := true) (fun _ => h.shelf) ?_ fun s hs => ?_
    · intro _ name hcall
      cases hname.symm.trans hcall
      exact hheeds
    · have hunheeded : Autosave.heeds s.config trigger = false := hs ▸ hheeds
      exact (ha s).trans (triggerAutosave_unheeded hunheeded)
  | true =>
    cases hf : e.autosave.throttled? e.ambient with
    | some f =>
      have hafter : ∀ x, (e.withSaves { e.autosave with last := x }).attempt op = _ := fun x =>
        (ha _).trans (triggerAutosave_throttled hheeds ((hthrottle _).trans hf))
      refine .throttled hname hheeds hf (congrArg (·.2.autosave.last) (hafter none)) ?_ ?_
      · exact congrArg (·.2.autosave) (hafter e.autosave.last)
      · exact (congrArg (·.2.shelf) (hafter e.autosave.last)).trans h.shelf
    | none =>
      have hafter : ∀ x, (e.withSaves { e.autosave with last := x }).attempt op = _ := fun x =>
        (ha _).trans (triggerAutosave_free hheeds ((hthrottle _).trans hf))
      have hback := hafter e.autosave.last
      have hsaving : e.saving? op = ({ e.autosave with last := none }.save e₁.shelf e₁.ambient
          (e₁.job trigger metadata)).autosave.last := congrArg (·.2.autosave.last) (hafter none)
      rw [Autosave.save_last, h.shelf] at hsaving
      refine .tried (a := e₁.ambient) (j := e₁.job trigger metadata) h.clock h.issued ?_
        (hsaving.trans Option.or_none) ?_ ?_ ?_
      · intro name hcall
        cases hname.symm.trans hcall
        exact ⟨rfl, hheeds, hf⟩
      · rw [← h.shelf]
        exact congrArg (·.2.autosave) hback
      · rw [← h.shelf]
        exact congrArg (·.2.shelf) hback
      · rw [← h.shelf]
        exact congrArg (·.2.ambient) hback

theorem Account.of_calls (h : e.Calls op.call? fun s => (e.withSaves s).attempt op) :
    Account e op := by
  cases h with
  | refused h ha => exact .of_quiet (b := false) (fun _ => h.shelf) nofun fun s _ => ha s
  | quiet hname h ha =>
    refine .of_quiet (b := true) (fun _ => h.shelf) ?_ fun s _ => ha s
    rw [hname]
    exact fun _ _ => nofun
  | calling hname h ha => exact .of_calling hname h ha

/-- Operations that have nothing to do with automatic saves. -/
theorem Account.of_silent (hname : op.call? = none)
    (h : ∀ s, (e.withSaves s).attempt op = ((e.attempt op).1, (e.attempt op).2.withSaves s))
    (hshelf : ¬ op.ByHand → (e.attempt op).2.shelf = e.shelf) : Account e op := by
  refine .of_quiet hshelf ?_ fun s _ => h s
  rw [hname]
  exact fun _ _ => nofun

theorem andThen_withSaves {s : Autosave} {o o' : Outcome α} {next : α → Engine → Outcome β}
    (ho : o' = (o.1, o.2.withSaves s))
    (h : ∀ a e, next a (e.withSaves s) = ((next a e).1, (next a e).2.withSaves s)) :
    andThen o' next = ((andThen o next).1, (andThen o next).2.withSaves s) := by
  obtain ⟨_ | a, e₁⟩ := o <;> subst ho
  · rfl
  · exact h a e₁

theorem returned_withSaves {s : Autosave} {o o' : Outcome α} (h : o' = (o.1, o.2.withSaves s)) :
    returned o' = ((returned o).1, (returned o).2.withSaves s) := by
  rw [h]
  rfl

theorem goTo_withSaves (s : Autosave) (id : String) :
    (e.withSaves s).goTo id = ((e.goTo id).1, (e.goTo id).2.withSaves s) := by
  unfold goTo
  rw [withSaves_story]
  cases e.story.find? id with
  | none => rfl
  | some target => exact andThen_withSaves rfl fun _ _ => rfl

theorem goTo_shelf (id : String) : (e.goTo id).2.shelf = e.shelf := by
  unfold goTo
  split
  · rfl
  · exact andThen_keeps (I := fun e' => e'.shelf = e.shelf) rfl fun _ _ _ h => h

theorem saveTo_withSaves (s : Autosave) (key : Value) (o : Save.SaveOptions) :
    (e.withSaves s).saveTo key o = ((e.saveTo key o).1, (e.saveTo key o).2.withSaves s) := by
  unfold saveTo
  rw [withSaves_save]
  cases e.save o <;> rfl

theorem saveTo_shelf (key : Value) (o : Save.SaveOptions) :
    (e.saveTo key o).2.shelf = e.shelf := by
  unfold saveTo
  split <;> rfl

theorem cleanup_withSaves (s : Autosave) (o : CheckpointOptions) :
    (e.withSaves s).cleanup o = ((e.cleanup o).1, (e.cleanup o).2.withSaves s) := by
  unfold cleanup
  rw [withSaves_shelf]
  cases e.shelf.cleanup o <;> rfl

theorem importCheckpoint_withSaves (s : Autosave) (data : Value) :
    (e.withSaves s).importCheckpoint data =
      ((e.importCheckpoint data).1, (e.importCheckpoint data).2.withSaves s) := by
  unfold importCheckpoint
  rw [withSaves_shelf, withSaves_story]
  cases e.shelf.importFrom e.story data <;> rfl

theorem configureTimeline_withSaves (s : Autosave) (changes : Entries Value) :
    (e.withSaves s).configureTimeline changes =
      ((e.configureTimeline changes).1, (e.configureTimeline changes).2.withSaves s) := by
  unfold configureTimeline
  rw [withSaves_timeline]
  cases Timeline.Config.make (e.timeline.config.wishes.changed changes) <;> rfl

theorem configureTimeline_shelf (changes : Entries Value) :
    (e.configureTimeline changes).2.shelf = e.shelf := by
  unfold configureTimeline
  split <;> rfl

theorem restore_withSaves (s : Autosave) (id : String) :
    (e.withSaves s).restore id = ((e.restore id).1, (e.restore id).2.withSaves s) := by
  unfold restore
  rw [withSaves_story, withSaves_shelf]
  cases e.shelf.stateOf? id with
  | none => rfl
  | some state =>
    dsimp only
    split
    · rfl
    · exact andThen_withSaves rfl fun _ _ => rfl

theorem restore_shelf (id : String) : (e.restore id).2.shelf = e.shelf := by
  unfold restore
  split
  · rfl
  · split
    · rfl
    · exact andThen_keeps (I := fun e' => e'.shelf = e.shelf) rfl fun _ _ _ h => h

theorem available_shelf (time : Option Number) (customData : Entries Value) :
    (e.available time customData).2.shelf = e.shelf :=
  andThen_keeps (I := fun e' => e'.shelf = e.shelf) (visible_meanwhile customData).shelf
    fun _ _ _ h => h

theorem saveNow_account (metadata : Entries Value) : Account e (.saveNow metadata) := by
  have hsaving : e.saving? (.saveNow metadata) = ({ e.autosave with last := none }.save e.shelf
      e.ambient (e.job Autosave.manualTrigger metadata)).autosave.last := rfl
  rw [Autosave.save_last] at hsaving
  exact .tried rfl (Nat.le_refl _) (fun _ => nofun) (hsaving.trans Option.or_none) rfl rfl rfl

theorem configureAutosave_account (changes : Entries Value) :
    Account e (.configureAutosave changes) := by
  cases hmake : Autosave.Config.make (e.autosave.config.wishes.changed changes) with
  | error f =>
    refine .of_quiet (b := false) (fun _ => rfl) nofun fun s hs => ?_
    show returned ((e.withSaves s).configureAutosave changes) = (false, e.withSaves s)
    have hmake' : Autosave.Config.make ((e.withSaves s).autosave.config.wishes.changed changes) =
        .error f := by
      rw [← hmake, ← hs]
      rfl
    rw [configureAutosave, hmake']
    rfl
  | ok c =>
    have hafter : ∀ x, ((e.withSaves { e.autosave with last := x }).configureAutosave changes).2 =
        { e with
          autosave := ({ e.autosave with last := x }.configure c e.shelf).1
          shelf := ({ e.autosave with last := x }.configure c e.shelf).2 } := by
      intro x
      have hmake' : Autosave.Config.make ((e.withSaves { e.autosave with
          last := x }).autosave.config.wishes.changed changes) = .ok c := hmake
      rw [configureAutosave, hmake']
      rfl
    have hback : (e.attempt (.configureAutosave changes)).2 = _ := hafter e.autosave.last
    refine .configured c rfl (congrArg (·.autosave.last) (hafter none)) ?_
    rw [hback]

theorem account (hstill : e.timeline.restoring = false) (op : Operation) : Account e op := by
  cases op with
  | choose index time => exact .of_calls (choose_calls hstill index time)
  | select c time => exact .of_calls (select_calls hstill c time)
  | setFlag name value => exact .of_calls (setFlag_calls hstill name value)
  | loadState state tracked =>
    have hcalls := loadState_calls hstill state tracked
    cases tracked <;> exact .of_calls hcalls
  | loadPayload payload tracked =>
    have hcalls := loadPayload_calls hstill payload tracked
    cases tracked <;> exact .of_calls hcalls
  | load o data => exact .of_calls (load_calls hstill o data)
  | loadFrom key o => exact .of_calls (loadFrom_calls hstill key o)
  | triggerAutosave trigger metadata => exact .of_calls (.calling rfl (.refl e) fun _ => rfl)
  | saveNow metadata => exact saveNow_account metadata
  | configureAutosave changes => exact configureAutosave_account changes
  | look customData =>
    exact .of_silent rfl (fun s => returned_withSaves (visible_withSaves s customData))
      fun _ => (visible_meanwhile customData).shelf
  | offer time customData =>
    exact .of_silent rfl (fun s => returned_withSaves (available_withSaves s time customData))
      fun _ => available_shelf time customData
  | askComplete =>
    refine .of_silent rfl (fun s => returned_withSaves ?_) fun _ => ?_
    · exact andThen_withSaves (available_withSaves s none []) fun _ _ => rfl
    · exact andThen_keeps (I := fun e' => e'.shelf = e.shelf) (available_shelf none [])
        fun _ _ _ h => h
  | consider c time =>
    refine .of_silent rfl (fun s => returned_withSaves ?_) fun _ => ?_
    · exact andThen_withSaves (visible_withSaves s []) fun _ _ => rfl
    · exact andThen_keeps (I := fun e' => e'.shelf = e.shelf) (visible_meanwhile []).shelf
        fun _ _ _ h => h
  | goTo id =>
    exact .of_silent rfl (fun s => returned_withSaves (goTo_withSaves s id)) fun _ => goTo_shelf id
  | reset =>
    refine .of_silent rfl (fun s => returned_withSaves ?_) fun _ => ?_
    · exact andThen_withSaves rfl fun _ _ => rfl
    · exact andThen_keeps (I := fun e' => e'.shelf = e.shelf) rfl fun _ _ _ h => h
  | setEvaluator custom => exact .of_silent rfl (fun _ => rfl) fun _ => rfl
  | clearEvaluator => exact .of_silent rfl (fun _ => rfl) fun _ => rfl
  | addRule rule => exact .of_silent rfl (fun _ => rfl) fun _ => rfl
  | removeRule name => exact .of_silent rfl (fun _ => rfl) fun _ => rfl
  | saveTo key o =>
    refine .of_silent rfl (fun s => ?_) fun _ => saveTo_shelf key o
    show succeeded _ = _
    rw [saveTo_withSaves]
    rfl
  | createCheckpoint name o tags => exact .of_silent rfl (fun _ => rfl) fun h => absurd trivial h
  | deleteCheckpoint id => exact .of_silent rfl (fun _ => rfl) fun h => absurd trivial h
  | cleanup o =>
    exact .of_silent rfl (fun s => returned_withSaves (cleanup_withSaves s o))
      fun h => absurd trivial h
  | importCheckpoint data =>
    exact .of_silent rfl (fun s => returned_withSaves (importCheckpoint_withSaves s data))
      fun h => absurd trivial h
  | restore id =>
    refine .of_silent rfl (fun s => ?_) fun _ => restore_shelf id
    show succeeded _ = _
    rw [restore_withSaves]
    rfl
  | travel d => exact .of_silent rfl (fun _ => rfl) fun _ => rfl
  | clearTimeline => exact .of_silent rfl (fun _ => rfl) fun _ => rfl
  | configureTimeline changes =>
    exact .of_silent rfl (fun s => returned_withSaves (configureTimeline_withSaves s changes))
      fun _ => configureTimeline_shelf changes
  | wait clock issued => exact .of_silent rfl (fun _ => rfl) fun _ => rfl
  | replaceStore storage => exact .of_silent rfl (fun _ => rfl) fun _ => rfl

def saved? (e : Engine) (op : Operation) : Option Autosave.Entry :=
  match e.saving? op with
  | some ⟨_, .ok saved⟩ => some ⟨saved.id, e.ambient.clock⟩
  | _ => none

theorem saved?_eq_none (h : ∀ r, e.saving? op = some r → r.success = false) :
    e.saved? op = none := by
  unfold saved?
  split
  · rename_i hsaving
    cases h _ hsaving
  · rfl

theorem saved?_eq_some {saved : Autosave.Saved} (h : e.saving? op = some ⟨trigger, .ok saved⟩) :
    e.saved? op = some ⟨saved.id, e.ambient.clock⟩ := by
  unfold saved?
  rw [h]

/-- The saves that operations make, oldest first. -/
def journal (e : Engine) : List Operation → List Autosave.Entry
  | [] => []
  | op :: later => (e.saved? op).toList ++ (e.attempt op).2.journal later

theorem after_snoc (ops : List Operation) (op : Operation) :
    e.after (ops ++ [op]) = ((e.after ops).attempt op).2 := by
  rw [after, List.foldl_append]
  rfl

theorem journal_snoc (ops : List Operation) (op : Operation) :
    e.journal (ops ++ [op]) = e.journal ops ++ ((e.after ops).saved? op).toList := by
  induction ops generalizing e with
  | nil => simp [journal, after]
  | cons first ops ih =>
    rw [List.cons_append, journal, ih, journal, List.append_assoc]
    rfl

/-- What holds of the engine, of the saves so far and of the operation whenever one of a run is
done. -/
def Throughout (e : Engine) (P : Engine → List Autosave.Entry → Operation → Prop)
    (ops : List Operation) : Prop :=
  ∀ before op later, ops = before ++ op :: later → P (e.after before) (e.journal before) op

variable {P : Engine → List Autosave.Entry → Operation → Prop} {ops : List Operation}

theorem throughout_nil : e.Throughout P [] := by
  rintro (_ | _) _ _ ⟨⟩

theorem throughout_snoc : e.Throughout P (ops ++ [op]) ↔
    e.Throughout P ops ∧ P (e.after ops) (e.journal ops) op := by
  constructor
  · intro h
    refine ⟨fun before op' later hops => h before op' (later ++ [op]) ?_, h ops op [] rfl⟩
    rw [hops, List.append_assoc]
    rfl
  · rintro ⟨h, hlast⟩ before op' later hops
    rcases List.eq_nil_or_concat later with rfl | ⟨later, last, rfl⟩
    · obtain ⟨rfl, heq⟩ := List.append_inj' hops rfl
      cases heq
      exact hlast
    · rw [List.concat_eq_append, ← List.cons_append, ← List.append_assoc] at hops
      exact h before op' later (List.append_inj' hops rfl).1

/-- A new engine has no saves. -/
theorem make_autosave {story : Story} {ambient : Ambient} {setup : Setup}
    (hm : make story ambient setup = .ok e) : ∃ c, e.autosave = .start c := by
  obtain ⟨_, _, hm⟩ := bind_eq_ok.mp hm
  obtain ⟨_, _, hm⟩ := bind_eq_ok.mp hm
  obtain ⟨_, _, hm⟩ := bind_eq_ok.mp hm
  obtain ⟨_, _, hm⟩ := bind_eq_ok.mp hm
  obtain ⟨c, _, hm⟩ := bind_eq_ok.mp hm
  cases hm
  exact ⟨c, rfl⟩

end Engine
end Storyline
