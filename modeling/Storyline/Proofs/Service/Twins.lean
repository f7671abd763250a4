import Storyline.Proofs.Renaming
import Storyline.Proofs.Service.Session

namespace Storyline

/-- The ids of what is left of a stretch. -/
theorem InStep.rest {ρ : String → String} {n n₁ m last : Nat} (h : InStep ρ n m (last - n))
    (hle : n ≤ n₁) : InStep ρ n₁ (m + (n₁ - n)) (last - n₁) := by
  intro i hi
  have hid := h (n₁ - n + i) (by omega)
  rwa [← Nat.add_assoc, ← Nat.add_assoc, Nat.add_sub_cancel' hle] at hid

namespace Engine
variable {ρ : String → String} {e e' e₁ e₁' : Engine} {α β : Type}

structure Twins (ρ : String → String) (e e' : Engine) : Prop where
  story : e'.story = e.story
  state : e'.state = e.state
  evaluator : e'.evaluator = e.evaluator
  rules : e'.rules = e.rules
  events : e'.events = e.events
  shelf : e'.shelf = e.shelf.renamed ρ
  timeline : e.timeline.Renamed e'.timeline
  autosave : e.autosave.Renamed ρ e'.autosave
  clock : e'.ambient.clock = e.ambient.clock

/-- Twins after the same was done with them, for which as many ids were given out. -/
structure Alongside (ρ : String → String) (a a' : Ambient) (e e' : Engine) : Prop where
  twins : Twins ρ e e'
  ambient : e'.ambient = a'.along a e.ambient

structure Paired (ρ : String → String) (a a' : Ambient) (o o' : Outcome α) : Prop where
  value : o'.1.toOption = o.1.toOption
  along : Alongside ρ a a' o.2 o'.2

/-- Two outcomes of a look, from which both engines learn the same. -/
def Looks (e e' : Engine) (o o' : Outcome α) : Prop :=
  ∃ r ev, o = (r, { e with evaluator := ev }) ∧ o' = (r, { e' with evaluator := ev })

theorem Twins.refl (e : Engine) : Twins id e e where
  story := rfl
  state := rfl
  evaluator := rfl
  rules := rfl
  events := rfl
  shelf := by rw [Shelf.renamed_id]
  timeline := .refl e.timeline
  autosave := .refl e.autosave
  clock := rfl

theorem Twins.learnt (h : Twins ρ e e') (ev : Condition.Evaluator) :
    Twins ρ { e with evaluator := ev } { e' with evaluator := ev } :=
  { h with evaluator := rfl }

theorem Twins.settled (h : Twins ρ e e') : e' = { e' with evaluator := e.evaluator } := by
  rw [← h.evaluator]

theorem Twins.still (h : Twins ρ e e') : Alongside ρ e.ambient e'.ambient e e' :=
  ⟨h, (Ambient.along_self h.clock).symm⟩

theorem Twins.refused (h : Twins ρ e e') (f f' : EngineFault) :
    Paired ρ e.ambient e'.ambient ((.error f, e) : Outcome α) (.error f', e') :=
  ⟨rfl, h.still⟩

/-- Two stretches follow on one another. -/
theorem Alongside.trans {a a' : Ambient} (h : Alongside ρ a a' e e')
    (h' : Alongside ρ e.ambient e'.ambient e₁ e₁') (hle : a.issued ≤ e.ambient.issued)
    (hle' : e.ambient.issued ≤ e₁.ambient.issued) : Alongside ρ a a' e₁ e₁' :=
  ⟨h'.twins, by rw [h'.ambient, h.ambient, Ambient.along_trans hle hle']⟩

theorem Paired.returns {a a' : Ambient} {o o' : Outcome α} (h : Paired ρ a a' o o') (b : β) :
    Paired ρ a a' (o.1.map fun _ => b, o.2) (o'.1.map fun _ => b, o'.2) := by
  obtain ⟨r, e⟩ := o
  obtain ⟨r', e'⟩ := o'
  obtain ⟨hvalue, halong⟩ := h
  refine ⟨?_, halong⟩
  cases r <;> cases r' <;> first | rfl | cases hvalue

theorem Looks.andThen {o o' : Outcome α} {next next' : α → Engine → Outcome β}
    (first : Looks e e' o o')
    (second : ∀ a ev, Looks { e with evaluator := ev } { e' with evaluator := ev }
      (next a { e with evaluator := ev }) (next' a { e' with evaluator := ev })) :
    Looks e e' (andThen o next) (andThen o' next') := by
  obtain ⟨r, ev, rfl, rfl⟩ := first
  cases r with
  | error f => exact ⟨_, _, rfl, rfl⟩
  | ok a =>
    obtain ⟨r, ev', hnext, hnext'⟩ := second a ev
    exact ⟨r, ev', hnext, hnext'⟩

/-- After a look, something is done. -/
theorem Looks.paired {o o' : Outcome α} {next next' : α → Engine → Outcome β}
    (first : Looks e e' o o') (h : Twins ρ e e')
    (second : ∀ a e₁ e₁', Twins ρ e₁ e₁' → InStep ρ e₁.ambient.issued e₁'.ambient.issued
      ((next a e₁).2.ambient.issued - e₁.ambient.issued) →
        Paired ρ e₁.ambient e₁'.ambient (next a e₁) (next' a e₁'))
    (hids : InStep ρ e.ambient.issued e'.ambient.issued
      ((Engine.andThen o next).2.ambient.issued - e.ambient.issued)) :
    Paired ρ e.ambient e'.ambient (Engine.andThen o next) (Engine.andThen o' next') := by
  obtain ⟨r, ev, rfl, rfl⟩ := first
  have hlearnt := h.learnt ev
  cases r with
  | error f => exact ⟨rfl, hlearnt, (Ambient.along_self h.clock).symm⟩
  | ok a =>
    obtain ⟨hvalue, hal⟩ := second a _ _ hlearnt hids
    exact ⟨hvalue, hal.twins, hal.ambient⟩

theorem Twins.node (h : Twins ρ e e') : e'.node = e.node := by
  rw [Engine.node, Engine.node, h.story, h.state]

theorem Twins.milliseconds (h : Twins ρ e e') :
    e'.ambient.milliseconds = e.ambient.milliseconds := by
  rw [Ambient.milliseconds, Ambient.milliseconds, h.clock]

/-- Both see the same without learning anything. -/
theorem Twins.sees (h : Twins ρ e e') {r r' : Except EngineFault α} (same : r' = r) :
    Looks e e' (r, e) (r', e') :=
  ⟨r, e.evaluator, rfl, Prod.ext same h.settled⟩

theorem Twins.visible (h : Twins ρ e e') (customData : Entries Value) :
    Looks e e' (e.visible customData) (e'.visible customData) := by
  have hscope : e'.scope customData = e.scope customData := by
    rw [scope, scope, h.state, h.milliseconds]
  unfold Engine.visible
  rw [h.node, hscope, h.evaluator]
  cases e.node with
  | error f => exact h.sees rfl
  | ok node => exact ⟨_, _, rfl, rfl⟩

theorem Twins.ruleContext (h : Twins ρ e e') (offered : List Choice) (time : Option Number) :
    e'.ruleContext offered time = e.ruleContext offered time := by
  rw [Engine.ruleContext, Engine.ruleContext, h.node, h.state, h.milliseconds]

theorem Twins.verdictAmong (h : Twins ρ e e') (c : Choice) (offered : List Choice)
    (time : Option Number) : e'.verdictAmong c offered time = e.verdictAmong c offered time := by
  rw [Engine.verdictAmong, Engine.verdictAmong, h.ruleContext, h.rules]

theorem Twins.available (h : Twins ρ e e') (time : Option Number) (customData : Entries Value) :
    Looks e e' (e.available time customData) (e'.available time customData) := by
  refine (h.visible customData).andThen fun seen ev => ?_
  have hl := h.learnt ev
  refine hl.sees ?_
  rw [hl.ruleContext]
  simp only [h.rules]

theorem Twins.verdict (h : Twins ρ e e') (c : Choice) (time : Option Number) :
    Looks e e' (e.verdict c time) (e'.verdict c time) :=
  (h.visible []).andThen fun seen ev =>
    (h.learnt ev).sees ((h.learnt ev).verdictAmong c seen time)

theorem Twins.track (h : Twins ρ e e') (action : Action) {metadata metadata' : Entries Value}
    (hm : Value.allFieldsCopyable metadata = true)
    (hm' : Value.allFieldsCopyable metadata' = true) :
    Paired ρ e.ambient e'.ambient (e.track action metadata) (e'.track action metadata') := by
  obtain ⟨hok, htimeline, hambient⟩ := h.timeline.record h.clock e.state action hm hm'
  have hclock : (e'.timeline.record e'.ambient e.state action metadata').2.2.clock =
      (e.timeline.record e.ambient e.state action metadata).2.2.clock := by
    rw [hambient, Ambient.along]
  unfold Engine.track
  rw [h.state]
  refine ⟨?_, { h with state := rfl, timeline := htimeline, clock := hclock }, hambient⟩
  simp only [toOption_mapError, toOption_discarded hok]

/-- An action is recorded, and then the rest of it is done. -/
theorem Twins.tracked {next next' : Unit → Engine → Outcome α} (h : Twins ρ e e') (action : Action)
    {metadata metadata' : Entries Value} (hm : Value.allFieldsCopyable metadata = true)
    (hm' : Value.allFieldsCopyable metadata' = true)
    (hlater : ∀ e₁, e₁.ambient.issued ≤ (next () e₁).2.ambient.issued)
    (second : ∀ e₁ e₁', Twins ρ e₁ e₁' → InStep ρ e₁.ambient.issued e₁'.ambient.issued
      ((next () e₁).2.ambient.issued - e₁.ambient.issued) →
        Paired ρ e₁.ambient e₁'.ambient (next () e₁) (next' () e₁'))
    (hids : InStep ρ e.ambient.issued e'.ambient.issued
      ((andThen (e.track action metadata) next).2.ambient.issued - e.ambient.issued)) :
    Paired ρ e.ambient e'.ambient (andThen (e.track action metadata) next)
      (andThen (e'.track action metadata') next') := by
  have hissued := ((Steady.refl e).track action metadata).issued
  obtain ⟨hvalue, halong⟩ := h.track action hm hm'
  rcases htrack : e.track action metadata with ⟨r, e₁⟩
  rcases htrack' : e'.track action metadata' with ⟨r', e₁'⟩
  rw [htrack, htrack'] at hvalue halong
  rw [htrack] at hissued hids
  cases r with
  | error f =>
    cases r' with
    | error f' => exact ⟨rfl, halong⟩
    | ok _ => cases hvalue
  | ok _ =>
    cases r' with
    | error f' => cases hvalue
    | ok _ =>
      have hrest := hids.rest hissued
      have hissued' : e₁'.ambient.issued =
          e'.ambient.issued + (e₁.ambient.issued - e.ambient.issued) :=
        congrArg Ambient.issued halong.ambient
      rw [← hissued'] at hrest
      obtain ⟨hvalue, hnext⟩ := second e₁ e₁' halong.twins hrest
      exact ⟨hvalue, halong.trans hnext hissued (hlater e₁)⟩

/-- Both attempt to save. -/
theorem Twins.attempted (h : Twins ρ e e') {a a' : Autosave.Attempt}
    (ha : Autosave.Attempt.Renamed ρ e.ambient e'.ambient a a') :
    Alongside ρ e.ambient e'.ambient (e.attempted a).2 (e'.attempted a').2 := by
  have hclock : a'.ambient.clock = a.ambient.clock := by rw [ha.ambient, Ambient.along]
  exact ⟨{ h with shelf := ha.shelf, autosave := ha.autosave, clock := hclock }, ha.ambient⟩

/-- What comes of something that happens, unless a state is being put back. -/
theorem happened_saves (hr : e.timeline.restoring = false) (trigger : Autosave.Trigger)
    (metadata : Entries Value) : e.happened trigger metadata =
      match e.autosave.trigger e.shelf e.ambient (e.job trigger.name metadata) with
      | none => (.ok (), e)
      | some a => (((e.attempted a).1).map fun _ => (), (e.attempted a).2) := by
  simp only [happened, hr, Bool.false_eq_true, if_false, triggerAutosave]
  cases e.autosave.trigger e.shelf e.ambient (e.job trigger.name metadata) with
  | none => rfl
  | some a =>
    simp only [Engine.attempted]
    cases a.result <;> rfl

theorem Twins.happened (h : Twins ρ e e') (hρ : Function.Injective ρ) (trigger : Autosave.Trigger)
    (metadata : Entries Value) (hids : InStep ρ e.ambient.issued e'.ambient.issued
      ((e.happened trigger metadata).2.ambient.issued - e.ambient.issued)) :
    Paired ρ e.ambient e'.ambient (e.happened trigger metadata) (e'.happened trigger metadata) := by
  cases hr : e.timeline.restoring with
  | true =>
    have hr' : e'.timeline.restoring = true := by rw [h.timeline.restoring, hr]
    simp only [Engine.happened, hr, hr', if_true]
    exact ⟨rfl, h.still⟩
  | false =>
    have hr' : e'.timeline.restoring = false := by rw [h.timeline.restoring, hr]
    have hjob : e'.job trigger.name metadata = e.job trigger.name metadata := by
      rw [job, job, h.state, h.story]
    rw [happened_saves hr] at hids ⊢
    rw [happened_saves hr', hjob, h.shelf]
    have hsaved := h.autosave.trigger hρ h.clock e.shelf (e.job trigger.name metadata) (by
      intro a ha
      rw [ha] at hids
      exact hids)
    generalize e.autosave.trigger e.shelf e.ambient (e.job trigger.name metadata) =
      saved at hsaved ⊢
    generalize e'.autosave.trigger (e.shelf.renamed ρ) e'.ambient (e.job trigger.name metadata) =
      saved' at hsaved ⊢
    cases hsaved with
    | none => exact ⟨rfl, h.still⟩
    | @some a a' ha =>
      refine ⟨toOption_discarded ?_, h.attempted ha⟩
      rw [Engine.attempted, Engine.attempted, isOk_mapError, isOk_mapError, ha.result]

theorem Twins.follow (h : Twins ρ e e') (c : Choice) (target : Node) :
    Twins ρ (e.follow c target) (e'.follow c target) := by
  refine { h with state := ?_, events := ?_ }
  · simp only [Engine.follow, h.state]
  · simp only [Engine.follow, h.state, h.events, h.milliseconds]

theorem Twins.take (h : Twins ρ e e') (hρ : Function.Injective ρ) (c : Choice) (target : Node)
    (hids : InStep ρ e.ambient.issued e'.ambient.issued
      ((e.take c target).2.ambient.issued - e.ambient.issued)) :
    Paired ρ e.ambient e'.ambient (e.take c target) (e'.take c target) := by
  refine h.tracked .choice (e.takeMetadata_copyable c) (e'.takeMetadata_copyable c) ?_ ?_ hids
  · intro e₁
    dsimp only
    split
    · exact Nat.le_refl _
    · have hfollowed : Steady e₁ (e₁.follow c target) := { Steady.refl e₁ with }
      exact (andThen_keeps (I := Steady e₁) (hfollowed.happened _ _) fun _ _ _ h => h).issued
  · intro e₁ e₁' h hids
    dsimp only at hids ⊢
    split
    · exact h.refused _ _
    · rename_i hcopy
      simp only [hcopy, Bool.false_eq_true, if_false, andThen_returns] at hids ⊢
      exact ((h.follow c target).happened hρ .choice _ hids).returns target

theorem Twins.finalVerdict (h : Twins ρ e e') (c : Choice) (offered : List Choice)
    (time : Option Number) : e'.finalVerdict c offered time = e.finalVerdict c offered time := by
  rw [Engine.finalVerdict, Engine.finalVerdict, h.verdictAmong]

theorem Twins.commit (h : Twins ρ e e') (hρ : Function.Injective ρ) (c : Choice)
    (offered : List Choice) (time : Option Number)
    (hids : InStep ρ e.ambient.issued e'.ambient.issued
      ((e.commit c offered time).2.ambient.issued - e.ambient.issued)) :
    Paired ρ e.ambient e'.ambient (e.commit c offered time) (e'.commit c offered time) := by
  unfold Engine.commit at hids ⊢
  rw [h.finalVerdict, h.story]
  split
  · exact h.refused _ _
  · rename_i v hv
    rw [hv] at hids
    dsimp only at hids
    split
    · exact h.refused _ _
    · rename_i hvalid
      simp only [hvalid, Bool.false_eq_true, if_false] at hids
      split
      · exact h.refused _ _
      · rename_i target ht
        rw [ht] at hids
        exact h.take hρ c target hids

theorem Twins.choose (h : Twins ρ e e') (hρ : Function.Injective ρ) (index : Value)
    (time : Option Number) (hids : InStep ρ e.ambient.issued e'.ambient.issued
      ((e.choose index time).2.ambient.issued - e.ambient.issued)) :
    Paired ρ e.ambient e'.ambient (e.choose index time) (e'.choose index time) := by
  refine (h.visible []).paired h ?_ hids
  intro seen e₁ e₁' h hids
  split
  · exact h.refused _ _
  · rename_i c hc
    rw [hc] at hids
    exact (h.available time []).paired h (fun offered e₁ e₁' h => h.commit hρ c offered time) hids

theorem Twins.goTo (h : Twins ρ e e') (id : String) (hids : InStep ρ e.ambient.issued
    e'.ambient.issued ((e.goTo id).2.ambient.issued - e.ambient.issued)) :
    Paired ρ e.ambient e'.ambient (e.goTo id) (e'.goTo id) := by
  unfold Engine.goTo at hids ⊢
  rw [h.story]
  split
  · exact h.refused _ _
  · rename_i target ht
    rw [ht] at hids
    refine h.tracked .navigation (by rfl) (by rfl) (fun _ => Nat.le_refl _) ?_ hids
    intro e₁ e₁' h _
    exact ⟨rfl, { h with state := by simp only [h.state] }, h.still.ambient⟩

theorem Twins.setFlag (h : Twins ρ e e') (hρ : Function.Injective ρ) (name value : Value)
    (hids : InStep ρ e.ambient.issued e'.ambient.issued
      ((e.setFlag name value).2.ambient.issued - e.ambient.issued)) :
    Paired ρ e.ambient e'.ambient (e.setFlag name value) (e'.setFlag name value) := by
  unfold Engine.setFlag at hids ⊢
  split
  · exact h.refused _ _
  · rename_i name hname
    rw [hname] at hids
    refine h.tracked .flagChange ?_ ?_ ?_ ?_ hids
    · simp [Value.allFieldsCopyable, Value.copyable, texts_copyable]
    · simp [Value.allFieldsCopyable, Value.copyable, texts_copyable]
    · intro e₁
      dsimp only
      split
      · have hflagged : Steady e₁ { e₁ with state := e₁.state.withEffects [(name, value)] } :=
          { Steady.refl e₁ with }
        exact (hflagged.happened _ _).issued
      · exact Nat.le_refl _
    · intro e₁ e₁' h hids
      dsimp only at hids ⊢
      split
      · rename_i hcopy
        simp only [hcopy, if_true] at hids
        have hflagged : Twins ρ { e₁ with state := e₁.state.withEffects [(name, value)] }
            { e₁' with state := e₁'.state.withEffects [(name, value)] } :=
          { h with state := by simp only [h.state] }
        exact hflagged.happened hρ .flagChange _ hids
      · exact h.refused _ _

theorem Twins.reset (h : Twins ρ e e') (hids : InStep ρ e.ambient.issued e'.ambient.issued
    (e.reset.2.ambient.issued - e.ambient.issued)) :
    Paired ρ e.ambient e'.ambient e.reset e'.reset := by
  refine h.tracked .reset (by rfl) (by rfl) (fun _ => Nat.le_refl _) ?_ hids
  intro e₁ e₁' h _
  exact ⟨rfl, { h with state := by simp only [h.story], events := rfl }, h.still.ambient⟩

theorem Twins.travel (h : Twins ρ e e') (d : Timeline.Direction) :
    Alongside ρ e.ambient e'.ambient (e.travel d).2 (e'.travel d).2 := by
  have htravel := h.timeline.travel h.clock d e.state.clone
  unfold Engine.travel travelFrom
  rw [h.state]
  obtain ⟨hrestored, htimeline, hambient⟩ := htravel
  refine ⟨{ h with state := ?_, timeline := htimeline, clock := ?_ }, hambient⟩
  · simp only [hrestored]
  · simp only [hambient, Ambient.along]

theorem Twins.createCheckpoint (h : Twins ρ e e') (hρ : Function.Injective ρ)
    (name : Option String) (o : CheckpointOptions) (tags : List String)
    (hids : InStep ρ e.ambient.issued e'.ambient.issued
      ((e.createCheckpoint name o tags).2.ambient.issued - e.ambient.issued)) :
    Alongside ρ e.ambient e'.ambient (e.createCheckpoint name o tags).2
      (e'.createCheckpoint name o tags).2 := by
  unfold Engine.createCheckpoint Engine.keep at hids ⊢
  rw [h.state, h.story, h.shelf]
  have hcreated := Shelf.create_renamed hρ h.clock e.shelf _ hids
  rw [hcreated]
  exact ⟨{ h with shelf := rfl, clock := rfl, state := rfl, story := rfl }, rfl⟩

theorem Twins.restored (h : Twins ρ e e') (o : Save.LoadOptions) (l : Save.Loaded) :
    Twins ρ (e.restored o l) (e'.restored o l) := by
  refine { h with state := rfl, rules := ?_, events := ?_ }
  · simp only [Engine.restored, h.rules]
  · simp only [Engine.restored, h.events]

theorem Twins.load (h : Twins ρ e e') (hρ : Function.Injective ρ) (o : Save.LoadOptions)
    (data : Value) (hids : InStep ρ e.ambient.issued e'.ambient.issued
      ((e.load o data).2.ambient.issued - e.ambient.issued)) :
    Paired ρ e.ambient e'.ambient (e.load o data) (e'.load o data) := by
  unfold Engine.load at hids ⊢
  rw [h.story]
  split
  · exact h.refused _ _
  · exact ⟨rfl, h.still⟩
  · rename_i result l hl
    rw [hl] at hids
    refine h.tracked .stateLoad (by rfl) (by rfl) ?_ ?_ hids
    · intro e₁
      rw [andThen_returns]
      exact ((Steady.refl (e₁.restored o l)).happened _ _).issued
    · intro e₁ e₁' h hids
      rw [andThen_returns] at hids ⊢
      rw [andThen_returns]
      exact ((h.restored o l).happened hρ .stateLoad _ hids).returns result

def told (r : Except EngineFault Save.Result) : Option Bool := r.toOption.map (·.error.isSome)

/-- Putting a checkpoint back, under the id that it has on the other side. -/
theorem Twins.restore (h : Twins ρ e e') (hρ : Function.Injective ρ) (id : String) :
    told (e'.restore (ρ id)).1 = told (e.restore id).1 ∧
      Alongside ρ e.ambient e'.ambient (e.restore id).2 (e'.restore (ρ id)).2 := by
  unfold Engine.restore
  rw [h.shelf, Shelf.stateOf?_renamed hρ, h.story]
  split
  · exact ⟨rfl, h.still⟩
  · rename_i s hs
    split
    · exact ⟨rfl, h.still⟩
    · have hm : ∀ n m : String,
          Value.allFieldsCopyable [("nodeId", .text n), ("checkpointId", .text m)] = true :=
        fun _ _ => rfl
      obtain ⟨hvalue, halong⟩ := h.track .stateLoad (hm e.state.node id) (hm e'.state.node (ρ id))
      rcases htrack : e.track .stateLoad
        [("nodeId", .text e.state.node), ("checkpointId", .text id)] with ⟨r, e₁⟩
      rcases htrack' : e'.track .stateLoad
        [("nodeId", .text e'.state.node), ("checkpointId", .text (ρ id))] with ⟨r', e₁'⟩
      rw [htrack, htrack'] at hvalue halong
      simp only [htrack, htrack']
      cases r <;> cases r'
      · exact ⟨rfl, halong⟩
      · cases hvalue
      · cases hvalue
      · exact ⟨rfl, { halong.twins with state := rfl }, halong.ambient⟩

end Engine

namespace Service
open Engine
variable {ρ : String → String} {e e' : Engine} {α κ : Type}

def SessionAsk.renamed (ρ : String → String) : SessionAsk → SessionAsk
  | .restore checkpoint => .restore (ρ checkpoint)
  | ask => ask

/-- Whether nothing is saved or loaded under a key of the store. -/
def SessionAsk.storeless : SessionAsk → Bool
  | .save _ | .load _ => false
  | _ => true

def Learnt (e e' e₁ e₁' : Engine) : Prop :=
  ∃ ev, e₁ = { e with evaluator := ev } ∧ e₁' = { e' with evaluator := ev }

theorem Learnt.alongside {e₁ e₁' : Engine} {a a' : Ambient} (hl : Learnt e e' e₁ e₁')
    (h : Alongside ρ a a' e e') : Alongside ρ a a' e₁ e₁' := by
  obtain ⟨ev, rfl, rfl⟩ := hl
  exact ⟨h.twins.learnt ev, h.ambient⟩

theorem judge_twins (h : Twins ρ e e') (cs : List Choice) :
    Looks e e' (judge e cs) (judge e' cs) := by
  induction cs generalizing e e' with
  | nil => exact h.sees rfl
  | cons c rest ih =>
    refine (h.verdict c none).andThen fun v ev => ?_
    exact (ih (h.learnt ev)).andThen fun more ev' => ((h.learnt ev).learnt ev').sees rfl

theorem offersOf_twins (h : Twins ρ e e') : Looks e e' (offersOf e) (offersOf e') :=
  (h.visible []).andThen fun seen ev => judge_twins (h.learnt ev) seen

theorem view_twins (h : Twins ρ e e') (session session' : String) :
    Learnt e e' (view session e).2 (view session' e').2 := by
  unfold view
  rw [h.node]
  cases e.node with
  | error f => exact ⟨e.evaluator, rfl, h.settled⟩
  | ok node =>
    obtain ⟨r, ev, hoffers, hoffers'⟩ := offersOf_twins h
    rw [hoffers, hoffers']
    cases r <;> exact ⟨ev, rfl, rfl⟩

/-- Nothing more is done where a reply is only made up. -/
theorem respond_engine {o : Outcome α} {refuse : EngineFault → Option Reply}
    {go : α → Engine → Reply × Engine} (hgo : ∀ a e, (go a e).2 = e) :
    (respond o refuse go).2 = o.2 := by
  obtain ⟨r, e⟩ := o
  cases r with
  | error f => rfl
  | ok a => exact hgo a e

theorem present_twins (h : Twins ρ e e') (session session' : String) (status : Nat) :
    Learnt e e' (present session status e).2 (present session' status e').2 := by
  rw [present, present, respond_engine fun _ _ => rfl, respond_engine fun _ _ => rfl]
  exact view_twins h session session'

theorem respond_issued {o : Outcome α} {refuse : EngineFault → Option Reply}
    {go : α → Engine → Reply × Engine}
    (hgo : ∀ a e, e.ambient.issued ≤ (go a e).2.ambient.issued) :
    o.2.ambient.issued ≤ (respond o refuse go).2.ambient.issued :=
  respond_keeps (I := fun e => o.2.ambient.issued ≤ e.ambient.issued) (Nat.le_refl _)
    fun a e _ h => Nat.le_trans h (hgo a e)

/-- What is said about an outcome is said about both, and nothing more is done. -/
theorem respond_twins {a a' : Ambient} {o o' : Outcome α}
    {refuse refuse' : EngineFault → Option Reply}
    {go go' : α → Engine → Reply × Engine} (key : α → κ)
    (hvalue : o'.1.toOption.map key = o.1.toOption.map key) (h : Alongside ρ a a' o.2 o'.2)
    (hgo : ∀ x x' e e', key x' = key x → Twins ρ e e' → Learnt e e' (go x e).2 (go' x' e').2) :
    Alongside ρ a a' (respond o refuse go).2 (respond o' refuse' go').2 := by
  obtain ⟨r, e⟩ := o
  obtain ⟨r', e'⟩ := o'
  cases r with
  | error f =>
    cases r' with
    | error f' => exact h
    | ok x' => cases hvalue
  | ok x =>
    cases r' with
    | error f' => cases hvalue
    | ok x' => exact (hgo x x' e e' (Option.some.inj hvalue) h.twins).alongside h

/-- Something is done, and then the session is shown. -/
theorem shown_twins {o o' : Outcome α} {refuse refuse' : EngineFault → Option Reply}
    {session : String} (session' : String) (hdone : InStep ρ e.ambient.issued e'.ambient.issued
      (o.2.ambient.issued - e.ambient.issued) → Paired ρ e.ambient e'.ambient o o')
    (hids : InStep ρ e.ambient.issued e'.ambient.issued
      ((respond o refuse fun _ e => present session 200 e).2.ambient.issued - e.ambient.issued)) :
    Alongside ρ e.ambient e'.ambient (respond o refuse fun _ e => present session 200 e).2
      (respond o' refuse' fun _ e => present session' 200 e).2 := by
  have hissued : o.2.ambient.issued ≤
      (respond o refuse fun _ e => present session 200 e).2.ambient.issued :=
    respond_issued fun _ e => (present_serves (.refl e) session 200).steady.issued
  obtain ⟨hvalue, halong⟩ := hdone (hids.mono (Nat.sub_le_sub_right hissued _))
  exact respond_twins id (congrArg (Option.map id) hvalue) halong
    fun _ _ _ _ _ h => present_twins h session session' 200

/-- Asked the same, twins stay twins. -/
theorem run_twins (h : Twins ρ e e') (hρ : Function.Injective ρ) (session session' : String)
    {ask : SessionAsk} (hask : ask.storeless)
    (hids : InStep ρ e.ambient.issued e'.ambient.issued
      ((ask.run session e).2.ambient.issued - e.ambient.issued)) :
    Alongside ρ e.ambient e'.ambient (ask.run session e).2
      ((ask.renamed ρ).run session' e').2 := by
  have hresult : ∀ (failure : Nat) (r : Save.Result) (e : Engine),
      (resultReply failure r e).2 = e := by
    intro failure r e
    unfold resultReply
    split <;> rfl
  cases ask with
  | look => exact (present_twins h session session' 200).alongside h.still
  | close => exact h.still
  | listChoices =>
    show Alongside ρ _ _ (respond (offersOf e) _ _).2 (respond (offersOf e') _ _).2
    rw [respond_engine fun _ _ => rfl, respond_engine fun _ _ => rfl]
    obtain ⟨r, ev, hoffers, hoffers'⟩ := offersOf_twins h
    rw [hoffers, hoffers']
    exact ⟨h.learnt ev, h.still.ambient⟩
  | choose index => exact shown_twins session' (h.choose hρ (.int index) none) hids
  | goTo node => exact shown_twins session' (h.goTo node) hids
  | setFlag name value => exact shown_twins session' (h.setFlag hρ (.text name) value) hids
  | reset => exact shown_twins session' h.reset hids
  | travel d =>
    show Alongside ρ _ _ (respond (view session (e.travel d).2) _ _).2
      (respond (view session' (e'.travel d).2) _ _).2
    rw [respond_engine fun _ _ => rfl, respond_engine fun _ _ => rfl]
    have hdone := h.travel d
    exact (view_twins hdone.twins session session').alongside hdone
  | keep name description tags =>
    have hdone : ∀ (session : String) (e : Engine),
        ((SessionAsk.keep name description tags).run session e).2 =
          (e.createCheckpoint name { describes := true, description } tags).2 :=
      fun _ _ => respond_engine fun _ _ => rfl
    rw [hdone] at hids
    show Alongside ρ _ _ ((SessionAsk.keep name description tags).run session e).2
      ((SessionAsk.keep name description tags).run session' e').2
    rw [hdone, hdone]
    exact h.createCheckpoint hρ name _ tags hids
  | listCheckpoints => exact h.still
  | restore checkpoint =>
    obtain ⟨htold, hdone⟩ := h.restore hρ checkpoint
    have hvalue : (e'.restore (ρ checkpoint)).1.toOption.map (·.error.isSome) =
      (e.restore checkpoint).1.toOption.map (·.error.isSome) := htold
    refine respond_twins (·.error.isSome) hvalue hdone ?_
    intro r r' e e' hsame h
    cases hr : r.error with
    | some reason =>
      rw [hr] at hsame
      obtain ⟨reason', hr'⟩ := Option.isSome_iff_exists.mp hsame
      rw [hr']
      exact ⟨e.evaluator, rfl, h.settled⟩
    | none =>
      rw [hr] at hsame
      rw [Option.isNone_iff_eq_none.mp (Option.isSome_eq_false_iff.mp hsame)]
      exact present_twins h session session' 200
  | exportSave =>
    have hsame : SessionAsk.exportSave.renamed ρ = .exportSave := rfl
    rw [hsame, exportSave_engine, exportSave_engine]
    exact h.still
  | importSave envelope =>
    have hdone : ∀ (session : String) (e : Engine),
        ((SessionAsk.importSave envelope).run session e).2 =
          (e.load { restoreEvents := true } (.record envelope)).2 :=
      fun _ _ => respond_engine fun r e => hresult 422 r e
    rw [hdone] at hids
    show Alongside ρ _ _ ((SessionAsk.importSave envelope).run session e).2
      ((SessionAsk.importSave envelope).run session' e').2
    rw [hdone, hdone]
    exact (h.load hρ _ _ hids).along
  | save key => cases hask
  | load key => cases hask

end Service
end Storyline
