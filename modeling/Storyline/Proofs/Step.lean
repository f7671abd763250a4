import Mathlib.Logic.Relation
import Storyline.Proofs.Operation
import Storyline.Proofs.State

namespace Storyline.Engine
open Relation

/-- The states that an operation brings from outside. A store is shared with others, so what is
loaded from it counts. -/
def Operation.Brings (op : Operation) (e : Engine) (s : NarrativeState) : Prop :=
  match op with
  | .loadState given _ => given.clone = .ok s
  | .loadPayload payload _ => NarrativeState.ofPayload payload = .ok s
  | .load o data => ∃ l, Save.check e.story o data = .ok l ∧ l.state = s
  | .loadFrom key o => ∃ data l, Save.fetchFrom e.storage key = .ok data ∧
      Save.check e.story o data = .ok l ∧ l.state = s
  | .importCheckpoint data =>
      ∃ c shelf, e.shelf.importFrom e.story data = .ok (c, shelf) ∧ c.state = s
  | _ => False

/-- One thing that happens to an engine, while certain states are brought from outside. -/
inductive Step (brought : NarrativeState → Prop) : Engine → Engine → Prop
  | learnt {e : Engine} (evaluator : Condition.Evaluator) : Step brought e { e with evaluator }
  | ruled {e : Engine} (rules : Registry) : Step brought e { e with rules }
  | stored {e : Engine} (storage : Option Storage) : Step brought e { e with storage }
  | waited {e : Engine} (clock : Int) (issued : Nat) :
    Step brought e { e with ambient := ⟨clock, e.ambient.issued + issued⟩ }
  | tracked {e : Engine} (action : Action) (metadata : Entries Value) :
    Step brought e (e.track action metadata).2
  | followed {e : Engine} {c : Choice} {target : Node} :
    e.story.find? c.target = some target → Value.allFieldsCopyable c.effects = true →
    Step brought e (e.follow c target)
  | moved {e : Engine} {id : String} :
    e.story.has id = true → Step brought e { e with state := e.state.moveTo id }
  | flagged {e : Engine} {name : String} {value : Value} :
    value.copyable = true → Step brought e { e with state := e.state.withEffects [(name, value)] }
  | restarted {e : Engine} : Step brought e { e with state := .start e.story.initial, events := [] }
  | placed {e : Engine} {s : NarrativeState} :
    brought s → s.Fits e.story → Step brought e { e with state := s }
  | loaded {e : Engine} {o : Save.LoadOptions} {data : Value} {l : Save.Loaded} :
    Save.check e.story o data = .ok l → brought l.state → Step brought e (e.restored o l)
  | recalled {e : Engine} {id : String} {s : NarrativeState} :
    e.shelf.stateOf? id = some s → e.story.has s.node = true → Step brought e { e with state := s }
  | travelled {e : Engine} (d : Timeline.Direction) : Step brought e (e.travel d).2
  | cleared {e : Engine} : Step brought e e.clearTimeline
  | rebounded {e : Engine} (c : Timeline.Config) :
    Step brought e { e with timeline := e.timeline.configure c }
  | rescheduled {e : Engine} (c : Autosave.Config) :
    Step brought e { e with
      autosave := (e.autosave.configure c e.shelf).1, shelf := (e.autosave.configure c e.shelf).2 }
  | autosaved {e : Engine} (trigger : String) (metadata : Entries Value) :
    Step brought e (e.attempted (e.autosave.save e.shelf e.ambient (e.job trigger metadata))).2
  | throttled {e : Engine} (trigger : String) (fault : Autosave.Fault) :
    Step brought e (e.attempted (e.autosave.failed e.shelf e.ambient trigger fault)).2
  | kept {e : Engine} {d : Shelf.Draft} : d.state = e.state → Step brought e (e.keep d).2
  | deleted {e : Engine} (id : String) : Step brought e { e with shelf := e.shelf.delete id }
  | cleaned {e : Engine} {o : CheckpointOptions} {count : Nat} {shelf : Shelf} :
    e.shelf.cleanup o = .ok (count, shelf) → Step brought e { e with shelf }
  | imported {e : Engine} {data : Value} {c : Checkpoint} {shelf : Shelf} :
    e.shelf.importFrom e.story data = .ok (c, shelf) → brought c.state →
    Step brought e { e with shelf }

abbrev Steps (brought : NarrativeState → Prop) : Engine → Engine → Prop :=
  ReflTransGen (Step brought)

variable {brought : NarrativeState → Prop} {e e₀ : Engine} {α β : Type}

theorem andThen_steps {o : Outcome α} {next : α → Engine → Outcome β} (first : Steps brought e₀ o.2)
    (second : ∀ a e, o = (.ok a, e) → Steps brought e (next a e).2) :
    Steps brought e₀ (andThen o next).2 :=
  andThen_keeps (I := Steps brought e₀) first fun a e ho hs => hs.trans (second a e ho)

theorem visible_steps (customData : Entries Value) : Steps brought e (e.visible customData).2 := by
  unfold visible
  split
  · exact .refl
  · exact .single (.learnt _)

theorem available_steps (time : Option Number) (customData : Entries Value) :
    Steps brought e (e.available time customData).2 :=
  andThen_steps (visible_steps customData) fun _ _ _ => .refl

theorem triggerAutosave_steps (trigger : String) (metadata : Entries Value) :
    Steps brought e (e.triggerAutosave trigger metadata).2 := by
  unfold triggerAutosave Autosave.trigger
  split
  · exact .refl
  · rename_i a ha
    refine andThen_steps (.single ?_) fun _ _ _ => .refl
    split at ha
    · cases ha
    · split at ha
      · cases ha
        exact .throttled trigger _
      · cases ha
        exact .autosaved trigger metadata

theorem happened_steps (trigger : Autosave.Trigger) (metadata : Entries Value) :
    Steps brought e (e.happened trigger metadata).2 := by
  unfold happened
  split
  · exact .refl
  · exact andThen_steps (triggerAutosave_steps _ _) fun _ _ _ => .refl

theorem track_keeps {action : Action} {metadata : Entries Value} {r : Except EngineFault Unit}
    {e' : Engine} (h : e.track action metadata = (r, e')) :
    e'.story = e.story ∧ e'.state = e.state ∧ e'.shelf = e.shelf := by
  cases h
  exact ⟨rfl, rfl, rfl⟩

theorem take_steps {c : Choice} {target : Node} (h : e.story.find? c.target = some target) :
    Steps brought e (e.take c target).2 := by
  refine andThen_steps (.single (.tracked _ _)) ?_
  intro _ e' he
  split
  · exact .refl
  · rename_i hc
    refine andThen_steps (.head (.followed ?_ (by simpa using hc)) (happened_steps _ _))
      fun _ _ _ => .refl
    rw [(track_keeps he).1]
    exact h

theorem commit_steps {c : Choice} {available : List Choice} {time : Option Number} :
    Steps brought e (e.commit c available time).2 := by
  unfold commit
  split
  · exact .refl
  · split
    · exact .refl
    · split
      · exact .refl
      · rename_i target ht
        exact take_steps ht

theorem select_steps (c : Choice) (time : Option Number) : Steps brought e (e.select c time).2 :=
  andThen_steps (available_steps time []) fun _ _ _ => commit_steps

theorem choose_steps (index : Value) (time : Option Number) :
    Steps brought e (e.choose index time).2 := by
  refine andThen_steps (visible_steps []) ?_
  intro seen e' _
  split
  · exact .refl
  · exact select_steps _ time

theorem goTo_steps (id : String) : Steps brought e (e.goTo id).2 := by
  unfold goTo
  split
  · exact .refl
  · rename_i target ht
    refine andThen_steps (.single (.tracked _ _)) ?_
    intro _ e' he
    refine .single (.moved ?_)
    rw [(track_keeps he).1]
    exact (Story.has_eq_find? ht).1

theorem setFlag_steps (name value : Value) : Steps brought e (e.setFlag name value).2 := by
  unfold setFlag
  split
  · exact .refl
  · refine andThen_steps (.single (.tracked _ _)) ?_
    intro _ e' _
    dsimp only
    split
    · rename_i hv
      exact .head (.flagged hv) (happened_steps _ _)
    · exact .refl

theorem reset_steps : Steps brought e e.reset.2 :=
  andThen_steps (.single (.tracked _ _)) fun _ _ _ => .single .restarted

theorem replace_steps {s : NarrativeState} (tracked : Bool) (hb : brought s)
    (h : e.story.has s.node = true → s.Fits e.story) : Steps brought e (e.replace s tracked).2 := by
  unfold replace
  split
  · exact .refl
  · rename_i hk
    have hs := h (by simpa using hk)
    split
    · exact .single (.placed hb hs)
    · refine andThen_steps (.single (.tracked _ _)) ?_
      intro _ e' he
      exact .head (.placed hb ((track_keeps he).1 ▸ hs)) (happened_steps _ _)

theorem loadState_steps (s : NarrativeState) (tracked : Bool)
    (h : ∀ t, s.clone = .ok t → brought t) : Steps brought e (e.loadState s tracked).2 := by
  unfold loadState
  split
  · exact .refl
  · rename_i t ht
    obtain ⟨hn, _, hb, _, hc⟩ := NarrativeState.clone_eq_ok ht
    exact replace_steps tracked (h t ht) fun hk => ⟨hk, hb, hc⟩

theorem loadPayload_steps (payload : Value) (tracked : Bool)
    (h : ∀ s, NarrativeState.ofPayload payload = .ok s → brought s) :
    Steps brought e (e.loadPayload payload tracked).2 := by
  unfold loadPayload
  split
  · exact .refl
  · rename_i s hs
    obtain ⟨hc, hb⟩ := NarrativeState.ofPayload_copyable hs
    exact replace_steps tracked (h s hs) fun hk => ⟨hk, hb, hc⟩

theorem check_of_load {story : Story} {o : Save.LoadOptions} {data : Value} {r : Save.Result}
    {l : Save.Loaded} (h : Save.load story o data = .ok ⟨r, some l⟩) :
    Save.check story o data = .ok l ∧ r = l.result := by
  unfold Save.load at h
  split at h
  · cases h
    exact ⟨by assumption, rfl⟩
  · cases h
  · cases h

theorem load_steps (o : Save.LoadOptions) (data : Value)
    (h : ∀ l, Save.check e.story o data = .ok l → brought l.state) :
    Steps brought e (e.load o data).2 := by
  unfold load
  split
  · exact .refl
  · exact .refl
  · rename_i result l hl
    refine andThen_steps (.single (.tracked _ _)) ?_
    intro _ e' he
    have hl := (check_of_load hl).1
    have hc : Save.check e'.story o data = .ok l := by
      rw [(track_keeps he).1]
      exact hl
    exact andThen_steps (.head (.loaded hc (h l hl)) (happened_steps _ _)) fun _ _ _ => .refl

theorem restore_steps (id : String) : Steps brought e (e.restore id).2 := by
  unfold restore
  split
  · exact .refl
  · rename_i s hs
    split
    · exact .refl
    · rename_i hk
      refine andThen_steps (.single (.tracked _ _)) ?_
      intro _ e' he
      obtain ⟨hst, _, hsh⟩ := track_keeps he
      exact .single (.recalled (hsh ▸ hs) (by simpa [hst] using hk))

/-- Every operation is a chain of steps. -/
theorem attempt_steps (e : Engine) (op : Operation) :
    Steps (op.Brings e) e (e.attempt op).2 := by
  cases op with
  | look customData => exact visible_steps customData
  | offer time customData => exact available_steps time customData
  | askComplete => exact andThen_steps (available_steps none []) fun _ _ _ => .refl
  | consider c time => exact andThen_steps (visible_steps []) fun _ _ _ => .refl
  | choose index time => exact choose_steps index time
  | select c time => exact select_steps c time
  | goTo id => exact goTo_steps id
  | setFlag name value => exact setFlag_steps name value
  | reset => exact reset_steps
  | loadState s tracked => exact loadState_steps s tracked fun _ ht => ht
  | loadPayload payload tracked => exact loadPayload_steps payload tracked fun _ hs => hs
  | setEvaluator custom => exact .single (.learnt _)
  | clearEvaluator => exact .single (.learnt _)
  | addRule rule => exact .single (.ruled _)
  | removeRule name => exact .single (.ruled _)
  | load o data => exact load_steps o data fun l hl => ⟨l, hl, rfl⟩
  | saveTo key o =>
    show Steps _ e (e.saveTo key o).2
    unfold saveTo
    split
    · exact .refl
    · exact .single (.stored _)
  | loadFrom key o =>
    show Steps _ e (e.loadFrom key o).2
    unfold loadFrom
    split
    · exact .refl
    · rename_i data hd
      exact load_steps o data fun l hl => ⟨data, l, hd, hl, rfl⟩
  | createCheckpoint name o tags =>
    show Steps _ e (e.createCheckpoint name o tags).2
    unfold createCheckpoint
    exact .single (.kept rfl)
  | deleteCheckpoint id => exact .single (.deleted id)
  | cleanup o =>
    show Steps _ e (e.cleanup o).2
    unfold cleanup
    split
    · exact .refl
    · exact .single (.cleaned (by assumption))
  | importCheckpoint data =>
    show Steps _ e (e.importCheckpoint data).2
    unfold importCheckpoint
    split
    · exact .refl
    · rename_i c shelf hi
      exact .single (.imported hi ⟨c, shelf, hi, rfl⟩)
  | restore id => exact restore_steps id
  | travel d => exact .single (.travelled d)
  | clearTimeline => exact .single .cleared
  | configureTimeline changes =>
    show Steps _ e (e.configureTimeline changes).2
    unfold configureTimeline
    split
    · exact .refl
    · exact .single (.rebounded _)
  | configureAutosave changes =>
    show Steps _ e (e.configureAutosave changes).2
    unfold configureAutosave
    split
    · exact .refl
    · exact .single (.rescheduled _)
  | triggerAutosave trigger metadata => exact triggerAutosave_steps trigger metadata
  | saveNow metadata => exact .single (.autosaved _ metadata)
  | wait clock issued => exact .single (.waited clock issued)
  | replaceStore storage => exact .single (.stored storage)

theorem Steps.keeps {I : Engine → Prop} {e' : Engine} (h : Steps brought e e')
    (step : ∀ {e e'}, Step brought e e' → I e → I e') (he : I e) : I e' := by
  induction h with
  | refl => exact he
  | tail _ hs ih => exact step hs ih

/-- What holds of a new engine, and is kept by every step, holds of every engine there is. -/
theorem Reachable.keeps {I : Engine → Prop} (h : Reachable e)
    (first : ∀ {story ambient setup e}, story.Made → make story ambient setup = .ok e → I e)
    (step : ∀ {brought e e'}, Step brought e e' → I e → I e') : I e := by
  induction h with
  | made hs hm => exact first hs hm
  | next op _ ih => exact (attempt_steps _ op).keeps step ih

end Storyline.Engine
