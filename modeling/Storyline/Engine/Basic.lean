import Storyline.Engine.Fault
import Storyline.Rule.Registry
import Storyline.Settings

namespace Storyline

/-- One reader's way through a story, with all that is kept beside it. Whatever is done with it
gives a value or a fault, and the engine afterwards. -/
structure Engine where
  story : Story
  state : NarrativeState
  evaluator : Condition.Evaluator
  rules : Registry
  shelf : Shelf
  storage : Option Storage
  timeline : Timeline
  autosave : Autosave
  /-- The choices that were taken, oldest first. -/
  events : List FlowEvent
  performance : Save.Performance
  branching : Save.Branching
  ambient : Ambient

namespace Engine

/-- What an engine starts with. Without a state it starts at the beginning, and without
configurations it has those of its settings. -/
structure Setup where
  state : Option NarrativeState := none
  settings : Settings := {}
  storage : Option Storage := none
  rules : Registry := .standard
  timeline : Option Timeline.Config := none
  autosave : Option Autosave.Config := none

/-- A copy of the given state, on a node of the story, or else the start of the story. -/
def firstState (story : Story) : Option NarrativeState → Except SetupFault NarrativeState
  | none => .ok (.start story.initial)
  | some s => if story.has s.node then s.clone.mapError .state
    else .error (.navigation (.unknownNode s.node))

def timelineConfig (s : Setup) : Except SetupFault Timeline.Config :=
  match s.timeline with
  | some c => .ok c
  | none =>
    (Timeline.Config.make { maxUndo := s.settings.maxUndo, maxRedo := s.settings.maxRedo }).mapError
      .timeline

def autosaveConfig (s : Setup) : Except SetupFault Autosave.Config :=
  match s.autosave with
  | some c => .ok c
  | none =>
    (Autosave.Config.make
      { enabled := s.settings.autosaves, throttle := s.settings.throttle
        maxEntries := s.settings.maxAutosaves }).mapError .autosave

def make (story : Story) (ambient : Ambient) (s : Setup) : Except SetupFault Engine := do
  let state ← firstState story s.state
  let evaluator ← (Condition.Evaluator.make s.settings.cacheSize).mapError .cache
  let shelf ← (Shelf.make s.settings.maxCheckpoints Strategy.timestamp.name).mapError .shelf
  let timeline ← timelineConfig s
  let autosave ← autosaveConfig s
  return {
    story, state, evaluator, rules := s.rules, shelf, storage := s.storage
    timeline := .empty timeline, autosave := .start autosave, events := []
    performance := .idle, branching := .straight, ambient }

abbrev Outcome (α : Type) := Except EngineFault α × Engine

def andThen {α β : Type} (o : Outcome α) (next : α → Engine → Outcome β) : Outcome β :=
  match o with
  | (.ok a, e) => next a e
  | (.error f, e) => (.error f, e)

def node (e : Engine) : Except EngineFault Node :=
  match e.story.find? e.state.node with
  | some n => .ok n
  | none => .error (.navigation (.unknownNode e.state.node))

def checkFlag (e : Engine) (name : String) (expected : Option Value) : Bool :=
  match e.state.flags.get? name, expected with
  | some v, some w => v.strictEquals w
  | some _, none => true
  | none, _ => false

def track (e : Engine) (action : Action) (metadata : Entries Value) : Outcome Unit :=
  let (entry, timeline, ambient) := e.timeline.record e.ambient e.state action metadata
  ((entry.map fun _ => ()).mapError .record, { e with timeline, ambient })

def job (e : Engine) (trigger : String) (metadata : Entries Value) : Autosave.Job :=
  { trigger, captured := e.state.clone, node := e.story.find? e.state.node, metadata }

def attempted (e : Engine) (a : Autosave.Attempt) : Outcome Autosave.Result :=
  (a.result.mapError .template,
    { e with autosave := a.autosave, shelf := a.shelf, ambient := a.ambient })

def triggerAutosave (e : Engine) (trigger : String) (metadata : Entries Value) :
    Outcome (Option Autosave.Result) :=
  match e.autosave.trigger e.shelf e.ambient (e.job trigger metadata) with
  | none => (.ok none, e)
  | some a => andThen (e.attempted a) fun r e => (.ok (some r), e)

def saveNow (e : Engine) (metadata : Entries Value) : Outcome Autosave.Result :=
  e.attempted (e.autosave.save e.shelf e.ambient (e.job Autosave.manualTrigger metadata))

/-- Something happened that may set off an automatic save. Putting a state back does not. -/
def happened (e : Engine) (trigger : Autosave.Trigger) (metadata : Entries Value) : Outcome Unit :=
  if e.timeline.restoring then (.ok (), e)
  else andThen (e.triggerAutosave trigger.name metadata) fun _ e => (.ok (), e)

end Engine
end Storyline
