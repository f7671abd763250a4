import Storyline.Ambient
import Storyline.State.Basic
import Storyline.Timeline.Config

namespace Storyline

/-- A state on a stack, with the action that it lies before or after. -/
structure TimelineEntry where
  id : String
  state : NarrativeState
  timestamp : String
  action : Action
  metadata : Entries Value

/-- The states before tracked actions on one stack, and the states that were undone on another. An
action after an undo gives up what could be redone. -/
structure Timeline where
  config : Timeline.Config
  past : List TimelineEntry
  future : List TimelineEntry
  /-- A state is being put back, and nothing is recorded meanwhile. -/
  restoring : Bool

namespace TimelineEntry

def summary (e : TimelineEntry) : Entries Value :=
  [("id", .text e.id), ("timestamp", .text e.timestamp), ("action", .text e.action.name)]

def details (e : TimelineEntry) : Value :=
  .record (e.summary ++ [("state", e.state.payload), ("metadata", .record e.metadata)])

def payload (e : TimelineEntry) : Value :=
  .record (e.summary ++ [("nodeId", (e.metadata.get? "nodeId").getD .null)])

end TimelineEntry

namespace Timeline

def empty (c : Config) : Timeline := ⟨c, [], [], false⟩

def canUndo (t : Timeline) : Bool := t.config.enabled && !t.past.isEmpty

def canRedo (t : Timeline) : Bool := t.config.enabled && !t.future.isEmpty

def clear (t : Timeline) : Timeline := { t with past := [], future := [] }

def trim (t : Timeline) : Timeline :=
  { t with past := t.past.take t.config.maxUndo, future := t.future.take t.config.maxRedo }

def configure (t : Timeline) (c : Config) : Timeline :=
  let t := { t with config := c }.trim
  if c.enabled then t else t.clear

inductive RecordFault where
  | state (fault : StateFault)
  | metadata
  deriving DecidableEq

def RecordFault.message : RecordFault → String
  | state fault => fault.message
  | metadata => refusesCopy

instance : Failing RecordFault where
  sort
    | .state f => Failing.sort f
    | .metadata => .wrongKind
  message := RecordFault.message
  report?
    | .state f => some f.report
    | .metadata => none

def keptMetadata (c : Config) (metadata : Entries Value) : Entries Value :=
  let metadata := if c.keepsFlags then metadata else Entries.erase metadata "flagsChanged"
  if c.keepsText then metadata else Entries.erase metadata "choiceText"

def entryFor (a : Ambient) (s : NarrativeState) (action : Action) (metadata : Entries Value) :
    Except RecordFault TimelineEntry := do
  let state ← s.clone.mapError .state
  if Value.allFieldsCopyable metadata then
    return ⟨"h-" ++ a.id, state, a.stamp, action, metadata⟩
  else .error .metadata

/-- Records the state that an action is about to change. What could be redone is given up, even
if the action is not tracked. -/
def record (t : Timeline) (a : Ambient) (s : NarrativeState) (action : Action)
    (metadata : Entries Value) : Except RecordFault (Option TimelineEntry) × Timeline × Ambient :=
  if t.restoring || !t.config.enabled then (.ok none, t, a)
  else
    let t := { t with future := [] }
    if !t.config.actions.contains action then (.ok none, t, a)
    else
      let a := a.issue
      match entryFor a s action (keptMetadata t.config metadata) with
      | .error fault => (.error fault, t, a)
      | .ok entry =>
        (.ok (some entry), { t with past := (entry :: t.past).take t.config.maxUndo }, a)

inductive Direction where
  | undo
  | redo
  deriving DecidableEq

def Direction.name : Direction → String
  | undo => "undo"
  | redo => "redo"

inductive TravelFault where
  | disabled
  | nothing (direction : Direction)
  | uncaptured (direction : Direction) (fault : StateFault)
  deriving DecidableEq

def TravelFault.message : TravelFault → String
  | disabled => "Undo/redo is disabled"
  | nothing direction => "No operations to " ++ direction.name
  | uncaptured direction fault => "Failed to " ++ direction.name ++ ": " ++ fault.message

def ahead (t : Timeline) : Direction → List TimelineEntry
  | .undo => t.past
  | .redo => t.future

/-- One step: the entry that was taken, and the timeline while its state is put back. -/
structure Step where
  entry : TimelineEntry
  timeline : Timeline
  ambient : Ambient

/-- Takes the next entry and puts the current state on the other stack, under the same action. -/
def depart (t : Timeline) (a : Ambient) (d : Direction)
    (captured : Except StateFault NarrativeState) : Except TravelFault Step :=
  if !t.config.enabled then .error .disabled
  else match t.ahead d, captured with
    | [], _ => .error (.nothing d)
    | _ :: _, .error fault => .error (.uncaptured d fault)
    | entry :: rest, .ok current =>
      let a := a.issue
      let left : TimelineEntry :=
        ⟨"h-" ++ a.id, current, a.stamp, entry.action, [("nodeId", .text current.node)]⟩
      let t := match d with
        | .undo => { t with past := rest, future := (left :: t.future).take t.config.maxRedo }
        | .redo => { t with future := rest, past := (left :: t.past).take t.config.maxUndo }
      .ok ⟨entry, { t with restoring := true }, a⟩

def arrive (t : Timeline) : Timeline := { t with restoring := false }

structure Sizes where
  undo : Nat
  redo : Nat
  deriving DecidableEq

def sizes (t : Timeline) : Sizes := ⟨t.past.length, t.future.length⟩

/-- The outcome of undoing or redoing, with the sizes before and after. -/
structure Outcome where
  travelled : Except TravelFault TimelineEntry
  before : Sizes
  after : Sizes

namespace Outcome

def success (o : Outcome) : Bool := o.travelled.isOk

def error? (o : Outcome) : Option String :=
  match o.travelled with
  | .ok _ => none
  | .error fault => some fault.message

def payload (o : Outcome) : Value :=
  let counts (s : Sizes) : Value := .record [("undoCount", .int s.undo), ("redoCount", .int s.redo)]
  .record ([("success", .bool o.success), ("stackSizes", counts o.after),
      ("previousStackSizes", counts o.before), ("duration", .double (.zero false))] ++
    match o.travelled with
    | .error fault => [("error", .text fault.message)]
    | .ok entry => [("entry", entry.payload), ("restoredState", entry.state.payload)])

end Outcome

/-- A whole step: its outcome, and the state that takes the place of the current one. -/
structure Travel where
  outcome : Outcome
  restored : Option NarrativeState
  timeline : Timeline
  ambient : Ambient

def travel (t : Timeline) (a : Ambient) (d : Direction)
    (captured : Except StateFault NarrativeState) : Travel :=
  match t.depart a d captured with
  | .error fault => ⟨⟨.error fault, t.sizes, t.sizes⟩, none, t, a⟩
  | .ok step =>
    let after := step.timeline.arrive
    ⟨⟨.ok step.entry, t.sizes, after.sizes⟩, some step.entry.state, after, step.ambient⟩

def summary (t : Timeline) : Value :=
  let entries (es : List TimelineEntry) : Value :=
    .list (es.reverse.map fun e => .record e.summary)
  .record [("undoEntries", entries t.past), ("redoEntries", entries t.future)]

end Timeline
end Storyline
