import Storyline.Autosave.Config
import Storyline.Autosave.Result

namespace Storyline

/-- Automatic saves are checkpoints, of which only the newest are kept. Checkpoints made by hand are
not among them. -/
structure Autosave where
  config : Autosave.Config
  /-- The time of the latest success, in seconds. -/
  savedAt : Option Double
  /-- The saves that are kept, oldest first. -/
  ids : List String
  last : Option Autosave.Result

namespace Autosave

def start (c : Config) : Autosave := ⟨c, none, [], none⟩

def forget (s : Autosave) (shelf : Shelf) : Autosave := { s with ids := s.ids.filter shelf.has }

def retain (s : Autosave) (shelf : Shelf) : Autosave × Shelf :=
  let s := s.forget shelf
  let gone := s.ids.take (s.ids.length - s.config.maxEntries)
  ({ s with ids := s.ids.drop (s.ids.length - s.config.maxEntries) }, gone.foldl Shelf.delete shelf)

def configure (s : Autosave) (c : Config) (shelf : Shelf) : Autosave × Shelf :=
  { s with config := c }.retain shelf

/-- What is to be saved: the state that was captured, and its node. -/
structure Job where
  trigger : String
  captured : Except StateFault NarrativeState
  node : Option Node
  metadata : Entries Value

def nameFor (c : Config) (a : Ambient) (node trigger : String) : Except Template.Fault String :=
  Template.fill [("timestamp", .number ((a.milliseconds.truncate?).getD 0)),
    ("node_id", .text node), ("trigger", .text trigger)] c.pattern

def manualTrigger : String := "manual"

def tag : String := "autosave"

def draft (c : Config) (j : Job) (state : NarrativeState) (name : String) : Shelf.Draft where
  state
  name := some name
  options :=
    { describes := c.describes, tags := [tag, j.trigger]
      description := some ("Automatic save (" ++ j.trigger ++ ")") }
  node := j.node
  metadata := Entries.merge [("trigger", .text j.trigger)] j.metadata

def sizeOf (c : Checkpoint) : Except Json.WriteFault Nat :=
  (Json.write .measuring (.record c.fields)).map String.utf8ByteSize

/-- An attempt to save: a result, or the fault of the template that escapes. -/
structure Attempt where
  result : Except Template.Fault Result
  autosave : Autosave
  shelf : Shelf
  ambient : Ambient

/-- An attempt without success is remembered, and leaves the time of the latest success. -/
def failed (s : Autosave) (shelf : Shelf) (a : Ambient) (trigger : String) (f : Fault) : Attempt :=
  let result : Result := ⟨trigger, .error f⟩
  ⟨.ok result, { s with last := some result }, shelf, a⟩

/-- A success starts the throttle anew and may push out the oldest save. -/
def succeeded (s : Autosave) (shelf : Shelf) (a : Ambient) (trigger : String) (c : Checkpoint)
    (size : Nat) : Attempt :=
  let result : Result := ⟨trigger, .ok ⟨c.id, size⟩⟩
  let (s, shelf) := retain { s with savedAt := some a.seconds, ids := s.ids ++ [c.id] } shelf
  ⟨.ok result, { s with last := some result }, shelf, a⟩

def save (s : Autosave) (shelf : Shelf) (a : Ambient) (j : Job) : Attempt :=
  match j.captured with
  | .error fault => s.failed shelf a j.trigger (.state fault)
  | .ok state =>
    match nameFor s.config a state.node j.trigger with
    | .error fault =>
      if escapes fault then ⟨.error fault, s, shelf, a⟩
      else s.failed shelf a j.trigger (.name fault)
    | .ok name =>
      match shelf.create a (draft s.config j state name) with
      | (.error fault, shelf, a) => s.failed shelf a j.trigger (.checkpoint fault)
      | (.ok c, shelf, a) =>
        match sizeOf c with
        | .error fault => s.failed shelf a j.trigger (.size fault)
        | .ok size => s.succeeded shelf a j.trigger c size

def throttled? (s : Autosave) (a : Ambient) : Option Fault :=
  match s.savedAt with
  | none => none
  | some t =>
    if (Number.double (a.seconds.sub t)).less s.config.throttle then
      some (.throttled (s.config.throttle.toText.toOption.getD ""))
    else none

def heeds (c : Config) (trigger : String) : Bool :=
  c.enabled && (c.triggers.map Trigger.name).contains trigger

/-- Saves if the trigger is heeded and not throttled. Nothing comes of a trigger that is not. -/
def trigger (s : Autosave) (shelf : Shelf) (a : Ambient) (j : Job) : Option Attempt :=
  if !heeds s.config j.trigger then none
  else match s.throttled? a with
    | some fault => some (s.failed shelf a j.trigger fault)
    | none => some (s.save shelf a j)

end Autosave
end Storyline
