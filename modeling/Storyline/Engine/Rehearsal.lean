import Storyline.Engine.Choosing
import Storyline.Engine.Moving
import Storyline.Text.LetterCase

namespace Storyline.Engine

inductive RehearsalFault where
  | engine (fault : EngineFault)
  | replaceAndRecord
  | unknownNode (id : String)
  | nothingToChoose
  | blankText
  | notOffered (text : String) (offered : List String)
  | neitherTextNorIndex

def RehearsalFault.message : RehearsalFault → String
  | engine fault => fault.message
  | replaceAndRecord => "replace=True cannot be combined with record_history"
  | unknownNode id => Text.quoted ("Unknown node '" ++ id ++ "'")
  | nothingToChoose => "No further choices can be made: the current node offered no choices."
  | blankText => "Choice text must be non-empty after trimming whitespace."
  | notOffered text offered =>
    "Choice '" ++ text ++ "' is not available. Choose from: " ++ ", ".intercalate offered ++ "."
  | neitherTextNorIndex => "Choices must be given as text or integer indices."

instance : Failing RehearsalFault where
  sort
    | .engine f => f.sort
    | .unknownNode _ => .noKey
    | .nothingToChoose => .unavailable
    | .neitherTextNorIndex => .wrongKind
    | _ => .wrongValue
  message := RehearsalFault.message
  report?
    | .engine f => f.report?
    | _ => none

def recordFlags (e : Engine) : Entries Value → Outcome Unit
  | [] => (.ok (), e)
  | (name, v) :: rest => andThen (e.setFlag (.text name) v) fun _ e => e.recordFlags rest

/-- Sets flags at once and without a trace. All others may be dropped before. -/
def stageFlags (e : Engine) (flags : Entries Value) (dropOthers : Bool) : Outcome Unit :=
  match e.state.clone with
  | .error f => (.error (.state f), e)
  | .ok s =>
    if !Value.allFieldsCopyable flags then (.error .uncopyable, e)
    else
      let flags := Entries.merge (if dropOthers then [] else s.flags) flags
      e.loadState { s with flags } false

def rehearsed {α : Type} (o : Outcome α) : Except RehearsalFault α × Engine :=
  (o.1.mapError .engine, o.2)

def setFlags (e : Engine) (flags : Entries Value) (dropOthers recorded : Bool) :
    Except RehearsalFault Unit × Engine :=
  if recorded then
    if dropOthers then (.error .replaceAndRecord, e) else rehearsed (e.recordFlags flags)
  else rehearsed (e.stageFlags flags dropOthers)

/-- Goes to a node. Without a record only the history of the state tells of it. -/
def jump (e : Engine) (id : String) (recorded : Bool) : Except RehearsalFault Unit × Engine :=
  if recorded then
    let (target, e) := rehearsed (e.goTo id)
    (target.map fun _ => (), e)
  else if !e.story.has id then (.error (.unknownNode id), e)
  else match e.state.clone with
    | .error f => (.error (.engine (.state f)), e)
    | .ok s => rehearsed (e.loadState (s.moveTo id) false)

structure Snapshot where
  node : String
  /-- In the order of their names. -/
  flags : Entries Value
  history : List String
  visible : List String
  available : List String
  sizes : Timeline.Sizes
  checkpoints : Nat

def Snapshot.payload (s : Snapshot) : Value :=
  .record [("node_id", .text s.node), ("flags", .record s.flags), ("history", .texts s.history),
    ("visible_choices", .texts s.visible), ("available_choices", .texts s.available),
    ("undo_count", .int s.sizes.undo), ("redo_count", .int s.sizes.redo),
    ("checkpoint_count", .int s.checkpoints)]

def snapshot (e : Engine) : Outcome Snapshot :=
  andThen (e.visible []) fun seen e =>
    andThen (e.available none []) fun available e =>
      (.ok
        { node := e.state.node, flags := Json.sortFields e.state.flags, history := e.state.history
          visible := seen.map Choice.text, available := available.map Choice.text
          sizes := e.timeline.sizes, checkpoints := e.shelf.checkpoints.length }, e)

/-- A step of a walk: the choice, if one led there, and the node. -/
structure WalkStep where
  text : Option String
  node : Node

def WalkStep.payload (s : WalkStep) : Value :=
  .record [("text", Value.ofText? s.text), ("node", .text s.node.id)]

/-- The index that a choice is given by: itself, or the place of a text, in any case of letters,
among the choices in sight. -/
def indexOf (seen : List Choice) : Value → Except RehearsalFault Int
  | .number (.int n) => .ok n
  | .text s =>
    let wanted := Text.lower (Text.trim s)
    if wanted.isEmpty then .error .blankText
    else match seen.findIdx? fun c => Text.lower c.text == wanted with
      | some i => .ok i
      | none => .error (.notOffered s (seen.map Choice.text))
  | _ => .error .neitherTextNorIndex

def walkOn (e : Engine) (choice : Value) : Except RehearsalFault WalkStep × Engine :=
  match e.visible [] with
  | (.error f, e) => (.error (.engine f), e)
  | (.ok [], e) => (.error .nothingToChoose, e)
  | (.ok seen, e) =>
    match indexOf seen choice with
    | .error f => (.error f, e)
    | .ok i =>
      let text := (choiceAt? seen (.int i)).map Choice.text
      match e.choose (.int i) none with
      | (.error f, e) => (.error (.engine f), e)
      | (.ok node, e) => (.ok ⟨text, node⟩, e)

def walkSteps (e : Engine) : List Value → Except RehearsalFault (List WalkStep) × Engine
  | [] => (.ok [], e)
  | c :: rest =>
    match e.walkOn c with
    | (.error f, e) => (.error f, e)
    | (.ok step, e) =>
      let (more, e) := e.walkSteps rest
      (more.map (step :: ·), e)

def walk (e : Engine) (choices : List Value) : Except RehearsalFault (List WalkStep) × Engine :=
  match e.node with
  | .error f => (.error (.engine f), e)
  | .ok node =>
    let (steps, e) := e.walkSteps choices
    (steps.map (⟨none, node⟩ :: ·), e)

end Storyline.Engine
