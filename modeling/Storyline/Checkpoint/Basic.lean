import Storyline.Json.Read
import Storyline.Json.Write
import Storyline.Save.Envelope
import Storyline.Story.Basic

namespace Storyline

structure Checkpoint where
  id : String
  state : NarrativeState
  timestamp : String
  name : Option String
  description : Option String
  tags : List String
  metadata : Entries Value
  /-- The place in the order of creation. -/
  sequence : Nat

/-- Why there is no checkpoint, or none can be written. -/
inductive CheckpointFault where
  | badLimit
  | unknownStrategy (name : String)
  | uncopyable
  | state (fault : StateFault)
  | write (fault : Json.WriteFault)
  | notFound (id : String)
  | notJson (reason : String)
  | number (fault : NumberFault)
  | notIterable (kind : String)
  | notPair (index : Nat)
  | notTwo (index length : Nat)
  | noKey (kind : String)
  | schema (problems : List Schema.Problem)
  | unknownNode (id : String)

def CheckpointFault.message : CheckpointFault → String
  | badLimit => "max_checkpoints must be a positive integer"
  | unknownStrategy name => "Unknown cleanup strategy: " ++ name
  | uncopyable => refusesCopy
  | state fault => fault.message
  | write fault => fault.message
  | notFound id => Text.quoted ("Checkpoint not found: " ++ id)
  | notJson reason => reason
  | number fault => fault.message
  | notIterable kind => "'" ++ kind ++ "' object is not iterable"
  | notPair index =>
    "cannot convert dictionary update sequence element #" ++ toString index ++ " to a sequence"
  | notTwo index length =>
    "dictionary update sequence element #" ++ toString index ++ " has length " ++
      toString length ++ "; 2 is required"
  | noKey kind => "unhashable type: '" ++ kind ++ "'"
  | schema problems => Schema.describe problems
  | unknownNode id => "Checkpoint references unknown node '" ++ id ++ "'"

instance : Failing CheckpointFault where
  sort
    | .state f => Failing.sort f
    | .write f => Failing.sort f
    | .number f => Failing.sort f
    | .uncopyable | .notIterable _ | .notPair _ | .noKey _ => .wrongKind
    | .notFound _ => .noKey
    | .notJson _ => .notJson
    | .schema _ => .schema
    | _ => .wrongValue
  message := CheckpointFault.message
  report?
    | .state f => some f.report
    | _ => none

namespace Checkpoint

def fields (c : Checkpoint) : Entries Value :=
  [("id", .text c.id), ("state", c.state.payload), ("timestamp", .text c.timestamp),
    ("tags", .texts c.tags), ("metadata", .record c.metadata)] ++
    (c.name.map fun s => ("name", Value.text s)).toList ++
    (c.description.map fun s => ("description", Value.text s)).toList

def payload (c : Checkpoint) : Except CheckpointFault Value :=
  if c.state.copyable && Value.allFieldsCopyable c.metadata then .ok (.record c.fields)
  else .error .uncopyable

def exported (c : Checkpoint) : Except CheckpointFault String := do
  (Json.write .indented (← c.payload)).mapError .write

/-- A checkpoint in a document, before its state is looked at. -/
structure Document where
  id : String
  name : Option String
  state : Save.StateRecord
  timestamp : String
  description : Option String
  tags : List String
  metadata : Entries Value

namespace Document
open Schema

def read : Value → Checked Document := model "CheckpointModel" fun fields =>
  .ok Document.mk
    |> fill (required fields "id" shownText)
    |> fill (field fields "name" none (optional text))
    |> fill (required fields "state" Save.StateRecord.read)
    |> fill (required fields "timestamp" text)
    |> fill (field fields "description" none (optional text))
    |> fill (field fields "tags" [] (list text))
    |> fill (field fields "metadata" [] record)

def pair (index : Nat) : Value → Except CheckpointFault (Value × Value)
  | .list [k, v] => .ok (k, v)
  | .list items => .error (.notTwo index items.length)
  | .record [(a, _), (b, _)] => .ok (.text a, .text b)
  | .record fields => .error (.notTwo index fields.length)
  | .text s =>
    match s.toList with
    | [a, b] => .ok (.text (String.ofList [a]), .text (String.ofList [b]))
    | cs => .error (.notTwo index cs.length)
  | _ => .error (.notPair index)

def pairs (index : Nat) : List Value → Except CheckpointFault (List (Value × Value))
  | [] => .ok []
  | v :: rest => do
    let (k, v) ← pair index v
    match k with
    | .list _ | .record _ => .error (.noKey k.kind)
    | _ => return (k, v) :: (← pairs (index + 1) rest)

/-- What is imported: a text to be read, a record, or a list of pairs that stands for one. Keys of
pairs that are no texts are told apart. -/
def source : Value → Except CheckpointFault (Value × List Value)
  | .text s =>
    match Json.read s with
    | .ok v => .ok (v, [])
    | .error (.number fault) => .error (.number fault)
    | .error fault => .error (.notJson fault.message)
  | .record fields => .ok (.record fields, [])
  | .list items => do
    let entries ← pairs 0 items
    let fields := entries.filterMap fun (k, v) => k.asText?.map fun k => (k, v)
    let keys := (entries.map (·.1)).filter fun k => k.asText?.isNone
    return (.record (Entries.ofList fields), keys.eraseDupsBy Value.same)
  | v => .error (.notIterable v.kind)

def keyProblems (keys : List Value) : List Problem :=
  keys.map fun k => ⟨[.field (k.plainText.toOption.getD "")], .notKey, k⟩

def ofSource (data : Value) : Except CheckpointFault Document := do
  let (v, keys) ← source data
  let known := read v
  let checked := if keys.isEmpty then known
    else .error ((match known with | .ok _ => [] | .error ps => ps) ++ keyProblems keys)
  checked.mapError .schema

end Document

/-- The checkpoint that a document describes, if the story has its node. -/
def ofDocument (story : Story) (sequence : Nat) (data : Value) :
    Except CheckpointFault Checkpoint := do
  let d ← Document.ofSource data
  let state ← d.state.state.mapError fun
    | .state f => .state f
    | .uncopyable => .uncopyable
    | .number f => .number f
  if story.has state.node then
    return { id := d.id, state, timestamp := d.timestamp, name := d.name,
             description := d.description, tags := d.tags, metadata := d.metadata, sequence }
  else .error (.unknownNode state.node)

end Checkpoint
end Storyline
