import Storyline.Ambient
import Storyline.Checkpoint.Basic
import Storyline.Value.Field

namespace Storyline

/-- Which checkpoints go first. The least recently used are those with the oldest timestamps,
since uses leave no trace. -/
inductive Strategy where
  | lru
  | fifo
  | timestamp
  | manual
  deriving DecidableEq

namespace Strategy

def name : Strategy → String
  | lru => "lru"
  | fifo => "fifo"
  | timestamp => "timestamp"
  | manual => "manual"

def ofName? (name : String) : Option Strategy :=
  [lru, fifo, timestamp, manual].find? (·.name == name)

end Strategy

/-- Wishes for one checkpoint or cleanup. A limit of zero and a blank strategy stand for those of
the shelf. -/
structure CheckpointOptions where
  limit : Int := 0
  strategy : String := ""
  /-- The metadata tells about the node and the state. -/
  describes : Bool := false
  tags : List String := []
  description : Option String := none

def CheckpointOptions.ofFields (r : Entries Value) : CheckpointOptions :=
  { limit := r.intOr "max_checkpoints" 0
    strategy := r.textOr "cleanup_strategy" ""
    describes := r.boolOr "include_metadata" false
    tags := (r.texts? "auto_tags").getD []
    description := r.text? "description" }

/-- Checkpoints under distinct ids, in the order in which they came. -/
structure Shelf where
  limit : Nat
  strategy : Strategy
  checkpoints : List Checkpoint
  /-- How many checkpoints were put here. -/
  sequence : Nat
  /-- How many checkpoints were made here. -/
  created : Nat

namespace Shelf

def make (limit : Int) (strategy : String) : Except CheckpointFault Shelf :=
  if limit < 1 then .error .badLimit
  else match Strategy.ofName? strategy with
    | none => .error (.unknownStrategy strategy)
    | some s => .ok ⟨limit.toNat, s, [], 0, 0⟩

def find? (s : Shelf) (id : String) : Option Checkpoint := s.checkpoints.find? (·.id == id)

def has (s : Shelf) (id : String) : Bool := (s.find? id).isSome

def delete (s : Shelf) (id : String) : Shelf :=
  { s with checkpoints := s.checkpoints.filter (·.id != id) }

def put (s : Shelf) (c : Checkpoint) : Shelf :=
  { s with checkpoints := (s.delete c.id).checkpoints ++ [c] }

/-- The order in which checkpoints go; among equals the older goes first. -/
def evictionOrder (strategy : Strategy) (cs : List Checkpoint) : List Checkpoint :=
  match strategy with
  | .fifo | .manual => cs
  | .timestamp | .lru =>
    cs.mergeSort fun a b => Time.readStamp a.timestamp ≤ Time.readStamp b.timestamp

def excess (limit : Int) (cs : List Checkpoint) : List Checkpoint :=
  cs.take ((cs.length : Int) - limit).toNat

def limitFor (s : Shelf) (o : CheckpointOptions) : Int := if o.limit = 0 then s.limit else o.limit

def strategyFor (s : Shelf) (o : CheckpointOptions) : Except CheckpointFault Strategy :=
  if o.strategy.isEmpty then .ok s.strategy
  else match Strategy.ofName? o.strategy with
    | some strategy => .ok strategy
    | none => .error (.unknownStrategy o.strategy)

def cleanup (s : Shelf) (o : CheckpointOptions) : Except CheckpointFault (Nat × Shelf) := do
  let strategy ← s.strategyFor o
  if strategy = .manual then return (0, s)
  let gone := (excess (s.limitFor o) (evictionOrder strategy s.checkpoints)).map Checkpoint.id
  return (gone.length, { s with checkpoints := s.checkpoints.filter fun c => !gone.contains c.id })

def nodeTitle : Option Node → String
  | none => ""
  | some node =>
    let text := Text.trim node.text
    let line := if text.isEmpty then node.id else Text.firstLine text
    if line.length ≤ 50 then line else String.ofList (line.toList.take 47) ++ "..."

def details (node : Option Node) (s : NarrativeState) : Entries Value :=
  [("nodeTitle", .text (nodeTitle node)),
    ("choiceCount", .int ((node.map fun n => n.choices.length).getD 0)),
    ("flagCount", .int s.flags.length), ("historyLength", .int s.history.length)]

structure Draft where
  state : NarrativeState
  name : Option String := none
  options : CheckpointOptions := {}
  node : Option Node := none
  tags : List String := []
  metadata : Entries Value := []

def nameFor (s : Shelf) (name : Option String) : String :=
  match name with
  | some name => if name.isEmpty then "Checkpoint " ++ toString s.created else name
  | none => "Checkpoint " ++ toString s.created

def checkpointFor (s : Shelf) (a : Ambient) (d : Draft) : Except CheckpointFault Checkpoint := do
  let state ← d.state.clone.mapError .state
  return {
    id := "cp-" ++ a.id, state, timestamp := a.stamp, name := some (s.nameFor d.name)
    description := d.options.description, tags := (d.options.tags ++ d.tags).eraseDups
    metadata := Entries.merge (if d.options.describes then details d.node d.state else [])
      d.metadata
    sequence := s.sequence }

/-- A new checkpoint on the shelf, which is cleaned up behind it. A failing cleanup leaves the
checkpoint there. -/
def create (s : Shelf) (a : Ambient) (d : Draft) :
    Except CheckpointFault Checkpoint × Shelf × Ambient :=
  let s := { s with created := s.created + 1, sequence := s.sequence + 1 }
  if !Value.allFieldsCopyable d.metadata then (.error .uncopyable, s, a)
  else
    let a := a.issue
    match s.checkpointFor a d with
    | .error fault => (.error fault, s, a)
    | .ok c =>
      let s := s.put c
      match s.cleanup d.options with
      | .error fault => (.error fault, s, a)
      | .ok (_, s) => (.ok c, s, a)

def stateOf? (s : Shelf) (id : String) : Option NarrativeState := (s.find? id).map (·.state)

/-- A checkpoint from a document, on a shelf that is cleaned up behind it. -/
def importFrom (s : Shelf) (story : Story) (data : Value) :
    Except CheckpointFault (Checkpoint × Shelf) := do
  let c ← Checkpoint.ofDocument story (s.sequence + 1) data
  let (_, s) ← ({ s with sequence := s.sequence + 1 }.put c).cleanup {}
  return (c, s)

def exportText (s : Shelf) (id : String) : Except CheckpointFault String :=
  match s.find? id with
  | some c => c.exported
  | none => .error (.notFound id)

end Shelf
end Storyline
