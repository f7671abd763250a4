import Storyline.Value
import Storyline.Failing
import Storyline.Text.Blank

namespace Storyline

/-- Why a state cannot be made, copied or read. -/
inductive StateFault where
  | blankNode
  | uncopyable
  | notRecord
  | noNode
  | flagsNotRecord
  | historyNotList
  | uncaptured (reason : String)
  | unsaved (node reason : String)
  deriving DecidableEq

def refusesCopy : String := "cannot copy this value"

namespace StateFault

def message : StateFault → String
  | blankNode => "current_node_id must be a non-empty string"
  | uncopyable => "State could not be copied: " ++ refusesCopy
  | notRecord => "Invalid state payload: expected an object"
  | noNode => "Invalid state payload: missing currentNodeId"
  | flagsNotRecord => "Invalid state payload: flags must be an object"
  | historyNotList => "Invalid state payload: history must be a list"
  | uncaptured reason => reason
  | unsaved _ reason => "Failed to serialize state: " ++ reason

/-- What reports tell of the state: its node, if it could not be saved. -/
def snapshot : StateFault → Value
  | unsaved node _ => .record [("currentNodeId", .text node)]
  | _ => .null

def report (f : StateFault) : Report :=
  ⟨"StateError", "STATE_ERROR", f.message, [("stateSnapshot", f.snapshot)]⟩

end StateFault

instance : Failing StateFault := .narrative StateFault.report

/-- The current node, the flags that are set, and all nodes visited in order. -/
structure NarrativeState where
  node : String
  flags : Entries Value
  history : List String

namespace NarrativeState

/-- A state needs a node, and its history starts there if no other is given. -/
def make (node : Value) (flags : Entries Value) (history : List String) :
    Except StateFault NarrativeState :=
  match node with
  | .text node =>
    if Text.isAllBlank node then .error .blankNode
    else .ok ⟨node, flags, if history.isEmpty then [node] else history⟩
  | _ => .error .blankNode

def start (node : String) : NarrativeState := ⟨node, [], [node]⟩

def copyable (s : NarrativeState) : Bool := Value.allFieldsCopyable s.flags

/-- A copy shares no container with the state it is made of, so it has the same value, unless a flag
refuses. -/
def clone (s : NarrativeState) : Except StateFault NarrativeState :=
  if s.copyable then make (.text s.node) s.flags s.history else .error .uncopyable

def moveTo (s : NarrativeState) (node : String) : NarrativeState :=
  { s with node, history := s.history ++ [node] }

def withEffects (s : NarrativeState) (effects : Entries Value) : NarrativeState :=
  { s with flags := Entries.merge s.flags effects }

def changedBy (s : NarrativeState) (effects : Entries Value) : List String :=
  (effects.filter fun (name, v) =>
    match Entries.get? s.flags name with
    | some old => !old.same v
    | none => true).map (·.1)

def payload (s : NarrativeState) : Value :=
  .record [("currentNodeId", .text s.node), ("flags", .record s.flags),
    ("history", .texts s.history)]

/-- Why a payload is not a state: a fault of the state, a value that refuses to be copied, or a
number that is too long to be shown. -/
inductive PayloadFault where
  | state (fault : StateFault)
  | uncopyable
  | number (fault : NumberFault)

instance : Failing PayloadFault where
  sort
    | .state f => Failing.sort f
    | .uncopyable => .wrongKind
    | .number f => Failing.sort f
  message
    | .state f => f.message
    | .uncopyable => refusesCopy
    | .number f => f.message
  report?
    | .state f => some f.report
    | _ => none

def entriesOf? : Value → Option (List Value)
  | .list items => some items
  | .record fields => some (fields.map fun e => .text e.1)
  | _ => none

/-- The state that a payload describes. Entries of the history are taken as texts. -/
def ofPayload (payload : Value) : Except PayloadFault NarrativeState := do
  let .record fields := payload | .error (.state .notRecord)
  let .text node := (Entries.get? fields "currentNodeId").getD .null | .error (.state .noNode)
  if Text.isAllBlank node then .error (.state .noNode)
  let .record flags := (Entries.get? fields "flags").getD (.record [])
    | .error (.state .flagsNotRecord)
  let some history := entriesOf? ((Entries.get? fields "history").getD (.list []))
    | .error (.state .historyNotList)
  if !Value.allFieldsCopyable flags then .error .uncopyable
  let history ← (history.mapM Value.plainText).mapError .number
  (make (.text node) flags history).mapError .state

end NarrativeState
end Storyline
