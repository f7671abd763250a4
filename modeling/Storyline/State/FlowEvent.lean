import Storyline.Failing
import Storyline.Number.Reading

namespace Storyline

/-- A step from one node to another that a choice caused. -/
structure FlowEvent where
  source : String
  target : String
  choiceText : String
  timestamp : Number

inductive FlowFault where
  | missing (key : String)
  | notNumeric (quoted : String)
  | notNumber (kind : String)
  | number (fault : NumberFault)
  deriving DecidableEq

def FlowFault.message : FlowFault → String
  | missing key => Text.quoted key
  | notNumeric quoted => "could not convert string to float: " ++ quoted
  | notNumber kind => "float() argument must be a string or a real number, not '" ++ kind ++ "'"
  | number fault => fault.message

instance : Failing FlowFault :=
  .sorted (fun
    | .missing _ => .noKey
    | .notNumeric _ => .wrongValue
    | .notNumber _ => .wrongKind
    | .number f => Failing.sort f) FlowFault.message

namespace FlowEvent

def fields (e : FlowEvent) : Entries Value :=
  [("fromNodeId", .text e.source), ("toNodeId", .text e.target),
    ("choiceText", .text e.choiceText), ("timestamp", .number e.timestamp)]

def payload (e : FlowEvent) : Value := .record e.fields

def readTime : Value → Except FlowFault Double
  | .number n => n.toDouble.mapError .number
  | .bool b => (Number.int (if b then 1 else 0)).toDouble.mapError .number
  | .text s =>
    match Reading.double? s with
    | some d => .ok d
    | none => .error (.notNumeric (Text.quoted s))
  | v => .error (.notNumber v.kind)

def readText (fields : Entries Value) (key : String) : Except FlowFault String :=
  match fields.get? key with
  | some v => v.plainText.mapError .number
  | none => .error (.missing key)

/-- The event that a record describes; only the two nodes have to be given. -/
def ofFields (fields : Entries Value) : Except FlowFault FlowEvent := do
  let source ← readText fields "fromNodeId"
  let target ← readText fields "toNodeId"
  let choiceText ← (((fields.get? "choiceText").getD (.text "")).plainText).mapError .number
  let timestamp ← readTime ((fields.get? "timestamp").getD (.double (.zero false)))
  return ⟨source, target, choiceText, .double timestamp⟩

end FlowEvent
end Storyline
