import Storyline.Failing
import Storyline.Text.Blank

namespace Storyline

/-- When a choice may be taken: between two dates, and between two times in milliseconds. -/
structure TimeWindow where
  availableAfter : Option String
  availableBefore : Option String
  minTime : Option Number
  maxTime : Option Number

namespace TimeWindow

def isOpen (w : TimeWindow) : Bool :=
  w.availableAfter.isNone && w.availableBefore.isNone && w.minTime.isNone && w.maxTime.isNone

def payload (w : TimeWindow) : Value :=
  .record
    ((w.availableAfter.map fun s => ("availableAfter", Value.text s)).toList ++
      (w.availableBefore.map fun s => ("availableBefore", Value.text s)).toList ++
      (w.minTime.map fun n => ("minTime", Value.number n)).toList ++
      (w.maxTime.map fun n => ("maxTime", Value.number n)).toList)

end TimeWindow

/-- The condition decides whether a choice is seen, and its requirements whether it may be taken. -/
structure Choice where
  text : String
  target : String
  /-- Flags that taking the choice sets. -/
  effects : Entries Value
  /-- Flags that the choice needs. -/
  requirements : Entries Value
  window : Option TimeWindow
  /-- Items that the reader must hold, and how many. -/
  inventory : Entries Value
  enabled : Option Bool
  condition : Option String

namespace Choice

def recordField (name : String) (fields : Entries Value) : Entries Value :=
  if fields.isEmpty then [] else [(name, .record fields)]

def payload (c : Choice) : Value :=
  .record
    ([("text", .text c.text), ("nextNodeId", .text c.target)] ++
      recordField "flagEffects" c.effects ++
      recordField "flagRequirements" c.requirements ++
      (c.window.map fun w => ("timeRequirements", w.payload)).toList ++
      recordField "inventoryRequirements" c.inventory ++
      (c.enabled.map fun b => ("enabled", Value.bool b)).toList ++
      (c.condition.map fun s => ("condition", Value.text s)).toList)

def looksLike (a b : Choice) : Bool := a.text == b.text && a.target == b.target

end Choice

inductive PartFault where
  | notText (field : String) (kind : String)
  | blank (field : String)
  | notRecord (field : String) (kind : String)
  | conditionNotText
  deriving DecidableEq

namespace PartFault

def isKind : PartFault → Bool
  | blank _ => false
  | _ => true

def message : PartFault → String
  | notText field kind => field ++ " must be a string, got <class '" ++ kind ++ "'>"
  | blank field => field ++ " must be a non-empty string"
  | notRecord field kind => field ++ " must be a mapping, got <class '" ++ kind ++ "'>"
  | conditionNotText => "condition must be a string when provided"

end PartFault

instance : Failing PartFault :=
  .sorted (fun f => if f.isKind then .wrongKind else .wrongValue) PartFault.message

def identifier (field : String) : Value → Except PartFault String
  | .text s =>
    let trimmed := Text.trim s
    if trimmed.isEmpty then .error (.blank field) else .ok trimmed
  | v => .error (.notText field v.kind)

def recordOf (field : String) : Value → Except PartFault (Entries Value)
  | .null => .ok []
  | .record fields => .ok fields
  | v => .error (.notRecord field v.kind)

/-- The raw parts of a choice, still to be checked. -/
structure ChoiceParts where
  text : Value
  target : Value
  effects : Value := .null
  requirements : Value := .null
  window : Option TimeWindow := none
  inventory : Value := .null
  enabled : Option Bool := none
  condition : Value := .null

namespace Choice

/-- A choice with trimmed texts, or what is wrong with its first bad part. -/
def make (p : ChoiceParts) : Except PartFault Choice := do
  let text ← identifier "choice text" p.text
  let target ← identifier "nextNodeId" p.target
  let effects ← recordOf "flagEffects" p.effects
  let requirements ← recordOf "flagRequirements" p.requirements
  let inventory ← recordOf "inventoryRequirements" p.inventory
  let condition ← match p.condition with
    | .null => pure none
    | .text s => pure (some s)
    | _ => .error .conditionNotText
  return { text, target, effects, requirements, window := p.window, inventory,
           enabled := p.enabled, condition }

end Choice

/-- A single beat of a story with the choices it offers. -/
structure Node where
  id : String
  text : String
  choices : List Choice

namespace Node

def make (id text : Value) (choices : List Choice) : Except PartFault Node := do
  let id ← identifier "node id" id
  match text with
  | .text text => return ⟨id, text, choices⟩
  | v => .error (.notText "node text" v.kind)

def isTerminal (n : Node) : Bool := n.choices.isEmpty

def payload (n : Node) : Value :=
  .record [("id", .text n.id), ("text", .text n.text),
    ("choices", .list (n.choices.map Choice.payload))]

end Node
end Storyline
