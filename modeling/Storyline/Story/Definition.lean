import Storyline.Story.Basic
import Storyline.Json.Read

namespace Storyline.Story

def get (fields : Entries Value) (key : String) : Value := (fields.get? key).getD .null

/-- Reads the fields of one choice and points at it in faults. -/
structure ChoiceReader where
  node : String
  index : Nat
  fields : Entries Value

namespace ChoiceReader

def wrong {α : Type} (r : ChoiceReader) (field wanted : String) : Except StoryFault α :=
  .error (.choiceField r.node r.index field wanted)

def record? (r : ChoiceReader) (key : String) : Except StoryFault (Option (Entries Value)) :=
  match get r.fields key with
  | .null => .ok none
  | .record fields => .ok (some fields)
  | _ => r.wrong key "an object"

def number? (r : ChoiceReader) (key : String) : Value → Except StoryFault (Option Number)
  | .null => .ok none
  | .number n => .ok (some n)
  | _ => r.wrong key "a number"

def date? (r : ChoiceReader) (key : String) : Value → Except StoryFault (Option String)
  | .null => .ok none
  | .text s => .ok (some s)
  | _ => r.wrong key "an ISO date string"

def window? (r : ChoiceReader) : Except StoryFault (Option TimeWindow) := do
  match ← r.record? "timeRequirements" with
  | none => return none
  | some fields =>
    let after ← r.date? "availableAfter" (get fields "availableAfter")
    let before ← r.date? "availableBefore" (get fields "availableBefore")
    let min ← r.number? "minTime" (get fields "minTime")
    let max ← r.number? "maxTime" (get fields "maxTime")
    return some ⟨after, before, min, max⟩

def enabled? (r : ChoiceReader) : Except StoryFault (Option Bool) :=
  match get r.fields "enabled" with
  | .null => .ok none
  | .bool b => .ok (some b)
  | _ => r.wrong "enabled" "a boolean"

def condition? (r : ChoiceReader) : Except StoryFault (Option String) :=
  match get r.fields "condition" with
  | .null => .ok none
  | .text s => .ok (some s)
  | _ => r.wrong "condition" "a string"

def inventory? (r : ChoiceReader) : Except StoryFault (Option (Entries Value)) := do
  let inventory ← r.record? "inventoryRequirements"
  for (item, quantity) in inventory.getD [] do
    let _ ← r.number? ("inventoryRequirements." ++ item) quantity
  return inventory

def ofOption (fields : Option (Entries Value)) : Value := (fields.map Value.record).getD .null

def choice (r : ChoiceReader) : Except StoryFault Choice := do
  match get r.fields "text", get r.fields "nextNodeId" with
  | .text text, .text target =>
    let enabled ← r.enabled?
    let condition ← r.condition?
    let inventory ← r.inventory?
    let effects ← r.record? "flagEffects"
    let requirements ← r.record? "flagRequirements"
    let window ← r.window?
    (Choice.make
      { text := .text text, target := .text target, effects := ofOption effects,
        requirements := ofOption requirements, window, inventory := ofOption inventory, enabled,
        condition := Value.ofText? condition }).mapError (.choicePart r.node r.index)
  | _, _ => .error (.choiceWithoutTexts r.node r.index)

end ChoiceReader

/-- The choice that a definition describes; the node and index are for faults. -/
def readChoice (node : String) (index : Nat) : Value → Except StoryFault Choice
  | .record fields => ChoiceReader.choice ⟨node, index, fields⟩
  | _ => .error (.choiceNotRecord node index)

def readChoices (node : String) (index : Nat) : List Value → Except StoryFault (List Choice)
  | [] => .ok []
  | v :: rest => do
    let c ← readChoice node index v
    return c :: (← readChoices node (index + 1) rest)

def readNode (index : Nat) : Value → Except StoryFault Node
  | .record fields =>
    match get fields "id" with
    | .text id =>
      if Text.isAllBlank id then .error (.noId index)
      else match get fields "text" with
        | .text text =>
          match Entries.get? fields "choices" with
          | none => .ok ⟨Text.trim id, text, []⟩
          | some (.list choices) => do return ⟨Text.trim id, text, ← readChoices id 0 choices⟩
          | some _ => .error (.choicesNotList id)
        | _ => .error (.noText id)
    | _ => .error (.noId index)
  | _ => .error (.nodeNotRecord index)

def readNodes (index : Nat) : List Value → Except StoryFault (List Node)
  | [] => .ok []
  | v :: rest => do
    let n ← readNode index v
    return n :: (← readNodes (index + 1) rest)

/-- The story that a definition describes; every choice may be required to lead somewhere. -/
def ofDefinition (requireTargets : Bool) : Value → Except StoryFault Story
  | .record fields =>
    match get fields "initialNodeId" with
    | .text initial =>
      if Text.isAllBlank initial then .error .noInitialNode
      else match get fields "nodes" with
        | .list nodes => do
          let story ← make (Text.trim initial) (← readNodes 0 nodes)
          if requireTargets && !story.dangling.isEmpty then .error (.dangling story.dangling)
          return story
        | _ => .error .noNodes
    | _ => .error .noInitialNode
  | _ => .error .notRecord

/-- Line ends of every convention as line feeds, which is how text files are read. -/
def plainLineEnds : List Char → List Char
  | '\r' :: '\n' :: rest => '\n' :: plainLineEnds rest
  | '\r' :: rest => '\n' :: plainLineEnds rest
  | c :: rest => c :: plainLineEnds rest
  | [] => []

/-- Why a story file cannot be used: its story is faulty, or it holds a number that is too long. -/
inductive FileFault where
  | story (fault : StoryFault)
  | number (fault : NumberFault)

instance : Failing FileFault where
  sort
    | .story f => Failing.sort f
    | .number f => Failing.sort f
  message
    | .story f => f.message
    | .number f => f.message
  report?
    | .story f => some f.report
    | .number _ => none

def ofFile (requireTargets : Bool) (path : String) : Option String → Except FileFault Story
  | none =>
    .error (.story (.unreadable path ("[Errno 2] No such file or directory: " ++ Text.quoted path)))
  | some text =>
    match Json.read (String.ofList (plainLineEnds text.toList)) with
    | .ok definition => (ofDefinition requireTargets definition).mapError .story
    | .error (.number fault) => .error (.number fault)
    | .error fault => .error (.story (.notJson path fault.message))

end Storyline.Story
