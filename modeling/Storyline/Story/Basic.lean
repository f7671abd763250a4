import Storyline.Story.Choice
import Storyline.Digest
import Storyline.Text.Order

namespace Storyline

inductive StoryFault where
  | notRecord
  | noInitialNode
  | noNodes
  | nodeNotRecord (index : Nat)
  | noId (index : Nat)
  | noText (id : String)
  | choicesNotList (id : String)
  | choiceNotRecord (node : String) (index : Nat)
  | choiceWithoutTexts (node : String) (index : Nat)
  | choiceField (node : String) (index : Nat) (field : String) (wanted : String)
  | choicePart (node : String) (index : Nat) (fault : PartFault)
  | duplicateId (id : String)
  | unknownInitialNode (id : String)
  | dangling (pairs : List (String × String))
  | unreadable (path reason : String)
  | notJson (path reason : String)
  deriving DecidableEq

namespace StoryFault

def place (node : String) (index : Nat) : String :=
  "Choice #" ++ toString index ++ " in node '" ++ node ++ "'"

def message : StoryFault → String
  | notRecord => "Story definition must be an object."
  | noInitialNode => "Story definition requires an 'initialNodeId' string."
  | noNodes => "Story definition must provide a list of 'nodes'."
  | nodeNotRecord index => "Node #" ++ toString index ++ " must be an object definition."
  | noId index => "Node #" ++ toString index ++ " is missing an 'id' string."
  | noText id => "Node '" ++ id ++ "' is missing a text description."
  | choicesNotList id => "Node '" ++ id ++ "' must define a list of choices."
  | choiceNotRecord node index => place node index ++ " must be an object definition."
  | choiceWithoutTexts node index =>
    place node index ++ " must provide 'text' and 'nextNodeId' strings."
  | choiceField node index field wanted =>
    place node index ++ " field '" ++ field ++ "' must be " ++ wanted ++ "."
  | choicePart node index fault => place node index ++ " is invalid: " ++ fault.message
  | duplicateId id => "Duplicate node id '" ++ id ++ "'."
  | unknownInitialNode id => "Initial node '" ++ id ++ "' does not exist in the story."
  | dangling pairs =>
    "Choices lead to unknown nodes: " ++
      ", ".intercalate (pairs.map fun (source, target) => source ++ "->" ++ target)
  | unreadable path reason => "Could not read story file '" ++ path ++ "': " ++ reason
  | notJson path reason => "Story file '" ++ path ++ "' is not valid JSON: " ++ reason

def report (f : StoryFault) : Report :=
  ⟨"StoryDataError", "STORY_DATA_ERROR", f.message, [("storyId", .null)]⟩

end StoryFault

instance : Failing StoryFault := .narrative StoryFault.report

/-- A story is known by an identifier made from its node ids, so that saves find their way back to
it. -/
structure Story where
  initial : String
  nodes : List Node

namespace Story

def ids (s : Story) : List String := s.nodes.map Node.id

def find? (s : Story) (id : String) : Option Node := s.nodes.find? (·.id == id)

def has (s : Story) (id : String) : Bool := (s.find? id).isSome

def firstRepeated? : List String → List String → Option String
  | _, [] => none
  | seen, id :: rest => if seen.contains id then some id else firstRepeated? (id :: seen) rest

def make (initial : String) (nodes : List Node) : Except StoryFault Story :=
  match firstRepeated? [] (nodes.map Node.id) with
  | some id => .error (.duplicateId id)
  | none =>
    if (nodes.map Node.id).contains initial then .ok ⟨initial, nodes⟩
    else .error (.unknownInitialNode initial)

/-- The identifier that saves carry: the number of nodes and a digest of their sorted ids. -/
def identity (s : Story) : String :=
  let digest := Digest.hex (",".intercalate (Text.inOrder s.ids))
  "story-" ++ toString s.nodes.length ++ "-" ++ String.ofList (digest.toList.take 16)

def dangling (s : Story) : List (String × String) :=
  s.nodes.flatMap fun n =>
    (n.choices.filter fun c => !s.has c.target).map fun c => (n.id, c.target)

def payload (s : Story) : Value :=
  .record [("initialNodeId", .text s.initial), ("nodes", .list (s.nodes.map Node.payload))]

def terminal (s : Story) : List String := (s.nodes.filter Node.isTerminal).map Node.id

end Story
end Storyline
