import Storyline.Value

namespace Storyline

/-- A failure of the narrative with its code and details. -/
structure Report where
  name : String
  code : String
  message : String
  metadata : Entries Value

namespace Report

def payload (r : Report) : Value :=
  .record [("success", .bool false),
    ("error", .record [("name", .text r.name), ("message", .text r.message),
      ("code", .text r.code), ("metadata", .record r.metadata)])]

/-- The code of the failures of a name, and the detail that they always tell. -/
def kinds : Entries (String × String) :=
  [("NavigationError", "NAVIGATION_ERROR", "nodeId"), ("StateError", "STATE_ERROR", "stateSnapshot"),
    ("ConditionEvaluationError", "CONDITION_EVALUATION_ERROR", "expression"),
    ("StoryDataError", "STORY_DATA_ERROR", "storyId")]

/-- The base of all failures of the narrative, which is given its code. -/
def baseName : String := "NarrativeError"

/-- The text of the arguments of a failure. A lone one stands for itself, a missing key in
quotes. -/
def argumentsText (name : String) (args : List Value) : Except NumberFault String :=
  match args with
  | [] => .ok ""
  | [v] => if name == "KeyError" then v.display else v.plainText
  | vs => do return "(" ++ (← Value.displayItems vs) ++ ")"

/-- Failures of any other kind have no code; one that says nothing is called unknown. -/
def foreign (name message : String) : Value :=
  .record [("success", .bool false),
    ("error", .record [("name", .text (if name.isEmpty then "UnknownError" else name)),
      ("message", .text (if message.isEmpty then "An unknown error occurred" else message))])]

/-- The report of a failure of some name with its arguments. Stories give a message, the detail
that is always told, and others, before which it counts. -/
def ofArguments (name : String) (args : List Value) : Except NumberFault Value := do
  let detail := args[1]?.getD .null
  let others := ((args[2]?).bind Value.asRecord?).getD []
  match kinds.get? name with
  | some (code, key) =>
    let message ← argumentsText name (args.take 1)
    return payload ⟨name, code, message, others.put key detail⟩
  | none =>
    if name == baseName then
      return payload ⟨name, detail.asText?.getD "", ← argumentsText name (args.take 1), others⟩
    else return foreign name (← argumentsText name args)

end Report
end Storyline
