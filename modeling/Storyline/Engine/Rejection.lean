import Storyline.Rule.Verdict

namespace Storyline

/-- Keeps the verdict and the choices that were available at the time. -/
structure Rejection where
  choice : Choice
  verdict : Verdict
  available : List Choice
  /-- The time of the rejection, in seconds. -/
  time : Double

namespace Rejection

def message (r : Rejection) : String :=
  let reason := r.verdict.reason.getD ""
  if reason.isEmpty then "Choice \"" ++ r.choice.text ++ "\" is not valid" else reason

def metadata (r : Rejection) : Entries Value :=
  [("choiceText", .text r.choice.text), ("nextNodeId", .text r.choice.target),
    ("failedConditions", .texts r.verdict.failedConditions),
    ("validationMetadata", .record r.verdict.metadata),
    ("availableChoiceCount", .int r.available.length)]

def report (r : Rejection) : Report :=
  ⟨"ChoiceValidationError", "CHOICE_VALIDATION_ERROR", r.message, r.metadata⟩

def failedRule? (r : Rejection) : Option String :=
  match r.verdict.metadata.get? "failedRule" with
  | some v => if v.isNull then none else some (v.plainText.toOption.getD "")
  | none => none

def numbered (index : Nat) : List Choice → List String
  | [] => []
  | c :: rest => ("  " ++ toString index ++ ". " ++ c.text) :: numbered (index + 1) rest

def titled (title : String) (cs : List Choice) : List String :=
  if cs.isEmpty then [] else ["", title] ++ numbered 1 cs

/-- The message for readers: what is wrong, and what they can choose instead. -/
def friendly (r : Rejection) : String :=
  "\n".intercalate ([r.message] ++ titled "Available choices:" r.available ++
    titled "Suggested alternatives:" r.verdict.suggested)

def summary (c : Choice) : Value :=
  .record [("text", .text c.text), ("nextNodeId", .text c.target)]

def details (r : Rejection) : Value :=
  .record [("error", .text r.report.name), ("errorCode", .text r.report.code),
    ("timestamp", .double r.time),
    ("choice", .record [("text", .text r.choice.text), ("nextNodeId", .text r.choice.target),
      ("flagEffects", .record r.choice.effects)]),
    ("validationResult", r.verdict.payload),
    ("availableChoices", .list (r.available.map summary)), ("metadata", .record r.metadata)]

end Rejection

instance : Failing Rejection := .narrative Rejection.report

end Storyline
