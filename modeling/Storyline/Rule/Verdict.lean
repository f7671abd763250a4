import Storyline.Story.Choice
import Storyline.State.Basic

namespace Storyline

/-- A failed verdict has a reason, the conditions that were not met, and choices to take instead. -/
structure Verdict where
  valid : Bool
  reason : Option String
  failedConditions : List String
  suggested : List Choice
  metadata : Entries Value

namespace Verdict

def passed (metadata : Entries Value) : Verdict := ⟨true, none, [], [], metadata⟩

def failed (reason : String) (failedConditions : List String) (suggested : List Choice)
    (metadata : Entries Value) : Verdict :=
  ⟨false, some reason, failedConditions, suggested, metadata⟩

def payload (v : Verdict) : Value :=
  .record
    ([("isValid", .bool v.valid)] ++
      (v.reason.map fun s => ("reason", Value.text s)).toList ++
      (if v.failedConditions.isEmpty then [] else
        [("failedConditions", Value.texts v.failedConditions)]) ++
      (if v.suggested.isEmpty then [] else
        [("suggestedChoices", Value.list (v.suggested.map Choice.payload))]) ++
      Choice.recordField "metadata" v.metadata)

end Verdict

inductive RuleFault where
  | number (fault : NumberFault)
  | notComparable (left right : String)
  | raised (kind message : String)
  deriving DecidableEq

def RuleFault.message : RuleFault → String
  | number fault => fault.message
  | notComparable left right =>
    "'<' not supported between instances of '" ++ left ++ "' and '" ++ right ++ "'"
  | raised _ message => message

instance : Failing RuleFault :=
  .sorted (fun
    | .number f => Failing.sort f
    | .notComparable .. => .wrongKind
    | .raised kind _ => .foreign kind) RuleFault.message

structure RuleContext where
  node : Node
  state : NarrativeState
  /-- The choices that are in sight. -/
  offered : List Choice
  /-- The time in milliseconds. -/
  time : Number

/-- A named check. Rules of lower priority value come first. -/
structure Rule where
  name : String
  priority : Int
  check : Choice → RuleContext → Except RuleFault Verdict

end Storyline
