import Storyline.Condition.Coercion
import Storyline.Rule.Verdict

namespace Storyline

inductive Demand where
  | nothing
  | flag (name : String)
  | otherText (text : String)
  | impossible
  | raises (kind message : String)
  deriving DecidableEq

/-- A rule by its demand, and what it says of choices that do not meet it. -/
structure DescribedRule where
  name : String
  priority : Int
  demand : Demand
  reason : String
  failedConditions : List String
  /-- The choices in sight are suggested instead. -/
  suggests : Bool
  metadata : Entries Value

namespace Demand

def met (d : Demand) (c : Choice) (x : RuleContext) : Except RuleFault Bool :=
  match d with
  | nothing => .ok true
  | flag name =>
    match x.state.flags.get? name with
    | some v => v.truthy.mapError .number
    | none => .ok false
  | otherText text => .ok (c.text != text)
  | impossible => .ok false
  | raises kind message => .error (.raised kind message)

end Demand

namespace DescribedRule

def refusal (r : DescribedRule) (x : RuleContext) : Verdict :=
  .failed r.reason r.failedConditions (if r.suggests then x.offered else []) r.metadata

def rule (r : DescribedRule) : Rule where
  name := r.name
  priority := r.priority
  check := fun c x => do
    return if ← r.demand.met c x then .passed [] else r.refusal x

end DescribedRule
end Storyline
