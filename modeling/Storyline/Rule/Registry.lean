import Storyline.Rule.Standard

namespace Storyline

/-- Rules in running order, no two of one name. -/
structure Registry where
  rules : List Rule

namespace Registry

def has (r : Registry) (name : String) : Bool := r.rules.any (·.name == name)

def remove (r : Registry) (name : String) : Registry := ⟨r.rules.filter (·.name != name)⟩

def insert (rule : Rule) : List Rule → List Rule
  | [] => [rule]
  | first :: rest =>
    if first.priority ≤ rule.priority then first :: insert rule rest else rule :: first :: rest

def add (r : Registry) (rule : Rule) : Registry := ⟨insert rule (r.remove rule.name).rules⟩

def ofList (rules : List Rule) : Registry := rules.foldl add ⟨[]⟩

def standard : Registry := ofList Rule.standard

def payload (r : Registry) : Value :=
  .list (r.rules.map fun rule => .record [("name", .text rule.name), ("priority", .int rule.priority)])

/-- The verdict of the first rule that fails, numbered from the given one. -/
def firstFailure? (c : Choice) (x : RuleContext) (passed : Nat) :
    List Rule → Except RuleFault (Option Verdict)
  | [] => .ok none
  | rule :: rest => do
    let v ← rule.check c x
    if v.valid then firstFailure? c x (passed + 1) rest
    else return some { v with
      metadata := (v.metadata.put "failedRule" (.text rule.name)).put "rulesPassed" (.int passed) }

def validate (r : Registry) (c : Choice) (x : RuleContext) : Except RuleFault Verdict := do
  match ← firstFailure? c x 0 r.rules with
  | some v => return v
  | none =>
    return .passed [("rulesChecked", .int r.rules.length), ("allRulesPassed", .bool true)]

def available (r : Registry) (x : RuleContext) : List Choice → Except RuleFault (List Choice)
  | [] => .ok []
  | c :: rest => do
    let v ← r.validate c x
    let more ← available r x rest
    return if v.valid then c :: more else more

end Registry
end Storyline
