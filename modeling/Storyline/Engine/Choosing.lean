import Storyline.Engine.Basic

namespace Storyline.Engine
open Condition

/-- Whether a choice is in sight. A condition without an answer hides its choice. -/
def isShown (ev : Evaluator) (scope : Scope) (c : Choice) : Except NumberFault Bool × Evaluator :=
  let condition := c.condition.getD ""
  if Text.isAllBlank condition then (.ok true, ev)
  else
    let d := ev.evaluate (.text condition) scope
    (match d.answer with
      | .ok b => .ok b
      | .error (.condition _) => .ok false
      | .error (.literal f) => .error f, d.evaluator)

/-- The choices in sight, of those given, and the evaluator that has learnt their conditions. -/
def shown (scope : Scope) : Evaluator → List Choice → Except NumberFault (List Choice) × Evaluator
  | ev, [] => (.ok [], ev)
  | ev, c :: rest =>
    match isShown ev scope c with
    | (.error f, ev) => (.error f, ev)
    | (.ok seen, ev) =>
      let (more, ev) := shown scope ev rest
      (more.map fun cs => if seen then c :: cs else cs, ev)

def setEvaluator (e : Engine) (custom : CustomEvaluator) : Engine :=
  { e with evaluator := e.evaluator.setCustom custom }

def clearEvaluator (e : Engine) : Engine := { e with evaluator := e.evaluator.clearCustom }

def addRule (e : Engine) (rule : Rule) : Engine := { e with rules := e.rules.add rule }

def removeRule (e : Engine) (name : String) : Bool × Engine :=
  (e.rules.has name, { e with rules := e.rules.remove name })

def scope (e : Engine) (customData : Entries Value) : Scope :=
  { currentNodeId := e.state.node, flags := e.state.flags, history := e.state.history
    timestamp := .double e.ambient.milliseconds, customData }

def visible (e : Engine) (customData : Entries Value) : Outcome (List Choice) :=
  match e.node with
  | .error f => (.error f, e)
  | .ok node =>
    let (seen, evaluator) := shown (e.scope customData) e.evaluator node.choices
    (seen.mapError .number, { e with evaluator })

def ruleContext (e : Engine) (offered : List Choice) (time : Option Number) :
    Except EngineFault RuleContext :=
  e.node.map fun node =>
    { node, state := e.state, offered, time := time.getD (.double e.ambient.milliseconds) }

def available (e : Engine) (time : Option Number) (customData : Entries Value) :
    Outcome (List Choice) :=
  andThen (e.visible customData) fun seen e =>
    (do
      let x ← e.ruleContext seen time
      (e.rules.available x seen).mapError .rule, e)

def isComplete (e : Engine) : Outcome Bool :=
  andThen (e.available none []) fun cs e => (.ok cs.isEmpty, e)

def verdictAmong (e : Engine) (c : Choice) (offered : List Choice) (time : Option Number) :
    Except EngineFault Verdict := do
  let x ← e.ruleContext offered time
  (e.rules.validate c x).mapError .rule

def verdict (e : Engine) (c : Choice) (time : Option Number) : Outcome Verdict :=
  andThen (e.visible []) fun seen e => (e.verdictAmong c seen time, e)

def notMet (c : Choice) (condition : String) : Verdict :=
  .failed ("Choice \"" ++ c.text ++ "\" condition is not met") [condition] []
    [("failedRule", .text "condition")]

/-- The verdict on a choice that is about to be taken: one with a condition has to be among those
available. -/
def finalVerdict (e : Engine) (c : Choice) (available : List Choice) (time : Option Number) :
    Except EngineFault Verdict := do
  let v ← e.verdictAmong c available time
  let condition := c.condition.getD ""
  if v.valid && !condition.isEmpty && !available.any (c.looksLike ·) then
    return notMet c condition
  return v

def suggesting (v : Verdict) (available : List Choice) : Verdict :=
  if v.suggested.isEmpty then { v with suggested := available } else v

def follow (e : Engine) (c : Choice) (target : Node) : Engine :=
  let event : FlowEvent :=
    ⟨e.state.node, target.id, c.text, .double e.ambient.milliseconds⟩
  { e with
    state := (e.state.withEffects c.effects).moveTo target.id
    events := e.events ++ [event] }

def take (e : Engine) (c : Choice) (target : Node) : Outcome Node :=
  let metadata : Entries Value :=
    [("nodeId", .text e.state.node), ("choiceText", .text c.text),
      ("flagsChanged", .texts c.effects.keys)]
  andThen (e.track .choice metadata) fun _ e =>
    if !Value.allFieldsCopyable c.effects then (.error .uncopyable, e)
    else
      let metadata : Entries Value := [("choiceText", .text c.text), ("nodeId", .text target.id)]
      andThen ((e.follow c target).happened .choice metadata) fun _ e => (.ok target, e)

def commit (e : Engine) (c : Choice) (available : List Choice) (time : Option Number) :
    Outcome Node :=
  match e.finalVerdict c available time with
  | .error f => (.error f, e)
  | .ok v =>
    if !v.valid then
      (.error (.rejected ⟨c, suggesting v available, available, e.ambient.seconds⟩), e)
    else match e.story.find? c.target with
      | none => (.error (.navigation (.leadsNowhere c.text c.target)), e)
      | some target => e.take c target

def select (e : Engine) (c : Choice) (time : Option Number) : Outcome Node :=
  andThen (e.available time []) fun cs e => e.commit c cs time

def choiceAt? (cs : List Choice) : Value → Option Choice
  | .number (.int n) => if n < 0 then none else cs[n.toNat]?
  | _ => none

def badIndex (e : Engine) (index : Value) (count : Nat) : EngineFault :=
  match index.plainText with
  | .ok shown => .navigation (.badIndex index shown count e.state.node)
  | .error f => .number f

/-- Takes the choice at an index of those in sight. One in sight that the rules refuse keeps its
index, and is refused. -/
def choose (e : Engine) (index : Value) (time : Option Number) : Outcome Node :=
  andThen (e.visible []) fun seen e =>
    match choiceAt? seen index with
    | none => (.error (e.badIndex index seen.length), e)
    | some c => e.select c time

end Storyline.Engine
