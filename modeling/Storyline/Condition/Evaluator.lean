import Storyline.Condition.Meaning
import Storyline.Condition.Sandbox
import Storyline.Condition.Reference

namespace Storyline.Condition
open Text

inductive CustomFault where
  | refused (message : String)
  | failed (kind message : String)
  deriving DecidableEq

inductive ConditionFault where
  | blank
  | notText
  | denied
  | malformed (fault : SyntaxFault)
  | failed (fault : RunFault)
  | custom (fault : CustomFault)
  deriving DecidableEq

/-- A condition that gave no answer, as it was written, and why. -/
structure ConditionError where
  expression : Value
  fault : ConditionFault

namespace ConditionError

def written (e : ConditionError) : String := e.expression.plainText.toOption.getD ""

def message (e : ConditionError) : String :=
  match e.fault with
  | .blank => "Empty or whitespace-only condition expression"
  | .notText => "Condition expression must be a string"
  | .denied => "Potentially unsafe expression detected: " ++ e.written
  | .malformed fault =>
    if fault.isForbidden then "Potentially unsafe expression detected: " ++ e.written
    else "Invalid expression syntax: " ++ e.written
  | .failed _ => "Runtime error evaluating: " ++ e.written
  | .custom (.refused message) => message
  | .custom (.failed ..) => "Failed to evaluate condition: " ++ e.written

def detail? (e : ConditionError) : Option String :=
  match e.fault with
  | .malformed fault => some fault.message
  | .failed fault => some fault.message
  | .custom (.failed _ message) => some message
  | _ => none

def report (e : ConditionError) : Report :=
  ⟨"ConditionEvaluationError", "CONDITION_EVALUATION_ERROR", e.message,
    [("expression", e.expression)]⟩

def detailSort? (e : ConditionError) : Option FailureSort :=
  match e.fault with
  | .malformed fault => some (Failing.sort fault)
  | .failed fault => some (Failing.sort fault)
  | .custom (.failed kind _) => some (.foreign kind)
  | _ => none

end ConditionError

/-- A condition without answer. An integer literal of too many digits is no fault of the condition
language, and is reported as what it is. -/
inductive Failure where
  | condition (e : ConditionError)
  | literal (fault : NumberFault)

instance : Failing ConditionError := .narrative ConditionError.report

instance : Failing Failure where
  sort
    | .condition e => Failing.sort e
    | .literal f => Failing.sort f
  message
    | .condition e => e.message
    | .literal f => f.message
  report?
    | .condition e => some e.report
    | .literal _ => none

abbrev CustomEvaluator := Value → Scope → Except CustomFault Bool

/-- Each text is checked, parsed once and kept under its trimmed form, and the oldest entry makes
room for a new one. A custom evaluator takes the place of the language for all texts. -/
structure Evaluator where
  /-- The cache holds at most this many expressions. -/
  capacity : Nat
  /-- Expressions under their trimmed texts, oldest first. -/
  cache : Entries Expression
  custom : Option CustomEvaluator

/-- The answer to a condition, the evaluator afterwards, and the text that lost its place. -/
structure Decision where
  answer : Except Failure Bool
  evaluator : Evaluator
  evicted : Option String

def checked (expression : Value) : Except ConditionError String :=
  match expression with
  | .text s =>
    let trimmed := trim s
    if isDenied trimmed then .error ⟨expression, .denied⟩ else .ok trimmed
  | v => .error ⟨.text (v.plainText.toOption.getD ""), .notText⟩

def compileChecked (trimmed : String) (expression : Value) : Except Failure Expression :=
  match compile trimmed with
  | .ok e => .ok e
  | .error (.number fault) => .error (.literal fault)
  | .error fault => .error (.condition ⟨expression, .malformed fault⟩)

inductive CacheFault where
  | noCapacity
  deriving DecidableEq

def CacheFault.message : CacheFault → String
  | noCapacity => "max_cache_size must be a positive integer"

instance : Failing CacheFault := .simple .wrongValue CacheFault.message

namespace Evaluator

def new (capacity : Nat) : Evaluator := ⟨capacity, [], none⟩

def make (capacity : Int) : Except CacheFault Evaluator :=
  if capacity < 1 then .error .noCapacity else .ok (new capacity.toNat)

def clearCache (ev : Evaluator) : Evaluator := { ev with cache := [] }

def setCustom (ev : Evaluator) (custom : CustomEvaluator) : Evaluator :=
  { ev with custom := some custom }

def clearCustom (ev : Evaluator) : Evaluator := { ev with custom := none }

def decide (compiled : Expression) (expression : Value) (scope : Scope) : Except Failure Bool :=
  match compiled.value scope >>= Operand.truthy with
  | .ok b => .ok b
  | .error fault => .error (.condition ⟨expression, .failed fault⟩)

/-- The cache with one more expression; a full one gives up its oldest. -/
def remember (ev : Evaluator) (trimmed : String) (compiled : Expression) :
    Evaluator × Option String :=
  if ev.capacity ≤ ev.cache.length then
    match ev.cache with
    | (oldest, _) :: rest =>
      ({ ev with cache := Entries.put rest trimmed compiled }, some oldest)
    | [] => ({ ev with cache := [(trimmed, compiled)] }, none)
  else ({ ev with cache := ev.cache.put trimmed compiled }, none)

def evaluateBuiltin (ev : Evaluator) (expression : Value) (scope : Scope) : Decision :=
  if (match expression with | .text s => isAllBlank s | _ => true) then
    ⟨.error (.condition ⟨expression, .blank⟩), ev, none⟩
  else match checked expression with
    | .error e => ⟨.error (.condition e), ev, none⟩
    | .ok "true" => ⟨.ok true, ev, none⟩
    | .ok "false" => ⟨.ok false, ev, none⟩
    | .ok trimmed =>
      match ev.cache.get? trimmed with
      | some compiled => ⟨decide compiled expression scope, ev, none⟩
      | none =>
        match compileChecked trimmed expression with
        | .error f => ⟨.error f, ev, none⟩
        | .ok compiled =>
          let (ev, evicted) := ev.remember trimmed compiled
          ⟨decide compiled expression scope, ev, evicted⟩

def evaluate (ev : Evaluator) (expression : Value) (scope : Scope) : Decision :=
  match ev.custom with
  | some custom =>
    ⟨(custom expression scope).mapError fun f => .condition ⟨expression, .custom f⟩, ev, none⟩
  | none => ev.evaluateBuiltin expression scope

end Evaluator

/-- Whether an expression is safe and well formed: nothing if it is, or else why not. -/
def validate (expression : Value) : Except NumberFault (Option String) :=
  match checked expression with
  | .error e => .ok (some (e.detail?.getD e.message))
  | .ok trimmed =>
    if trimmed == "true" || trimmed == "false" then .ok none
    else match compileChecked trimmed expression with
      | .ok _ => .ok none
      | .error (.condition e) => .ok (some (e.detail?.getD e.message))
      | .error (.literal fault) => .error fault

end Storyline.Condition
