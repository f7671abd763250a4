import Storyline.Condition.Parser
import Storyline.Condition.Scope

namespace Storyline.Condition
open Text

/-- Why an expression that is well formed has no value. -/
inductive RunFault where
  | undefinedName (name : String)
  | noProperties (target key : String)
  | notAFunction (target method : String)
  | number (fault : NumberFault)
  | tooDeep
  deriving DecidableEq

def RunFault.message : RunFault → String
  | undefinedName name => name ++ " is not defined"
  | noProperties target key =>
    "Cannot read properties of " ++ target ++ " (reading '" ++ key ++ "')"
  | notAFunction target method => target ++ "." ++ method ++ " is not a function"
  | number fault => fault.message
  | tooDeep => "maximum recursion depth exceeded"

instance : Failing RunFault :=
  .sorted (fun
    | .undefinedName _ => .noName
    | .noProperties .. | .notAFunction .. => .wrongKind
    | .number f => Failing.sort f
    | .tooDeep => .tooDeep) RunFault.message

def computed {α : Type} (r : Except NumberFault α) : Except RunFault α := r.mapError .number

def Literal.value : Literal → Value
  | undefined => .undefined
  | null => .null
  | bool b => .bool b
  | number n => .number n
  | text s => .text s

namespace Operand

def truthy (a : Operand) : Except RunFault Bool := computed a.value.truthy

/-- The place in a sequence that a key denotes: a whole number inside it, or digits that spell
one. -/
def index? (length : Nat) : Value → Except NumberFault (Option Nat)
  | .number n => do
    let _ ← n.toDouble
    match n.toInt? with
    | some i => return if 0 ≤ i ∧ i < length then some i.toNat else none
    | none => return none
  | .text s =>
    if !s.isEmpty && s.toList.all isDigit then do
      let i ← Reading.integer s
      return if i < length then some i.toNat else none
    else return none
  | _ => return none

/-- What a container holds under a key. Records know texts, sequences know indices and their own
length, and nothing else has members. -/
def member (target key : Operand) : Except RunFault Operand :=
  match target.value with
  | .undefined | .null => do
    let shown ← computed target.value.toText
    let name ← computed key.value.toText
    .error (.noProperties shown name)
  | .record fields => do
    let name ← computed key.value.toText
    match List.lookup name fields with
    | some v => return ⟨v, target.place.map (·.enter name)⟩
    | none => return .of .undefined
  | .list items => do
    if let .text "length" := key.value then return .of (.int items.length)
    match ← computed (index? items.length key.value) with
    | some i => match items[i]? with
      | some v => return ⟨v, target.place.map (.item · i)⟩
      | none => return .of .undefined
    | none => return .of .undefined
  | .text s => do
    if let .text "length" := key.value then return .of (.int s.length)
    match ← computed (index? s.length key.value) with
    | some i => match s.toList[i]? with
      | some c => return .of (.text c.toString)
      | none => return .of .undefined
    | none => return .of .undefined
  | _ => return .of .undefined

def items (place : Option Place) (vs : List Value) : List Operand :=
  vs.mapIdx fun i v => ⟨v, place.map (.item · i)⟩

def isInfixOf (needle : List Char) : List Char → Bool
  | [] => needle.isEmpty
  | c :: rest => needle.isPrefixOf (c :: rest) || isInfixOf needle rest

/-- Whether a text contains another, or a list an equal item; a call without argument looks for
the undefined. -/
def includes (target : Operand) (arguments : List Operand) : Except RunFault Operand :=
  let needle := arguments.head?.getD (.of .undefined)
  match target.value with
  | .text s => .ok (.of (.bool (match needle.value with
    | .text t => isInfixOf t.toList s.toList
    | _ => false)))
  | .list vs => .ok (.of (.bool ((items target.place vs).any (·.strictEquals needle))))
  | v => do
    let shown ← computed v.toText
    .error (.notAFunction shown "includes")

/-- Texts are compared by code points and everything else as numbers, of which NaN compares with
none. -/
def compare (holds : Ordering → Bool) (a b : Operand) : Except RunFault Bool :=
  match a.value, b.value with
  | .text s, .text t => .ok (holds (Ord.compare s t))
  | v, w => do
    if ← computed v.toNumber.isNaN then return false
    if ← computed w.toNumber.isNaN then return false
    return (v.toNumber.order? w.toNumber).any holds

def add (a b : Operand) : Except RunFault Value :=
  match a.value, b.value with
  | .text s, v => do return .text (s ++ (← computed v.toText))
  | v, .text t => do return .text ((← computed v.toText) ++ t)
  | v, w => do return .number (← computed (v.toNumber.add w.toNumber))

end Operand

/-- The result of an operator on two values; the connectives do not come here. -/
def Operator.apply (o : Operator) (a b : Operand) : Except RunFault Value :=
  match o with
  | .or | .and => .ok b.value
  | .strictEqual => .ok (.bool (a.strictEquals b))
  | .strictUnequal => .ok (.bool !(a.strictEquals b))
  | .looseEqual => .ok (.bool (a.looseEquals b))
  | .looseUnequal => .ok (.bool !(a.looseEquals b))
  | .less => do return .bool (← a.compare (· == .lt) b)
  | .lessEqual => do return .bool (← a.compare (· != .gt) b)
  | .greater => do return .bool (← a.compare (· == .gt) b)
  | .greaterEqual => do return .bool (← a.compare (· != .lt) b)
  | .add => a.add b
  | .subtract => do return .number (← computed (a.value.toNumber.sub b.value.toNumber))
  | .multiply => do return .number (← computed (a.value.toNumber.mul b.value.toNumber))
  | .divide => do return .double (← computed (a.value.toNumber.divide b.value.toNumber))
  | .remainder => do return .double (← computed (a.value.toNumber.remainder b.value.toNumber))

def Sign.apply (s : Sign) (a : Operand) : Except RunFault Value :=
  match s with
  | .not => do return .bool !(← a.truthy)
  | .minus => .ok (.number a.value.toNumber.neg)
  | .plus => .ok (.number a.value.toNumber)

mutual

/-- The value of an expression in a scope, as long as no operand is nested deeper than `depth`. -/
def Expression.run (scope : Scope) (depth : Nat) : Expression → Except RunFault Operand
  | .literal l => .ok (.of l.value)
  | .name s =>
    match scope.lookup? s with
    | some a => .ok a
    | none => .error (.undefinedName s)
  | .sign s operand =>
    if depth = 0 then .error .tooDeep
    else do return .of (← s.apply (← operand.run scope (depth - 1)))
  | .binary .and left right =>
    if depth = 0 then .error .tooDeep
    else do
      let a ← left.run scope (depth - 1)
      if ← a.truthy then right.run scope (depth - 1) else return a
  | .binary .or left right =>
    if depth = 0 then .error .tooDeep
    else do
      let a ← left.run scope (depth - 1)
      if ← a.truthy then return a else right.run scope (depth - 1)
  | .binary o left right =>
    if depth = 0 then .error .tooDeep
    else do
      let a ← left.run scope (depth - 1)
      let b ← right.run scope (depth - 1)
      return .of (← o.apply a b)
  | .member target key =>
    if depth = 0 then .error .tooDeep
    else do
      let a ← target.run scope (depth - 1)
      let b ← key.run scope (depth - 1)
      a.member b
  | .includes target arguments =>
    if depth = 0 then .error .tooDeep
    else do
      let a ← target.run scope (depth - 1)
      a.includes (← runAll scope (depth - 1) arguments)

def runAll (scope : Scope) (depth : Nat) : List Expression → Except RunFault (List Operand)
  | [] => .ok []
  | e :: rest => do
    let a ← e.run scope depth
    return a :: (← runAll scope depth rest)

end

/-- The value of an expression in a scope; chains that are too long have none. -/
def Expression.value (scope : Scope) (e : Expression) : Except RunFault Operand :=
  e.run scope maxDepth

end Storyline.Condition
