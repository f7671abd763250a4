import Storyline.Value
import Storyline.Number.Reading

namespace Storyline.Value
open Text

/-- Absences, zero, NaN and the empty text are false; containers are true even when empty. An
integer beyond the doubles is neither. -/
def truthy : Value → Except NumberFault Bool
  | .undefined | .null => .ok false
  | .bool b => .ok b
  | .number n => if n.isZero then .ok false else do return !(← n.isNaN)
  | .text s => .ok !s.isEmpty
  | .list _ | .record _ | .host _ => .ok true

/-- The number that a value counts as; what is not a number in any way counts as NaN. -/
def toNumber : Value → Number
  | .null => .int 0
  | .bool b => .int (if b then 1 else 0)
  | .number n => n
  | .text s =>
    if isAllBlank s then .int 0
    else .double ((Reading.double? (trim s)).getD .nan)
  | _ => .double .nan

def numberText : Number → Except NumberFault String
  | .int n => integerText n
  | .double d =>
    match d.toInt? with
    | some n => integerText n
    | none => .ok d.toText

mutual

def toText : Value → Except NumberFault String
  | .undefined => .ok "undefined"
  | .null => .ok "null"
  | .bool b => .ok (if b then "true" else "false")
  | .number n => numberText n
  | .text s => .ok s
  | .list items => itemsText items
  | .record _ => .ok "[object Object]"
  | .host _ => .ok "<opaque>"

def itemsText : List Value → Except NumberFault String
  | [] => .ok ""
  | v :: rest => do
    let shown ← if v.isNullish then pure "" else toText v
    let more ← itemsText rest
    return if rest.isEmpty then shown else shown ++ "," ++ more

end

/-- Equality of values without identity: of one kind and equal, numbers by size. Containers and
host values are equal to nothing, since the two come from different places. -/
def strictEquals : Value → Value → Bool
  | .undefined, .undefined => true
  | .null, .null => true
  | .bool a, .bool b => a == b
  | .number a, .number b => a.same b
  | .text a, .text b => a == b
  | _, _ => false

/-- Containers and host values are told apart by where they are, not by what they hold. -/
def isObject : Value → Bool
  | .list _ | .record _ | .host _ => true
  | _ => false

end Storyline.Value
