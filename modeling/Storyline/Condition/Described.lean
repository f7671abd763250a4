import Storyline.Condition.Evaluator

namespace Storyline.Condition

/-- How a described evaluator comes to its answer. -/
inductive Procedure where
  | constant (answer : Bool)
  /-- The expression holds a text. -/
  | mentions (text : String)
  | atNode (node : String)
  /-- The flag that the expression names. -/
  | flag
  /-- The custom value that the expression names. -/
  | customData
  /-- The time has come. -/
  | notBefore (time : Number)
  | refuses (message : String)
  | fails (kind message : String)

namespace Procedure

/-- Whether an expression holds a text: as a part, as a name, or as an item. -/
def holds (text : String) : Value → Except CustomFault Bool
  | .text s => .ok (Operand.isInfixOf text.toList s.toList)
  | .record fields => .ok (Entries.has fields text)
  | .list items => .ok (items.any (Value.same (.text text)))
  | v => .error (.failed "TypeError" ("argument of type '" ++ v.kind ++ "' is not iterable"))

def entryOf (fields : Entries Value) (expression : Value) : Except CustomFault Bool :=
  match expression with
  | .text s => .ok (((fields.get? s).map fun v => !v.isHollow).getD false)
  | .list _ | .record _ =>
    .error (.failed "TypeError" ("unhashable type: '" ++ expression.kind ++ "'"))
  | _ => .ok false

def evaluator (p : Procedure) : CustomEvaluator := fun expression scope =>
  match p with
  | constant answer => .ok answer
  | mentions text => holds text expression
  | atNode node => .ok (node == scope.currentNodeId)
  | flag => entryOf scope.flags expression
  | customData => entryOf scope.customData expression
  | notBefore time => .ok (time.lessOrSame scope.timestamp)
  | refuses message => .error (.refused message)
  | fails kind message => .error (.failed kind message)

end Procedure
end Storyline.Condition
