import Storyline.Condition.Coercion

namespace Storyline.Condition

/-- Where a container or host value lies in the scope. Two values are one object exactly if they
lie at one place. -/
inductive Place where
  | state
  | flags
  | history
  | customData
  | field (of : Place) (key : String)
  | item (of : Place) (index : Nat)
  deriving DecidableEq

/-- The state shows the flags and the history themselves, not copies of them. -/
def Place.enter (p : Place) (key : String) : Place :=
  match p, key with
  | .state, "flags" => .flags
  | .state, "history" => .history
  | p, key => .field p key

structure Scope where
  currentNodeId : String
  flags : Entries Value
  history : List String
  timestamp : Number
  customData : Entries Value

/-- A value, and its place if it was read from the scope. -/
structure Operand where
  value : Value
  place : Option Place

def Operand.of (v : Value) : Operand := ⟨v, none⟩

namespace Scope

def flagsOperand (s : Scope) : Operand := ⟨.record s.flags, some .flags⟩

def stateOperand (s : Scope) : Operand :=
  ⟨.record [("currentNodeId", .text s.currentNodeId), ("flags", .record s.flags),
    ("history", .texts s.history)], some .state⟩

def lookup? (s : Scope) : String → Option Operand
  | "flags" => some s.flagsOperand
  | "state" => some s.stateOperand
  | "timestamp" => some (.of (.number s.timestamp))
  | "customData" => some ⟨.record s.customData, some .customData⟩
  | _ => none

end Scope

namespace Operand

/-- Equality without conversion; objects are equal to themselves alone. -/
def strictEquals (a b : Operand) : Bool :=
  if a.value.isObject && b.value.isObject then a.place == b.place
  else a.value.strictEquals b.value

/-- Equality that converts: absences are equal to each other, and of other values those that are no
objects are compared as numbers unless both are texts. -/
def looseEquals (a b : Operand) : Bool :=
  if a.value.isNullish || b.value.isNullish then a.value.isNullish && b.value.isNullish
  else if a.value.isObject || b.value.isObject then a.strictEquals b
  else match a.value, b.value with
    | .text s, .text t => s == t
    | v, w => v.toNumber.same w.toNumber

end Operand
end Storyline.Condition
