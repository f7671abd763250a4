import Storyline.Entries
import Storyline.Number.Decimal
import Storyline.Text.Quoted

namespace Storyline

/-- Absence inside a condition differs from a stored null. Lists are the only sequences and texts
the only keys. A host value is anything else that the embedding application keeps in a flag: it
prints and compares, and some refuse to be copied. -/
inductive Value where
  | undefined
  | null
  | bool (b : Bool)
  | number (n : Number)
  | text (s : String)
  | list (items : List Value)
  | record (fields : List (String × Value))
  | host (copyable : Bool)

instance : Inhabited Value := ⟨.null⟩

namespace Value

def int (n : Int) : Value := .number (.int n)

def double (d : Double) : Value := .number (.double d)

def texts (ss : List String) : Value := .list (ss.map .text)

def ofText? : Option String → Value
  | some s => .text s
  | none => .null

def asText? : Value → Option String
  | .text s => some s
  | _ => none

def asRecord? : Value → Option (Entries Value)
  | .record fields => some fields
  | _ => none

def asList? : Value → Option (List Value)
  | .list items => some items
  | _ => none

def field? (v : Value) (key : String) : Option Value := v.asRecord?.bind (Entries.get? · key)

def isNull : Value → Bool
  | .null => true
  | _ => false

def isNullish : Value → Bool
  | .undefined | .null => true
  | _ => false

def isHollow : Value → Bool
  | .undefined | .null | .bool false => true
  | .number n => n.isZero
  | .text s => s.isEmpty
  | .list items => items.isEmpty
  | .record fields => fields.isEmpty
  | _ => false

def kind : Value → String
  | .undefined => "_Undefined"
  | .null => "NoneType"
  | .bool _ => "bool"
  | .number (.int _) => "int"
  | .number (.double _) => "float"
  | .text _ => "str"
  | .list _ => "list"
  | .record _ => "dict"
  | .host _ => "Opaque"

mutual

def copyable : Value → Bool
  | .host copyable => copyable
  | .list items => allCopyable items
  | .record fields => allFieldsCopyable fields
  | _ => true

def allCopyable : List Value → Bool
  | [] => true
  | v :: rest => copyable v && allCopyable rest

def allFieldsCopyable : List (String × Value) → Bool
  | [] => true
  | (_, v) :: rest => copyable v && allFieldsCopyable rest

end

mutual

def isPlain : Value → Bool
  | .undefined | .host _ => false
  | .list items => allPlain items
  | .record fields => allFieldsPlain fields
  | _ => true

def allPlain : List Value → Bool
  | [] => true
  | v :: rest => isPlain v && allPlain rest

def allFieldsPlain : List (String × Value) → Bool
  | [] => true
  | (_, v) :: rest => isPlain v && allFieldsPlain rest

end

mutual

/-- The value with null in place of the numbers that JSON cannot write. -/
def withFinite : Value → Value
  | .number (.double d) => if d.isFinite then .number (.double d) else .null
  | .list items => .list (allWithFinite items)
  | .record fields => .record (fieldsWithFinite fields)
  | v => v

def allWithFinite : List Value → List Value
  | [] => []
  | v :: rest => withFinite v :: allWithFinite rest

def fieldsWithFinite : List (String × Value) → List (String × Value)
  | [] => []
  | (k, v) :: rest => (k, withFinite v) :: fieldsWithFinite rest

end

mutual

def isFinite : Value → Bool
  | .number (.double d) => d.isFinite
  | .list items => allFinite items
  | .record fields => allFieldsFinite fields
  | _ => true

def allFinite : List Value → Bool
  | [] => true
  | v :: rest => isFinite v && allFinite rest

def allFieldsFinite : List (String × Value) → Bool
  | [] => true
  | (_, v) :: rest => isFinite v && allFieldsFinite rest

end

mutual

/-- How deep lists and records lie in each other, with what is in the innermost. -/
def levels : Value → Nat
  | .list items => allLevels items + 1
  | .record fields => fieldLevels fields + 1
  | _ => 1

def allLevels : List Value → Nat
  | [] => 0
  | v :: rest => max (levels v) (allLevels rest)

def fieldLevels : List (String × Value) → Nat
  | [] => 0
  | (_, v) :: rest => max (levels v) (fieldLevels rest)

end

/-- Booleans count as the numbers one and zero where values are compared as data. -/
def quantity? : Value → Option Number
  | .bool b => some (.int (if b then 1 else 0))
  | .number n => some n
  | _ => none

mutual

/-- Equality as data: numbers by size across their kinds, records whatever the order of their
fields. Absences and host values are equal to nothing, being compared with other objects. -/
def same : Value → Value → Bool
  | .null, .null => true
  | .text a, .text b => a == b
  | .list as, .list bs => allSame as bs
  | .record as, .record bs => as.length == bs.length && fieldsSame as bs
  | .bool a, b => (b.quantity?.map (Number.same (.int (if a then 1 else 0)))).getD false
  | .number a, b => (b.quantity?.map (Number.same a)).getD false
  | _, _ => false

def allSame : List Value → List Value → Bool
  | [], [] => true
  | a :: as, b :: bs => same a b && allSame as bs
  | _, _ => false

def fieldsSame : List (String × Value) → List (String × Value) → Bool
  | [], _ => true
  | (k, a) :: rest, others =>
    (match List.lookup k others with
      | some b => same a b
      | none => false) && fieldsSame rest others

end

mutual

def display : Value → Except NumberFault String
  | .undefined => .ok "undefined"
  | .null => .ok "None"
  | .bool b => .ok (if b then "True" else "False")
  | .number n => n.toText
  | .text s => .ok (Text.quoted s)
  | .list items => do return "[" ++ (← displayItems items) ++ "]"
  | .record fields => do return "\x7b" ++ (← displayFields fields) ++ "\x7d"
  | .host _ => .ok "<opaque>"

def displayItems : List Value → Except NumberFault String
  | [] => .ok ""
  | v :: rest => do
    let shown ← display v
    let more ← displayItems rest
    return if rest.isEmpty then shown else shown ++ ", " ++ more

def displayFields : List (String × Value) → Except NumberFault String
  | [] => .ok ""
  | (k, v) :: rest => do
    let shown := Text.quoted k ++ ": " ++ (← display v)
    let more ← displayFields rest
    return if rest.isEmpty then shown else shown ++ ", " ++ more

end

def plainText : Value → Except NumberFault String
  | .text s => .ok s
  | v => v.display

end Value
end Storyline
