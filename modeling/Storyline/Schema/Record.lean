import Storyline.Schema.Problem

namespace Storyline.Schema

def record (v : Value) : Checked (Entries Value) :=
  match v with
  | .record fields => .ok fields
  | v => mismatch .notRecord v

def items {α : Type} (read : Value → Checked α) (index : Nat) : List Value → Checked (List α)
  | [] => .ok []
  | v :: rest =>
    .ok List.cons |> fill (within (.item index) (read v)) |> fill (items read (index + 1) rest)

def list {α : Type} (read : Value → Checked α) (v : Value) : Checked (List α) :=
  match v with
  | .list vs => items read 0 vs
  | v => mismatch .notList v

/-- A letter after an underscore is written large, and the underscore is dropped. -/
def camel : List Char → List Char
  | '_' :: c :: rest => c.toUpper :: camel rest
  | c :: rest => c :: camel rest
  | [] => []

def wireName (plain : String) : String := String.ofList (camel plain.toList)

/-- The name under which a record has a field: on the wire first, or else plainly. -/
def nameIn? (fields : Entries Value) (plain : String) : Option String :=
  if fields.has (wireName plain) then some (wireName plain)
  else if fields.has plain then some plain
  else none

def field {α : Type} (fields : Entries Value) (plain : String) (default : α)
    (read : Value → Checked α) : Checked α :=
  match nameIn? fields plain with
  | some name => within (.field name) (read ((fields.get? name).getD .null))
  | none => .ok default

def required {α : Type} (fields : Entries Value) (plain : String) (read : Value → Checked α) :
    Checked α :=
  match nameIn? fields plain with
  | some name => within (.field name) (read ((fields.get? name).getD .null))
  | none => .error [⟨[.field (wireName plain)], .missing, .record fields⟩]

def plainField {α : Type} (fields : Entries Value) (name : String) (default : α)
    (read : Value → Checked α) : Checked α :=
  match fields.get? name with
  | some v => within (.field name) (read v)
  | none => .ok default

def plainRequired {α : Type} (fields : Entries Value) (name : String) (read : Value → Checked α) :
    Checked α :=
  match fields.get? name with
  | some v => within (.field name) (read v)
  | none => .error [⟨[.field name], .missing, .record fields⟩]

def others (fields : Entries Value) (plains : List String) : Entries Value :=
  let known := plains.filterMap (nameIn? fields)
  fields.filter fun e => !known.contains e.1

def model {α : Type} (name : String) (read : Entries Value → Checked α) (v : Value) : Checked α :=
  match v with
  | .record fields => read fields
  | v => mismatch (.notModel name) v

def object {α : Type} (read : Entries Value → Checked α) (v : Value) : Checked α :=
  match v with
  | .record fields => read fields
  | v => mismatch .notObject v

end Storyline.Schema
