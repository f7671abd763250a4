import Storyline.Value

namespace Storyline.Schema

inductive Place where
  | field (name : String)
  | item (index : Nat)
  deriving DecidableEq

inductive Mismatch where
  | missing
  | notText
  | tooShort
  | notBool
  | unreadableBool
  | notNumber
  | unreadableNumber
  | notInteger
  | unreadableInteger
  | hugeInteger
  | notFinite
  | fractional
  | notRecord
  | notList
  | notModel (name : String)
  | notObject
  | notOneOf (names : String)
  | notKey
  deriving DecidableEq

def Mismatch.message : Mismatch → String
  | missing => "Field required"
  | notText => "Input should be a valid string"
  | tooShort => "String should have at least 1 character"
  | notBool => "Input should be a valid boolean"
  | unreadableBool => "Input should be a valid boolean, unable to interpret input"
  | notNumber => "Input should be a valid number"
  | unreadableNumber => "Input should be a valid number, unable to parse string as a number"
  | notInteger => "Input should be a valid integer"
  | unreadableInteger => "Input should be a valid integer, unable to parse string as an integer"
  | hugeInteger => "Unable to parse input string as an integer, exceeded maximum size"
  | notFinite => "Input should be a finite number"
  | fractional => "Input should be a valid integer, got a number with a fractional part"
  | notRecord => "Input should be a valid dictionary"
  | notList => "Input should be a valid list"
  | notModel name => "Input should be a valid dictionary or instance of " ++ name
  | notObject => "Input should be a valid dictionary or object to extract fields from"
  | notOneOf names => "Input should be " ++ names
  | notKey => "Keys should be strings"

def Mismatch.code : Mismatch → String
  | missing => "missing"
  | notText => "string_type"
  | tooShort => "string_too_short"
  | notBool => "bool_type"
  | unreadableBool => "bool_parsing"
  | notNumber => "float_type"
  | unreadableNumber => "float_parsing"
  | notInteger => "int_type"
  | unreadableInteger => "int_parsing"
  | hugeInteger => "int_parsing_size"
  | notFinite => "finite_number"
  | fractional => "int_from_float"
  | notRecord => "dict_type"
  | notList => "list_type"
  | notModel _ => "model_type"
  | notObject => "model_attributes_type"
  | notOneOf _ => "literal_error"
  | notKey => "invalid_key"

/-- A mismatch with the way to it and what stands there. -/
structure Problem where
  place : List Place
  mismatch : Mismatch
  input : Value

abbrev Checked (α : Type) := Except (List Problem) α

def Place.text : Place → String
  | field name => name
  | item index => toString index

/-- The place, or a name for the whole document, and what is wrong there. -/
def Problem.message (p : Problem) : String :=
  let place := ".".intercalate (p.place.map Place.text)
  (if place.isEmpty then "envelope" else place) ++ ": " ++ p.mismatch.message

def describe (ps : List Problem) : String := "; ".intercalate (ps.map Problem.message)

def mismatch {α : Type} (m : Mismatch) (input : Value) : Checked α := .error [⟨[], m, input⟩]

def within {α : Type} (p : Place) (x : Checked α) : Checked α :=
  x.mapError fun ps => ps.map fun q => { q with place := p :: q.place }

def fill {α β : Type} (x : Checked α) (f : Checked (α → β)) : Checked β :=
  match f, x with
  | .ok f, .ok a => .ok (f a)
  | .ok _, .error ps => .error ps
  | .error ps, .ok _ => .error ps
  | .error ps, .error qs => .error (ps ++ qs)

end Storyline.Schema
