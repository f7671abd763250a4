import Storyline.Failing

namespace Storyline.Json
open Text

inductive WriteFault where
  | unsupported (kind : String)
  | number (fault : NumberFault)
  deriving DecidableEq

def WriteFault.message : WriteFault → String
  | unsupported kind => "Object of type " ++ kind ++ " is not JSON serializable"
  | number fault => fault.message

instance : Failing WriteFault :=
  .sorted (fun
    | .unsupported _ => .wrongKind
    | .number f => Failing.sort f) WriteFault.message

structure Layout where
  /-- Characters beyond the first 128 are written as escapes. -/
  asciiOnly : Bool
  comma : String
  colon : String
  /-- Entries stand on lines of their own, indented by this much for each level. -/
  indent : Option Nat
  /-- Host values are written as their shown text instead of being refused. -/
  showHosts : Bool

def Layout.oneLine : Layout := ⟨true, ", ", ": ", none, false⟩

def Layout.indented : Layout := ⟨true, ",", ": ", some 2, false⟩

def Layout.canonical : Layout := ⟨false, ",", ":", none, false⟩

def Layout.measuring : Layout := { Layout.oneLine with showHosts := true }

/-- A character outside the first plane is written as two units of sixteen bits. -/
def unicodeEscape (c : Char) : List Char :=
  let unit (n : Nat) : List Char := '\\' :: 'u' :: hexDigits 4 n
  if c.toNat < 0x10000 then unit c.toNat
  else
    let offset := c.toNat - 0x10000
    unit (0xD800 + offset / 0x400) ++ unit (0xDC00 + offset % 0x400)

def writeChar (asciiOnly : Bool) (c : Char) : List Char :=
  if c == '"' || c == '\\' then ['\\', c]
  else if c == '\n' then ['\\', 'n']
  else if c == '\r' then ['\\', 'r']
  else if c == '\t' then ['\\', 't']
  else if c == '\x08' then ['\\', 'b']
  else if c == '\x0c' then ['\\', 'f']
  else if c.toNat < 32 || (asciiOnly && 126 < c.toNat) then unicodeEscape c
  else [c]

def writeText (asciiOnly : Bool) (s : String) : String :=
  String.ofList ('"' :: s.toList.flatMap (writeChar asciiOnly) ++ ['"'])

def writeNumber : Number → Except WriteFault String
  | .int n => (integerText n).mapError .number
  | .double .nan => .ok "NaN"
  | .double (.infinite negative) => .ok (if negative then "-Infinity" else "Infinity")
  | .double d => .ok d.toText

def Layout.newLine (l : Layout) (depth : Nat) : String :=
  match l.indent with
  | some width => String.ofList ('\n' :: List.replicate (width * depth) ' ')
  | none => ""

mutual

def writeAt (l : Layout) (depth : Nat) : Value → Except WriteFault String
  | .null => .ok "null"
  | .bool b => .ok (if b then "true" else "false")
  | .number n => writeNumber n
  | .text s => .ok (writeText l.asciiOnly s)
  | .list [] => .ok "[]"
  | .list items => do
    return "[" ++ (← writeItems l (depth + 1) items) ++ l.newLine depth ++ "]"
  | .record [] => .ok "\x7b\x7d"
  | .record fields => do
    return "\x7b" ++ (← writeFields l (depth + 1) fields) ++ l.newLine depth ++ "\x7d"
  | .undefined =>
    if l.showHosts then .ok (writeText l.asciiOnly "undefined") else .error (.unsupported "_Undefined")
  | .host _ =>
    if l.showHosts then .ok (writeText l.asciiOnly "<opaque>") else .error (.unsupported "Opaque")

def writeItems (l : Layout) (depth : Nat) : List Value → Except WriteFault String
  | [] => .ok ""
  | v :: rest => do
    let written := l.newLine depth ++ (← writeAt l depth v)
    let more ← writeItems l depth rest
    return if rest.isEmpty then written else written ++ l.comma ++ more

def writeFields (l : Layout) (depth : Nat) : List (String × Value) → Except WriteFault String
  | [] => .ok ""
  | (k, v) :: rest => do
    let written := l.newLine depth ++ writeText l.asciiOnly k ++ l.colon ++ (← writeAt l depth v)
    let more ← writeFields l depth rest
    return if rest.isEmpty then written else written ++ l.comma ++ more

end

def write (l : Layout) (v : Value) : Except WriteFault String := writeAt l 0 v

def sortFields (fields : Entries Value) : Entries Value :=
  fields.mergeSort fun a b => a.1 ≤ b.1

mutual

/-- The same value with the fields of every record in the order of their keys. -/
def sorted : Value → Value
  | .list items => .list (sortedItems items)
  | .record fields => .record (sortFields (sortedFields fields))
  | v => v

def sortedItems : List Value → List Value
  | [] => []
  | v :: rest => sorted v :: sortedItems rest

def sortedFields : List (String × Value) → List (String × Value)
  | [] => []
  | (k, v) :: rest => (k, sorted v) :: sortedFields rest

end

def writeCanonical (v : Value) : Except WriteFault String := write .canonical (sorted v)

end Storyline.Json
