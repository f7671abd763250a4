import Storyline.Template.Fault
import Storyline.Text.DecimalDigit

namespace Storyline.Template
open Text

/-- A field between braces, with its parts still as they were written. -/
structure Field where
  name : List Char
  conversion : Option Char
  spec : List Char

structure Piece where
  literal : List Char
  field : Option Field

def isBrace (c : Char) : Bool := c == '{' || c == '}'

/-- The name of a field, up to a brace, a colon or an exclamation mark outside of brackets. -/
def fieldName (inBrackets : Bool) : List Char → Except Fault (List Char × List Char)
  | [] => .ok ([], [])
  | c :: rest =>
    if inBrackets then do
      let (name, left) ← fieldName (c != ']') rest
      return (c :: name, left)
    else if c == '{' then .error .openingInName
    else if c == '}' || c == ':' || c == '!' then .ok ([], c :: rest)
    else do
      let (name, left) ← fieldName (c == '[') rest
      return (c :: name, left)

/-- The layout of a field, up to the brace that closes the field; further fields may be nested in
it, so many of which are open. -/
def fieldSpec (opened : Nat) : List Char → Except Fault (List Char × List Char)
  | [] => .error .unmatchedOpening
  | '}' :: rest =>
    match opened with
    | 0 => .ok ([], rest)
    | opened + 1 => do
      let (spec, left) ← fieldSpec opened rest
      return ('}' :: spec, left)
  | c :: rest => do
    let (spec, left) ← fieldSpec (if c == '{' then opened + 1 else opened) rest
    return (c :: spec, left)

def field (cs : List Char) : Except Fault (Field × List Char) := do
  let (name, rest) ← fieldName false cs
  match rest with
  | '}' :: rest => return (⟨name, none, []⟩, rest)
  | ':' :: rest =>
    let (spec, rest) ← fieldSpec 0 rest
    return (⟨name, none, spec⟩, rest)
  | ['!'] => .error .noConversion
  | '!' :: _ :: [] => .error .unmatchedOpening
  | '!' :: c :: '}' :: rest => return (⟨name, some c, []⟩, rest)
  | '!' :: c :: ':' :: rest =>
    let (spec, rest) ← fieldSpec 0 rest
    return (⟨name, some c, spec⟩, rest)
  | '!' :: _ => .error .noColon
  | _ => .error .noClosing

def piece (cs : List Char) : Except Fault (Piece × List Char) :=
  let literal := cs.takeWhile fun c => !isBrace c
  match cs.dropWhile fun c => !isBrace c with
  | '{' :: '{' :: rest => .ok (⟨literal ++ ['{'], none⟩, rest)
  | '}' :: '}' :: rest => .ok (⟨literal ++ ['}'], none⟩, rest)
  | '}' :: _ => .error .singleClosing
  | ['{'] => .error .singleOpening
  | '{' :: rest => do
    let (field, rest) ← field rest
    return (⟨literal, some field⟩, rest)
  | _ => .ok (⟨literal, none⟩, [])

/-- The pieces of a template, as far as it is well formed, and the fault behind them. Every piece
takes up a character, so their number is bounded by the length. -/
def piecesWithin : Nat → List Char → List Piece × Option Fault
  | 0, _ => ([], none)
  | _, [] => ([], none)
  | fuel + 1, cs =>
    match piece cs with
    | .error fault => ([], some fault)
    | .ok (p, rest) =>
      let (ps, fault) := piecesWithin fuel rest
      (p :: ps, fault)

def pieces (cs : List Char) : List Piece × Option Fault := piecesWithin cs.length cs

def maxNumber : Nat := Nat.pow 2 63 - 1

/-- The number at the front of a text, in decimal digits of any script. -/
def numberAfter (n : Option Nat) : List Char → Except Fault (Option Nat × List Char)
  | [] => .ok (n, [])
  | c :: rest =>
    match decimalValue? c with
    | none => .ok (n, c :: rest)
    | some d =>
      let next := 10 * n.getD 0 + d
      if maxNumber < next then .error .tooManyDigits else numberAfter (some next) rest

def index? (cs : List Char) : Except Fault (Option Nat) := do
  let (n, rest) ← numberAfter none cs
  return if rest.isEmpty then n else none

inductive Access where
  | member (name : List Char)
  | item (key : List Char)

def startsAccess (c : Char) : Bool := c == '.' || c == '['

def access (cs : List Char) : Except Fault (Access × List Char) :=
  match cs with
  | '.' :: rest =>
    let name := rest.takeWhile fun c => !startsAccess c
    if name.isEmpty then .error .emptyAttribute
    else .ok (.member name, rest.dropWhile fun c => !startsAccess c)
  | '[' :: rest =>
    let key := rest.takeWhile (· != ']')
    match rest.dropWhile (· != ']') with
    | _ :: left => if key.isEmpty then .error .emptyAttribute else .ok (.item key, left)
    | [] => .error .noBracket
  | _ => .error .afterBracket

end Storyline.Template
