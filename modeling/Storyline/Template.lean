import Storyline.Entries
import Storyline.Template.Number

namespace Storyline.Template
open Text

/-- A value that can be put into a name, or the kind of one. -/
inductive Datum where
  | text (s : String)
  | number (n : Int)
  | kind (name : String)

namespace Datum

def kindName : Datum → String
  | text _ => "str"
  | number _ => "int"
  | kind _ => "type"

/-- The parts of a number as a fraction and as a complex number, the kind of a value, and the name
of a kind. -/
def member (d : Datum) (name : String) : Except Fault Datum :=
  match d, name with
  | number n, "real" => .ok (.number n)
  | number n, "numerator" => .ok (.number n)
  | number _, "imag" => .ok (.number 0)
  | number _, "denominator" => .ok (.number 1)
  | d, "__class__" => .ok (.kind d.kindName)
  | kind k, "__name__" => .ok (.text k)
  | kind k, name => .error (.noKindAttribute k name)
  | d, name => .error (.noAttribute d.kindName name)

def item (d : Datum) (key : List Char) : Except Fault Datum := do
  match ← index? key, d with
  | _, number _ => .error (.notSubscriptable d.kindName)
  | _, kind k => .error (.kindNotSubscriptable k)
  | none, text _ => .error .indexText
  | some i, text s =>
    match s.toList[i]? with
    | some c => return .text c.toString
    | none => .error .indexRange

def access (d : Datum) : Access → Except Fault Datum
  | .member name => d.member (String.ofList name)
  | .item key => d.item key

def followWithin : Nat → Datum → List Char → Except Fault Datum
  | _, d, [] => .ok d
  | 0, d, _ => .ok d
  | fuel + 1, d, cs => do
    let (step, rest) ← Template.access cs
    followWithin fuel (← d.access step) rest

def follow (d : Datum) (cs : List Char) : Except Fault Datum := followWithin cs.length d cs

def plain : Datum → Except Fault String
  | text s => .ok s
  | number n => (integerText n).mapError .number
  | kind k => .ok ("<class '" ++ k ++ "'>")

def shown : Datum → Except Fault String
  | text s => .ok (quoted s)
  | d => d.plain

def convert (d : Datum) : Option Char → Except Fault Datum
  | none => .ok d
  | some 's' => d.plain.map .text
  | some 'r' => d.shown.map .text
  | some 'a' => do
    let s ← d.shown
    return .text (String.ofList (s.toList.flatMap fun c =>
      if c.toNat < 128 then [c] else escapeChar c))
  | some c => .error (.unknownConversion c)

def write (d : Datum) (spec : List Char) : Except Fault (List Char) :=
  if spec.isEmpty then d.plain.map String.toList
  else match d with
    | text s => do (← Spec.read false "str" spec).text s.toList
    | number n => do (← Spec.read true "int" spec).integer n
    | kind _ => .error .layoutOfKind

end Datum

abbrev Names := Entries Datum

/-- The value that a field names. Values have no positions, so a field without name or with a
number names nothing. -/
def lookUp (names : Names) (name : List Char) : Except Fault Datum := do
  let first := name.takeWhile fun c => !startsAccess c
  let rest := name.dropWhile fun c => !startsAccess c
  if first.isEmpty then .error (.position 0)
  match ← index? first with
  | some i => .error (.position i)
  | none =>
    match names.get? (String.ofList first) with
    | some d => d.follow rest
    | none => .error (.unknownName (String.ofList first))

/-- One piece with its field filled in. The layout may have fields itself. -/
def fillPiece (fillSpec : List Char → Except Fault (List Char)) (names : Names) (p : Piece) :
    Except Fault (List Char) :=
  match p.field with
  | none => .ok p.literal
  | some f => do
    let d ← lookUp names f.name
    let d ← d.convert f.conversion
    let spec ← if f.spec.contains '{' then fillSpec f.spec else pure f.spec
    return p.literal ++ (← d.write spec)

/-- A template whose fields may nest so deep. The first fault in reading order counts. -/
def fillWithin (names : Names) : Nat → List Char → Except Fault (List Char)
  | 0, _ => .error .tooDeep
  | depth + 1, cs => do
    let (ps, fault) := pieces cs
    let parts ← ps.mapM (fillPiece (fillWithin names depth) names)
    match fault with
    | some fault => .error fault
    | none => return parts.flatten

def fill (names : Names) (template : String) : Except Fault String :=
  (fillWithin names 2 template.toList).map String.ofList

end Storyline.Template
