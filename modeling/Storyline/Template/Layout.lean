import Storyline.Template.Pattern

namespace Storyline.Template
open Text

inductive Align where
  | left
  | right
  | center
  /-- Between sign and digits. -/
  | inside
  deriving DecidableEq

def Align.ofChar? : Char → Option Align
  | '<' => some left
  | '>' => some right
  | '^' => some center
  | '=' => some inside
  | _ => none

structure Spec where
  fill : Char
  align : Align
  sign : Option Char
  noNegativeZero : Bool
  alternate : Bool
  width : Nat
  separator : Option Char
  precision : Option Nat
  code : Option Char

def oneOf (options : List Char) : List Char → Option Char × List Char
  | c :: rest => if options.contains c then (some c, rest) else (none, c :: rest)
  | [] => (none, [])

def alignment (cs : List Char) : Option Char × Option Align × List Char :=
  match cs with
  | fill :: c :: rest =>
    match Align.ofChar? c with
    | some align => (some fill, some align, rest)
    | none =>
      match Align.ofChar? fill with
      | some align => (none, some align, c :: rest)
      | none => (none, none, cs)
  | [c] =>
    match Align.ofChar? c with
    | some align => (none, some align, [])
    | none => (none, none, cs)
  | [] => (none, none, [])

def readSeparator (cs : List Char) : Except Fault (Option Char × List Char) :=
  match oneOf [','] cs with
  | (some _, '_' :: _) => .error .twoSeparators
  | (some c, rest) => .ok (some c, rest)
  | (none, '_' :: ',' :: _) => .error .twoSeparators
  | (none, '_' :: rest) => .ok (some '_', rest)
  | (none, rest) => .ok (none, rest)

def readPrecision (cs : List Char) : Except Fault (Option Nat × List Char) :=
  match cs with
  | '.' :: rest => do
    match ← numberAfter none rest with
    | (none, _) => .error .noPrecision
    | found => return found
  | cs => .ok (none, cs)

def groupedCodes : List Char := ['d', 'e', 'f', 'g', 'E', 'G', '%', 'F']

/-- Codes of other bases, whose digits are separated by underscores only. -/
def baseCodes : List Char := ['b', 'o', 'x', 'X']

def allowsSeparator (separator code : Char) : Bool :=
  groupedCodes.contains code || (separator == '_' && baseCodes.contains code)

/-- Reads a layout for a value of some kind. Numbers stand at the right, texts at the left. -/
def Spec.read (numeric : Bool) (kind : String) (cs : List Char) : Except Fault Spec := do
  let (fill, align, rest) := alignment cs
  let (sign, rest) := oneOf [' ', '+', '-'] rest
  let (z, rest) := oneOf ['z'] rest
  let (alternate, rest) := oneOf ['#'] rest
  let (zero, rest) := if fill.isNone then oneOf ['0'] rest else (none, rest)
  let (width, rest) ← numberAfter none rest
  let (separator, rest) ← readSeparator rest
  let (precision, rest) ← readPrecision rest
  let code ← match rest with
    | [] => pure none
    | [c] => pure (some c)
    | _ => .error (.invalidSpecifier (String.ofList cs) kind)
  match separator with
  | some s =>
    let code := code.getD (if numeric then 'd' else 's')
    if !allowsSeparator s code then .error (.separatorWith s code)
  | none => pure ()
  let default : Align :=
    if !numeric then .left else if zero.isSome && align.isNone then .inside else .right
  return { fill := fill.getD (if zero.isSome then '0' else ' '), align := align.getD default, sign
           noNegativeZero := z.isSome, alternate := alternate.isSome, width := width.getD 0
           separator, precision, code }

/-- How many fill characters go before, inside and behind a text of some length. -/
def Spec.padding (s : Spec) (length : Nat) : Nat × Nat × Nat :=
  let room := s.width - length
  match s.align with
  | .left => (0, 0, room)
  | .right => (room, 0, 0)
  | .center => (room / 2, 0, room - room / 2)
  | .inside => (0, room, 0)

def Spec.text (s : Spec) (cs : List Char) : Except Fault (List Char) :=
  match s.code with
  | some 's' | none =>
    match s.sign with
    | some c => .error (.signInText (c == ' '))
    | none =>
      if s.noNegativeZero then .error .zeroInText
      else if s.alternate then .error .alternateInText
      else if s.align = .inside then .error .alignmentInText
      else
        let cs := (s.precision.map cs.take).getD cs
        let (before, _, behind) := s.padding cs.length
        .ok (List.replicate before s.fill ++ cs ++ List.replicate behind s.fill)
  | some c => .error (.unknownCode c "str")

structure Written where
  negative : Bool
  basePrefix : List Char
  digits : List Char
  /-- The point and all that follows, or whatever follows the digits. -/
  tail : List Char

/-- Digits from the last to the first in groups. Zeros are put before them until there are so many
characters. -/
def grouped (size : Nat) (separator : Char) : (fuel : Nat) → (room : Int) → List Char → List Char
  | 0, _, _ => []
  | fuel + 1, room, ds =>
    let count := min (size : Int) (max (max (ds.length : Int) room) 1) |>.toNat
    let chars := ds.take count
    let group := chars ++ List.replicate (count - chars.length) '0'
    let left := ds.drop count
    let room := room - count
    if left.isEmpty && room ≤ 0 then group
    else group ++ separator :: grouped size separator fuel (room - 1) left

/-- The digits with separators, and zeros up to a width if it is filled with them. -/
def Spec.digits (s : Spec) (others : Nat) (ds : List Char) : List Char :=
  let room : Int := if s.fill == '0' && s.align = .inside then (s.width : Int) - others else 0
  match s.separator with
  | none => List.replicate (room - ds.length).toNat '0' ++ ds
  | some separator =>
    let size := if baseCodes.contains (s.code.getD 'd') then 4 else 3
    (grouped size separator (ds.length + s.width + 1) room ds.reverse).reverse

def Spec.number (s : Spec) (w : Written) : List Char :=
  let sign : List Char :=
    if w.negative then ['-'] else if s.sign == some '+' then ['+']
    else if s.sign == some ' ' then [' '] else []
  let others := sign.length + w.basePrefix.length + w.tail.length
  let digits := if w.digits.isEmpty then [] else s.digits others w.digits
  let (before, inside, behind) := s.padding (others + digits.length)
  List.replicate before s.fill ++ sign ++ w.basePrefix ++ List.replicate inside s.fill ++ digits ++
    w.tail ++ List.replicate behind s.fill

end Storyline.Template
