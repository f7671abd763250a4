import Storyline.Number.Decimal
import Storyline.Text.Blank
import Storyline.Text.DecimalDigit
import Storyline.Text.Quoted

namespace Storyline
open Text

def ofDigits (digits : List Nat) : Nat := digits.foldl (fun n d => 10 * n + d) 0

namespace Reading

/-- A sign in front of the rest; without one the number is not negative. -/
def sign : List Char → Bool × List Char
  | '-' :: rest => (true, rest)
  | '+' :: rest => (false, rest)
  | rest => (false, rest)

/-- The digits that follow, and what is left; an underscore may stand between two of them. -/
def digitsAfter (digitBefore : Bool) : List Char → List Nat × List Char
  | [] => ([], [])
  | c :: rest =>
    match decimalValue? c with
    | some d =>
      let (ds, left) := digitsAfter true rest
      (d :: ds, left)
    | none =>
      if digitBefore && c == '_' && rest.head?.any isDecimal then digitsAfter true rest
      else ([], c :: rest)

def digits (cs : List Char) : List Nat × List Char := digitsAfter false cs

def integer (s : String) : Except NumberFault Int :=
  let (negative, rest) := sign (stripPadding s.toList)
  let (ds, left) := digits rest
  if maxIntegerDigits < ds.length then .error (.tooLongToRead ds.length)
  else if ds.isEmpty || !left.isEmpty then .error (.notWhole (quoted s))
  else .ok (if negative then -(ofDigits ds : Int) else ofDigits ds)

def power : List Char → Option (Int × List Char)
  | c :: rest =>
    if c == 'e' || c == 'E' then
      let (negative, rest) := sign rest
      match digits rest with
      | ([], _) => none
      | (ds, left) => some (if negative then -(ofDigits ds : Int) else ofDigits ds, left)
    else some (0, c :: rest)
  | [] => some (0, [])

/-- A decimal number without its sign: digits before or after the point, or both. -/
def decimal? (cs : List Char) : Option Decimal :=
  let (whole, rest) := digits cs
  let (fraction, rest) : List Nat × List Char := match rest with
    | '.' :: more => digits more
    | _ => ([], rest)
  if whole.isEmpty && fraction.isEmpty then none
  else match power rest with
    | some (p, []) => some ⟨ofDigits (whole ++ fraction), p - fraction.length⟩
    | _ => none

/-- The double that characters denote; infinities and NaN are spelled in letters of either case. -/
def signedDouble? (cs : List Char) : Option Double :=
  let (negative, rest) := sign cs
  let word := String.ofList (rest.map Char.toLower)
  if word == "inf" || word == "infinity" then some (.infinite negative)
  else if word == "nan" then some .nan
  else (decimal? rest).map (Double.ofDecimal negative)

def double? (s : String) : Option Double := signedDouble? (stripPadding s.toList)

end Reading
end Storyline
