import Storyline.Number

namespace Storyline

structure Decimal where
  digits : Nat
  exponent : Int
  deriving DecidableEq

def digitCount (n : Nat) : Nat := (Nat.toDigits 10 n).length

namespace Double

/-- The value nearest to a decimal; exponents beyond every double are settled without computing. -/
def ofDecimal (negative : Bool) (d : Decimal) : Double :=
  if d.digits = 0 then zero negative
  else
    let top := d.exponent + digitCount d.digits
    if top > 400 then infinite negative
    else if top < -400 then zero negative
    else
      ofRatio negative (d.digits * Nat.pow 10 d.exponent.toNat) (Nat.pow 10 (-d.exponent).toNat)

end Double

namespace Decimal

def leadingPlace (num den : Nat) : Int :=
  if den ≤ num then (digitCount (num / den) : Int) - 1
  else -(digitCount ((den + num - 1) / num - 1) : Int)

/-- Of the two decimals around a quotient at one place, the one that reads back; of two the nearer,
and at a tie the even one. -/
def atPlace? (target : Double) (num den : Nat) (place : Int) : Option Decimal :=
  let num := num * Nat.pow 10 (-place).toNat
  let den := den * Nat.pow 10 place.toNat
  let below : Decimal := ⟨num / den, place⟩
  let above : Decimal := ⟨num / den + 1, place⟩
  match Double.ofDecimal false below == target, Double.ofDecimal false above == target with
  | true, true => some (if Double.roundQuotient num den == below.digits then below else above)
  | true, false => some below
  | false, true => some above
  | false, false => none

def search? (target : Double) (num den : Nat) : Nat → Int → Option Decimal
  | 0, _ => none
  | places + 1, place =>
    match atPlace? target num den place with
    | some d => some d
    | none => search? target num den places (place - 1)

/-- The shortest decimal that reads back to mantissa · 2^exponent, or else its exact decimal. -/
def shortest (mantissa : Nat) (exponent : Int) : Decimal :=
  let num := mantissa * Nat.pow 2 exponent.toNat
  let den := Nat.pow 2 (-exponent).toNat
  match search? (.make false mantissa exponent) num den 17 (leadingPlace num den) with
  | some d => d
  | none => ⟨num * Nat.pow 5 (-exponent).toNat, min exponent 0⟩

def significant (d : Decimal) : List Char :=
  ((Nat.toDigits 10 d.digits).reverse.dropWhile (· == '0')).reverse

def firstPlace (d : Decimal) : Int := d.exponent + digitCount d.digits - 1

/-- Numbers from a ten-thousandth up to ten quadrillions are written out, the others with an
exponent of at least two digits. -/
def layout (d : Decimal) : List Char :=
  let digits := d.significant
  let place := d.firstPlace
  let zeros (n : Int) : List Char := List.replicate n.toNat '0'
  if -4 ≤ place && place < 0 then '0' :: '.' :: zeros (-place - 1) ++ digits
  else if 0 ≤ place && place < 16 then
    let whole := place.toNat + 1
    digits.take whole ++ zeros (whole - digits.length) ++
      '.' :: (if digits.length ≤ whole then ['0'] else digits.drop whole)
  else
    let power := Nat.toDigits 10 place.natAbs
    digits.take 1 ++ (if digits.length ≤ 1 then [] else '.' :: digits.drop 1) ++
      ['e', if place < 0 then '-' else '+'] ++ zeros (2 - power.length) ++ power

end Decimal

namespace Double

/-- The text of a finite value; a whole one ends in a zero place, so it is not taken for an
integer. -/
def finiteText (negative : Bool) (mantissa : Nat) (exponent : Int) : String :=
  let digits := if mantissa = 0 then ['0', '.', '0'] else (Decimal.shortest mantissa exponent).layout
  String.ofList (if negative then '-' :: digits else digits)

def toText : Double → String
  | nan => "nan"
  | infinite negative => if negative then "-inf" else "inf"
  | finite negative m e _ => finiteText negative m e

end Double

def maxIntegerDigits : Nat := 4300

def integerText (n : Int) : Except NumberFault String :=
  let digits := Nat.toDigits 10 n.natAbs
  if maxIntegerDigits < digits.length then .error .tooLongToWrite
  else .ok (String.ofList (if n < 0 then '-' :: digits else digits))

namespace Number

def toText : Number → Except NumberFault String
  | int n => integerText n
  | double d => .ok d.toText

end Number
end Storyline
