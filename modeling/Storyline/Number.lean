import Storyline.Number.Double

namespace Storyline

/-- An integer and a double are different values even where they are equal as numbers. -/
inductive Number where
  | int (n : Int)
  | double (d : Double)
  deriving DecidableEq

/-- Why a number could not be computed, written or read. -/
inductive NumberFault where
  | tooLargeForDouble
  | quotientTooLarge
  | tooLongToWrite
  | tooLongToRead (digits : Nat)
  | notWhole (quoted : String)
  deriving DecidableEq

namespace NumberFault

/-- A computation leaves the range of doubles; the other faults are about the text of a number. -/
def isOverflow : NumberFault → Bool
  | tooLargeForDouble | quotientTooLarge => true
  | _ => false

def message : NumberFault → String
  | tooLargeForDouble => "int too large to convert to float"
  | quotientTooLarge => "integer division result too large for a float"
  | tooLongToWrite =>
    "Exceeds the limit (4300 digits) for integer string conversion; " ++
      "use sys.set_int_max_str_digits() to increase the limit"
  | tooLongToRead digits =>
    "Exceeds the limit (4300 digits) for integer string conversion: value has " ++
      toString digits ++ " digits; use sys.set_int_max_str_digits() to increase the limit"
  | notWhole quoted => "invalid literal for int() with base 10: " ++ quoted

end NumberFault

inductive Rank where
  | least
  | at (exact : Dyadic)
  | greatest

namespace Rank

def order : Rank → Rank → Ordering
  | least, least => .eq
  | least, _ => .lt
  | _, least => .gt
  | greatest, greatest => .eq
  | greatest, _ => .gt
  | _, greatest => .lt
  | .at a, .at b => a.order b

end Rank

namespace Number

def rank? : Number → Option Rank
  | int n => some (.at ⟨n, 0⟩)
  | double .nan => none
  | double (.infinite true) => some .least
  | double (.infinite false) => some .greatest
  | double (.finite negative m e _) => some (.at ⟨if negative then -(m : Int) else m, e⟩)

def order? (a b : Number) : Option Ordering :=
  match a.rank?, b.rank? with
  | some x, some y => some (x.order y)
  | _, _ => none

/-- Equality as numbers: across kinds, never for NaN, and both zeros alike. -/
def same (a b : Number) : Bool := a.order? b == some .eq

def less (a b : Number) : Bool := a.order? b == some .lt

def lessOrSame (a b : Number) : Bool := a.less b || a.same b

def isZero : Number → Bool
  | int n => n == 0
  | double d => d.isZero

def toDouble : Number → Except NumberFault Double
  | int n => match Double.ofInt? n with
    | some d => .ok d
    | none => .error .tooLargeForDouble
  | double d => .ok d

def isNaN (a : Number) : Except NumberFault Bool := do
  return (← a.toDouble).isNaN

def isInfinite (a : Number) : Except NumberFault Bool := do
  return (← a.toDouble).isInfinite

def combine (exact : Int → Int → Int) (rounded : Double → Double → Double) :
    Number → Number → Except NumberFault Number
  | int a, int b => .ok (int (exact a b))
  | a, b => do return double (rounded (← a.toDouble) (← b.toDouble))

def add : Number → Number → Except NumberFault Number := combine (· + ·) Double.add

def sub : Number → Number → Except NumberFault Number := combine (· - ·) Double.sub

def mul : Number → Number → Except NumberFault Number := combine (· * ·) Double.mul

def neg : Number → Number
  | int n => int (-n)
  | double d => double d.neg

/-- The quotient of two integers is rounded once, so neither has to fit a double. -/
def quotient : Number → Number → Except NumberFault Double
  | int a, int b =>
    match Double.ofRatio ((a < 0) != (b < 0)) a.natAbs b.natAbs with
    | .infinite _ => .error .quotientTooLarge
    | d => .ok d
  | a, b => do return (← a.toDouble).div (← b.toDouble)

/-- Division by zero gives an infinity with the sign of the operands, or NaN for zero by zero. -/
def divide (a b : Number) : Except NumberFault Double := do
  if b.isZero then
    if a.isZero then return .nan
    let numerator ← a.toDouble
    if numerator.isNaN then return .nan
    return .infinite (numerator.isNegative != (← b.toDouble).isNegative)
  a.quotient b

/-- The remainder has the sign of the dividend; there is none for a zero divisor or an infinite
dividend. -/
def remainder (a b : Number) : Except NumberFault Double := do
  if b.isZero then return .nan
  let dividend ← a.toDouble
  if dividend.isInfinite then return .nan
  return dividend.remainder (← b.toDouble)

def toInt? : Number → Option Int
  | int n => some n
  | double d => d.toInt?

end Number
end Storyline
