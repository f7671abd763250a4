namespace Storyline

/-- The mantissa and exponent of a finite binary64 value are the only ones that denote it. -/
def Canonical (mantissa : Nat) (exponent : Int) : Prop :=
  mantissa < Nat.pow 2 53 ∧ -1074 ≤ exponent ∧ exponent ≤ 971 ∧
    (Nat.pow 2 52 ≤ mantissa ∨ exponent = -1074)

instance (mantissa : Nat) (exponent : Int) : Decidable (Canonical mantissa exponent) := by
  unfold Canonical; infer_instance

/-- A finite value is ±mantissa · 2^exponent in its only canonical form, so zeros keep their
sign. -/
inductive Double where
  | nan
  | infinite (negative : Bool)
  | finite (negative : Bool) (mantissa : Nat) (exponent : Int)
      (canonical : Canonical mantissa exponent)
  deriving DecidableEq

/-- The rational number numerator · 2^exponent, written in no particular form. -/
structure Dyadic where
  numerator : Int
  exponent : Int

namespace Dyadic

def numeratorAt (d : Dyadic) (exponent : Int) : Int :=
  d.numerator * Nat.pow 2 (d.exponent - exponent).toNat

def order (a b : Dyadic) : Ordering :=
  let low := min a.exponent b.exponent
  compare (a.numeratorAt low) (b.numeratorAt low)

def add (a b : Dyadic) : Dyadic :=
  let low := min a.exponent b.exponent
  ⟨a.numeratorAt low + b.numeratorAt low, low⟩

def mul (a b : Dyadic) : Dyadic :=
  ⟨a.numerator * b.numerator, a.exponent + b.exponent⟩

/-- The remainder of the quotient rounded toward zero, with the sign of the dividend. -/
def remainder (a b : Dyadic) : Dyadic :=
  let low := min a.exponent b.exponent
  ⟨(a.numeratorAt low).tmod (b.numeratorAt low), low⟩

def ratio (d : Dyadic) : Int × Nat :=
  (d.numerator * Nat.pow 2 d.exponent.toNat, Nat.pow 2 (-d.exponent).toNat)

end Dyadic

namespace Double

theorem canonical_zero : Canonical 0 (-1074) := by decide

def zero (negative : Bool) : Double := finite negative 0 (-1074) canonical_zero

def make (negative : Bool) (mantissa : Nat) (exponent : Int) : Double :=
  if h : Canonical mantissa exponent then finite negative mantissa exponent h
  else infinite negative

/-- The integer nearest to a quotient; a half goes to the even neighbour. -/
def roundQuotient (num den : Nat) : Nat :=
  let q := num / den
  let twice := 2 * (num % den)
  if twice < den ∨ (twice = den ∧ q % 2 = 0) then q else q + 1

def leadingPlace (num den : Nat) : Int :=
  let guess : Int := (Nat.log2 num : Int) - Nat.log2 den
  if den * Nat.pow 2 guess.toNat ≤ num * Nat.pow 2 (-guess).toNat then guess else guess - 1

def ofRatio (negative : Bool) (num den : Nat) : Double :=
  if num = 0 then zero negative
  else
    let exponent := max (leadingPlace num den - 52) (-1074)
    let mantissa :=
      roundQuotient (num * Nat.pow 2 (-exponent).toNat) (den * Nat.pow 2 exponent.toNat)
    if mantissa = Nat.pow 2 53 then make negative (Nat.pow 2 52) (exponent + 1)
    else make negative mantissa exponent

/-- The value nearest to a dyadic number; the sign of an exact zero is given. -/
def ofDyadic (d : Dyadic) (zeroNegative : Bool) : Double :=
  let (num, den) := d.ratio
  if num = 0 then zero zeroNegative else ofRatio (num < 0) num.natAbs den

def ofInt? (n : Int) : Option Double :=
  match ofRatio (n < 0) n.natAbs 1 with
  | infinite _ => none
  | d => some d

def isNaN : Double → Bool
  | nan => true
  | _ => false

def isInfinite : Double → Bool
  | infinite _ => true
  | _ => false

def isFinite : Double → Bool
  | finite .. => true
  | _ => false

def isNegative : Double → Bool
  | nan => false
  | infinite negative => negative
  | finite negative .. => negative

def isZero : Double → Bool
  | finite _ m .. => m == 0
  | _ => false

def dyadic? : Double → Option Dyadic
  | finite negative m e _ => some ⟨if negative then -(m : Int) else m, e⟩
  | _ => none

def neg : Double → Double
  | nan => nan
  | infinite negative => infinite (!negative)
  | finite negative m e h => finite (!negative) m e h

def add : Double → Double → Double
  | nan, _ | _, nan => nan
  | infinite a, infinite b => if a == b then infinite a else nan
  | infinite a, _ | _, infinite a => infinite a
  | finite an am ae _, finite bn bm be _ =>
    ofDyadic (Dyadic.add ⟨if an then -(am : Int) else am, ae⟩ ⟨if bn then -(bm : Int) else bm, be⟩)
      (an && bn)

def sub (a b : Double) : Double := add a b.neg

def mul (a b : Double) : Double :=
  let negative := a.isNegative != b.isNegative
  match a, b with
  | nan, _ | _, nan => nan
  | infinite _, b => if b.isZero then nan else infinite negative
  | a, infinite _ => if a.isZero then nan else infinite negative
  | finite _ am ae _, finite _ bm be _ =>
    let (num, den) := Dyadic.ratio ⟨(am * bm : Nat), ae + be⟩
    ofRatio negative num.natAbs den

/-- Division of a number by zero is infinite, of zero by zero undefined. -/
def div (a b : Double) : Double :=
  let negative := a.isNegative != b.isNegative
  match a, b with
  | nan, _ | _, nan => nan
  | infinite _, infinite _ => nan
  | infinite _, _ => infinite negative
  | _, infinite _ => zero negative
  | finite _ am ae _, finite _ bm be _ =>
    if bm = 0 then (if am = 0 then nan else infinite negative)
    else
      let shift := ae - be
      ofRatio negative (am * Nat.pow 2 shift.toNat) (bm * Nat.pow 2 (-shift).toNat)

def remainder : Double → Double → Double
  | nan, _ | _, nan => nan
  | infinite _, _ => nan
  | a, infinite _ => a
  | finite an am ae _, finite _ bm be _ =>
    if bm = 0 then nan
    else ofDyadic (Dyadic.remainder ⟨if an then -(am : Int) else am, ae⟩ ⟨bm, be⟩) an

def toInt? (d : Double) : Option Int :=
  d.dyadic?.bind fun x =>
    let (num, den) := x.ratio
    if num % den = 0 then some (num / den) else none

def truncate? (d : Double) : Option Int :=
  d.dyadic?.map fun x => let (num, den) := x.ratio; num.tdiv den

end Double
end Storyline
