import Storyline.Number.Decimal
import Storyline.Template.Layout

namespace Storyline.Template
open Text

/-- A number cut to so many leading digits, at least one, and the exponent of the first. -/
def significant (count n : Nat) : List Char × Nat :=
  let ds := Nat.toDigits 10 n
  if ds.length ≤ count then (ds ++ List.replicate (count - ds.length) '0', ds.length - 1)
  else
    let m := Nat.toDigits 10 (Double.roundQuotient n (Nat.pow 10 (ds.length - count)))
    if count < m.length then (m.take count, ds.length) else (m, ds.length - 1)

/-- A point with digits behind it; with none there is no point, unless it is asked for. -/
def fraction (alternate : Bool) (ds : List Char) : List Char :=
  if ds.isEmpty && !alternate then [] else '.' :: ds

def exponent (mark : Char) (e : Nat) : List Char :=
  let ds := Nat.toDigits 10 e
  mark :: '+' :: (if ds.length < 2 then '0' :: ds else ds)

def dropZeros (ds : List Char) : List Char := (ds.reverse.dropWhile (· == '0')).reverse

def scientific (s : Spec) (mark : Char) (places n : Nat) : List Char × List Char :=
  let (ds, e) := significant (places + 1) n
  (ds.take 1, fraction s.alternate (ds.drop 1) ++ exponent mark e)

/-- With an exponent only if the number is long, and without idle zeros. -/
def general (s : Spec) (mark : Char) (places n : Nat) : List Char × List Char :=
  let places := max places 1
  let (ds, e) := significant places n
  let keep (ds : List Char) : List Char := if s.alternate then ds else dropZeros ds
  if e < places then (ds.take (e + 1), fraction s.alternate (keep (ds.drop (e + 1))))
  else (ds.take 1, fraction s.alternate (keep (ds.drop 1)) ++ exponent mark e)

def fixed (s : Spec) (places n : Nat) : List Char × List Char :=
  (Nat.toDigits 10 n, fraction s.alternate (List.replicate places '0'))

def maxPrecision : Nat := Nat.pow 2 31 - 1

def roundedToDouble (n : Int) : Except Fault Int :=
  match (Number.int n).toDouble with
  | .error fault => .error (.number fault)
  | .ok d => .ok (d.toInt?.getD n)

def hundredfold (n : Int) : Except Fault Int :=
  match (Number.int n).toDouble with
  | .error fault => .error (.number fault)
  | .ok d => .ok ((d.mul (.ofDyadic ⟨100, 0⟩ false)).toInt?.getD (100 * n))

def Spec.double (s : Spec) (code : Char) (n : Int) : Except Fault (List Char) := do
  let n ← roundedToDouble n
  let places := s.precision.getD 6
  if maxPrecision < places then .error .hugePrecision
  let size := n.natAbs
  let (digits, tail) ← match code with
    | 'e' => pure (scientific s 'e' places size)
    | 'E' => pure (scientific s 'E' places size)
    | 'g' => pure (general s 'e' places size)
    | 'G' => pure (general s 'E' places size)
    | '%' => do
      let (digits, tail) := fixed s places (← hundredfold n).natAbs
      pure (digits, tail ++ ['%'])
    | _ => pure (fixed s places size)
  return s.number ⟨n < 0, [], digits, tail⟩

/-- The base of a code, and what stands before its digits in alternate form. -/
def baseOf (code : Char) : Nat × List Char :=
  match code with
  | 'b' => (2, ['0', 'b'])
  | 'o' => (8, ['0', 'o'])
  | 'x' => (16, ['0', 'x'])
  | 'X' => (16, ['0', 'X'])
  | _ => (10, [])

def Spec.character (s : Spec) (n : Int) : Except Fault (List Char) :=
  if s.sign.isSome then .error .signInCharacter
  else if s.alternate then .error .alternateInCharacter
  else if n < 0 || 0x10FFFF < n then .error .characterRange
  else .ok (s.number ⟨false, [], [], [Char.ofNat n.toNat]⟩)

def Spec.integer (s : Spec) (n : Int) : Except Fault (List Char) :=
  let code := s.code.getD 'd'
  if ['e', 'E', 'f', 'F', 'g', 'G', '%'].contains code then s.double code n
  else if !(['b', 'c', 'd', 'o', 'x', 'X', 'n'].contains code) then
    .error (.unknownCode code "int")
  else if s.precision.isSome then .error .precisionInInteger
  else if s.noNegativeZero then .error .zeroInInteger
  else if code == 'c' then s.character n
  else
    let (base, mark) := baseOf code
    let digits := Nat.toDigits base n.natAbs
    let digits := if code == 'X' then digits.map Char.toUpper else digits
    .ok (s.number ⟨n < 0, if s.alternate then mark else [], digits, []⟩)

end Storyline.Template
