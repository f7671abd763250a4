import Storyline.Number.Reading
import Storyline.Schema.Problem

namespace Storyline.Schema

def text (v : Value) : Checked String :=
  match v with
  | .text s => .ok s
  | v => mismatch .notText v

def shownText (v : Value) : Checked String :=
  match v with
  | .text s => if s.isEmpty then mismatch .tooShort v else .ok s
  | v => mismatch .notText v

def optional {α : Type} (read : Value → Checked α) : Value → Checked (Option α)
  | .null => .ok none
  | v => (read v).map some

def trueWords : List String := ["1", "t", "true", "y", "yes", "on"]

def falseWords : List String := ["0", "f", "false", "n", "no", "off"]

/-- Two to the power of 63, the first whole number that a word of 64 bits cannot hold. -/
def wordBound : Int := Nat.pow 2 63

def isWord (n : Int) : Bool := -wordBound ≤ n && n < wordBound

def wholeWord? (d : Double) : Option Int :=
  match Double.toInt? d with
  | some n => if isWord n && n != -wordBound then some n else none
  | none => none

def boolOfInt (n : Int) (v : Value) : Checked Bool :=
  if n = 0 then .ok false else if n = 1 then .ok true else mismatch .unreadableBool v

def bool (v : Value) : Checked Bool :=
  match v with
  | .bool b => .ok b
  | .text s =>
    let word := s.toLower
    if trueWords.contains word then .ok true
    else if falseWords.contains word then .ok false
    else mismatch .unreadableBool v
  | .number (.int n) => if isWord n then boolOfInt n v else mismatch .notBool v
  | .number (.double d) =>
    match wholeWord? d with
    | some n => boolOfInt n v
    | none => mismatch .notBool v
  | v => mismatch .notBool v

def hasDoubleUnderscore : List Char → Bool
  | '_' :: '_' :: _ => true
  | _ :: rest => hasDoubleUnderscore rest
  | [] => false

def withoutUnderscores? (cs : List Char) : Option (List Char) :=
  if cs.head? == some '_' || cs.getLast? == some '_' || hasDoubleUnderscore cs then none
  else some (cs.filter (· != '_'))

def asciiDouble? (cs : List Char) : Option Double :=
  if cs.all fun c => c.toNat < 128 && c != '_' && !Text.isBlank c then Reading.signedDouble? cs
  else none

def spelledDouble? (s : String) : Option Double :=
  (asciiDouble? (Text.stripPadding s.toList)).or
    ((withoutUnderscores? s.toList).bind fun cs => asciiDouble? (Text.stripPadding cs))

/-- A double; whole numbers, booleans and spelled numbers are taken as one. -/
def double (v : Value) : Checked Double :=
  match v with
  | .number n =>
    match n.toDouble with
    | .ok d => .ok d
    | .error _ => mismatch .notNumber v
  | .bool b => .ok (if b then .ofDyadic ⟨1, 0⟩ false else .zero false)
  | .text s =>
    match spelledDouble? s with
    | some d => .ok d
    | none => mismatch .unreadableNumber v
  | v => mismatch .notNumber v

/-- The first digit that counts: zeros before it are dropped, also with underscores among them. -/
def withoutZeros? : List Char → Option (List Char)
  | '0' :: rest => afterZero? rest
  | c :: rest => if c == '-' || ('1' ≤ c && c ≤ '9') then some (c :: rest) else none
  | [] => none
where
  /-- What counts after a zero, which stays if nothing else does. -/
  afterZero? : List Char → Option (List Char)
    | '0' :: rest => afterZero? rest
    | '_' :: rest => if rest.isEmpty then none else afterZero? rest
    | '.' :: rest => some ('0' :: '.' :: rest)
    | c :: rest => if '1' ≤ c && c ≤ '9' then some (c :: rest) else none
    | [] => some ['0']

def withoutZeroFraction (cs : List Char) : List Char :=
  let whole := cs.takeWhile (· != '.')
  if (cs.drop (whole.length + 1)).all (· == '0') then whole else cs

def integerCharacters? (s : String) : Option (List Char) := do
  let cs := Text.stripPadding s.toList
  let cs ← match cs with
    | '+' :: '-' :: _ => none
    | '+' :: rest => some rest
    | cs => some cs
  let cs := withoutZeroFraction (← withoutZeros? cs)
  return (withoutUnderscores? cs).getD cs

def spelledInteger (s : String) (v : Value) : Checked Int :=
  match integerCharacters? s with
  | none => mismatch .unreadableInteger v
  | some cs =>
    if maxIntegerDigits < cs.length then mismatch .hugeInteger v
    else
      let (negative, ds) := Reading.sign cs
      if ds.isEmpty || !ds.all Char.isDigit then mismatch .unreadableInteger v
      else
        let n : Int := ofDigits (ds.map fun c => c.toNat - 48)
        .ok (if negative then -n else n)

/-- A whole number; booleans and doubles without fraction are taken as one. -/
def integer (v : Value) : Checked Int :=
  match v with
  | .number (.int n) => .ok n
  | .bool b => .ok (if b then 1 else 0)
  | .text s => spelledInteger s v
  | .number (.double d) =>
    match wholeWord? d with
    | some n => .ok n
    | none =>
      if !d.isFinite then mismatch .notFinite v
      else if (Double.toInt? d).isSome then mismatch .hugeInteger v
      else mismatch .fractional v
  | v => mismatch .notInteger v

def oneOf {α : Type} (names : String) (options : List (String × α)) (v : Value) : Checked α :=
  match v.asText?.bind (options.lookup ·) with
  | some a => .ok a
  | none => mismatch (.notOneOf names) v

end Storyline.Schema
