import Storyline.Value
import Storyline.Number.Reading

namespace Storyline.Json

inductive Mistake where
  | noValue
  | noPropertyName
  | noColon
  | noComma
  | unterminatedString
  | controlCharacter
  | badEscape
  | badUnicodeEscape
  | extraData
  | byteOrderMark
  deriving DecidableEq

def Mistake.message : Mistake → String
  | noValue => "Expecting value"
  | noPropertyName => "Expecting property name enclosed in double quotes"
  | noColon => "Expecting ':' delimiter"
  | noComma => "Expecting ',' delimiter"
  | unterminatedString => "Unterminated string starting at"
  | controlCharacter => "Invalid control character at"
  | badEscape => "Invalid \\escape"
  | badUnicodeEscape => "Invalid \\uXXXX escape"
  | extraData => "Extra data"
  | byteOrderMark => "Unexpected UTF-8 BOM (decode using utf-8-sig)"

/-- Why a text is not read: a mistake at a character, or an integer that is too long. -/
inductive ReadFault where
  | mistake (mistake : Mistake) (position : Nat) (line : Nat) (column : Nat)
  | number (fault : NumberFault)
  deriving DecidableEq

def ReadFault.message : ReadFault → String
  | mistake m position line column =>
    m.message ++ ": line " ++ toString line ++ " column " ++ toString column ++
      " (char " ++ toString position ++ ")"
  | number fault => fault.message

/-- A fault inside the text, placed by how many characters were left. -/
inductive Stop where
  | mistake (mistake : Mistake) (left : Nat)
  | number (fault : NumberFault)

abbrev Reader (α : Type) := List Char → Except Stop (α × List Char)

def stop {α : Type} (m : Mistake) (left : List Char) : Except Stop α := .error (.mistake m left.length)

def isSpace (c : Char) : Bool := c == ' ' || c == '\t' || c == '\n' || c == '\r'

def skipSpace (cs : List Char) : List Char := cs.dropWhile isSpace

def hexValue? (c : Char) : Option Nat :=
  if '0' ≤ c ∧ c ≤ '9' then some (c.toNat - 48)
  else if 'a' ≤ c ∧ c ≤ 'f' then some (c.toNat - 87)
  else if 'A' ≤ c ∧ c ≤ 'F' then some (c.toNat - 55)
  else none

def unit? : List Char → Option (Nat × List Char)
  | a :: b :: c :: d :: rest =>
    if rest.isEmpty then none
    else do
      let digits ← [a, b, c, d].mapM hexValue?
      return (digits.foldl (fun n x => 16 * n + x) 0, rest)
  | _ => none

/-- The character behind a backslash and a u; two units may make one character. A unit that is half
of a pair is no character, and stands as NUL. -/
def unicode (cs : List Char) : Except Stop (Char × List Char) :=
  match unit? cs with
  | none => .error (.mistake .badUnicodeEscape (cs.length + 1))
  | some (high, rest) =>
    match rest with
    | '\\' :: 'u' :: more =>
      if 0xD800 ≤ high ∧ high < 0xDC00 ∧ 5 ≤ more.length then
        match unit? more with
        | none => .error (.mistake .badUnicodeEscape (more.length + 1))
        | some (low, left) =>
          if 0xDC00 ≤ low ∧ low < 0xE000 then
            .ok (Char.ofNat (0x10000 + (high - 0xD800) * 0x400 + (low - 0xDC00)), left)
          else .ok (Char.ofNat high, rest)
      else .ok (Char.ofNat high, rest)
    | _ => .ok (Char.ofNat high, rest)

/-- The characters of a string up to its closing quote; `left` counts from its opening one. -/
def stringBody (left : Nat) : Nat → List Char → List Char → Except Stop (String × List Char)
  | 0, _, _ => .error (.mistake .unterminatedString left)
  | _, _, [] => .error (.mistake .unterminatedString left)
  | fuel + 1, read, c :: rest =>
    if c == '"' then .ok (String.ofList read.reverse, rest)
    else if c == '\\' then
      match rest with
      | [] => .error (.mistake .unterminatedString left)
      | 'u' :: more => do
        let (decoded, more) ← unicode more
        stringBody left fuel (decoded :: read) more
      | e :: more =>
        match [('"', '"'), ('\\', '\\'), ('/', '/'), ('b', '\x08'), ('f', '\x0c'), ('n', '\n'),
            ('r', '\r'), ('t', '\t')].lookup e with
        | some decoded => stringBody left fuel (decoded :: read) more
        | none => stop .badEscape (c :: rest)
    else if c.toNat < 32 then stop .controlCharacter (c :: rest)
    else stringBody left fuel (c :: read) rest

def readText : Reader String := fun cs => stringBody (cs.length + 1) (cs.length + 1) [] cs

def isAsciiDigit (c : Char) : Bool := '0' ≤ c && c ≤ '9'

def asciiDigits (cs : List Char) : List Nat × List Char :=
  ((cs.takeWhile isAsciiDigit).map (·.toNat - 48), cs.dropWhile isAsciiDigit)

def fraction : List Char → List Nat × List Char
  | '.' :: rest =>
    match asciiDigits rest with
    | ([], _) => ([], '.' :: rest)
    | found => found
  | cs => ([], cs)

def power : List Char → Option Int × List Char
  | e :: rest =>
    if e == 'e' || e == 'E' then
      let (negative, digitsFrom) := Reading.sign rest
      match asciiDigits digitsFrom with
      | ([], _) => (none, e :: rest)
      | (ds, left) => (some (if negative then -(ofDigits ds : Int) else ofDigits ds), left)
    else (none, e :: rest)
  | [] => (none, [])

def minus : List Char → Bool × List Char
  | '-' :: rest => (true, rest)
  | cs => (false, cs)

def wholeDigits : List Char → List Nat × List Char
  | '0' :: rest => ([0], rest)
  | cs => asciiDigits cs

/-- A number whose whole digits have been read. It is an integer if neither a fraction nor a power
follows. -/
def behindWhole (negative : Bool) (whole : List Nat) : Reader Number := fun cs =>
  let (frac, rest) := fraction cs
  let (pow, rest) := power rest
  if frac.isEmpty && pow.isNone then
    if maxIntegerDigits < whole.length then .error (.number (.tooLongToRead whole.length))
    else .ok (.int (if negative then -(ofDigits whole : Int) else ofDigits whole), rest)
  else
    let decimal : Decimal := ⟨ofDigits (whole ++ frac), pow.getD 0 - frac.length⟩
    .ok (.double (.ofDecimal negative decimal), rest)

def readNumber : Reader Number := fun cs =>
  let (negative, start) := minus cs
  let (whole, rest) := wholeDigits start
  if whole.isEmpty then stop .noValue cs else behindWhole negative whole rest

def names : List (List Char × Value) :=
  [("null".toList, .null), ("true".toList, .bool true), ("false".toList, .bool false),
   ("NaN".toList, .double .nan), ("Infinity".toList, .double (.infinite false)),
   ("-Infinity".toList, .double (.infinite true))]

def readScalar : Reader Value := fun cs =>
  match names.find? fun n => n.1.isPrefixOf cs with
  | some (name, v) => .ok (v, cs.drop name.length)
  | none => do
    let (n, rest) ← readNumber cs
    return (.number n, rest)

mutual

/-- A value at the front of the text; every step uses up one unit of fuel. -/
def readValue : Nat → Reader Value
  | 0, cs => stop .noValue cs
  | fuel + 1, cs =>
    match cs with
    | '"' :: rest => do
      let (s, rest) ← readText rest
      return (.text s, rest)
    | '[' :: rest =>
      match skipSpace rest with
      | ']' :: rest => .ok (.list [], rest)
      | rest => do
        let (vs, rest) ← readItems fuel rest
        return (.list vs, rest)
    | '\x7b' :: rest =>
      match skipSpace rest with
      | '\x7d' :: rest => .ok (.record [], rest)
      | rest => do
        let (fs, rest) ← readFields fuel rest
        return (.record (Entries.ofList fs), rest)
    | _ => readScalar cs

def readItems : Nat → Reader (List Value)
  | 0, cs => stop .noValue cs
  | fuel + 1, cs => do
    let (v, rest) ← readValue fuel cs
    match skipSpace rest with
    | ']' :: rest => return ([v], rest)
    | ',' :: rest =>
      let (vs, rest) ← readItems fuel (skipSpace rest)
      return (v :: vs, rest)
    | rest => stop .noComma rest

def readFields : Nat → Reader (List (String × Value))
  | 0, cs => stop .noPropertyName cs
  | fuel + 1, cs =>
    match cs with
    | '"' :: rest => do
      let (k, rest) ← readText rest
      match skipSpace rest with
      | ':' :: rest =>
        let (v, rest) ← readValue fuel (skipSpace rest)
        match skipSpace rest with
        | '\x7d' :: rest => return ([(k, v)], rest)
        | ',' :: rest =>
          let (fs, rest) ← readFields fuel (skipSpace rest)
          return ((k, v) :: fs, rest)
        | rest => stop .noComma rest
      | rest => stop .noColon rest
    | _ => stop .noPropertyName cs

end

def locate (cs : List Char) : Stop → ReadFault
  | .number fault => .number fault
  | .mistake m left =>
    let position := cs.length - left
    let before := cs.take position
    .mistake m position (before.count '\n' + 1) ((before.reverse.takeWhile (· != '\n')).length + 1)

def readChars (cs : List Char) : Except Stop Value := do
  if cs.head? == some (Char.ofNat 0xFEFF) then stop .byteOrderMark cs
  let (v, rest) ← readValue (2 * cs.length + 2) (skipSpace cs)
  match skipSpace rest with
  | [] => return v
  | rest => stop .extraData rest

def read (s : String) : Except ReadFault Value :=
  (readChars s.toList).mapError (locate s.toList)

end Storyline.Json
