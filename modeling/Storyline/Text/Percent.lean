import Storyline.Text.Pieces

namespace Storyline.Text

def hexValue? (b : UInt8) : Option UInt8 :=
  if 48 ≤ b && b ≤ 57 then some (b - 48)
  else if 65 ≤ b && b ≤ 70 then some (b - 55)
  else if 97 ≤ b && b ≤ 102 then some (b - 87)
  else none

/-- The bytes with escapes replaced by what they stand for. What is no escape stays. -/
def unescaped : List UInt8 → List UInt8
  | 37 :: a :: b :: rest =>
    match hexValue? a, hexValue? b with
    | some x, some y => (16 * x + y) :: unescaped rest
    | _, _ => 37 :: unescaped (a :: b :: rest)
  | b :: rest => b :: unescaped rest
  | [] => []

/-- The bounds of the second byte of a character, and how many bytes follow the first. -/
def followers (first : UInt8) : UInt8 × UInt8 × Nat :=
  if first < 0xC2 then (0, 0, 0)
  else if first < 0xE0 then (0x80, 0xBF, 1)
  else if first == 0xE0 then (0xA0, 0xBF, 2)
  else if first == 0xED then (0x80, 0x9F, 2)
  else if first < 0xF0 then (0x80, 0xBF, 2)
  else if first == 0xF0 then (0x90, 0xBF, 3)
  else if first < 0xF4 then (0x80, 0xBF, 3)
  else if first == 0xF4 then (0x80, 0x8F, 3)
  else (0, 0, 0)

/-- The bytes that go on with a character: at most so many, the first within bounds. -/
def continuation (low high : UInt8) : Nat → List UInt8 → List UInt8
  | 0, _ => []
  | _, [] => []
  | n + 1, b :: rest =>
    if low ≤ b && b ≤ high then b :: continuation 0x80 0xBF n rest else []

def firstBits (first : UInt8) (count : Nat) : Nat :=
  match count with
  | 1 => first.toNat % 32
  | 2 => first.toNat % 16
  | _ => first.toNat % 8

def charactersOf : Nat → List UInt8 → List Char
  | 0, _ | _, [] => []
  | n + 1, first :: rest =>
    if first < 0x80 then Char.ofNat first.toNat :: charactersOf n rest
    else
      let (low, high, count) := followers first
      let more := continuation low high count rest
      let code := more.foldl (fun code b => 64 * code + b.toNat % 64) (firstBits first count)
      let c := if count = 0 || more.length < count then Char.ofNat 0xFFFD else Char.ofNat code
      c :: charactersOf n (rest.drop more.length)

def percentDecoded (s : String) : String :=
  let bytes := unescaped s.toUTF8.toList
  String.ofList (charactersOf bytes.length bytes)

end Storyline.Text
