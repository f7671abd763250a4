import Storyline.Text.Quoted

namespace Storyline.Digest

structure Words where
  (a b c d e f g h : UInt32)

def start : Words :=
  ⟨0x6A09E667, 0xBB67AE85, 0x3C6EF372, 0xA54FF53A,
   0x510E527F, 0x9B05688C, 0x1F83D9AB, 0x5BE0CD19⟩

def roundConstants : List UInt32 :=
  [ 0x428A2F98, 0x71374491, 0xB5C0FBCF, 0xE9B5DBA5, 0x3956C25B, 0x59F111F1,
    0x923F82A4, 0xAB1C5ED5, 0xD807AA98, 0x12835B01, 0x243185BE, 0x550C7DC3,
    0x72BE5D74, 0x80DEB1FE, 0x9BDC06A7, 0xC19BF174, 0xE49B69C1, 0xEFBE4786,
    0x0FC19DC6, 0x240CA1CC, 0x2DE92C6F, 0x4A7484AA, 0x5CB0A9DC, 0x76F988DA,
    0x983E5152, 0xA831C66D, 0xB00327C8, 0xBF597FC7, 0xC6E00BF3, 0xD5A79147,
    0x06CA6351, 0x14292967, 0x27B70A85, 0x2E1B2138, 0x4D2C6DFC, 0x53380D13,
    0x650A7354, 0x766A0ABB, 0x81C2C92E, 0x92722C85, 0xA2BFE8A1, 0xA81A664B,
    0xC24B8B70, 0xC76C51A3, 0xD192E819, 0xD6990624, 0xF40E3585, 0x106AA070,
    0x19A4C116, 0x1E376C08, 0x2748774C, 0x34B0BCB5, 0x391C0CB3, 0x4ED8AA4A,
    0x5B9CCA4F, 0x682E6FF3, 0x748F82EE, 0x78A5636F, 0x84C87814, 0x8CC70208,
    0x90BEFFFA, 0xA4506CEB, 0xBEF9A3F7, 0xC67178F2 ]

def rotate (x n : UInt32) : UInt32 := (x >>> n) ||| (x <<< (32 - n))

def word (bytes : ByteArray) (at_ : Nat) : UInt32 :=
  [0, 1, 2, 3].foldl (fun w i => (w <<< 8) ||| ((bytes.data.getD (at_ + i) 0).toUInt32)) 0

/-- The words of a block and those that follow from them, up to a given number. -/
def schedule (bytes : ByteArray) (block : Nat) : Nat → Array UInt32
  | 0 => #[]
  | t + 1 =>
    let w := schedule bytes block t
    if t < 16 then w.push (word bytes (block + 4 * t))
    else
      let x := w.getD (t - 15) 0
      let y := w.getD (t - 2) 0
      let s0 := rotate x 7 ^^^ rotate x 18 ^^^ (x >>> 3)
      let s1 := rotate y 17 ^^^ rotate y 19 ^^^ (y >>> 10)
      w.push (w.getD (t - 16) 0 + s0 + w.getD (t - 7) 0 + s1)

def round (s : Words) (k w : UInt32) : Words :=
  let s1 := rotate s.e 6 ^^^ rotate s.e 11 ^^^ rotate s.e 25
  let choice := (s.e &&& s.f) ^^^ (~~~s.e &&& s.g)
  let first := s.h + s1 + choice + k + w
  let s0 := rotate s.a 2 ^^^ rotate s.a 13 ^^^ rotate s.a 22
  let majority := (s.a &&& s.b) ^^^ (s.a &&& s.c) ^^^ (s.b &&& s.c)
  ⟨first + s0 + majority, s.a, s.b, s.c, s.d + first, s.e, s.f, s.g⟩

def compress (bytes : ByteArray) (s : Words) (block : Nat) : Words :=
  let r := (roundConstants.zip (schedule bytes block 64).toList).foldl (fun r kw => round r kw.1 kw.2) s
  ⟨s.a + r.a, s.b + r.b, s.c + r.c, s.d + r.d, s.e + r.e, s.f + r.f, s.g + r.g, s.h + r.h⟩

/-- The message with a mark behind it, filled up to whole blocks that end in its length in bits. -/
def padded (message : ByteArray) : ByteArray :=
  let zeros := (119 - message.size % 64) % 64
  let bits := 8 * message.size
  let length := (List.range 8).map fun i => (bits / Nat.pow 256 (7 - i)).toUInt8
  ⟨message.data ++ (0x80 :: List.replicate zeros 0 ++ length).toArray⟩

def sha256 (message : ByteArray) : Words :=
  let bytes := padded message
  (List.range (bytes.size / 64)).foldl (fun s i => compress bytes s (64 * i)) start

def Words.toList (s : Words) : List UInt32 := [s.a, s.b, s.c, s.d, s.e, s.f, s.g, s.h]

def hex (text : String) : String :=
  String.ofList ((sha256 text.toUTF8).toList.flatMap fun w => Text.hexDigits 8 w.toNat)

end Storyline.Digest
