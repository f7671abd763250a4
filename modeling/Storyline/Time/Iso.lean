import Storyline.Time.Calendar
import Storyline.Text.Blank
import Storyline.Number

namespace Storyline.Time

/-- Texts are read byte by byte, and a zero stands behind the last one. -/
abbrev Bytes := List UInt8

def front (bs : Bytes) : UInt8 := bs.headD 0

def isDigitByte (b : UInt8) : Bool := 48 ≤ b && b ≤ 57

def digits? : Nat → Bytes → Option (Nat × Bytes)
  | count, bs =>
    let ds := bs.take count
    if ds.length = count ∧ ds.all isDigitByte then
      some (ds.foldl (fun n b => 10 * n + (b.toNat - 48)) 0, bs.drop count)
    else none

def dash : UInt8 := 45
def plus : UInt8 := 43
def colon : UInt8 := 58
def letterW : UInt8 := 87
def letterZ : UInt8 := 90

/-- Where the date ends, told from its shape: plain or with week, with dashes or without. -/
def dateLength (bs : Bytes) : Nat :=
  let byte (i : Nat) : UInt8 := bs.getD i 0
  if bs.length = 7 then 7
  else if byte 4 == dash then
    if byte 5 == letterW then
      if 8 < bs.length ∧ byte 8 == dash then
        if bs.length = 9 then 10
        else if 10 < bs.length ∧ isDigitByte (byte 10) then 8 else 10
      else 8
    else 10
  else if byte 4 == letterW then
    let run := 7 + ((bs.drop 7).takeWhile isDigitByte).length
    if run < 9 then run else if run % 2 = 0 then 7 else 8
  else 8

/-- A date that takes up the given number of bytes, as year, month and day or as a day of a week. -/
def date? (length : Nat) (bs : Bytes) : Option Date := do
  let (year, rest) ← digits? 4 bs
  let dashed := front rest == dash
  let rest := if dashed then rest.drop 1 else rest
  /- A dash stands between all parts or none. -/
  let next (bs : Bytes) : Option Bytes :=
    if !dashed then some bs else if front bs == dash then some (bs.drop 1) else none
  if front rest == letterW then
    let (week, rest) ← digits? 2 (rest.drop 1)
    let (weekday, _) ← if bs.length - rest.length < length then digits? 1 (← next rest)
      else some (1, rest)
    Date.ofWeek? year week weekday
  else
    let (month, rest) ← digits? 2 rest
    let (day, _) ← digits? 2 (← next rest)
    return ⟨year, month, day⟩

/-- A time of day or an offset from universal time. -/
structure Clock where
  hour : Nat
  minute : Nat
  second : Nat
  microsecond : Nat

/-- A fraction of a second: its first six digits count, and further ones are skipped. -/
def fraction? (bs : Bytes) : Option (Nat × Bytes) := do
  let count := min 6 bs.length
  let (n, rest) ← digits? count bs
  return (n * Nat.pow 10 (6 - count), rest.dropWhile isDigitByte)

/-- The two-digit parts of a clock, at most so many, and the rest that is read as a fraction if
there is one. The second component tells whether something was left over. -/
def clockParts (behind : UInt8) : (parts : Nat) → (coloned : Option Bool) → Bytes →
    Option (List Nat × Option Bytes × Bool)
  | 0, _, bs => some ([], some bs, false)
  | parts + 1, coloned, bs => do
    let (value, rest) ← digits? 2 bs
    match rest with
    | [] => return ([value], none, behind != 0)
    | c :: more =>
      let coloned := coloned.getD (c == colon)
      if more.isEmpty then return ([value], none, c != 0)
      else if coloned && c == colon then
        let (values, tail, left) ← clockParts behind parts (some coloned) more
        return (value :: values, tail, left)
      else if c == 46 || c == 44 then return ([value], some more, false)
      else if !coloned then
        let (values, tail, left) ← clockParts behind parts (some coloned) (c :: more)
        return (value :: values, tail, left)
      else none

/-- A clock that takes up all the given bytes, and whether something was left over; `behind` is the
byte that follows them. -/
def clock? (behind : UInt8) (bs : Bytes) : Option (Clock × Bool) := do
  let (values, tail, left) ← clockParts behind 3 none bs
  let part (i : Nat) : Nat := values.getD i 0
  match tail with
  | none => return (⟨part 0, part 1, part 2, 0⟩, left)
  | some tail =>
    let (micro, rest) ← fraction? tail
    return (⟨part 0, part 1, part 2, micro⟩, front (rest ++ [behind]) != 0)

def Clock.seconds (c : Clock) : Nat := c.hour * 3600 + c.minute * 60 + c.second

def Clock.isTimeOfDay (c : Clock) : Bool := c.hour < 24 && c.minute < 60 && c.second < 60

def startsOffset (b : UInt8) : Bool := b == plus || b == dash || b == letterZ

/-- An offset in microseconds: Z for none, or a signed clock of less than a day. -/
def offset? (mark : UInt8) (bs : Bytes) : Option Int :=
  if mark == letterZ then (if front bs == 0 then some 0 else none)
  else do
    let (c, left) ← clock? 0 bs
    if left then none
    else if c.seconds = 0 then some 0
    else
      let micros : Int := c.seconds * 1000000 + c.microsecond
      if micros < 86400 * 1000000 then some (if mark == dash then -micros else micros) else none

/-- A time of day with an offset, which is none if the text gives none. -/
def timeOfDay? (bs : Bytes) : Option (Clock × Int) := do
  let time := bs.takeWhile fun b => !startsOffset b
  match bs.dropWhile fun b => !startsOffset b with
  | [] =>
    let (c, left) ← clock? 0 time
    if left then none else return (c, 0)
  | mark :: rest =>
    let (c, _) ← clock? mark time
    return (c, ← offset? mark rest)

def characterLength (bs : Bytes) : Nat :=
  if front bs < 0x80 then 1
  else if front bs &&& 0xF0 == 0xE0 then 3
  else if front bs &&& 0xF0 == 0xF0 then 4
  else 2

abbrev Moment := Int

def Moment.of (d : Date) (c : Clock) (offset : Int) : Moment :=
  (((d.dayNumber : Int) - epochDay) * 86400 + c.seconds) * 1000000 + c.microsecond - offset

/-- The moment that an ISO 8601 text denotes. Any character may stand between date and time, a
missing time is midnight, and a text without offset is in universal time. -/
def readBytes? (bs : Bytes) : Option Moment := do
  let length := dateLength bs
  let date ← date? length bs
  let (time, offset) ←
    if length < bs.length then
      let rest := bs.drop length
      timeOfDay? (rest.drop (characterLength rest))
    else some (⟨0, 0, 0, 0⟩, 0)
  if date.isValid && time.isTimeOfDay then some (.of date time offset) else none

def read? (text : String) : Option Moment := readBytes? text.toUTF8.toList

def seconds (ms : Int) : Double :=
  (Number.quotient (.int ms) (.int 1000)).toOption.getD (.infinite (ms < 0))

def thousand : Double := .ofDyadic ⟨1000, 0⟩ false

/-- A clock reading in milliseconds. It goes through seconds, so its last bit may be off. -/
def milliseconds (ms : Int) : Double := (seconds ms).mul thousand

def withOffset (isMark : Char → Bool) (text : String) : String :=
  match text.toList.reverse with
  | c :: rest => if isMark c then String.ofList rest.reverse ++ "+00:00" else text
  | [] => text

/-- The moment before all others, which stands for texts that denote none. -/
def beginning : Moment := -62135596800000000

def readStamp (text : String) : Moment := (read? (withOffset (· == 'Z') text)).getD beginning

def readMilliseconds? (text : String) : Option Double := do
  let moment ← read? (withOffset (fun c => c == 'Z' || c == 'z') (Text.trim text))
  let seconds ← (Number.quotient (.int moment) (.int 1000000)).toOption
  return seconds.mul thousand

def padded (width n : Nat) : String :=
  let ds := Nat.toDigits 10 n
  String.ofList (List.replicate (width - ds.length) '0' ++ ds)

def stamp (m : Moment) : String :=
  let days := m.fdiv (86400 * 1000000)
  let millis := ((m.fmod (86400 * 1000000)) / 1000).toNat
  let date := Date.ofDayNumber (days + epochDay).toNat
  padded 4 date.year ++ "-" ++ padded 2 date.month ++ "-" ++ padded 2 date.day ++ "T" ++
    padded 2 (millis / 3600000) ++ ":" ++ padded 2 (millis / 60000 % 60) ++ ":" ++
    padded 2 (millis / 1000 % 60) ++ "." ++ padded 3 (millis % 1000) ++ "Z"

end Storyline.Time
