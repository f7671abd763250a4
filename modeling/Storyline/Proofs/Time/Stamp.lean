import Mathlib.Algebra.Group.Nat.Defs
import Mathlib.Data.List.Basic
import Storyline.Proofs.Time.Calendar
import Storyline.Time.Iso

namespace Storyline.Time

theorem toList_toByteArray (bs : Bytes) : bs.toByteArray.toList = bs := by
  have hloop : ∀ (a : ByteArray) (n i : Nat) (behind : Bytes), a.size = i + n →
      ByteArray.toList.loop a i behind = behind.reverse ++ a.data.toList.drop i := by
    intro a n
    induction n with
    | zero =>
      intro i behind hi
      rw [ByteArray.toList.loop, if_neg (by omega)]
      have hlength : a.data.toList.length ≤ i := by
        rw [Array.length_toList, ByteArray.size_data]
        omega
      rw [List.drop_eq_nil_of_le hlength, List.append_nil]
    | succ n ih =>
      intro i behind hi
      have hlt : i < a.data.toList.length := by
        rw [Array.length_toList, ByteArray.size_data]
        omega
      rw [ByteArray.toList.loop, if_pos (by omega), ih (i + 1) _ (by omega),
        List.drop_eq_getElem_cons hlt]
      have hget : a.get! i = a.data.toList[i] :=
        (getElem!_pos a.data i (by simpa using hlt)).trans (Array.getElem_toList _).symm
      simp [hget]
  rw [ByteArray.toList, hloop _ _ 0 [] (Nat.zero_add _).symm]
  simp

theorem toUInt8_toNat {c : Char} (h : c.toNat < 128) : c.toUInt8.toNat = c.toNat :=
  (UInt32.toNat_toUInt8 c.val).trans (Nat.mod_eq_of_lt (Nat.lt_trans h (by decide)))

/-- A text of small characters has a byte for each of them. -/
theorem toUTF8_toList {cs : List Char} (h : ∀ c ∈ cs, c.toNat < 128) :
    (String.ofList cs).toUTF8.toList = cs.map Char.toUInt8 := by
  have hbytes : cs.flatMap String.utf8EncodeChar = cs.map Char.toUInt8 := by
    induction cs with
    | nil => rfl
    | cons c rest ih =>
      obtain ⟨hc, hrest⟩ := List.forall_mem_cons.mp h
      have hsize : c.utf8Size = 1 := Char.utf8Size_eq_one_iff.mpr (Nat.le_of_lt_succ hc)
      rw [List.flatMap_cons, String.utf8EncodeChar_eq_singleton hsize, ih hrest]
      rfl
  show cs.utf8Encode.toList = _
  rw [List.utf8Encode, toList_toByteArray, hbytes]

/-- The digits of a text lie between zero and nine. -/
theorem isDigit_toNat {c : Char} (h : c.isDigit = true) : 48 ≤ c.toNat ∧ c.toNat ≤ 57 := by
  have hbounds : (decide (c.val ≥ 48) && decide (c.val ≤ 57)) = true := h
  simp only [Bool.and_eq_true, decide_eq_true_eq, ge_iff_le, UInt32.le_iff_toNat_le] at hbounds
  exact hbounds

theorem isDigitByte_of_isDigit {c : Char} (h : c.isDigit = true) :
    isDigitByte c.toUInt8 = true := by
  have hdigit := isDigit_toNat h
  have hbyte : c.toUInt8.toNat = c.toNat := toUInt8_toNat (by omega)
  simp only [isDigitByte, Bool.and_eq_true, decide_eq_true_eq, UInt8.le_iff_toNat_le, hbyte]
  exact hdigit

theorem length_padded {width n : Nat} (hw : 0 < width) (h : n < 10 ^ width) :
    (padded width n).toList.length = width := by
  have := (Nat.length_toDigits_le_iff (by decide : 1 < 10) hw).mpr h
  simp [padded]
  omega

theorem isDigit_padded {width n : Nat} {c : Char} (h : c ∈ (padded width n).toList) :
    c.isDigit = true := by
  simp only [padded, String.toList_ofList, List.mem_append, List.mem_replicate] at h
  rcases h with ⟨_, rfl⟩ | h
  · rfl
  · exact Nat.isDigit_of_mem_toDigits (by decide) (by decide) h

theorem value_padded (width n : Nat) : Nat.ofDigitChars 10 (padded width n).toList 0 = n := by
  simp [padded, Nat.ofDigitChars_append, Nat.ofDigitChars_replicate_zero,
    Nat.ofDigitChars_ten_toDigits]

/-- Bytes that spell a number in so many digits. -/
structure Spells (width n : Nat) (ds : Bytes) : Prop where
  length : ds.length = width
  digits : ∀ b ∈ ds, isDigitByte b = true
  value : ds.foldl (fun n b => 10 * n + (b.toNat - 48)) 0 = n

theorem spells_padded {width n : Nat} (hw : 0 < width) (h : n < 10 ^ width) :
    Spells width n ((padded width n).toList.map Char.toUInt8) where
  length := by rw [List.length_map, length_padded hw h]
  digits := by
    intro b hb
    obtain ⟨c, hc, rfl⟩ := List.mem_map.mp hb
    exact isDigitByte_of_isDigit (isDigit_padded hc)
  value := by
    rw [List.foldl_map]
    refine Eq.trans (List.foldl_ext _ _ _ fun n c hc => ?_) (value_padded width n)
    have hdigit := isDigit_toNat (isDigit_padded hc)
    rw [toUInt8_toNat (by omega)]
    rfl

section
variable {width n year month day hour minute second milli : Nat} {y m d h i s f rest : Bytes}

theorem Spells.read (hds : Spells width n d) (rest : Bytes) :
    digits? width (d ++ rest) = some (n, rest) := by
  have htake : (d ++ rest).take width = d := List.take_left' hds.length
  have hdrop : (d ++ rest).drop width = rest := List.drop_left' hds.length
  have hall : d.all isDigitByte = true := List.all_eq_true.mpr hds.digits
  simp only [digits?, htake, hdrop, hall, hds.value, hds.length, and_self, if_true]

def dated (y m d rest : Bytes) : Bytes := y ++ dash :: (m ++ dash :: (d ++ rest))

/-- A digit is none of the marks between numbers. -/
theorem beq_mark {b mark : UInt8} (hb : isDigitByte b = true) (hmark : isDigitByte mark = false) :
    (b == mark) = false := by
  refine beq_eq_false_iff_ne.mpr fun h => ?_
  rw [h, hmark] at hb
  cases hb

theorem Spells.front (hds : Spells width n d) (hw : 0 < width) (rest : Bytes) :
    isDigitByte (front (d ++ rest)) = true := by
  cases d with
  | nil => exact absurd hds.length (Nat.ne_of_lt hw)
  | cons b more => exact hds.digits b (.head _)

theorem dateLength_dated (hy : Spells 4 year y) (hm : Spells 2 month m) (hd : Spells 2 day d) :
    dateLength (dated y m d rest) = 10 := by
  have hlength : (dated y m d rest).length ≠ 7 := by
    simp only [dated, List.length_append, List.length_cons, hy.length, hm.length, hd.length]
    omega
  have hbehind : ∀ k more, (y ++ more).getD (4 + k) 0 = more.getD k 0 := by
    intro k more
    rw [← hy.length, List.getD_eq_getElem?_getD, List.getElem?_append_right (Nat.le_add_right _ _),
      Nat.add_sub_cancel_left, List.getD_eq_getElem?_getD]
  have hdash : (dated y m d rest).getD 4 0 = dash := hbehind 0 _
  have hmonth : ((dated y m d rest).getD 5 0 == letterW) = false := by
    have hfront : ∀ bs : Bytes, bs.getD 0 0 = front bs := fun bs => by cases bs <;> rfl
    rw [dated, hbehind 1, List.getD_cons_succ, hfront]
    exact beq_mark (hm.front (by decide) _) rfl
  simp only [dateLength, hlength, hdash, hmonth, if_false, BEq.rfl, if_true, Bool.false_eq_true]

theorem date?_dated (hy : Spells 4 year y) (hm : Spells 2 month m) (hd : Spells 2 day d) :
    date? 10 (dated y m d rest) = some ⟨year, month, day⟩ := by
  have hdash : ∀ more : Bytes, (front (dash :: more) == dash) = true := fun _ => rfl
  have hweek := beq_mark (hm.front (by decide) (dash :: (d ++ rest))) (rfl : isDigitByte letterW = false)
  simp only [date?, dated, hy.read, Option.bind_eq_bind, Option.bind_some, hdash, if_true,
    List.drop_succ_cons, List.drop_zero, hweek, Bool.false_eq_true, if_false, hm.read,
    Bool.not_true, hd.read]
  rfl

def clocked (h i s f : Bytes) : Bytes := h ++ colon :: (i ++ colon :: (s ++ 46 :: f))

theorem fraction?_milli (hf : Spells 3 milli f) : fraction? f = some (milli * 1000, []) := by
  have hread := hf.read []
  rw [List.append_nil] at hread
  simp only [fraction?, hf.length, Option.bind_eq_bind, Option.bind_some, hread, Nat.min_eq_right,
    Nat.reduceLeDiff]
  rfl

/-- A part of a clock that comes before a colon. -/
theorem clockParts_colon {behind : UInt8} {parts : Nat} (hds : Spells 2 n d)
    (hrest : rest.isEmpty = false) (coloned : Option Bool) (hcoloned : coloned.getD true = true) :
    clockParts behind (parts + 1) coloned (d ++ colon :: rest) =
      (clockParts behind parts (some true) rest).map fun p => (n :: p.1, p.2) := by
  have hmark : (colon == colon) = true := rfl
  simp only [clockParts, hds.read, Option.bind_eq_bind, Option.bind_some, hmark, hcoloned, hrest,
    Bool.true_and, Bool.false_eq_true, if_false, if_true]
  cases clockParts behind parts (some true) rest <;> rfl

/-- The last part of a clock, before a fraction. -/
theorem clockParts_point {behind : UInt8} {parts : Nat} (hds : Spells 2 n d)
    (hrest : rest.isEmpty = false) :
    clockParts behind (parts + 1) (some true) (d ++ 46 :: rest) = some ([n], some rest, false) := by
  have hmark : ((46 : UInt8) == colon) = false := rfl
  simp only [clockParts, hds.read, Option.bind_eq_bind, Option.bind_some, hmark, hrest,
    Bool.and_false, Bool.false_eq_true, if_false, Option.getD_some]
  rfl

theorem clock?_clocked (hh : Spells 2 hour h) (hi : Spells 2 minute i) (hs : Spells 2 second s)
    (hf : Spells 3 milli f) (behind : UInt8) :
    clock? behind (clocked h i s f) =
      some (⟨hour, minute, second, milli * 1000⟩, behind != 0) := by
  have hmore : ∀ (ds more : Bytes) (b : UInt8), (ds ++ b :: more).isEmpty = false := by simp
  have hfraction : f.isEmpty = false := by
    cases f with
    | nil => cases hf.length
    | cons b rest => rfl
  have hparts : clockParts behind 3 none (clocked h i s f) =
      some ([hour, minute, second], some f, false) := by
    rw [clocked, clockParts_colon hh (hmore _ _ _) none rfl,
      clockParts_colon hi (hmore _ _ _) (some true) rfl, clockParts_point hs hfraction]
    rfl
  simp only [clock?, hparts, Option.bind_eq_bind, Option.bind_some, fraction?_milli hf]
  rfl

theorem timeOfDay?_timed (hh : Spells 2 hour h) (hi : Spells 2 minute i) (hs : Spells 2 second s)
    (hf : Spells 3 milli f) :
    timeOfDay? (clocked h i s f ++ [plus, 48, 48, 58, 48, 48]) =
      some (⟨hour, minute, second, milli * 1000⟩, 0) := by
  have hdigit : ∀ b, isDigitByte b = true → (!startsOffset b) = true := by
    intro b hb
    simp only [startsOffset, beq_mark hb (rfl : isDigitByte plus = false),
      beq_mark hb (rfl : isDigitByte dash = false), beq_mark hb (rfl : isDigitByte letterZ = false)]
    rfl
  have hnone : ∀ b ∈ clocked h i s f, (!startsOffset b) = true := by
    intro b hb
    simp only [clocked, List.mem_append, List.mem_cons] at hb
    rcases hb with hb | rfl | hb | rfl | hb | rfl | hb
    · exact hdigit b (hh.digits b hb)
    · rfl
    · exact hdigit b (hi.digits b hb)
    · rfl
    · exact hdigit b (hs.digits b hb)
    · rfl
    · exact hdigit b (hf.digits b hb)
  have htime : (clocked h i s f ++ [plus, 48, 48, 58, 48, 48]).takeWhile (fun b => !startsOffset b) =
      clocked h i s f := by
    rw [List.takeWhile_append_of_pos hnone]
    exact List.append_nil _
  have hoffset : (clocked h i s f ++ [plus, 48, 48, 58, 48, 48]).dropWhile
      (fun b => !startsOffset b) = [plus, 48, 48, 58, 48, 48] := by
    rw [List.dropWhile_append_of_pos hnone]
    rfl
  simp only [timeOfDay?, htime, hoffset, Option.bind_eq_bind, Option.bind_some,
    clock?_clocked hh hi hs hf]
  rfl

theorem readBytes?_written (hy : Spells 4 year y) (hm : Spells 2 month m) (hd : Spells 2 day d)
    (hh : Spells 2 hour h) (hi : Spells 2 minute i) (hs : Spells 2 second s) (hf : Spells 3 milli f)
    (hdate : Date.isValid ⟨year, month, day⟩ = true) (hhour : hour < 24) (hminute : minute < 60)
    (hsecond : second < 60) :
    readBytes? (dated y m d (84 :: (clocked h i s f ++ [plus, 48, 48, 58, 48, 48]))) =
      some (.of ⟨year, month, day⟩ ⟨hour, minute, second, milli * 1000⟩ 0) := by
  have hfront : ∀ rest, dated y m d rest = (y ++ dash :: (m ++ dash :: d)) ++ rest := by
    simp [dated]
  have hlength : (y ++ dash :: (m ++ dash :: d)).length = 10 := by
    simp [hy.length, hm.length, hd.length]
  have hdrop : ∀ rest, (dated y m d rest).drop 10 = rest := by
    intro rest
    rw [hfront]
    exact List.drop_left' hlength
  have hmore : 10 < (dated y m d (84 :: (clocked h i s f ++ [plus, 48, 48, 58, 48, 48]))).length := by
    rw [hfront, List.length_append, hlength, List.length_cons]
    omega
  have hcharacter : ∀ rest, characterLength (84 :: rest) = 1 := fun _ => rfl
  have htime : Clock.isTimeOfDay ⟨hour, minute, second, milli * 1000⟩ = true := by
    simp [Clock.isTimeOfDay, hhour, hminute, hsecond]
  simp only [readBytes?, dateLength_dated hy hm hd, date?_dated hy hm hd, Option.bind_eq_bind,
    Option.bind_some, if_pos hmore, hdrop, hcharacter, List.drop_succ_cons, List.drop_zero,
    timeOfDay?_timed hh hi hs hf, hdate, htime, Bool.and_self, if_true]

end

/-- The text of a date and a time of day, without its mark of universal time. -/
def written (d : Date) (hour minute second milli : Nat) : String :=
  padded 4 d.year ++ "-" ++ padded 2 d.month ++ "-" ++ padded 2 d.day ++ "T" ++ padded 2 hour ++
    ":" ++ padded 2 minute ++ ":" ++ padded 2 second ++ "." ++ padded 3 milli

theorem toUTF8_written (d : Date) (hour minute second milli : Nat) :
    (written d hour minute second milli ++ "+00:00").toUTF8.toList =
      dated ((padded 4 d.year).toList.map Char.toUInt8) ((padded 2 d.month).toList.map Char.toUInt8)
        ((padded 2 d.day).toList.map Char.toUInt8)
        (84 :: (clocked ((padded 2 hour).toList.map Char.toUInt8)
          ((padded 2 minute).toList.map Char.toUInt8) ((padded 2 second).toList.map Char.toUInt8)
          ((padded 3 milli).toList.map Char.toUInt8) ++ [plus, 48, 48, 58, 48, 48])) := by
  have htext : written d hour minute second milli ++ "+00:00" = String.ofList
      ((padded 4 d.year).toList ++ '-' :: ((padded 2 d.month).toList ++ '-' ::
        ((padded 2 d.day).toList ++ 'T' :: ((padded 2 hour).toList ++ ':' ::
          ((padded 2 minute).toList ++ ':' :: ((padded 2 second).toList ++ '.' ::
            ((padded 3 milli).toList ++ ['+', '0', '0', ':', '0', '0']))))))) := by
    refine String.toList_inj.mp ?_
    simp [written]
  have hdigit : ∀ {width n : Nat} {c : Char}, c ∈ (padded width n).toList → c.toNat < 128 := by
    intro width n c hc
    have := isDigit_toNat (isDigit_padded hc)
    omega
  rw [htext, toUTF8_toList]
  · simp only [List.map_append, List.map_cons, dated, clocked, List.append_assoc, List.cons_append]
    rfl
  · intro c hc
    simp only [List.mem_append, List.mem_cons, List.not_mem_nil, or_false] at hc
    rcases hc with hc | rfl | hc | rfl | hc | rfl | hc | rfl | hc | rfl | hc | rfl | hc | hc
    all_goals first | exact hdigit hc | decide | skip
    rcases hc with rfl | rfl | rfl | rfl | rfl | rfl <;> decide

theorem read?_written {d : Date} {hour minute second milli : Nat} (hd : d.isValid = true)
    (hhour : hour < 24) (hminute : minute < 60) (hsecond : second < 60) (hmilli : milli < 1000) :
    read? (written d hour minute second milli ++ "+00:00") =
      some (.of d ⟨hour, minute, second, milli * 1000⟩ 0) := by
  have hvalid := hd
  simp only [Date.isValid, Bool.and_eq_true, decide_eq_true_eq] at hvalid
  obtain ⟨⟨⟨⟨⟨_, hyear⟩, _⟩, hmonth⟩, _⟩, hday⟩ := hvalid
  have hlength := monthLength_le d.year d.month
  rw [read?, toUTF8_written]
  exact readBytes?_written (spells_padded (by decide) (by omega)) (spells_padded (by decide) (by omega))
    (spells_padded (by decide) (by omega)) (spells_padded (by decide) (by omega))
    (spells_padded (by decide) (by omega)) (spells_padded (by decide) (by omega))
    (spells_padded (by decide) (by omega)) hd hhour hminute hsecond

theorem withOffset_mark (text : String) :
    withOffset (· == 'Z') (text ++ "Z") = text ++ "+00:00" := by
  have hreverse : (text ++ "Z").toList.reverse = 'Z' :: text.toList.reverse := by simp
  unfold withOffset
  rw [hreverse]
  simp only [BEq.rfl, if_true, List.reverse_reverse, String.ofList_toList]

def ending : Moment := 253402300800000000

theorem stamp_eq {m : Int} {day millis : Nat} (hday : day = m / 86400000000 + 719162)
    (hmillis : millis = m % 86400000000 / 1000) :
    stamp m = written (.ofDayNumber day) (millis / 3600000) (millis / 60000 % 60)
      (millis / 1000 % 60) (millis % 1000) ++ "Z" := by
  have hdays : m.fdiv (86400 * 1000000) = m / 86400000000 :=
    Int.fdiv_eq_ediv_of_nonneg m (by decide)
  have hrest : m.fmod (86400 * 1000000) = m % 86400000000 :=
    Int.fmod_eq_emod_of_nonneg m (by decide)
  have hepoch : (epochDay : Int) = 719162 := rfl
  simp only [stamp, hdays, hrest, hepoch, ← hday, ← hmillis, Int.toNat_natCast]
  rfl

/-- What was written of a moment is read back, but for its microseconds below a millisecond. -/
theorem readStamp_stamp {m : Int} (hfrom : beginning ≤ m) (hto : m < ending) :
    readStamp (stamp m) = m / 1000 * 1000 := by
  have hfirst : -62135596800000000 ≤ m := hfrom
  have hend : m < 253402300800000000 := hto
  obtain ⟨day, hday⟩ : ∃ day : Nat, m / 86400000000 + 719162 = day :=
    Int.eq_ofNat_of_zero_le (by omega)
  obtain ⟨millis, hmillis⟩ : ∃ millis : Nat, m % 86400000000 / 1000 = millis :=
    Int.eq_ofNat_of_zero_le (by omega)
  have hlast : day < daysBeforeYear 10000 := by
    rw [daysBeforeYear_end]
    omega
  obtain ⟨hvalid, hnumber⟩ := Date.ofDayNumber_holds hlast
  have hhour : millis / 3600000 < 24 := by omega
  have hread := read?_written hvalid hhour (Nat.mod_lt (millis / 60000) (by decide : 60 > 0))
    (Nat.mod_lt (millis / 1000) (by decide : 60 > 0)) (Nat.mod_lt millis (by decide : 1000 > 0))
  rw [readStamp, stamp_eq hday.symm hmillis.symm, withOffset_mark, hread, Option.getD_some]
  have hseconds : millis / 3600000 * 3600 + millis / 60000 % 60 * 60 + millis / 1000 % 60 =
      millis / 1000 := by omega
  show (((((Date.ofDayNumber day).dayNumber : Nat) : Int) - 719162) * 86400 +
    ((millis / 3600000 * 3600 + millis / 60000 % 60 * 60 + millis / 1000 % 60 : Nat) : Int)) *
      1000000 + ((millis % 1000 * 1000 : Nat) : Int) - 0 = _
  rw [hnumber, hseconds]
  omega

/-- Texts of later moments are not read as earlier ones. -/
theorem readStamp_le {m n : Int} (hfrom : beginning ≤ m) (h : m ≤ n) (hto : n < ending) :
    readStamp (stamp m) ≤ readStamp (stamp n) := by
  rw [readStamp_stamp hfrom (Int.lt_of_le_of_lt h hto), readStamp_stamp (Int.le_trans hfrom h) hto]
  exact Int.mul_le_mul_of_nonneg_right (Int.ediv_le_ediv (by decide) h) (by decide)

end Storyline.Time
