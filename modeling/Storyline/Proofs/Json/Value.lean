import Storyline.Proofs.Document
import Storyline.Proofs.Json.Number
import Storyline.Proofs.Json.Text

namespace Storyline

namespace Entries
variable {α : Type} {es added : Entries α} {key : String} {value : α}

theorem put_of_new (h : key ∉ es.keys) : es.put key value = es ++ [(key, value)] := by
  induction es with
  | nil => rfl
  | cons e rest ih =>
    obtain ⟨k, v⟩ := e
    simp only [keys, List.map_cons, List.mem_cons, not_or] at h
    have hk : (k == key) = false := by simpa using Ne.symm h.1
    simp [put, hk, ih h.2]

theorem merge_of_distinct (h : (keys (es ++ added)).Nodup) : es.merge added = es ++ added := by
  induction added generalizing es with
  | nil => simp [merge]
  | cons e rest ih =>
    obtain ⟨k, v⟩ := e
    have hnew : k ∉ es.keys := by
      intro hk
      simp only [keys, List.map_append, List.map_cons] at h hk
      exact (List.nodup_append.mp h).2.2 k hk k List.mem_cons_self rfl
    have hstep : merge es ((k, v) :: rest) = merge (es.put k v) rest := rfl
    rw [hstep, put_of_new hnew, ih (by simpa using h)]
    simp

theorem ofList_of_distinct (h : es.keys.Nodup) : ofList es = es :=
  merge_of_distinct (show (keys ([] ++ es)).Nodup from h)

end Entries

namespace Value

mutual

/-- No record in the value has two fields under one key. -/
def isProper : Value → Bool
  | .list items => allProper items
  | .record fields => decide (Entries.keys fields).Nodup && allFieldsProper fields
  | _ => true

def allProper : List Value → Bool
  | [] => true
  | v :: rest => isProper v && allProper rest

def allFieldsProper : List (String × Value) → Bool
  | [] => true
  | (_, v) :: rest => isProper v && allFieldsProper rest

end

end Value

namespace Json
open Value

/-- A layout with nothing but spaces around its commas and colons. -/
structure Layout.Legible (l : Layout) : Prop where
  comma : ∃ n, l.comma.toList = ',' :: List.replicate n ' '
  colon : ∃ n, l.colon.toList = ':' :: List.replicate n ' '

theorem Layout.oneLine_legible : Layout.oneLine.Legible := ⟨⟨1, by rfl⟩, ⟨1, by rfl⟩⟩

theorem Layout.indented_legible : Layout.indented.Legible := ⟨⟨0, by rfl⟩, ⟨1, by rfl⟩⟩

/-- The first character may be one of a value, and is not a byte order mark. -/
def Starts (cs : List Char) : Prop :=
  ∃ c more, cs = c :: more ∧ isSpace c = false ∧ c ≠ ']' ∧ c ≠ Char.ofNat 0xFEFF

variable {l : Layout} {cs ws rest : List Char} {v : Value} {fuel : Nat}

theorem readScalar_starts (h : readScalar cs = .ok (v, rest)) : Starts cs := by
  cases cs with
  | nil => cases h
  | cons c more =>
    refine ⟨c, more, rfl, ?_, ?_, ?_⟩
    · rw [← Bool.not_eq_true]
      intro hc
      simp only [isSpace, Bool.or_eq_true, beq_iff_eq] at hc
      rcases hc with ((rfl | rfl) | rfl) | rfl <;> cases h
    · rintro rfl
      cases h
    · rintro rfl
      cases h

theorem readValue_starts (h : readValue fuel cs = .ok (v, rest)) : Starts cs := by
  cases fuel with
  | zero => cases (readValue.eq_def 0 cs).symm.trans h
  | succ fuel =>
    unfold readValue at h
    split at h
    · exact ⟨'"', _, rfl, by decide⟩
    · exact ⟨'[', _, rfl, by decide⟩
    · exact ⟨'\x7b', _, rfl, by decide⟩
    · exact readScalar_starts h

theorem readValue_of_scalar (h : readScalar cs = .ok (v, rest)) (hf : 0 < fuel) :
    readValue fuel cs = .ok (v, rest) := by
  obtain ⟨fuel, rfl⟩ := Nat.exists_eq_succ_of_ne_zero hf.ne'
  unfold readValue
  split
  · cases h
  · cases h
  · cases h
  · exact h

theorem readItems_last {left : List Char} (h : readValue fuel cs = .ok (v, left))
    (hleft : skipSpace left = ']' :: rest) : readItems (fuel + 1) cs = .ok ([v], rest) := by
  simp [readItems, h, hleft]

theorem readItems_next {left more : List Char} {vs : List Value}
    (h : readValue fuel cs = .ok (v, left)) (hleft : skipSpace left = ',' :: more)
    (hmore : readItems fuel (skipSpace more) = .ok (vs, rest)) :
    readItems (fuel + 1) cs = .ok (v :: vs, rest) := by
  simp [readItems, h, hleft, hmore]

theorem readValue_list {vs : List Value} (h : readItems fuel (skipSpace cs) = .ok (vs, rest)) :
    readValue (fuel + 1) ('[' :: cs) = .ok (.list vs, rest) := by
  simp only [readValue]
  split
  · -- a closing bracket starts no value, so it is not where the items are
    rename_i closed hclosed
    rw [hclosed] at h
    cases fuel with
    | zero => cases (readItems.eq_def 0 _).symm.trans h
    | succ fuel =>
      rw [readItems] at h
      obtain ⟨⟨v, left⟩, hv, _⟩ := bind_eq_ok.mp h
      obtain ⟨c, more, hc, _, hne, _⟩ := readValue_starts hv
      cases hc
      exact absurd rfl hne
  · rw [h]
    rfl

theorem readValue_record {fields : List (String × Value)}
    (h : readFields fuel (skipSpace cs) = .ok (fields, rest)) :
    readValue (fuel + 1) ('\x7b' :: cs) = .ok (.record (Entries.ofList fields), rest) := by
  simp only [readValue]
  split
  · rename_i closed hclosed
    rw [hclosed] at h
    cases fuel with
    | zero => cases (readFields.eq_def 0 _).symm.trans h
    | succ fuel =>
      rw [readFields.eq_def] at h
      cases h
  · rw [h]
    rfl

theorem skipSpace_append (hws : ∀ c ∈ ws, isSpace c = true) :
    skipSpace (ws ++ cs) = skipSpace cs := List.dropWhile_append_of_pos hws

theorem Starts.skipSpace (h : Starts cs) : skipSpace cs = cs := by
  obtain ⟨c, more, rfl, hc, _⟩ := h
  simp [Json.skipSpace, hc]

theorem newLine_spaces (l : Layout) (depth : Nat) :
    ∀ c ∈ (l.newLine depth).toList, isSpace c = true := by
  unfold Layout.newLine
  split
  · simp +contextual [isSpace]
  · simp

theorem spaces_replicate (n : Nat) : ∀ c ∈ List.replicate n ' ', isSpace c = true := by
  simp +contextual [isSpace]

theorem endsNumber_of_space {c : Char} {more : List Char} (h : isSpace c = true) :
    endsNumber (c :: more) = true := by
  simp only [isSpace, Bool.or_eq_true, beq_iff_eq] at h
  rcases h with ((rfl | rfl) | rfl) | rfl <;> rfl

/-- Spaces and a closing sign end a number. -/
theorem endsNumber_closing {c : Char} (hws : ∀ c ∈ ws, isSpace c = true)
    (hc : endsNumber [c] = true) : endsNumber (ws ++ c :: rest) = true := by
  cases ws with
  | nil => exact hc
  | cons d ws => exact endsNumber_of_space (hws d List.mem_cons_self)

/-- Once its key, its colon and its value are read, a field is the last one or another follows. -/
theorem readFields_field {asciiOnly : Bool} {key : String} {n : Nat} {left : List Char}
    (h : readValue fuel cs = .ok (v, left)) :
    readFields (fuel + 1) (skipSpace ((writeText asciiOnly key).toList ++
      (':' :: (List.replicate n ' ' ++ cs)))) =
        match skipSpace left with
        | '\x7d' :: rest => .ok ([(key, v)], rest)
        | ',' :: rest => (readFields fuel (skipSpace rest)).map fun r => ((key, v) :: r.1, r.2)
        | rest => stop .noComma rest := by
  obtain ⟨body, hbody, hkey⟩ : ∃ body, (writeText asciiOnly key).toList ++
      (':' :: (List.replicate n ' ' ++ cs)) = '"' :: body ∧ _ := readText_writeText key
  have hvalue : skipSpace (List.replicate n ' ' ++ cs) = cs := by
    rw [skipSpace_append (spaces_replicate n), (readValue_starts h).skipSpace]
  have hquote : skipSpace ('"' :: body) = '"' :: body := rfl
  have hcolon : skipSpace (':' :: (List.replicate n ' ' ++ cs)) = ':' :: _ := rfl
  rw [hbody, hquote]
  simp [readFields, hkey, hcolon, hvalue, h]
  rfl

theorem writeItems_cons {vs : List Value} {depth : Nat} {text : String}
    (h : writeItems l depth (v :: vs) = .ok text) :
    ∃ first more, writeAt l depth v = .ok first ∧ writeItems l depth vs = .ok more ∧
      text = l.newLine depth ++ first ++ (if vs = [] then "" else l.comma ++ more) := by
  rw [writeItems] at h
  obtain ⟨first, hfirst, h⟩ := bind_eq_ok.mp h
  obtain ⟨more, hmore, h⟩ := bind_eq_ok.mp h
  refine ⟨first, more, hfirst, hmore, ?_⟩
  cases vs <;> cases h <;> simp [String.append_assoc]

theorem writeFields_cons {key : String} {fields : Entries Value} {depth : Nat} {text : String}
    (h : writeFields l depth ((key, v) :: fields) = .ok text) :
    ∃ first more, writeAt l depth v = .ok first ∧ writeFields l depth fields = .ok more ∧
      text = l.newLine depth ++ writeText l.asciiOnly key ++ l.colon ++ first ++
        (if fields = [] then "" else l.comma ++ more) := by
  rw [writeFields] at h
  obtain ⟨first, hfirst, h⟩ := bind_eq_ok.mp h
  obtain ⟨more, hmore, h⟩ := bind_eq_ok.mp h
  refine ⟨first, more, hfirst, hmore, ?_⟩
  cases fields <;> cases h <;> simp [String.append_assoc]

theorem length_writeNumber_pos {n : Number} {t : String} (h : writeNumber n = .ok t) :
    0 < t.toList.length := by
  have hread : readScalar (t.toList ++ []) = .ok (.number n, []) := readScalar_writeNumber h rfl
  obtain ⟨c, more, hc, _⟩ := readScalar_starts hread
  rw [List.append_nil] at hc
  simp [hc]

/-- A value is read from its text as itself, and what follows it is left. -/
def ReadsBack (l : Layout) (v : Value) : Prop :=
  ∀ ⦃depth fuel : Nat⦄ ⦃t : String⦄ ⦃rest : List Char⦄, writeAt l depth v = .ok t →
    endsNumber rest = true → t.toList.length ≤ fuel →
      readValue fuel (t.toList ++ rest) = .ok (v, rest)

/-- The items of a list are read from their text up to the closing bracket. -/
def ItemsReadBack (l : Layout) (vs : List Value) : Prop :=
  ∀ ⦃depth fuel : Nat⦄ ⦃t : String⦄ ⦃ws rest : List Char⦄, writeItems l depth vs = .ok t →
    (∀ c ∈ ws, isSpace c = true) → t.toList.length < fuel →
    readItems fuel (skipSpace (t.toList ++ (ws ++ ']' :: rest))) = .ok (vs, rest)

/-- The fields of a record are read from their text up to the closing brace. -/
def FieldsReadBack (l : Layout) (fields : Entries Value) : Prop :=
  ∀ ⦃depth fuel : Nat⦄ ⦃t : String⦄ ⦃ws rest : List Char⦄, writeFields l depth fields = .ok t →
    (∀ c ∈ ws, isSpace c = true) → t.toList.length < fuel →
    readFields fuel (skipSpace (t.toList ++ (ws ++ '\x7d' :: rest))) = .ok (fields, rest)

theorem ReadsBack.number (n : Number) : ReadsBack l (.number n) := by
  intro depth fuel t rest h hr hf
  exact readValue_of_scalar (readScalar_writeNumber h hr)
    (Nat.lt_of_lt_of_le (length_writeNumber_pos h) hf)

theorem ReadsBack.text (s : String) : ReadsBack l (.text s) := by
  intro depth fuel t rest h _ hf
  cases h
  obtain ⟨body, hbody, hread⟩ :
    ∃ body, (writeText l.asciiOnly s).toList ++ rest = '"' :: body ∧ _ := readText_writeText s
  obtain ⟨fuel, rfl⟩ := Nat.exists_eq_add_of_le'
    (Nat.le_trans (by simp [writeText] : 1 ≤ (writeText l.asciiOnly s).toList.length) hf)
  rw [hbody]
  simp [readValue, hread]

theorem ItemsReadBack.single (hv : ReadsBack l v) : ItemsReadBack l [v] := by
  intro depth fuel t ws rest h hws hf
  obtain ⟨first, _, hfirst, _, rfl⟩ := writeItems_cons h
  simp only [if_true, String.append_empty, String.toList_append, List.append_assoc,
    List.length_append] at hf ⊢
  obtain ⟨fuel, rfl⟩ := Nat.exists_eq_add_of_le' (Nat.lt_of_le_of_lt (Nat.zero_le _) hf)
  have hread : readValue fuel (first.toList ++ (ws ++ ']' :: rest)) = .ok (v, _) :=
    hv hfirst (endsNumber_closing hws rfl) (by omega)
  rw [skipSpace_append (newLine_spaces l depth), (readValue_starts hread).skipSpace]
  exact readItems_last hread (skipSpace_append hws)

theorem ItemsReadBack.cons {w : Value} {vs : List Value} (hl : l.Legible) (hv : ReadsBack l v)
    (hvs : ItemsReadBack l (w :: vs)) : ItemsReadBack l (v :: w :: vs) := by
  intro depth fuel t ws rest h hws hf
  obtain ⟨first, more, hfirst, hmore, rfl⟩ := writeItems_cons h
  obtain ⟨n, hcomma⟩ := hl.comma
  simp only [reduceCtorEq, if_false, String.toList_append, hcomma, List.append_assoc,
    List.cons_append, List.length_append, List.length_cons] at hf ⊢
  obtain ⟨fuel, rfl⟩ := Nat.exists_eq_add_of_le' (Nat.lt_of_le_of_lt (Nat.zero_le _) hf)
  have hread : readValue fuel (first.toList ++ (',' :: (List.replicate n ' ' ++
      (more.toList ++ (ws ++ ']' :: rest))))) = .ok (v, _) := hv hfirst rfl (by omega)
  have hrest : readItems fuel (skipSpace (more.toList ++ (ws ++ ']' :: rest))) = _ :=
    hvs hmore hws (by omega)
  rw [skipSpace_append (newLine_spaces l depth), (readValue_starts hread).skipSpace]
  refine readItems_next hread rfl ?_
  rwa [skipSpace_append (spaces_replicate n)]

theorem ReadsBack.list {vs : List Value} (h : ItemsReadBack l (v :: vs)) :
    ReadsBack l (.list (v :: vs)) := by
  intro depth fuel t rest ht _ hf
  simp only [writeAt] at ht
  obtain ⟨items, hitems, ht⟩ := bind_eq_ok.mp ht
  cases ht
  have htext : ("[" ++ items ++ l.newLine depth ++ "]").toList ++ rest =
      '[' :: (items.toList ++ ((l.newLine depth).toList ++ ']' :: rest)) := by
    simp
  have hlength : items.toList.length + 2 ≤ fuel := by
    have hopen : "[".toList.length = 1 ∧ "]".toList.length = 1 := ⟨rfl, rfl⟩
    simp only [String.toList_append, List.length_append] at hf
    omega
  obtain ⟨fuel, rfl⟩ := Nat.exists_eq_add_of_le' (Nat.le_of_add_left_le hlength)
  rw [htext]
  exact readValue_list (h hitems (newLine_spaces l depth) (by omega))

theorem FieldsReadBack.single {key : String} (hl : l.Legible) (hv : ReadsBack l v) :
    FieldsReadBack l [(key, v)] := by
  intro depth fuel t ws rest h hws hf
  obtain ⟨first, _, hfirst, _, rfl⟩ := writeFields_cons h
  obtain ⟨n, hcolon⟩ := hl.colon
  simp only [if_true, String.append_empty, String.toList_append, hcolon, List.append_assoc,
    List.cons_append, List.length_append, List.length_cons] at hf ⊢
  obtain ⟨fuel, rfl⟩ := Nat.exists_eq_add_of_le' (Nat.lt_of_le_of_lt (Nat.zero_le _) hf)
  have hread : readValue fuel (first.toList ++ (ws ++ '\x7d' :: rest)) = .ok (v, _) :=
    hv hfirst (endsNumber_closing hws rfl) (by omega)
  have hlast : skipSpace (ws ++ '\x7d' :: rest) = '\x7d' :: rest := skipSpace_append hws
  rw [skipSpace_append (newLine_spaces l depth), readFields_field hread, hlast]
  rfl

theorem FieldsReadBack.cons {key : String} {field : String × Value} {fields : Entries Value}
    (hl : l.Legible) (hv : ReadsBack l v) (hfields : FieldsReadBack l (field :: fields)) :
    FieldsReadBack l ((key, v) :: field :: fields) := by
  intro depth fuel t ws rest h hws hf
  obtain ⟨first, more, hfirst, hmore, rfl⟩ := writeFields_cons h
  obtain ⟨n, hcolon⟩ := hl.colon
  obtain ⟨k, hcomma⟩ := hl.comma
  simp only [reduceCtorEq, if_false, String.toList_append, hcolon, hcomma, List.append_assoc,
    List.cons_append, List.length_append, List.length_cons] at hf ⊢
  obtain ⟨fuel, rfl⟩ := Nat.exists_eq_add_of_le' (Nat.lt_of_le_of_lt (Nat.zero_le _) hf)
  have hread : readValue fuel (first.toList ++ (',' :: (List.replicate k ' ' ++
      (more.toList ++ (ws ++ '\x7d' :: rest))))) = .ok (v, _) := hv hfirst rfl (by omega)
  have hrest : readFields fuel (skipSpace (more.toList ++ (ws ++ '\x7d' :: rest))) = _ :=
    hfields hmore hws (by omega)
  have hnext : skipSpace (',' :: (List.replicate k ' ' ++
      (more.toList ++ (ws ++ '\x7d' :: rest)))) = ',' :: _ := rfl
  rw [skipSpace_append (newLine_spaces l depth), readFields_field hread, hnext]
  simp only [skipSpace_append (spaces_replicate k), hrest, map_ok]

theorem ReadsBack.record {field : String × Value} {fields : Entries Value}
    (hd : (Entries.keys (field :: fields)).Nodup) (h : FieldsReadBack l (field :: fields)) :
    ReadsBack l (.record (field :: fields)) := by
  intro depth fuel t rest ht _ hf
  simp only [writeAt] at ht
  obtain ⟨written, hwritten, ht⟩ := bind_eq_ok.mp ht
  cases ht
  have htext : ("\x7b" ++ written ++ l.newLine depth ++ "\x7d").toList ++ rest =
      '\x7b' :: (written.toList ++ ((l.newLine depth).toList ++ '\x7d' :: rest)) := by
    simp
  have hlength : written.toList.length + 2 ≤ fuel := by
    have hopen : "\x7b".toList.length = 1 ∧ "\x7d".toList.length = 1 := ⟨rfl, rfl⟩
    simp only [String.toList_append, List.length_append] at hf
    omega
  obtain ⟨fuel, rfl⟩ := Nat.exists_eq_add_of_le' (Nat.le_of_add_left_le hlength)
  have hfields : readFields (fuel + 1)
      (skipSpace (written.toList ++ ((l.newLine depth).toList ++ '\x7d' :: rest))) = _ :=
    h hwritten (newLine_spaces l depth) (by omega)
  rw [htext, readValue_record hfields, Entries.ofList_of_distinct hd]

mutual

/-- Every plain value without doubled keys is read back. -/
theorem readsBack (hl : l.Legible) :
    ∀ {v : Value}, v.isPlain = true → v.isProper = true → ReadsBack l v
  | .null, _, _ => by
    intro depth fuel t rest h _ hf
    cases h
    exact readValue_of_scalar rfl (Nat.lt_of_lt_of_le (by decide) hf)
  | .bool b, _, _ => by
    intro depth fuel t rest h _ hf
    cases b <;> cases h <;> exact readValue_of_scalar rfl (Nat.lt_of_lt_of_le (by decide) hf)
  | .number n, _, _ => .number n
  | .text s, _, _ => .text s
  | .list [], _, _ => by
    intro depth fuel t rest h _ hf
    cases h
    obtain ⟨fuel, rfl⟩ := Nat.exists_eq_add_of_le' hf
    rfl
  | .list (_ :: _), hp, hd => .list (itemsReadBack hl nofun hp hd)
  | .record [], _, _ => by
    intro depth fuel t rest h _ hf
    cases h
    obtain ⟨fuel, rfl⟩ := Nat.exists_eq_add_of_le' hf
    rfl
  | .record (_ :: _), hp, hd => by
    obtain ⟨hkeys, hd⟩ := Bool.and_eq_true_iff.mp hd
    exact .record (of_decide_eq_true hkeys) (fieldsReadBack hl nofun hp hd)

theorem itemsReadBack (hl : l.Legible) :
    ∀ {vs : List Value}, vs ≠ [] → allPlain vs = true → allProper vs = true → ItemsReadBack l vs
  | [], hne, _, _ => absurd rfl hne
  | [_], _, hp, hd =>
    .single (readsBack hl (Bool.and_eq_true_iff.mp hp).1 (Bool.and_eq_true_iff.mp hd).1)
  | _ :: _ :: _, _, hp, hd => by
    obtain ⟨hpv, hp⟩ := Bool.and_eq_true_iff.mp hp
    obtain ⟨hdv, hd⟩ := Bool.and_eq_true_iff.mp hd
    exact .cons hl (readsBack hl hpv hdv) (itemsReadBack hl nofun hp hd)

theorem fieldsReadBack (hl : l.Legible) :
    ∀ {fields : List (String × Value)}, fields ≠ [] → allFieldsPlain fields = true →
      allFieldsProper fields = true → FieldsReadBack l fields
  | [], hne, _, _ => absurd rfl hne
  | [(_, _)], _, hp, hd =>
    .single hl (readsBack hl (Bool.and_eq_true_iff.mp hp).1 (Bool.and_eq_true_iff.mp hd).1)
  | (_, _) :: _ :: _, _, hp, hd => by
    obtain ⟨hpv, hp⟩ := Bool.and_eq_true_iff.mp hp
    obtain ⟨hdv, hd⟩ := Bool.and_eq_true_iff.mp hd
    exact .cons hl (readsBack hl hpv hdv) (fieldsReadBack hl nofun hp hd)

end

/-- What is written in a layout that can be read is read as what it was. -/
theorem read_write (hl : l.Legible) {t : String} (hp : v.isPlain = true) (hd : v.isProper = true)
    (h : write l v = .ok t) : read t = .ok v := by
  have hread : readValue (2 * t.toList.length + 2) (t.toList ++ []) = .ok (v, []) :=
    readsBack hl hp hd h rfl (by omega)
  rw [List.append_nil] at hread
  have hstarts := readValue_starts hread
  -- a byte order mark would be refused, but no value starts with one
  have hmark : t.toList.head? ≠ some (Char.ofNat 0xFEFF) := by
    obtain ⟨c, more, hc, _, _, hne⟩ := hstarts
    simpa [hc] using hne
  have hnil : skipSpace [] = [] := rfl
  refine mapError_eq_ok.mpr ?_
  simp [readChars, hmark, hstarts.skipSpace, hread, hnil]

section Numbered
variable {n : ℤ} {f : NumberFault}

theorem skipSpace_tooLong (h : readScalar cs = .error (.number f)) : skipSpace cs = cs := by
  cases cs with
  | nil => cases h
  | cons c more =>
    have hc : isSpace c = false := by
      rw [← Bool.not_eq_true]
      intro hc
      simp only [isSpace, Bool.or_eq_true, beq_iff_eq] at hc
      rcases hc with ((rfl | rfl) | rfl) | rfl <;> cases h
    simp [skipSpace, hc]

theorem readValue_tooLong (h : readScalar cs = .error (.number f)) (hf : 0 < fuel) :
    readValue fuel cs = .error (.number f) := by
  obtain ⟨fuel, rfl⟩ := Nat.exists_eq_succ_of_ne_zero hf.ne'
  unfold readValue
  split
  · cases h
  · cases h
  · cases h
  · exact h

def numbered (key : String) (n : ℤ) : String :=
  "\x7b" ++ writeText true key ++ ": " ++ toString n ++ "\x7d"

/-- A single integer is read, unless it has too many digits. -/
theorem read_numbered (key : String) (h : (Nat.toDigits 10 n.natAbs).length ≤ maxIntegerDigits) :
    read (numbered key n) = .ok (.record [(key, .int n)]) := by
  have hnumber : writeNumber (.int n) = .ok (toString n) := by
    rw [writeNumber, integerText_short h]
    rfl
  have hwrite : write .oneLine (.record [(key, .int n)]) = .ok (numbered key n) := by
    simp [write, writeAt, writeFields, Value.int, hnumber, Layout.oneLine, Layout.newLine, numbered,
      String.append_assoc]
  exact read_write Layout.oneLine_legible rfl rfl hwrite

theorem readChars_tooLong (key : String) (h : readScalar cs = .error (.number f)) :
    readChars ('\x7b' :: ((writeText true key).toList ++ (':' :: ' ' :: cs))) =
      .error (.number f) := by
  obtain ⟨body, hbody, hkey⟩ : ∃ body, (writeText true key).toList ++ (':' :: ' ' :: cs) =
    '"' :: body ∧ _ := readText_writeText key
  have hquote : skipSpace ('"' :: body) = '"' :: body := rfl
  have hcolon : skipSpace (':' :: ' ' :: cs) = ':' :: ' ' :: cs := rfl
  have hopen : skipSpace ('\x7b' :: '"' :: body) = '\x7b' :: '"' :: body := rfl
  have hvalue : skipSpace (' ' :: cs) = cs := skipSpace_tooLong h
  have hstuck : readValue (2 * (body.length + 1 + 1)) cs = .error (.number f) :=
    readValue_tooLong h (by omega)
  rw [hbody]
  simp [readChars, hopen, readValue, hquote, readFields, hkey, hcolon, hvalue, hstuck]

theorem read_numbered_tooLong (key : String)
    (h : maxIntegerDigits < (Nat.toDigits 10 n.natAbs).length) :
    ∃ f, read (numbered key n) = .error (.number f) := by
  obtain ⟨f, hnumber⟩ : ∃ f, readNumber ((toString n).toList ++ ['\x7d']) = .error (.number f) :=
    readNumber_tooLong h rfl
  have hread := readChars_tooLong key (readScalar_tooLong hnumber)
  have htext : (numbered key n).toList = '\x7b' :: ((writeText true key).toList ++
      (':' :: ' ' :: ((toString n).toList ++ ['\x7d']))) := by
    simp [numbered]
  refine ⟨f, ?_⟩
  rw [read, htext, hread]
  rfl

end Numbered

end Json
end Storyline
