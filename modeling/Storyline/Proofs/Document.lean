import Storyline.Json.Read
import Storyline.Json.Write
import Storyline.Proofs.State

namespace Storyline

namespace Number

def isShort : Number → Bool
  | int n => (Nat.toDigits 10 n.natAbs).length ≤ maxIntegerDigits
  | double _ => true

end Number

namespace Value

mutual

def isShort : Value → Bool
  | .number n => n.isShort
  | .list items => allShort items
  | .record fields => allFieldsShort fields
  | _ => true

def allShort : List Value → Bool
  | [] => true
  | v :: rest => isShort v && allShort rest

def allFieldsShort : List (String × Value) → Bool
  | [] => true
  | (_, v) :: rest => isShort v && allFieldsShort rest

end

theorem allFieldsShort_iff {fields : Entries Value} :
    allFieldsShort fields = true ↔ ∀ e ∈ fields, e.2.isShort = true := by
  induction fields with
  | nil => simp [allFieldsShort]
  | cons e rest ih =>
    obtain ⟨k, v⟩ := e
    simp [allFieldsShort, ih]

theorem allPlain_iff {vs : List Value} : allPlain vs = true ↔ ∀ v ∈ vs, v.isPlain = true := by
  induction vs with
  | nil => simp [allPlain]
  | cons v rest ih => simp [allPlain, ih]

theorem allFieldsPlain_iff {fields : Entries Value} :
    allFieldsPlain fields = true ↔ ∀ e ∈ fields, e.2.isPlain = true := by
  induction fields with
  | nil => simp [allFieldsPlain]
  | cons e rest ih =>
    obtain ⟨k, v⟩ := e
    simp [allFieldsPlain, ih]

mutual

/-- What a document can hold can be copied. -/
theorem copyable_of_plain : ∀ {v : Value}, v.isPlain = true → v.copyable = true
  | .null, _ | .bool _, _ | .number _, _ | .text _, _ => rfl
  | .list _, h => allCopyable_of_plain h
  | .record _, h => allFieldsCopyable_of_plain h

theorem allCopyable_of_plain : ∀ {vs : List Value}, allPlain vs = true → allCopyable vs = true
  | [], _ => rfl
  | _ :: _, h => by
    obtain ⟨hv, hrest⟩ := Bool.and_eq_true_iff.mp h
    exact Bool.and_eq_true_iff.mpr ⟨copyable_of_plain hv, allCopyable_of_plain hrest⟩

theorem allFieldsCopyable_of_plain :
    ∀ {fields : Entries Value}, allFieldsPlain fields = true → allFieldsCopyable fields = true
  | [], _ => rfl
  | (_, _) :: _, h => by
    obtain ⟨hv, hrest⟩ := Bool.and_eq_true_iff.mp h
    exact Bool.and_eq_true_iff.mpr ⟨copyable_of_plain hv, allFieldsCopyable_of_plain hrest⟩

end

end Value

namespace Json
open Value

theorem writeNumber_isOk (n : Number) : (writeNumber n).isOk = n.isShort := by
  cases n with
  | int n =>
    unfold writeNumber integerText Number.isShort
    dsimp only
    split <;> simp_all
  | double d => cases d <;> rfl

theorem isOk_bind_pure {ε α β : Type} (x : Except ε α) (f : α → β) :
    (x >>= fun a => pure (f a)).isOk = x.isOk := by
  cases x <;> rfl

theorem isOk_bind_bind_pure {ε α β γ : Type} (x : Except ε α) (y : Except ε β) (f : α → β → γ) :
    (x >>= fun a => y >>= fun b => pure (f a b)).isOk = (x.isOk && y.isOk) := by
  cases x <;> cases y <;> rfl

mutual

/-- A value has a text if its integers are short, and if it is plain or the layout shows what is
not. -/
theorem writeAt_isOk (l : Layout) :
    ∀ (depth : Nat) (v : Value),
      (writeAt l depth v).isOk = ((l.showHosts || v.isPlain) && v.isShort)
  | _, .null | _, .bool _ | _, .text _ => by
    simp [writeAt, isPlain, isShort]
  | _, .number n => by simp [writeAt, writeNumber_isOk, isPlain, isShort]
  | _, .undefined | _, .host _ => by
    unfold writeAt isPlain isShort
    split <;> simp_all
  | _, .list [] => by
    simp [writeAt, isPlain, isShort, allPlain, allShort]
  | depth, .list (v :: rest) => by
    simp only [writeAt, isOk_bind_pure, writeItems_isOk, isPlain, isShort]
  | _, .record [] => by
    simp [writeAt, isPlain, isShort, allFieldsPlain, allFieldsShort]
  | depth, .record (e :: rest) => by
    simp only [writeAt, isOk_bind_pure, writeFields_isOk, isPlain, isShort]

theorem writeItems_isOk (l : Layout) :
    ∀ (depth : Nat) (vs : List Value),
      (writeItems l depth vs).isOk = ((l.showHosts || allPlain vs) && allShort vs)
  | _, [] => by simp [writeItems, allPlain, allShort]
  | depth, v :: rest => by
    have hv := writeAt_isOk l depth v
    have hrest := writeItems_isOk l depth rest
    simp only [writeItems, isOk_bind_bind_pure, hv, hrest, allPlain, allShort]
    grind

theorem writeFields_isOk (l : Layout) :
    ∀ (depth : Nat) (fields : Entries Value),
      (writeFields l depth fields).isOk =
        ((l.showHosts || allFieldsPlain fields) && allFieldsShort fields)
  | _, [] => by simp [writeFields, allFieldsPlain, allFieldsShort]
  | depth, (k, v) :: rest => by
    have hv := writeAt_isOk l depth v
    have hrest := writeFields_isOk l depth rest
    simp only [writeFields, isOk_bind_bind_pure, hv, hrest, allFieldsPlain, allFieldsShort]
    grind

end

theorem mem_sortFields {fields : Entries Value} {e : String × Value} :
    e ∈ sortFields fields ↔ e ∈ fields :=
  List.mem_mergeSort

theorem sortFields_all (fields : Entries Value) :
    allFieldsPlain (sortFields fields) = allFieldsPlain fields ∧
      allFieldsShort (sortFields fields) = allFieldsShort fields := by
  constructor
  · rw [Bool.eq_iff_iff, allFieldsPlain_iff, allFieldsPlain_iff]
    simp only [mem_sortFields]
  · rw [Bool.eq_iff_iff, allFieldsShort_iff, allFieldsShort_iff]
    simp only [mem_sortFields]

mutual

/-- Sorting changes neither what a value is made of nor how long its integers are. -/
theorem sorted_all :
    ∀ v : Value, (sorted v).isPlain = v.isPlain ∧ (sorted v).isShort = v.isShort
  | .undefined | .null | .bool _ | .number _ | .text _ | .host _ => ⟨rfl, rfl⟩
  | .list items => sortedItems_all items
  | .record fields => by
    obtain ⟨hp, hs⟩ := sortedFields_all fields
    obtain ⟨hp', hs'⟩ := sortFields_all (sortedFields fields)
    exact ⟨hp'.trans hp, hs'.trans hs⟩

theorem sortedItems_all :
    ∀ vs : List Value, allPlain (sortedItems vs) = allPlain vs ∧
      allShort (sortedItems vs) = allShort vs
  | [] => ⟨rfl, rfl⟩
  | v :: rest => by
    obtain ⟨hp, hs⟩ := sorted_all v
    obtain ⟨hp', hs'⟩ := sortedItems_all rest
    simp only [sortedItems, allPlain, allShort, hp, hs, hp', hs', and_self]

theorem sortedFields_all :
    ∀ fields : Entries Value, allFieldsPlain (sortedFields fields) = allFieldsPlain fields ∧
      allFieldsShort (sortedFields fields) = allFieldsShort fields
  | [] => ⟨rfl, rfl⟩
  | (k, v) :: rest => by
    obtain ⟨hp, hs⟩ := sorted_all v
    obtain ⟨hp', hs'⟩ := sortedFields_all rest
    simp only [sortedFields, allFieldsPlain, allFieldsShort, hp, hs, hp', hs', and_self]

end

theorem writeCanonical_isOk (v : Value) : (writeCanonical v).isOk = (v.isPlain && v.isShort) := by
  obtain ⟨hp, hs⟩ := sorted_all v
  simp [writeCanonical, write, writeAt_isOk, hp, hs, Layout.canonical]

theorem readScalar_plain {cs rest : List Char} {v : Value}
    (h : readScalar cs = .ok (v, rest)) : v.isPlain = true := by
  unfold readScalar at h
  split at h
  · rename_i name w hf
    cases h
    have hall : names.all (fun n => n.2.isPlain) = true := rfl
    exact List.all_eq_true.mp hall _ (List.mem_of_find?_eq_some hf)
  · obtain ⟨⟨n, rest'⟩, _, h⟩ := bind_eq_ok.mp h
    cases h
    rfl

theorem ofList_plain {fields : Entries Value} (h : ∀ e ∈ fields, e.2.isPlain = true) :
    allFieldsPlain (Entries.ofList fields) = true := by
  apply allFieldsPlain_iff.mpr
  intro e he
  rcases Entries.mem_merge he with he | he
  · cases he
  · exact h e he

/-- With some fuel, only plain values are read. -/
structure ReadsPlain (fuel : Nat) : Prop where
  value : ∀ {cs v rest}, readValue fuel cs = .ok (v, rest) → v.isPlain = true
  items : ∀ {cs vs rest}, readItems fuel cs = .ok (vs, rest) → ∀ v ∈ vs, v.isPlain = true
  fields : ∀ {cs fields rest}, readFields fuel cs = .ok (fields, rest) →
    ∀ e ∈ fields, e.2.isPlain = true

variable {fuel : Nat} {cs rest : List Char}

theorem ReadsPlain.readValue {v : Value} (hp : ReadsPlain fuel)
    (h : readValue (fuel + 1) cs = .ok (v, rest)) : v.isPlain = true := by
  unfold Json.readValue at h
  split at h
  · obtain ⟨⟨s, rest'⟩, _, h⟩ := bind_eq_ok.mp h
    cases h
    rfl
  · split at h
    · cases h
      rfl
    · obtain ⟨⟨vs, rest'⟩, hvs, h⟩ := bind_eq_ok.mp h
      cases h
      exact allPlain_iff.mpr (hp.items hvs)
  · split at h
    · cases h
      rfl
    · obtain ⟨⟨fields, rest'⟩, hfs, h⟩ := bind_eq_ok.mp h
      cases h
      exact ofList_plain (hp.fields hfs)
  · exact readScalar_plain h

theorem ReadsPlain.readItems {vs : List Value} (hp : ReadsPlain fuel)
    (h : readItems (fuel + 1) cs = .ok (vs, rest)) : ∀ v ∈ vs, v.isPlain = true := by
  unfold Json.readItems at h
  obtain ⟨⟨v, rest'⟩, hv, h⟩ := bind_eq_ok.mp h
  have hplain := hp.value hv
  dsimp only at h
  split at h
  · cases h
    simpa using hplain
  · obtain ⟨⟨more, rest''⟩, hmore, h⟩ := bind_eq_ok.mp h
    cases h
    exact List.forall_mem_cons.mpr ⟨hplain, hp.items hmore⟩
  · cases h

theorem ReadsPlain.readFields {fields : List (String × Value)} (hp : ReadsPlain fuel)
    (h : readFields (fuel + 1) cs = .ok (fields, rest)) : ∀ e ∈ fields, e.2.isPlain = true := by
  unfold Json.readFields at h
  split at h
  · obtain ⟨⟨k, rest'⟩, _, h⟩ := bind_eq_ok.mp h
    dsimp only at h
    split at h
    · obtain ⟨⟨v, rest''⟩, hv, h⟩ := bind_eq_ok.mp h
      have hplain := hp.value hv
      dsimp only at h
      split at h
      · cases h
        simpa using hplain
      · obtain ⟨⟨more, rest'''⟩, hmore, h⟩ := bind_eq_ok.mp h
        cases h
        exact List.forall_mem_cons.mpr ⟨hplain, hp.fields hmore⟩
      · cases h
    · cases h
  · cases h

/-- What is read from a text is plain. The three readers call each other with less fuel. -/
theorem readsPlain (fuel : Nat) : ReadsPlain fuel := by
  induction fuel with
  | zero =>
    refine ⟨?_, ?_, ?_⟩ <;> intro cs x rest h
    · cases (readValue.eq_def 0 cs).symm.trans h
    · cases (readItems.eq_def 0 cs).symm.trans h
    · cases (readFields.eq_def 0 cs).symm.trans h
  | succ fuel ih => exact ⟨ih.readValue, ih.readItems, ih.readFields⟩

theorem read_plain {s : String} {v : Value} (h : read s = .ok v) : v.isPlain = true := by
  replace h := mapError_eq_ok.mp h
  unfold readChars at h
  split at h
  · cases h
  · obtain ⟨⟨w, rest⟩, hw, h⟩ := bind_eq_ok.mp h
    dsimp only at h
    split at h
    · cases h
      exact (readsPlain _).value hw
    · cases h

end Json

namespace Value
open Json

theorem integerText_isOk (n : Int) : (integerText n).isOk = (Number.int n).isShort := by
  rw [← writeNumber_isOk, writeNumber]
  cases integerText n <;> rfl

mutual

/-- A value can be shown in a message if its integers are short. -/
theorem display_isOk : ∀ v : Value, v.display.isOk = v.isShort
  | .undefined | .null | .bool _ | .text _ | .host _ | .number (.double _) => rfl
  | .number (.int n) => integerText_isOk n
  | .list items => by simp only [display, isOk_bind_pure, displayItems_isOk, isShort]
  | .record fields => by simp only [display, isOk_bind_pure, displayFields_isOk, isShort]

theorem displayItems_isOk : ∀ vs : List Value, (displayItems vs).isOk = allShort vs
  | [] => rfl
  | v :: rest => by
    have hv := display_isOk v
    have hrest := displayItems_isOk rest
    simp only [displayItems, isOk_bind_bind_pure, hv, hrest, allShort]

theorem displayFields_isOk :
    ∀ fields : Entries Value, (displayFields fields).isOk = allFieldsShort fields
  | [] => rfl
  | (_, v) :: rest => by
    have hv := display_isOk v
    have hrest := displayFields_isOk rest
    simp only [displayFields, isOk_bind_bind_pure, hv, hrest, allFieldsShort]

end

theorem plainText_isOk (v : Value) : v.plainText.isOk = v.isShort := by
  cases v with
  | text s => rfl
  | _ => exact display_isOk _

end Value
end Storyline
