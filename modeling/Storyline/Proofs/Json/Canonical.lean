import Mathlib.Data.List.Forall2
import Mathlib.Data.List.Nodup
import Storyline.Proofs.Json.Value

namespace Storyline

namespace Entries
variable {α : Type} {es fs : Entries α} {key : String} {value : α}

theorem get?_of_mem (h : es.keys.Nodup) (hm : (key, value) ∈ es) : es.get? key = some value := by
  induction es with
  | nil => cases hm
  | cons e rest ih =>
    obtain ⟨k, v⟩ := e
    obtain ⟨hk, hrest⟩ := List.nodup_cons.mp h
    rcases List.mem_cons.mp hm with heq | hm
    · cases heq
      simp [get?]
    · have hmem : key ∈ Entries.keys rest := List.mem_map_of_mem hm
      have hne : (key == k) = false := beq_eq_false_iff_ne.mpr fun heq => hk (heq ▸ hmem)
      simpa only [get?, List.lookup_cons, hne] using ih hrest hm

theorem get?_eq_some_iff (h : es.keys.Nodup) : es.get? key = some value ↔ (key, value) ∈ es :=
  ⟨mem_of_get?, get?_of_mem h⟩

/-- The order of entries does not matter to a lookup. -/
theorem get?_congr (h : es.keys.Nodup) (hp : es.Perm fs) (key : String) :
    es.get? key = fs.get? key := by
  have hf : fs.keys.Nodup := (hp.map Prod.fst).nodup_iff.mp h
  apply Option.ext
  intro value
  rw [get?_eq_some_iff h, get?_eq_some_iff hf]
  exact hp.mem_iff

theorem keys_put_of_mem (h : key ∈ es.keys) : (es.put key value).keys = es.keys := by
  induction es with
  | nil => cases h
  | cons e rest ih =>
    obtain ⟨k, v⟩ := e
    by_cases hk : k = key
    · simp [put, keys, hk]
    · have hrest : key ∈ Entries.keys rest := by
        rcases List.mem_cons.mp h with rfl | h
        · exact absurd rfl hk
        · exact h
      have hput :
          Entries.put ((k, v) :: rest) key value = (k, v) :: Entries.put rest key value := by
        simp [put, hk]
      rw [hput]
      exact congrArg (k :: ·) (ih hrest)

theorem keys_erase_nodup (h : es.keys.Nodup) (key : String) : (es.erase key).keys.Nodup :=
  h.sublist (List.filter_sublist.map Prod.fst)

end Entries

namespace Value
open Json
variable {v w : Value} {fields others mid : Entries Value}

mutual

/-- The same value, but for the order of the fields in its records at any depth. -/
def Reordered : Value → Value → Prop
  | .list vs, .list ws => AllReordered vs ws
  | .record fields, .record others => ∃ mid, others.Perm mid ∧ FieldsReordered fields mid
  | v, w => v = w

def AllReordered : List Value → List Value → Prop
  | [], [] => True
  | v :: vs, w :: ws => Reordered v w ∧ AllReordered vs ws
  | _, _ => False

/-- The same keys in the same order, with values that are the same but for the order inside. -/
def FieldsReordered : List (String × Value) → List (String × Value) → Prop
  | [], [] => True
  | (k, v) :: rest, (l, w) :: more => k = l ∧ Reordered v w ∧ FieldsReordered rest more
  | _, _ => False

end

theorem allFieldsProper_iff :
    allFieldsProper fields = true ↔ ∀ e ∈ fields, e.2.isProper = true := by
  induction fields with
  | nil => simp [allFieldsProper]
  | cons e rest ih =>
    obtain ⟨k, v⟩ := e
    simp [allFieldsProper, ih]

theorem record_proper : (Value.record fields).isProper = true ↔
    (Entries.keys fields).Nodup ∧ ∀ e ∈ fields, e.2.isProper = true := by
  simp [isProper, allFieldsProper_iff]

theorem proper_of_get? {key : String} (h : (Value.record fields).isProper = true)
    (hv : Entries.get? fields key = some v) : v.isProper = true :=
  (record_proper.mp h).2 _ (Entries.mem_of_get? hv)

theorem sortedFields_eq_map (fields : Entries Value) :
    sortedFields fields = fields.map fun e => (e.1, sorted e.2) := by
  induction fields with
  | nil => rfl
  | cons e rest ih => exact congrArg ((e.1, sorted e.2) :: ·) ih

theorem keys_sortedFields (fields : Entries Value) :
    Entries.keys (sortedFields fields) = Entries.keys fields := by
  simp [sortedFields_eq_map, Entries.keys, Function.comp_def]

theorem sortFields_perm (fields : Entries Value) : (sortFields fields).Perm fields :=
  List.mergeSort_perm _ _

theorem sortFields_sorted (fields : Entries Value) :
    (sortFields fields).Pairwise fun a b => a.1 ≤ b.1 := by
  have h : (sortFields fields).Pairwise fun a b => decide (a.1 ≤ b.1) = true := by
    apply List.pairwise_mergeSort
    · intro a b c hab hbc
      simp only [decide_eq_true_eq] at hab hbc ⊢
      exact String.le_trans hab hbc
    · intro a b
      simpa using String.le_total a.1 b.1
  simpa using h

/-- Where no key comes twice, there is one order of the fields by key. -/
theorem sortFields_congr (hn : (Entries.keys fields).Nodup) (h : fields.Perm others) :
    sortFields fields = sortFields others := by
  have hperm : (sortFields fields).Perm (sortFields others) :=
    ((sortFields_perm fields).trans h).trans (sortFields_perm others).symm
  refine hperm.eq_of_pairwise ?_ (sortFields_sorted fields) (sortFields_sorted others)
  intro a b ha hb hab hba
  have hb' : b ∈ fields := h.mem_iff.mpr (mem_sortFields.mp hb)
  exact List.inj_on_of_nodup_map hn (mem_sortFields.mp ha) hb' (String.le_antisymm hab hba)

/-- What is in order after a map was in some order before. -/
theorem exists_perm_of_map {α β : Type} {f : α → β} {xs : List α} {ys : List β}
    (h : (xs.map f).Perm ys) : ∃ zs, xs.Perm zs ∧ zs.map f = ys := by
  have hmap : List.Forall₂ (fun a b => f a = b) xs (xs.map f) :=
    List.forall₂_map_left_iff.mp (List.forall₂_refl _)
  have hcomp : Relation.Comp (List.Forall₂ fun a b => f a = b) List.Perm xs ys := ⟨_, hmap, h⟩
  rw [List.forall₂_comp_perm_eq_perm_comp_forall₂] at hcomp
  obtain ⟨zs, hperm, hzs⟩ := hcomp
  have heq : List.Forall₂ (· = ·) (zs.map f) ys := List.forall₂_map_left_iff.mpr hzs
  rw [List.forall₂_eq_eq_eq] at heq
  exact ⟨zs, hperm, heq⟩

mutual

/-- Values that are sorted into the same value differ in the order of fields only. -/
theorem reordered_of_sorted : ∀ {v w : Value}, sorted v = sorted w → Reordered v w
  | .list vs, w, h => by
    cases w <;> simp only [sorted, reduceCtorEq, Value.list.injEq] at h
    exact allReordered_of_sorted h
  | .record fields, w, h => by
    cases w <;> simp only [sorted, reduceCtorEq, Value.record.injEq] at h
    rename_i others
    have hperm : (sortedFields others).Perm (sortedFields fields) :=
      (sortFields_perm _).symm.trans (h ▸ sortFields_perm _)
    rw [sortedFields_eq_map others] at hperm
    obtain ⟨mid, hmid, hmap⟩ := exists_perm_of_map hperm
    exact ⟨mid, hmid, fieldsReordered_of_sorted (by rw [sortedFields_eq_map mid, hmap])⟩
  | .undefined, w, h | .null, w, h | .bool _, w, h | .number _, w, h | .text _, w, h
  | .host _, w, h => by
    cases w <;> simp_all [sorted, Reordered]

theorem allReordered_of_sorted :
    ∀ {vs ws : List Value}, sortedItems vs = sortedItems ws → AllReordered vs ws
  | [], [], _ => trivial
  | [], _ :: _, h => by cases h
  | _ :: _, [], h => by cases h
  | _ :: _, _ :: _, h => by
    obtain ⟨hv, hrest⟩ := List.cons.inj h
    exact ⟨reordered_of_sorted hv, allReordered_of_sorted hrest⟩

theorem fieldsReordered_of_sorted :
    ∀ {fields others : Entries Value}, sortedFields fields = sortedFields others →
      FieldsReordered fields others
  | [], [], _ => trivial
  | [], _ :: _, h => by cases h
  | _ :: _, [], h => by cases h
  | (_, _) :: _, (_, _) :: _, h => by
    obtain ⟨he, hrest⟩ := List.cons.inj h
    obtain ⟨hk, hv⟩ := Prod.mk.inj he
    exact ⟨hk, reordered_of_sorted hv, fieldsReordered_of_sorted hrest⟩

end

theorem reordered_of_perm (h : others.Perm fields) :
    Reordered (.record fields) (.record others) :=
  ⟨fields, h, fieldsReordered_of_sorted rfl⟩

mutual

/-- Where no key comes twice, the order of fields is lost when they are sorted. -/
theorem sorted_of_reordered :
    ∀ {v w : Value}, v.isProper = true → Reordered v w → sorted v = sorted w
  | .list vs, w, hp, h => by
    cases w <;> simp only [Reordered, reduceCtorEq] at h
    exact congrArg Value.list (sortedItems_of_reordered hp h)
  | .record fields, w, hp, h => by
    cases w <;> simp only [Reordered, reduceCtorEq] at h
    rename_i others
    obtain ⟨mid, hmid, h⟩ := h
    obtain ⟨hkeys, hfields⟩ := Bool.and_eq_true_iff.mp hp
    have hsorted := sortedFields_of_reordered hfields h
    have hperm : (sortedFields fields).Perm (sortedFields others) := by
      rw [hsorted, sortedFields_eq_map, sortedFields_eq_map]
      exact (hmid.map _).symm
    have hnodup : (Entries.keys (sortedFields fields)).Nodup := by
      rw [keys_sortedFields]
      exact of_decide_eq_true hkeys
    exact congrArg Value.record (sortFields_congr hnodup hperm)
  | .undefined, w, _, h | .null, w, _, h | .bool _, w, _, h | .number _, w, _, h
  | .text _, w, _, h | .host _, w, _, h => by
    cases w <;> simp_all [Reordered]

theorem sortedItems_of_reordered :
    ∀ {vs ws : List Value}, allProper vs = true → AllReordered vs ws →
      sortedItems vs = sortedItems ws
  | [], [], _, _ => rfl
  | [], _ :: _, _, h | _ :: _, [], _, h => by cases h
  | _ :: _, _ :: _, hp, h => by
    obtain ⟨hv, hrest⟩ := Bool.and_eq_true_iff.mp hp
    simp only [sortedItems, sorted_of_reordered hv h.1, sortedItems_of_reordered hrest h.2]

theorem sortedFields_of_reordered :
    ∀ {fields others : Entries Value}, allFieldsProper fields = true →
      FieldsReordered fields others → sortedFields fields = sortedFields others
  | [], [], _, _ => rfl
  | [], _ :: _, _, h | _ :: _, [], _, h => by cases h
  | (_, _) :: _, (_, _) :: _, hp, h => by
    obtain ⟨hv, hrest⟩ := Bool.and_eq_true_iff.mp hp
    obtain ⟨rfl, hw, hmore⟩ := h
    simp only [sortedFields, sorted_of_reordered hv hw, sortedFields_of_reordered hrest hmore]

end

mutual

/-- Sorting doubles no key. -/
theorem sorted_proper : ∀ {v : Value}, v.isProper = true → (sorted v).isProper = true
  | .undefined, _ | .null, _ | .bool _, _ | .number _, _ | .text _, _ | .host _, _ => rfl
  | .list _, h => sortedItems_proper h
  | .record fields, h => by
    obtain ⟨hkeys, hfields⟩ := Bool.and_eq_true_iff.mp h
    have hproper := allFieldsProper_iff.mp (sortedFields_proper hfields)
    have hperm := sortFields_perm (sortedFields fields)
    refine record_proper.mpr ⟨?_, fun e he => hproper e (hperm.mem_iff.mp he)⟩
    refine (hperm.map Prod.fst).nodup_iff.mpr ?_
    have hkeys' : (Entries.keys (sortedFields fields)).Nodup := by
      rw [keys_sortedFields]
      exact of_decide_eq_true hkeys
    exact hkeys'

theorem sortedItems_proper :
    ∀ {vs : List Value}, allProper vs = true → allProper (sortedItems vs) = true
  | [], _ => rfl
  | _ :: _, h => by
    obtain ⟨hv, hrest⟩ := Bool.and_eq_true_iff.mp h
    exact Bool.and_eq_true_iff.mpr ⟨sorted_proper hv, sortedItems_proper hrest⟩

theorem sortedFields_proper :
    ∀ {fields : Entries Value}, allFieldsProper fields = true →
      allFieldsProper (sortedFields fields) = true
  | [], _ => rfl
  | (_, _) :: _, h => by
    obtain ⟨hv, hrest⟩ := Bool.and_eq_true_iff.mp h
    exact Bool.and_eq_true_iff.mpr ⟨sorted_proper hv, sortedFields_proper hrest⟩

end

theorem fieldsReordered_get? : ∀ {fields others : Entries Value}, FieldsReordered fields others →
    ∀ key, Option.Rel Reordered (Entries.get? fields key) (Entries.get? others key)
  | [], [], _, _ => .none
  | [], _ :: _, h, _ | _ :: _, [], h, _ => by cases h
  | (k, v) :: rest, (_, w) :: more, h, key => by
    obtain ⟨rfl, hv, hrest⟩ := h
    simp only [Entries.get?, List.lookup_cons]
    cases key == k with
    | true => exact .some hv
    | false => exact fieldsReordered_get? hrest key

/-- Fields that are all found elsewhere are found there in this order. -/
theorem exists_fieldsReordered
    (h : ∀ e ∈ fields, ∃ w, Entries.get? others e.1 = some w ∧ Reordered e.2 w) :
    ∃ mid, FieldsReordered fields mid ∧ Entries.keys mid = Entries.keys fields ∧
      ∀ e ∈ mid, Entries.get? others e.1 = some e.2 := by
  induction fields with
  | nil => exact ⟨[], trivial, rfl, nofun⟩
  | cons e rest ih =>
    obtain ⟨k, v⟩ := e
    obtain ⟨⟨w, hw, hv⟩, hrest⟩ := List.forall_mem_cons.mp h
    obtain ⟨mid, hmid, hkeys, hget⟩ := ih hrest
    refine ⟨(k, w) :: mid, ⟨rfl, hv, hmid⟩, congrArg (k :: ·) hkeys, ?_⟩
    exact List.forall_mem_cons.mpr ⟨hw, hget⟩

/-- Records without doubled keys are the same but for the order inside if every lookup finds the
same in them, but for the order inside. -/
theorem reordered_record_iff (hf : (Entries.keys fields).Nodup)
    (ho : (Entries.keys others).Nodup) :
    Reordered (.record fields) (.record others) ↔
      ∀ key, Option.Rel Reordered (Entries.get? fields key) (Entries.get? others key) := by
  constructor
  · rintro ⟨mid, hperm, hmid⟩ key
    rw [Entries.get?_congr ho hperm key]
    exact fieldsReordered_get? hmid key
  · intro h
    have hall : ∀ e ∈ fields, ∃ w, Entries.get? others e.1 = some w ∧ Reordered e.2 w := by
      intro e he
      have hrel := h e.1
      rw [Entries.get?_of_mem hf he] at hrel
      generalize Entries.get? others e.1 = found at hrel
      cases hrel with
      | some hv => exact ⟨_, rfl, hv⟩
    obtain ⟨mid, hmid, hkeys, hget⟩ := exists_fieldsReordered hall
    refine ⟨mid, ?_, hmid⟩
    have hm : (Entries.keys mid).Nodup := hkeys ▸ hf
    refine (List.perm_ext_iff_of_nodup (ho.of_map _) (hm.of_map _)).mpr ?_
    rintro ⟨key, w⟩
    constructor
    · intro hw
      have hfound := Entries.get?_of_mem ho hw
      have hrel := h key
      rw [hfound] at hrel
      have hkey : key ∈ Entries.keys mid := by
        rw [hkeys]
        cases hv : Entries.get? fields key with
        | none =>
          rw [hv] at hrel
          cases hrel
        | some v => exact List.mem_map_of_mem (Entries.mem_of_get? hv)
      obtain ⟨⟨_, w'⟩, hw', rfl⟩ := List.mem_map.mp hkey
      have heq := hfound.symm.trans (hget _ hw')
      cases heq
      exact hw'
    · exact fun hw => Entries.mem_of_get? (hget _ hw)

end Value

namespace Json
open Value
variable {v w : Value} {text : String}

theorem Layout.canonical_legible : Layout.canonical.Legible := ⟨⟨0, by rfl⟩, ⟨0, by rfl⟩⟩

/-- The canonical text can be read again, as the value with its fields in order. -/
theorem read_canonical (hv : v.isProper = true) (h : writeCanonical v = .ok text) :
    read text = .ok (sorted v) := by
  have hok := writeCanonical_isOk v
  rw [h] at hok
  have hplain : v.isPlain = true := (Bool.and_eq_true_iff.mp hok.symm).1
  exact read_write Layout.canonical_legible ((sorted_all v).1.trans hplain) (sorted_proper hv) h

/-- Values with one canonical text are the same but for the order of fields. -/
theorem reordered_of_canonical (hv : v.isProper = true) (hw : w.isProper = true)
    (h : writeCanonical v = .ok text) (h' : writeCanonical w = .ok text) : Reordered v w := by
  have hread := (read_canonical hv h).symm.trans (read_canonical hw h')
  exact reordered_of_sorted (Except.ok.inj hread)

/-- The order of fields does not show in the canonical text. -/
theorem canonical_of_reordered (hv : v.isProper = true) (h : Reordered v w) :
    writeCanonical v = writeCanonical w := by
  rw [writeCanonical, writeCanonical, sorted_of_reordered hv h]

end Json
end Storyline
