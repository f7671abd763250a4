import Storyline.Proofs.Outcome
import Storyline.Schema.Record
import Storyline.Schema.Scalar

namespace Storyline.Schema
variable {α β : Type}

theorem fill_eq_ok {x : Checked α} {f : Checked (α → β)} {b : β} :
    fill x f = .ok b ↔ ∃ g a, f = .ok g ∧ x = .ok a ∧ g a = b := by
  cases f <;> cases x <;> simp [fill]

theorem within_eq_ok {p : Place} {x : Checked α} {a : α} : within p x = .ok a ↔ x = .ok a :=
  mapError_eq_ok

theorem model_eq_ok {name : String} {read : Entries Value → Checked α} {v : Value} {a : α} :
    model name read v = .ok a ↔ ∃ fields, v = .record fields ∧ read fields = .ok a := by
  cases v <;> simp [model, mismatch]

theorem items_eq_ok {read : Value → Checked α} {index : Nat} {vs : List Value} {as : List α} :
    items read index vs = .ok as ↔ vs.map read = as.map .ok := by
  induction vs generalizing index as with
  | nil => cases as <;> simp [items]
  | cons v rest ih =>
    simp only [items, fill_eq_ok, within_eq_ok, Except.ok.injEq]
    constructor
    · rintro ⟨g, more, ⟨_, a, rfl, ha, rfl⟩, hm, rfl⟩
      simp [ha, ih.mp hm]
    · intro h
      cases as with
      | nil => cases h
      | cons a more =>
        obtain ⟨ha, hm⟩ := List.cons.inj h
        exact ⟨_, more, ⟨_, a, rfl, ha, rfl⟩, ih.mpr hm, rfl⟩

theorem list_eq_ok {read : Value → Checked α} {v : Value} {as : List α} :
    list read v = .ok as ↔ ∃ vs, v = .list vs ∧ vs.map read = as.map .ok := by
  cases v <;> simp [list, mismatch, items_eq_ok]

/-- A field that may be left out has its default if it is. -/
theorem field_eq_ok {fields : Entries Value} {plain : String} {default a : α}
    {read : Value → Checked α} :
    field fields plain default read = .ok a ↔
      match nameIn? fields plain with
      | some name => read ((fields.get? name).getD .null) = .ok a
      | none => default = a := by
  unfold field
  cases nameIn? fields plain <;> simp [within_eq_ok]

theorem required_eq_ok {fields : Entries Value} {plain : String} {a : α}
    {read : Value → Checked α} :
    required fields plain read = .ok a ↔ ∃ name, nameIn? fields plain = some name ∧
      read ((fields.get? name).getD .null) = .ok a := by
  unfold required
  cases nameIn? fields plain <;> simp [within_eq_ok]

section
variable {fields : Entries Value} {plain name : String} {default a : α} {v : Value}
  {read : Value → Checked α}

theorem field_present (hn : nameIn? fields plain = some name) (hv : fields.get? name = some v)
    (hr : read v = .ok a) : field fields plain default read = .ok a := by
  simp [field_eq_ok, hn, hv, hr]

theorem field_absent (hn : nameIn? fields plain = none) :
    field fields plain default read = .ok default := by
  simp [field_eq_ok, hn]

theorem required_present (hn : nameIn? fields plain = some name) (hv : fields.get? name = some v)
    (hr : read v = .ok a) : required fields plain read = .ok a :=
  required_eq_ok.mpr ⟨name, hn, by simp [hv, hr]⟩

end

theorem list_texts (ss : List String) : list text (.texts ss) = .ok ss :=
  list_eq_ok.mpr ⟨ss.map .text, rfl, by simp [Schema.text]⟩

theorem list_records (rs : List (Entries Value)) :
    list record (.list (rs.map .record)) = .ok rs :=
  list_eq_ok.mpr ⟨rs.map .record, rfl, by simp [Schema.record]⟩

end Storyline.Schema
