namespace Storyline

/-- Values under text keys, in the order in which the keys first came. -/
abbrev Entries (α : Type) := List (String × α)

namespace Entries
variable {α : Type}

def keys (es : Entries α) : List String := es.map (·.1)

def values (es : Entries α) : List α := es.map (·.2)

def get? (es : Entries α) (key : String) : Option α := List.lookup key es

def has (es : Entries α) (key : String) : Bool := (es.get? key).isSome

def put (es : Entries α) (key : String) (value : α) : Entries α :=
  match es with
  | [] => [(key, value)]
  | (k, v) :: rest => if k == key then (k, value) :: rest else (k, v) :: put rest key value

def erase (es : Entries α) (key : String) : Entries α := es.filter (·.1 != key)

def merge (es added : Entries α) : Entries α := added.foldl (fun all e => all.put e.1 e.2) es

/-- Of entries with one key the last counts, in the place of the first. -/
def ofList (es : List (String × α)) : Entries α := merge [] es

theorem get?_put_self (es : Entries α) (key : String) (value : α) :
    (es.put key value).get? key = some value := by
  induction es with
  | nil => simp [put, get?]
  | cons e rest ih =>
    obtain ⟨k, v⟩ := e
    by_cases h : k = key
    · subst h; simp [put, get?]
    · have hk : (key == k) = false := by simp [Ne.symm h]
      simpa [put, h, get?, List.lookup_cons, hk] using ih

theorem get?_put_of_ne (es : Entries α) {key other : String} (value : α) (h : other ≠ key) :
    (es.put key value).get? other = es.get? other := by
  induction es with
  | nil =>
    have hk : (other == key) = false := by simp [h]
    simp [put, get?, List.lookup_cons, hk]
  | cons e rest ih =>
    obtain ⟨k, v⟩ := e
    by_cases hk : k = key
    · subst hk
      have ho : (other == k) = false := by simp [h]
      simp [put, get?, List.lookup_cons, ho]
    · by_cases ho : other = k
      · subst ho; simp [put, hk, get?]
      · have hb : (other == k) = false := by simp [ho]
        simpa [put, hk, get?, List.lookup_cons, hb] using ih

theorem get?_erase_self (es : Entries α) (key : String) : (es.erase key).get? key = none := by
  induction es with
  | nil => rfl
  | cons e rest ih =>
    obtain ⟨k, v⟩ := e
    by_cases h : k = key
    · simpa [erase, h] using ih
    · have hk : (key == k) = false := by simp [Ne.symm h]
      simpa [erase, h, get?, List.lookup_cons, hk] using ih

theorem get?_erase_of_ne (es : Entries α) {key other : String} (h : other ≠ key) :
    (es.erase key).get? other = es.get? other := by
  induction es with
  | nil => rfl
  | cons e rest ih =>
    obtain ⟨k, v⟩ := e
    by_cases hk : k = key
    · subst hk
      have ho : (other == k) = false := by simp [h]
      simpa [erase, get?, List.lookup_cons, ho] using ih
    · by_cases ho : other = k
      · subst ho; simp [erase, hk, get?]
      · have hb : (other == k) = false := by simp [ho]
        simpa [erase, hk, get?, List.lookup_cons, hb] using ih

end Entries
end Storyline
