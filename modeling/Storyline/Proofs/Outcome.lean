import Storyline.Engine.Basic

namespace Storyline

variable {α β ε δ : Type}

@[simp] theorem ok_bind (a : α) (f : α → Except ε β) : (Except.ok a >>= f) = f a := rfl

@[simp] theorem error_bind (fault : ε) (f : α → Except ε β) :
    (Except.error fault >>= f) = .error fault := rfl

@[simp] theorem pure_ok (a : α) : (pure a : Except ε α) = .ok a := rfl

@[simp] theorem map_ok (f : α → β) (a : α) : (Except.ok a : Except ε α).map f = .ok (f a) := rfl

@[simp] theorem map_error (f : α → β) (fault : ε) :
    (Except.error fault : Except ε α).map f = .error fault := rfl

@[simp] theorem isOk_ok (a : α) : (Except.ok a : Except ε α).isOk = true := rfl

@[simp] theorem isOk_error (fault : ε) : (Except.error fault : Except ε α).isOk = false := rfl

@[simp] theorem mapError_ok {g : ε → δ} {a : α} : (Except.ok a).mapError g = .ok a := rfl

@[simp] theorem mapError_error {g : ε → δ} {fault : ε} :
    (Except.error fault : Except ε α).mapError g = .error (g fault) := rfl

theorem bind_eq_ok {x : Except ε α} {f : α → Except ε β} {b : β} :
    (x >>= f) = .ok b ↔ ∃ a, x = .ok a ∧ f a = .ok b := by
  cases x <;> simp

theorem bind_eq_error {x : Except ε α} {f : α → Except ε β} {fault : ε} :
    (x >>= f) = .error fault ↔ x = .error fault ∨ ∃ a, x = .ok a ∧ f a = .error fault := by
  cases x <;> simp

theorem pure_eq_ok {a b : α} : (pure a : Except ε α) = .ok b ↔ a = b := by
  simp

theorem map_eq_ok {x : Except ε α} {f : α → β} {b : β} :
    x.map f = .ok b ↔ ∃ a, x = .ok a ∧ f a = b := by
  cases x <;> simp

@[simp] theorem mapError_eq_ok {x : Except ε α} {g : ε → δ} {a : α} :
    x.mapError g = .ok a ↔ x = .ok a := by
  cases x <;> simp

theorem map_bind {γ : Type} (x : Except ε α) (f : α → Except ε β) (g : β → γ) :
    (x >>= f).map g = x >>= fun a => (f a).map g := by
  cases x <;> rfl

theorem mapError_eq_error {x : Except ε α} {g : ε → δ} {fault : δ} :
    x.mapError g = .error fault ↔ ∃ f, x = .error f ∧ g f = fault := by
  cases x <;> simp

@[simp] theorem isOk_map {x : Except ε α} {f : α → β} : (x.map f).isOk = x.isOk := by
  cases x <;> rfl

@[simp] theorem isOk_mapError {x : Except ε α} {g : ε → δ} : (x.mapError g).isOk = x.isOk := by
  cases x <;> rfl

theorem isOk_eq_true {x : Except ε α} : x.isOk = true ↔ ∃ a, x = .ok a := by
  cases x <;> simp

theorem isOk_eq_false {x : Except ε α} : x.isOk = false ↔ ∃ fault, x = .error fault := by
  cases x <;> simp

@[simp] theorem toOption_mapError {x : Except ε α} {g : ε → δ} :
    (x.mapError g).toOption = x.toOption := by
  cases x <;> rfl

/-- Of a value that does not matter only remains whether there is one. -/
theorem toOption_discarded {x y : Except ε α} (h : y.isOk = x.isOk) :
    (y.map fun _ => ()).toOption = (x.map fun _ => ()).toOption := by
  cases x <;> cases y <;> first | rfl | cases h

namespace Engine

variable {o : Outcome α} {next : α → Engine → Outcome β} {e : Engine}

@[simp] theorem andThen_ok {a : α} : andThen (.ok a, e) next = next a e := rfl

@[simp] theorem andThen_error {fault : EngineFault} :
    andThen ((.error fault, e) : Outcome α) next = (.error fault, e) := rfl

theorem andThen_eq_ok {b : β} :
    andThen o next = (.ok b, e) ↔ ∃ a e', o = (.ok a, e') ∧ next a e' = (.ok b, e) := by
  obtain ⟨r, e'⟩ := o
  cases r with
  | error fault => simp
  | ok a =>
    refine ⟨fun h => ⟨a, e', rfl, h⟩, ?_⟩
    rintro ⟨a', e'', ho, h⟩
    cases ho
    exact h

theorem andThen_eq_error {fault : EngineFault} : andThen o next = (.error fault, e) ↔
    o = (.error fault, e) ∨ ∃ a e', o = (.ok a, e') ∧ next a e' = (.error fault, e) := by
  obtain ⟨r, e'⟩ := o
  cases r with
  | error f => simp
  | ok a =>
    simp only [andThen_ok, Prod.mk.injEq, reduceCtorEq, false_and, false_or]
    refine ⟨fun h => ⟨a, e', ⟨rfl, rfl⟩, h⟩, ?_⟩
    rintro ⟨_, _, ⟨ho, rfl⟩, h⟩
    cases ho
    exact h

/-- Nothing is done any more where a value is only replaced by another one. -/
theorem andThen_returns (o : Outcome α) (b : β) :
    andThen o (fun _ e => (.ok b, e)) = (o.1.map fun _ => b, o.2) := by
  obtain ⟨r, e⟩ := o
  cases r <;> rfl

/-- What holds after the first part, and is kept by the second, holds in the end. -/
theorem andThen_keeps {I : Engine → Prop} (first : I o.2)
    (second : ∀ a e, o = (.ok a, e) → I e → I (next a e).2) : I (andThen o next).2 := by
  obtain ⟨r, e⟩ := o
  cases r with
  | error fault => exact first
  | ok a => exact second a e rfl first

end Engine
end Storyline
