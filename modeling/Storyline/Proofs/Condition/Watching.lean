import Storyline.Proofs.Condition.Evaluation

namespace Storyline.Condition

def Operand.candidates (a : Operand) : List Operand :=
  match a.value with
  | .list vs => Operand.items a.place vs
  | _ => []

/-- A part of an evaluation, and all that is seen in it, in order. -/
structure Watched (α : Type) where
  seen : List Operand
  result : Except RunFault α

namespace Watched
variable {α β : Type}

instance : Monad Watched where
  pure x := ⟨[], .ok x⟩
  bind m f :=
    match m.result with
    | .ok x => ⟨m.seen ++ (f x).seen, (f x).result⟩
    | .error fault => ⟨m.seen, .error fault⟩

def unseen (r : Except RunFault α) : Watched α := ⟨[], r⟩

def shown (r : Except RunFault Operand) : Watched Operand := ⟨r.toOption.toList, r⟩

def looked (values : List Operand) : Watched Unit := ⟨values, .ok ()⟩

theorem result_bind (m : Watched α) (f : α → Watched β) :
    (m >>= f).result = m.result >>= fun x => (f x).result := by
  obtain ⟨seen, r⟩ := m
  cases r <;> rfl

theorem seen_first {m : Watched α} {f : α → Watched β} {a : Operand} (h : a ∈ m.seen) :
    a ∈ (m >>= f).seen := by
  obtain ⟨seen, r⟩ := m
  cases r with
  | error fault => exact h
  | ok x => exact List.mem_append_left _ h

theorem seen_next {m : Watched α} {f : α → Watched β} {x : α} {a : Operand}
    (hx : m.result = .ok x) (h : a ∈ (f x).seen) : a ∈ (m >>= f).seen := by
  obtain ⟨seen, r⟩ := m
  obtain rfl : r = .ok x := hx
  exact List.mem_append_right _ h

def Ends (m : Watched Operand) : Prop := ∀ a, m.result = .ok a → a ∈ m.seen

theorem ends_shown (r : Except RunFault Operand) : (shown r).Ends := by
  intro a ha
  obtain rfl : r = .ok a := ha
  exact List.mem_singleton_self a

theorem ends_bind (m : Watched α) {f : α → Watched Operand} (h : ∀ x, (f x).Ends) :
    (m >>= f).Ends := by
  intro a ha
  rw [result_bind] at ha
  obtain ⟨x, hx, ha⟩ := bind_eq_ok.mp ha
  exact seen_next hx (h x a ha)

end Watched

mutual

/-- The evaluation of an expression, watched. -/
def Expression.watch (scope : Scope) (depth : Nat) : Expression → Watched Operand
  | .literal l => .shown (.ok (.of l.value))
  | .name s => .shown (Expression.run scope depth (.name s))
  | .sign s operand =>
    if depth = 0 then .unseen (.error .tooDeep)
    else do
      let a ← operand.watch scope (depth - 1)
      .shown ((s.apply a).map .of)
  | .binary o left right =>
    if depth = 0 then .unseen (.error .tooDeep)
    else do
      let a ← left.watch scope (depth - 1)
      match o.settledBy? with
      | some t =>
        if (← .unseen a.truthy) = t then .shown (.ok a) else right.watch scope (depth - 1)
      | none =>
        let b ← right.watch scope (depth - 1)
        .shown ((o.apply a b).map .of)
  | .member target key =>
    if depth = 0 then .unseen (.error .tooDeep)
    else do
      let a ← target.watch scope (depth - 1)
      let b ← key.watch scope (depth - 1)
      .shown (a.member b)
  | .includes target arguments =>
    if depth = 0 then .unseen (.error .tooDeep)
    else do
      let a ← target.watch scope (depth - 1)
      let values ← watchAll scope (depth - 1) arguments
      .looked a.candidates
      .shown (a.includes values)

def watchAll (scope : Scope) (depth : Nat) : List Expression → Watched (List Operand)
  | [] => .unseen (.ok [])
  | e :: rest => do
    let a ← e.watch scope depth
    return a :: (← watchAll scope depth rest)

end

/-- To evaluate the second expression is to evaluate the first on the way, each within a depth. -/
inductive Involves (scope : Scope) (x : Expression) (k : Nat) : Expression → Nat → Prop
  | self : Involves scope x k x k
  | leading {e first : Expression} {d : Nat} : e.leading? = some first →
    Involves scope x k first d → Involves scope x k e (d + 1)
  | unsettled {o : Operator} {left right : Expression} {t : Bool} {a : Operand} {d : Nat} :
    o.settledBy? = some t → left.run scope d = .ok a → a.truthy = .ok (!t) →
    Involves scope x k right d → Involves scope x k (.binary o left right) (d + 1)
  | operand {o : Operator} {left right : Expression} {a : Operand} {d : Nat} :
    o.settledBy? = none → left.run scope d = .ok a →
    Involves scope x k right d → Involves scope x k (.binary o left right) (d + 1)
  | key {target key : Expression} {a : Operand} {d : Nat} : target.run scope d = .ok a →
    Involves scope x k key d → Involves scope x k (.member target key) (d + 1)
  | argument {target e : Expression} {a : Operand} {before : List (Expression × Operand)}
      {after : List Expression} {d : Nat} :
    target.run scope d = .ok a → (∀ p ∈ before, p.1.run scope d = .ok p.2) →
    Involves scope x k e d →
    Involves scope x k (.includes target (before.map Prod.fst ++ e :: after)) (d + 1)

section Watching
variable {scope : Scope} {d : Nat}

theorem watch_sign {g : Sign} {e : Expression} : (Expression.sign g e).watch scope (d + 1) = (do
    let a ← e.watch scope d
    .shown ((g.apply a).map .of)) := rfl

theorem watch_connective {o : Operator} {left right : Expression} {t : Bool}
    (ho : o.settledBy? = some t) : (Expression.binary o left right).watch scope (d + 1) = (do
      let a ← left.watch scope d
      if (← .unseen a.truthy) = t then .shown (.ok a) else right.watch scope d) := by
  rw [Expression.watch]
  simp [ho]

theorem watch_operator {o : Operator} {left right : Expression} (ho : o.settledBy? = none) :
    (Expression.binary o left right).watch scope (d + 1) = (do
      let a ← left.watch scope d
      let b ← right.watch scope d
      .shown ((o.apply a b).map .of)) := by
  rw [Expression.watch]
  simp [ho]

theorem watch_member {target key : Expression} :
    (Expression.member target key).watch scope (d + 1) = (do
      let a ← target.watch scope d
      let b ← key.watch scope d
      .shown (a.member b)) := rfl

theorem watch_includes {target : Expression} {arguments : List Expression} :
    (Expression.includes target arguments).watch scope (d + 1) = (do
      let a ← target.watch scope d
      let values ← watchAll scope d arguments
      .looked a.candidates
      .shown (a.includes values)) := rfl

theorem map_of (r : Except RunFault Value) : r.map Operand.of = (do return .of (← r)) := by
  cases r <;> rfl

open Watched

mutual

/-- An evaluation comes to what it comes to, watched or not. -/
theorem watch_result (scope : Scope) : ∀ e d, (Expression.watch scope d e).result = e.run scope d
  | .literal l, d => rfl
  | .name s, d => rfl
  | .sign g e, 0 => rfl
  | .sign g e, d + 1 => by
    rw [watch_sign, run_sign, result_bind, watch_result scope e d]
    exact bind_congr fun a => map_of _
  | .binary o left right, 0 => (run_zero rfl).symm
  | .binary o left right, d + 1 => by
    cases ho : o.settledBy? with
    | none =>
      rw [watch_operator ho, run_operator ho, result_bind, watch_result scope left d]
      refine bind_congr fun a => ?_
      rw [result_bind, watch_result scope right d]
      exact bind_congr fun b => map_of _
    | some t =>
      rw [watch_connective ho, run_connective ho, result_bind, watch_result scope left d]
      refine bind_congr fun a => ?_
      rw [result_bind]
      refine bind_congr fun b => ?_
      split
      · rfl
      · exact watch_result scope right d
  | .member target key, 0 => rfl
  | .member target key, d + 1 => by
    rw [watch_member, run_member, result_bind, watch_result scope target d]
    refine bind_congr fun a => ?_
    rw [result_bind, watch_result scope key d]
    rfl
  | .includes target arguments, 0 => rfl
  | .includes target arguments, d + 1 => by
    rw [watch_includes, run_includes, result_bind, watch_result scope target d]
    refine bind_congr fun a => ?_
    rw [result_bind, watchAll_result scope arguments d]
    rfl

theorem watchAll_result (scope : Scope) : ∀ es d, (watchAll scope d es).result = runAll scope d es
  | [], d => rfl
  | e :: rest, d => by
    rw [watchAll, runAll, result_bind, watch_result scope e d]
    refine bind_congr fun a => ?_
    rw [result_bind, watchAll_result scope rest d]
    rfl

end

/-- The value of an expression is seen. -/
theorem watch_ends (scope : Scope) : ∀ e d, (Expression.watch scope d e).Ends
  | .literal l, d => ends_shown _
  | .name s, d => ends_shown _
  | .sign g e, 0 => fun a ha => nomatch ha
  | .sign g e, d + 1 => ends_bind _ fun a => ends_shown _
  | .binary o left right, 0 => fun a ha => nomatch ha
  | .binary o left right, d + 1 => by
    cases ho : o.settledBy? with
    | none =>
      rw [watch_operator ho]
      exact ends_bind _ fun a => ends_bind _ fun b => ends_shown _
    | some t =>
      rw [watch_connective ho]
      refine ends_bind _ fun a => ends_bind _ fun b => ?_
      split
      · exact ends_shown _
      · exact watch_ends scope right d
  | .member target key, 0 => fun a ha => nomatch ha
  | .member target key, d + 1 => ends_bind _ fun a => ends_bind _ fun b => ends_shown _
  | .includes target arguments, 0 => fun a ha => nomatch ha
  | .includes target arguments, d + 1 =>
    ends_bind _ fun a => ends_bind _ fun values => ends_bind _ fun _ => ends_shown _

theorem leading_seen {e first : Expression} (hl : e.leading? = some first) {a : Operand}
    (h : a ∈ (first.watch scope d).seen) : a ∈ (e.watch scope (d + 1)).seen := by
  cases e with
  | literal l => cases hl
  | name s => cases hl
  | sign g e =>
    cases hl
    rw [watch_sign]
    exact seen_first h
  | binary o left right =>
    cases hl
    cases ho : o.settledBy? with
    | none =>
      rw [watch_operator ho]
      exact seen_first h
    | some t =>
      rw [watch_connective ho]
      exact seen_first h
  | member target key =>
    cases hl
    rw [watch_member]
    exact seen_first h
  | includes target arguments =>
    cases hl
    rw [watch_includes]
    exact seen_first h

theorem argument_seen {e : Expression} {before : List (Expression × Operand)}
    {after : List Expression} (hbefore : ∀ p ∈ before, p.1.run scope d = .ok p.2) {a : Operand}
    (h : a ∈ (e.watch scope d).seen) :
    a ∈ (watchAll scope d (before.map Prod.fst ++ e :: after)).seen := by
  induction before with
  | nil =>
    rw [List.map_nil, List.nil_append, watchAll]
    exact seen_first h
  | cons p before ih =>
    obtain ⟨hp, hrest⟩ := List.forall_mem_cons.mp hbefore
    rw [List.map_cons, List.cons_append, watchAll]
    exact seen_next ((watch_result scope p.1 d).trans hp) (seen_first (ih hrest))

/-- Nothing that a part comes to goes unseen, if that part is evaluated. -/
theorem Involves.seen {x e : Expression} {k : Nat} (hi : Involves scope x k e d) {a : Operand}
    (ha : x.run scope k = .ok a) : a ∈ (e.watch scope d).seen := by
  induction hi with
  | self => exact watch_ends scope x k a ((watch_result scope x k).trans ha)
  | leading hl _ ih => exact leading_seen hl ih
  | @unsettled o left right t b d ho hb ht _ ih =>
    rw [watch_connective ho]
    refine seen_next ((watch_result scope left d).trans hb) (seen_next ht ?_)
    rwa [if_neg (by cases t <;> decide)]
  | @operand o left right b d ho hb _ ih =>
    rw [watch_operator ho]
    exact seen_next ((watch_result scope left d).trans hb) (seen_first ih)
  | @key target key b d hb _ ih =>
    rw [watch_member]
    exact seen_next ((watch_result scope target d).trans hb) (seen_first ih)
  | @argument target e b before after d hb hbefore _ ih =>
    rw [watch_includes]
    exact seen_next ((watch_result scope target d).trans hb)
      (seen_first (argument_seen hbefore ih))

end Watching

end Storyline.Condition
