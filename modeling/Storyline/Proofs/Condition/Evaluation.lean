import Storyline.Condition.Meaning
import Storyline.Proofs.Outcome

namespace Storyline.Condition

/-- The truth of the left operand with which a connective leaves the right one alone. -/
def Operator.settledBy? : Operator → Option Bool
  | or => some true
  | and => some false
  | _ => none

/-- The part of an expression that is evaluated before anything else in it. -/
def Expression.leading? : Expression → Option Expression
  | .literal _ | .name _ => none
  | .sign _ e | .binary _ e _ | .member e _ | .includes e _ => some e

/-- What an expression comes to in a scope. Parts that no rule mentions are not evaluated. -/
inductive Evaluates (scope : Scope) : Expression → Except RunFault Operand → Prop
  | literal (l : Literal) : Evaluates scope (.literal l) (.ok (.of l.value))
  | known {s : String} {a : Operand} : scope.lookup? s = some a →
    Evaluates scope (.name s) (.ok a)
  | unknown {s : String} : scope.lookup? s = none →
    Evaluates scope (.name s) (.error (.undefinedName s))
  | leading {e first : Expression} {f : RunFault} : e.leading? = some first →
    Evaluates scope first (.error f) → Evaluates scope e (.error f)
  | sign {s : Sign} {e : Expression} {a : Operand} : Evaluates scope e (.ok a) →
    Evaluates scope (.sign s e) ((s.apply a).map .of)
  | unclear {o : Operator} {left right : Expression} {t : Bool} {a : Operand} {f : RunFault} :
    o.settledBy? = some t → Evaluates scope left (.ok a) → a.truthy = .error f →
    Evaluates scope (.binary o left right) (.error f)
  | settled {o : Operator} {left right : Expression} {t : Bool} {a : Operand} :
    o.settledBy? = some t → Evaluates scope left (.ok a) → a.truthy = .ok t →
    Evaluates scope (.binary o left right) (.ok a)
  | unsettled {o : Operator} {left right : Expression} {t : Bool} {a : Operand}
      {r : Except RunFault Operand} :
    o.settledBy? = some t → Evaluates scope left (.ok a) → a.truthy = .ok (!t) →
    Evaluates scope right r → Evaluates scope (.binary o left right) r
  | operator {o : Operator} {left right : Expression} {a b : Operand} : o.settledBy? = none →
    Evaluates scope left (.ok a) → Evaluates scope right (.ok b) →
    Evaluates scope (.binary o left right) ((o.apply a b).map .of)
  | operand {o : Operator} {left right : Expression} {a : Operand} {f : RunFault} :
    o.settledBy? = none → Evaluates scope left (.ok a) → Evaluates scope right (.error f) →
    Evaluates scope (.binary o left right) (.error f)
  | member {target key : Expression} {a b : Operand} : Evaluates scope target (.ok a) →
    Evaluates scope key (.ok b) → Evaluates scope (.member target key) (a.member b)
  | key {target key : Expression} {a : Operand} {f : RunFault} : Evaluates scope target (.ok a) →
    Evaluates scope key (.error f) → Evaluates scope (.member target key) (.error f)
  | includes {target : Expression} {a : Operand} {arguments : List (Expression × Operand)} :
    Evaluates scope target (.ok a) → (∀ p ∈ arguments, Evaluates scope p.1 (.ok p.2)) →
    Evaluates scope (.includes target (arguments.map Prod.fst))
      (a.includes (arguments.map Prod.snd))
  | argument {target e : Expression} {a : Operand} {before : List (Expression × Operand)}
      {after : List Expression} {f : RunFault} :
    Evaluates scope target (.ok a) → (∀ p ∈ before, Evaluates scope p.1 (.ok p.2)) →
    Evaluates scope e (.error f) →
    Evaluates scope (.includes target (before.map Prod.fst ++ e :: after)) (.error f)

mutual

/-- How deeply an expression is nested. -/
def Expression.height : Expression → Nat
  | .literal _ | .name _ => 0
  | .sign _ e => e.height + 1
  | .binary _ left right => max left.height right.height + 1
  | .member target key => max target.height key.height + 1
  | .includes target arguments => max target.height (heights arguments) + 1

def heights : List Expression → Nat
  | [] => 0
  | e :: rest => max e.height (heights rest)

end

theorem height_le_heights {e : Expression} {es : List Expression} (h : e ∈ es) :
    e.height ≤ heights es := by
  induction es with
  | nil => cases h
  | cons x es ih =>
    rw [heights]
    rcases List.mem_cons.mp h with rfl | h
    · exact Nat.le_max_left _ _
    · exact Nat.le_trans (ih h) (Nat.le_max_right _ _)

variable {scope : Scope} {o : Operator} {left right : Expression} {d : Nat}

/-- A connective evaluates its right operand only if the left one does not settle it. -/
theorem run_connective {t : Bool} (ho : o.settledBy? = some t) :
    (Expression.binary o left right).run scope (d + 1) = (do
      let a ← left.run scope d
      if (← a.truthy) = t then return a else right.run scope d) := by
  cases o <;> cases ho
  · rfl
  · refine bind_congr fun a => bind_congr fun b => ?_
    cases b <;> rfl

theorem run_operator (ho : o.settledBy? = none) :
    (Expression.binary o left right).run scope (d + 1) = (do
      let a ← left.run scope d
      let b ← right.run scope d
      return .of (← o.apply a b)) := by
  cases o <;> first | rfl | cases ho

theorem run_sign {s : Sign} {e : Expression} : (Expression.sign s e).run scope (d + 1) = (do
    return .of (← s.apply (← e.run scope d))) := rfl

theorem run_member {target key : Expression} :
    (Expression.member target key).run scope (d + 1) = (do
      let a ← target.run scope d
      let b ← key.run scope d
      a.member b) := rfl

theorem run_includes {target : Expression} {arguments : List Expression} :
    (Expression.includes target arguments).run scope (d + 1) = (do
      let a ← target.run scope d
      a.includes (← runAll scope d arguments)) := rfl

theorem runAll_ok {arguments : List (Expression × Operand)}
    (h : ∀ p ∈ arguments, p.1.run scope d = .ok p.2) :
    runAll scope d (arguments.map Prod.fst) = .ok (arguments.map Prod.snd) := by
  induction arguments with
  | nil => rfl
  | cons p arguments ih =>
    obtain ⟨hp, hrest⟩ := List.forall_mem_cons.mp h
    rw [List.map_cons, runAll, hp, ih hrest]
    rfl

theorem runAll_error {e : Expression} {before : List (Expression × Operand)}
    {after : List Expression} {f : RunFault} (h : ∀ p ∈ before, p.1.run scope d = .ok p.2)
    (he : e.run scope d = .error f) :
    runAll scope d (before.map Prod.fst ++ e :: after) = .error f := by
  induction before with
  | nil =>
    rw [List.map_nil, List.nil_append, runAll, he]
    rfl
  | cons p before ih =>
    obtain ⟨hp, hrest⟩ := List.forall_mem_cons.mp h
    rw [List.map_cons, List.cons_append, runAll, hp, ih hrest]
    rfl

/-- What comes first in an expression is nested less deeply, and its fault is that of the whole. -/
theorem run_leading {e first : Expression} {f : RunFault} (hl : e.leading? = some first)
    (h : first.run scope d = .error f) : e.run scope (d + 1) = .error f := by
  cases e with
  | literal l => cases hl
  | name s => cases hl
  | sign s e =>
    cases hl
    rw [run_sign, h]
    rfl
  | binary o left right =>
    cases hl
    cases ho : o.settledBy? with
    | none =>
      rw [run_operator ho, h]
      rfl
    | some t =>
      rw [run_connective ho, h]
      rfl
  | member target key =>
    cases hl
    rw [run_member, h]
    rfl
  | includes target arguments =>
    cases hl
    rw [run_includes, h]
    rfl

theorem Expression.leading_height {e first : Expression} (hl : e.leading? = some first) :
    first.height < e.height := by
  cases e <;> cases hl <;> rw [Expression.height] <;> omega

theorem run_zero {e first : Expression} (hl : e.leading? = some first) :
    e.run scope 0 = .error .tooDeep := by
  cases e with
  | binary o _ _ => cases o <;> rfl
  | _ => cases hl <;> rfl

/-- Where there is something to evaluate first, some depth is left for it. -/
theorem depth_left {e first : Expression} (hd : e.height ≤ d) (hl : e.leading? = some first) :
    ∃ k, d = k + 1 := by
  have := e.leading_height hl
  exact Nat.exists_eq_succ_of_ne_zero (by omega)

/-- What the rules say is found, if the depth suffices. -/
theorem Evaluates.run {e : Expression} {r : Except RunFault Operand} (h : Evaluates scope e r)
    (hd : e.height ≤ d) : e.run scope d = r := by
  induction h generalizing d with
  | literal l => rw [Expression.run]
  | known hs => simp only [Expression.run, hs]
  | unknown hs => simp only [Expression.run, hs]
  | leading hl _ ih =>
    obtain ⟨d, rfl⟩ := depth_left hd hl
    have hlt := Expression.leading_height hl
    exact run_leading hl (ih (by omega))
  | @sign s e a _ ih =>
    obtain ⟨d, rfl⟩ := depth_left hd rfl
    rw [Expression.height] at hd
    rw [run_sign, ih (by omega)]
    show (do return Operand.of (← s.apply a)) = (s.apply a).map Operand.of
    cases s.apply a <;> rfl
  | unclear ho _ ht ih =>
    obtain ⟨d, rfl⟩ := depth_left hd rfl
    rw [Expression.height] at hd
    rw [run_connective ho, ih (by omega)]
    simp [ht]
  | settled ho _ ht ih =>
    obtain ⟨d, rfl⟩ := depth_left hd rfl
    rw [Expression.height] at hd
    rw [run_connective ho, ih (by omega)]
    simp [ht]
  | unsettled ho _ ht _ ih ihr =>
    obtain ⟨d, rfl⟩ := depth_left hd rfl
    rw [Expression.height] at hd
    rw [run_connective ho, ih (by omega)]
    simp [ht, ihr (d := d) (by omega)]
  | @operator o left right a b ho _ _ ih ihr =>
    obtain ⟨d, rfl⟩ := depth_left hd rfl
    rw [Expression.height] at hd
    rw [run_operator ho, ih (by omega), ihr (by omega)]
    show (do return Operand.of (← o.apply a b)) = (o.apply a b).map Operand.of
    cases o.apply a b <;> rfl
  | operand ho _ _ ih ihr =>
    obtain ⟨d, rfl⟩ := depth_left hd rfl
    rw [Expression.height] at hd
    rw [run_operator ho, ih (by omega), ihr (by omega)]
    rfl
  | member _ _ iht ihk =>
    obtain ⟨d, rfl⟩ := depth_left hd rfl
    rw [Expression.height] at hd
    rw [run_member, iht (by omega), ihk (by omega)]
    rfl
  | key _ _ iht ihk =>
    obtain ⟨d, rfl⟩ := depth_left hd rfl
    rw [Expression.height] at hd
    rw [run_member, iht (by omega), ihk (by omega)]
    rfl
  | @includes target a arguments _ _ iht iha =>
    obtain ⟨d, rfl⟩ := depth_left hd rfl
    rw [Expression.height] at hd
    have hle : ∀ p ∈ arguments, p.1.height ≤ d := by
      intro p hp
      have := height_le_heights (List.mem_map_of_mem (f := Prod.fst) hp)
      omega
    rw [run_includes, iht (by omega), runAll_ok fun p hp => iha p hp (hle p hp)]
    rfl
  | @argument target e a before after f _ _ _ iht ihb ihe =>
    obtain ⟨d, rfl⟩ := depth_left hd rfl
    rw [Expression.height] at hd
    have hle : ∀ x ∈ before.map Prod.fst ++ e :: after, x.height ≤ d := by
      intro x hx
      have := height_le_heights hx
      omega
    have hbefore : ∀ p ∈ before, p.1.run scope d = .ok p.2 := fun p hp =>
      ihb p hp (hle _ (List.mem_append_left _ (List.mem_map_of_mem hp)))
    rw [run_includes, iht (by omega), runAll_error hbefore (ihe (hle _ (by simp)))]
    rfl

/-- What the evaluator finds is what the rules say, unless the depth does not suffice. -/
def Evaluated (scope : Scope) (d : Nat) (e : Expression) : Prop :=
  (d < e.height ∧ e.run scope d = .error .tooDeep) ∨ Evaluates scope e (e.run scope d)

def EvaluatedAll (scope : Scope) (d : Nat) (es : List Expression) : Prop :=
  match runAll scope d es with
  | .ok values => ∃ arguments : List (Expression × Operand), es = arguments.map Prod.fst ∧
      values = arguments.map Prod.snd ∧ ∀ p ∈ arguments, Evaluates scope p.1 (.ok p.2)
  | .error f => (d < heights es ∧ f = .tooDeep) ∨
      ∃ (before : List (Expression × Operand)) (e : Expression) (after : List Expression),
        es = before.map Prod.fst ++ e :: after ∧
        (∀ p ∈ before, Evaluates scope p.1 (.ok p.2)) ∧ Evaluates scope e (.error f)

theorem Evaluated.cases {e : Expression} (h : Evaluated scope d e) :
    (d < e.height ∧ e.run scope d = .error .tooDeep) ∨
    (∃ f, e.run scope d = .error f ∧ Evaluates scope e (.error f)) ∨
    ∃ a, e.run scope d = .ok a ∧ Evaluates scope e (.ok a) := by
  rcases h with h | h
  · exact .inl h
  · cases hr : e.run scope d with
    | error f => exact .inr (.inl ⟨f, rfl, hr ▸ h⟩)
    | ok a => exact .inr (.inr ⟨a, rfl, hr ▸ h⟩)

/-- It is enough to look at what happens once the first part has a value. -/
theorem Evaluated.leading {e first : Expression} (hl : e.leading? = some first)
    (h : ∀ d, Evaluated scope d first)
    (hn : ∀ k a, d = k + 1 → first.run scope k = .ok a → Evaluates scope first (.ok a) →
      Evaluated scope d e) : Evaluated scope d e := by
  have hlt := e.leading_height hl
  cases d with
  | zero => exact .inl ⟨by omega, run_zero hl⟩
  | succ k =>
    rcases (h k).cases with ⟨hd, hr⟩ | ⟨f, hr, hf⟩ | ⟨a, hr, ha⟩
    · exact .inl ⟨by omega, run_leading hl hr⟩
    · refine .inr ?_
      rw [run_leading hl hr]
      exact .leading hl hf
    · exact hn k a rfl hr ha

theorem evaluated_binary (hleft : ∀ d, Evaluated scope d left)
    (hright : ∀ d, Evaluated scope d right) : Evaluated scope d (.binary o left right) := by
  refine .leading rfl hleft fun k a hd hr ha => ?_
  subst hd
  cases ho : o.settledBy? with
  | none =>
    rcases (hright k).cases with ⟨hd, hr'⟩ | ⟨f, hr', hf⟩ | ⟨b, hr', hb⟩
    · refine .inl ⟨by rw [Expression.height]; omega, ?_⟩
      rw [run_operator ho, hr, hr']
      rfl
    · refine .inr ?_
      rw [run_operator ho, hr, hr']
      exact .operand ho ha hf
    · refine .inr ?_
      rw [run_operator ho, hr, hr']
      have h := Evaluates.operator ho ha hb
      show Evaluates _ _ (do return Operand.of (← o.apply a b))
      cases hv : o.apply a b <;> rw [hv] at h <;> exact h
  | some t =>
    cases ht : a.truthy with
    | error f =>
      have h : Evaluates scope (.binary o left right) (.error f) := .unclear ho ha ht
      refine .inr ?_
      rw [run_connective ho, hr]
      simpa [ht] using h
    | ok b =>
      by_cases hb : b = t
      · subst hb
        have h : Evaluates scope (.binary o left right) (.ok a) := .settled ho ha ht
        refine .inr ?_
        rw [run_connective ho, hr]
        simpa [ht] using h
      · have ht' : a.truthy = .ok !t := by
          rw [ht]
          cases b <;> cases t <;> first | rfl | exact absurd rfl hb
        have hrun : (Expression.binary o left right).run scope (k + 1) = right.run scope k := by
          rw [run_connective ho, hr]
          simp [ht, hb]
        rcases hright k with ⟨hd, hr'⟩ | h
        · exact .inl ⟨by rw [Expression.height]; omega, by rw [hrun, hr']⟩
        · refine .inr ?_
          rw [hrun]
          exact .unsettled ho ha ht' h

mutual

theorem evaluated (scope : Scope) : ∀ e d, Evaluated scope d e
  | .literal l, d => by
    refine .inr ?_
    rw [Expression.run]
    exact .literal l
  | .name s, d => by
    refine .inr ?_
    rw [Expression.run]
    split
    · rename_i hs
      exact .known hs
    · rename_i hs
      exact .unknown hs
  | .sign s e, d => by
    refine .leading rfl (evaluated scope e) fun k a hd hr ha => .inr ?_
    rw [hd, run_sign, hr]
    have h := Evaluates.sign (s := s) ha
    show Evaluates _ _ (do return Operand.of (← s.apply a))
    cases hv : s.apply a <;> rw [hv] at h <;> exact h
  | .binary _ left right, d => evaluated_binary (evaluated scope left) (evaluated scope right)
  | .member target key, d => by
    refine .leading rfl (evaluated scope target) fun k a hd hr ha => ?_
    subst hd
    rcases (evaluated scope key k).cases with ⟨hd, hr'⟩ | ⟨f, hr', hf⟩ | ⟨b, hr', hb⟩
    · refine .inl ⟨by rw [Expression.height]; omega, ?_⟩
      rw [run_member, hr, hr']
      rfl
    · refine .inr ?_
      rw [run_member, hr, hr']
      exact .key ha hf
    · refine .inr ?_
      rw [run_member, hr, hr']
      exact .member ha hb
  | .includes target arguments, d => by
    refine .leading rfl (evaluated scope target) fun k a hd hr ha => ?_
    subst hd
    have h := evaluatedAll scope arguments k
    unfold EvaluatedAll at h
    split at h
    · rename_i values hv
      obtain ⟨pairs, rfl, rfl, hp⟩ := h
      refine .inr ?_
      rw [run_includes, hr, hv]
      exact .includes ha hp
    · rename_i f hv
      obtain ⟨hd, rfl⟩ | ⟨before, e, after, rfl, hb, he⟩ := h
      · refine .inl ⟨by rw [Expression.height]; omega, ?_⟩
        rw [run_includes, hr, hv]
        rfl
      · refine .inr ?_
        rw [run_includes, hr, hv]
        exact .argument ha hb he

theorem evaluatedAll (scope : Scope) : ∀ es d, EvaluatedAll scope d es
  | [], d => by
    unfold EvaluatedAll
    rw [runAll]
    exact ⟨[], rfl, rfl, by simp⟩
  | e :: rest, d => by
    have hrest := evaluatedAll scope rest d
    unfold EvaluatedAll at hrest ⊢
    rw [runAll]
    rcases (evaluated scope e d).cases with ⟨hd, hr⟩ | ⟨f, hr, hf⟩ | ⟨a, hr, ha⟩
    · rw [hr]
      exact .inl ⟨by rw [heights]; omega, rfl⟩
    · rw [hr]
      exact .inr ⟨[], e, rest, rfl, by simp, hf⟩
    · rw [hr]
      split at hrest
      · rename_i values hv
        obtain ⟨pairs, rfl, rfl, hp⟩ := hrest
        rw [hv]
        exact ⟨(e, a) :: pairs, rfl, rfl, List.forall_mem_cons.mpr ⟨ha, hp⟩⟩
      · rename_i f hv
        rw [hv]
        obtain ⟨hd, rfl⟩ | ⟨before, x, after, rfl, hb, hx⟩ := hrest
        · exact .inl ⟨by rw [heights]; omega, rfl⟩
        · exact .inr ⟨(e, a) :: before, x, after, rfl, List.forall_mem_cons.mpr ⟨ha, hb⟩, hx⟩

end

/-- Below the depth of an expression, the evaluator finds what the rules say, and nothing else. -/
theorem run_iff {e : Expression} {r : Except RunFault Operand} (hd : e.height ≤ d) :
    e.run scope d = r ↔ Evaluates scope e r := by
  refine ⟨?_, fun h => h.run hd⟩
  rintro rfl
  rcases evaluated scope e d with ⟨hlt, _⟩ | h
  · omega
  · exact h

end Storyline.Condition
