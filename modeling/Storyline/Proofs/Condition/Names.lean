import Storyline.Proofs.Condition.Checking
import Storyline.Proofs.Condition.Evaluation

namespace Storyline.Condition

mutual

def Expression.names : Expression → List String
  | .literal _ => []
  | .name s => [s]
  | .sign _ e => e.names
  | .binary _ left right => left.names ++ right.names
  | .member target key => target.names ++ key.names
  | .includes target arguments => target.names ++ allNames arguments

def allNames : List Expression → List String
  | [] => []
  | e :: rest => e.names ++ allNames rest

end

def Scope.Agree (s t : Scope) (names : List String) : Prop :=
  ∀ name ∈ names, s.lookup? name = t.lookup? name

section
variable {s t : Scope} {o : Operator} {left right : Expression} {d : Nat}

theorem Scope.agree_append {names more : List String} :
    s.Agree t (names ++ more) ↔ s.Agree t names ∧ s.Agree t more := List.forall_mem_append

theorem run_binary_congr (hleft : ∀ d, left.run s d = left.run t d)
    (hright : ∀ d, right.run s d = right.run t d) :
    (Expression.binary o left right).run s d = (Expression.binary o left right).run t d := by
  cases d with
  | zero => rw [run_zero rfl, run_zero rfl]
  | succ d =>
    cases ho : o.settledBy? with
    | none => rw [run_operator ho, run_operator ho, hleft, hright]
    | some truth => rw [run_connective ho, run_connective ho, hleft, hright]

mutual

/-- The value of an expression depends on its names alone. -/
theorem run_congr : ∀ (e : Expression) (d : Nat), s.Agree t e.names → e.run s d = e.run t d
  | .literal l, d, h => by rw [Expression.run, Expression.run]
  | .name n, d, h => by
    rw [Expression.run, Expression.run, h n List.mem_cons_self]
  | .sign g e, d, h => by
    have he := fun d => run_congr e d h
    rw [Expression.run, Expression.run, he]
  | .binary o left right, d, h => by
    obtain ⟨hleft, hright⟩ := Scope.agree_append.mp h
    exact run_binary_congr (fun d => run_congr left d hleft) fun d => run_congr right d hright
  | .member target key, d, h => by
    obtain ⟨htarget, hkey⟩ := Scope.agree_append.mp h
    rw [Expression.run, Expression.run, run_congr target _ htarget, run_congr key _ hkey]
  | .includes target arguments, d, h => by
    obtain ⟨htarget, harguments⟩ := Scope.agree_append.mp h
    rw [Expression.run, Expression.run, run_congr target _ htarget,
      runAll_congr arguments _ harguments]

/-- So do the values of arguments. -/
theorem runAll_congr : ∀ (es : List Expression) (d : Nat), s.Agree t (allNames es) →
    runAll s d es = runAll t d es
  | [], d, h => by rw [runAll, runAll]
  | e :: rest, d, h => by
    obtain ⟨he, hrest⟩ := Scope.agree_append.mp h
    rw [runAll, runAll, run_congr e d he, runAll_congr rest d hrest]

end

/-- A condition that is left to the language has one answer, wherever its names stand for the
same. -/
theorem answerAlone_congr {text : String}
    (h : ∀ tree, compile (Text.trim text) = .ok tree → s.Agree t tree.names) :
    Evaluator.answerAlone none text s = Evaluator.answerAlone none text t := by
  refine answerAlone_of_decide fun tree hcompile => ?_
  rw [Evaluator.decide, Evaluator.decide, Expression.value, Expression.value,
    run_congr tree maxDepth (h tree hcompile)]

end
end Storyline.Condition
