import Storyline.Proofs.Condition.Queue

namespace Storyline.Condition
open Text Evaluator

def ConditionFault.IsEarly : ConditionFault → Prop
  | .blank | .notText | .denied | .malformed _ => True
  | .failed _ | .custom _ => False

/-- What the check says of a fault. A blank text is none to it: it just finds nothing to read. -/
def ConditionError.problem (e : ConditionError) : String :=
  match e.fault with
  | .blank => SyntaxFault.unexpectedEnd.message
  | _ => e.detail?.getD e.message

/-- How the evaluation of a condition ends that came as far as running it. -/
inductive Ran (s : String) : Except Failure Bool → Prop where
  | decided (truth : Bool) : Ran s (.ok truth)
  | broke (fault : RunFault) : Ran s (.error (.condition ⟨.text s, .failed fault⟩))

/-- The ways of a condition: what the check says of it, and how it is answered. -/
inductive Course (s : String) :
    Except NumberFault (Option String) → (Scope → Except Failure Bool) → Prop where
  | runs {answer : Scope → Except Failure Bool} (ends : ∀ scope, Ran s (answer scope)) :
    Course s (.ok none) answer
  | stops {answer : Scope → Except Failure Bool} (fault : ConditionFault) (early : fault.IsEarly)
      (ends : ∀ scope, answer scope = .error (.condition ⟨.text s, fault⟩)) :
    Course s (.ok (some (ConditionError.problem ⟨.text s, fault⟩))) answer
  | sticks {answer : Scope → Except Failure Bool} {f : NumberFault} (overlong : Overlong s f)
      (ends : ∀ scope, answer scope = .error (.literal f)) :
    Course s (.error f) answer

/-- The check of a text agrees with what an evaluator makes of it, in whatever scope. -/
structure Foretold (ev : Evaluator) (s : String) : Prop where
  /-- It passes exactly when it is run, and then nothing but the run can fail. -/
  passes : ∀ scope, validate (.text s) = .ok none ↔ Ran s (ev.evaluate (.text s) scope).answer
  /-- It has a problem exactly when it fails everywhere, and early. -/
  fails : ∀ problem, validate (.text s) = .ok (some problem) ↔
    ∃ fault : ConditionFault, fault.IsEarly ∧
      problem = ConditionError.problem ⟨.text s, fault⟩ ∧
      ∀ scope, (ev.evaluate (.text s) scope).answer = .error (.condition ⟨.text s, fault⟩)
  /-- Both get stuck at the same, which is an integer of too many digits. -/
  sticks : ∀ f scope, validate (.text s) = .error f ↔
    (ev.evaluate (.text s) scope).answer = .error (.literal f)
  overlong : ∀ f, validate (.text s) = .error f →
    ∃ digits, digits <:+: s.toList ∧ AllDecimal digits ∧ maxIntegerDigits < digits.length

section
variable {s : String} {scope : Scope}

theorem compile_empty : compile "" = .error .unexpectedEnd := by with_unfolding_all rfl

theorem compile_truth (truth : Bool) :
    compile (if truth then "true" else "false") = .ok (.literal (.bool truth)) := by
  cases truth <;> with_unfolding_all rfl

theorem checked_text (s : String) :
    checked (.text s) = .ok (trim s) ∨ checked (.text s) = .error ⟨.text s, .denied⟩ := by
  simp only [checked]
  split
  · exact .inr rfl
  · exact .inl rfl

theorem Ran.decide (tree : Expression) (s : String) (scope : Scope) :
    Ran s (decide tree (.text s) scope) := by
  unfold Evaluator.decide
  split
  · exact .decided _
  · exact .broke _

theorem Ran.not_early {fault : ConditionFault} (he : fault.IsEarly) :
    ¬ Ran s (.error (.condition ⟨.text s, fault⟩)) := by
  intro h
  cases h
  exact he

theorem Ran.not_literal {f : NumberFault} : ¬ Ran s (.error (.literal f)) := by
  intro h
  cases h

theorem answerAlone_blank (hb : isAllBlank s = true) :
    answerAlone none s scope = .error (.condition ⟨.text s, .blank⟩) := by
  rw [answerAlone, evaluate_builtin rfl, evaluateBuiltin, if_pos hb]

theorem answerAlone_denied (hb : isAllBlank s = false)
    (hc : checked (.text s) = .error ⟨.text s, .denied⟩) :
    answerAlone none s scope = .error (.condition ⟨.text s, .denied⟩) := by
  rw [answerAlone, evaluate_builtin rfl, evaluateBuiltin, if_neg (by simp [hb]), hc]

/-- The two texts that need not be read would be answered in the same way if they were. -/
theorem answerAlone_truth {truth : Bool} (hb : isAllBlank s = false)
    (hc : checked (.text s) = .ok (trim s)) (ht : trim s = if truth then "true" else "false") :
    answerAlone none s scope = .ok truth ∧
      (compileChecked (trim s) (.text s) >>= fun tree => decide tree (.text s) scope) =
        .ok truth := by
  constructor
  · rw [ht] at hc
    rw [answerAlone, evaluate_builtin rfl, evaluateBuiltin, if_neg (by simp [hb]), hc]
    cases truth <;> rfl
  · rw [compileChecked_eq_ok.mpr (ht ▸ compile_truth truth)]
    rfl

/-- What is shown and passes the check for names is answered by its tree. -/
theorem answerAlone_checked (hb : isAllBlank s = false) (hc : checked (.text s) = .ok (trim s)) :
    answerAlone none s scope =
      (compileChecked (trim s) (.text s) >>= fun tree => decide tree (.text s) scope) := by
  by_cases hword : ∃ truth : Bool, trim s = if truth then "true" else "false"
  · obtain ⟨truth, ht⟩ := hword
    obtain ⟨hanswer, hread⟩ := answerAlone_truth hb hc ht
    rw [hanswer, hread]
  · rw [answerAlone, evaluate_builtin rfl,
      evaluateBuiltin_read hb hc (fun h => hword ⟨true, h⟩) (fun h => hword ⟨false, h⟩),
      ((empty_faithful none).consult _ _ scope).1]

/-- Two scopes get one answer, if they get one from the tree that is read. -/
theorem answerAlone_of_decide {other : Scope}
    (h : ∀ tree, compile (trim s) = .ok tree →
      decide tree (.text s) scope = decide tree (.text s) other) :
    answerAlone none s scope = answerAlone none s other := by
  by_cases hb : isAllBlank s = true
  · rw [answerAlone_blank hb, answerAlone_blank hb]
  rw [Bool.not_eq_true] at hb
  rcases checked_text s with hc | hc
  · rw [answerAlone_checked hb hc, answerAlone_checked hb hc]
    cases hcompiled : compileChecked (trim s) (.text s) with
    | error f => rfl
    | ok tree => exact h tree (compileChecked_eq_ok.mp hcompiled)
  · rw [answerAlone_denied hb hc, answerAlone_denied hb hc]

/-- What passes the check for names is read, also if it need not be. -/
theorem validate_checked (hc : checked (.text s) = .ok (trim s)) :
    validate (.text s) =
      match compileChecked (trim s) (.text s) with
      | .ok _ => .ok none
      | .error (.condition e) => .ok (some (e.detail?.getD e.message))
      | .error (.literal f) => .error f := by
  simp only [validate, hc]
  split
  · rename_i hword
    obtain ⟨truth, ht⟩ : ∃ truth : Bool, trim s = if truth then "true" else "false" := by
      rcases Bool.or_eq_true_iff.mp hword with h | h
      · exact ⟨true, eq_of_beq h⟩
      · exact ⟨false, eq_of_beq h⟩
    rw [compileChecked_eq_ok.mpr (ht ▸ compile_truth truth)]
  · cases compileChecked (trim s) (.text s) with
    | ok tree => rfl
    | error f => cases f <;> rfl

/-- A blank text is not read when it is evaluated, and found empty when it is checked. -/
theorem validate_blank (hb : isAllBlank s = true) :
    validate (.text s) = .ok (some SyntaxFault.unexpectedEnd.message) := by
  have hempty : trim s = "" := Text.all_blank_trim hb
  have hc : checked (.text s) = .ok (trim s) := by
    rw [checked_eq_ok, hempty]
    exact ⟨rfl, by decide +kernel⟩
  rw [validate_checked hc, hempty, compileChecked, compile_empty]
  rfl

/-- Checking and evaluating go the same way, for all that is known about a text. -/
theorem course (s : String) : Course s (validate (.text s)) (answerAlone none s ·) := by
  by_cases hb : isAllBlank s = true
  · rw [validate_blank hb]
    exact .stops .blank trivial fun scope => answerAlone_blank hb
  rw [Bool.not_eq_true] at hb
  rcases checked_text s with hc | hc
  · have hanswer : ∀ scope, answerAlone none s scope = _ := fun scope => answerAlone_checked hb hc
    rw [validate_checked hc]
    unfold compileChecked at hanswer ⊢
    split at hanswer
    · exact .runs fun scope => hanswer scope ▸ Ran.decide _ s scope
    · rename_i hstuck
      exact .sticks ⟨hb, hc, hstuck⟩ hanswer
    · exact .stops (.malformed _) trivial hanswer
  · simp only [validate, hc]
    exact .stops .denied trivial fun scope => answerAlone_denied hb hc

section
variable {r : Except NumberFault (Option String)} {answer : Scope → Except Failure Bool}

theorem Course.passes (h : Course s r answer) (scope : Scope) :
    r = .ok none ↔ Ran s (answer scope) := by
  cases h with
  | runs ends => exact iff_of_true rfl (ends scope)
  | stops _ early ends =>
    rw [ends]
    exact iff_of_false (by simp) (Ran.not_early early)
  | sticks _ ends =>
    rw [ends]
    exact iff_of_false (by simp) Ran.not_literal

theorem Course.fails (h : Course s r answer) (problem : String) :
    r = .ok (some problem) ↔ ∃ fault : ConditionFault, fault.IsEarly ∧
      problem = ConditionError.problem ⟨.text s, fault⟩ ∧
      ∀ scope, answer scope = .error (.condition ⟨.text s, fault⟩) := by
  let blank : Scope := ⟨"", [], [], .int 0, []⟩
  cases h with
  | runs ends =>
    refine iff_of_false (by simp) ?_
    intro ⟨fault, early, _, hends⟩
    exact Ran.not_early early (hends blank ▸ ends blank)
  | stops fault early ends =>
    constructor
    · intro heq
      cases heq
      exact ⟨fault, early, rfl, ends⟩
    · intro ⟨fault, _, hproblem, hends⟩
      cases (ends blank).symm.trans (hends blank)
      rw [hproblem]
  | sticks _ ends =>
    refine iff_of_false (by simp) ?_
    intro ⟨fault, _, _, hends⟩
    cases (ends blank).symm.trans (hends blank)

theorem Course.sticks_iff (h : Course s r answer) (f : NumberFault) (scope : Scope) :
    r = .error f ↔ answer scope = .error (.literal f) := by
  cases h with
  | runs ends =>
    refine iff_of_false (by simp) ?_
    intro hends
    exact Ran.not_literal (hends ▸ ends scope)
  | stops _ _ ends => simp [ends]
  | sticks _ ends => simp [ends]

end
end

namespace Evaluator
variable {ev : Evaluator}

/-- A faithful evaluator that leaves conditions to the language answers as the check foretells. -/
theorem Faithful.foretold (h : ev.Faithful) (hlanguage : ev.custom = none) (s : String) :
    Foretold ev s := by
  have halone : ∀ scope, (ev.evaluate (.text s) scope).answer = answerAlone none s scope :=
    fun scope => hlanguage ▸ (h.evaluate s scope).1
  have hcourse : Course s (validate (.text s)) fun scope =>
      (ev.evaluate (.text s) scope).answer := by
    rw [funext halone]
    exact course s
  refine ⟨hcourse.passes, hcourse.fails, hcourse.sticks_iff, ?_⟩
  intro f hf
  cases hf ▸ hcourse with
  | sticks hover => exact hover.digits

/-- On an evaluator that leaves conditions to the language, after any calls, a check does not change
the evaluator and agrees with the answer in every scope. This is for one stack that both have, and
host values that print. -/
theorem check_foretells {bound : Int} {fresh : Evaluator} (hmake : make bound = .ok fresh)
    (calls : List Call) (hlanguage : (fresh.after calls).custom = none) :
    (∀ expression, ((fresh.after calls).call (.validate expression)).2 = fresh.after calls) ∧
      ∀ s, Foretold (fresh.after calls) s := by
  have hfresh : fresh.Follows bound.toNat .blank ∧ 0 < bound.toNat := by
    unfold make at hmake
    split at hmake
    · cases hmake
    · cases hmake
      exact ⟨⟨rfl, rfl, empty_faithful none, Recent.nil _⟩, by omega⟩
  have hafter := hfresh.1.after hfresh.2 calls
  exact ⟨fun expression => rfl, fun s => hafter.faithful.foretold hlanguage s⟩

end Evaluator
end Storyline.Condition
