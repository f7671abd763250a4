import Storyline.Condition.Evaluator
import Storyline.Proofs.Condition.Denial
import Storyline.Proofs.State

namespace Storyline.Condition
open Text

section Texts
variable {s trimmed : String} {compiled : Expression} {expression : Value} {f : NumberFault}

theorem compileChecked_eq_ok :
    compileChecked trimmed expression = .ok compiled ↔ compile trimmed = .ok compiled := by
  unfold compileChecked
  split <;> simp_all

theorem compileChecked_literal :
    compileChecked trimmed expression = .error (.literal f) ↔
      compile trimmed = .error (.number f) := by
  unfold compileChecked
  split <;> simp_all

/-- A condition is read up to an integer of too many digits. -/
structure Overlong (s : String) (f : NumberFault) : Prop where
  shows : isAllBlank s = false
  passes : checked (.text s) = .ok (trim s)
  stuck : compile (trim s) = .error (.number f)

/-- What can be read is not overlong. -/
theorem Overlong.checked_ne {word : String} (h : Overlong s f)
    (hw : (compile word).isOk = true) : checked (.text s) ≠ .ok word := by
  rw [h.passes]
  intro heq
  rw [← Except.ok.inj heq, h.stuck] at hw
  cases hw

/-- There is an integer of too many digits in what is overlong. -/
theorem Overlong.digits (h : Overlong s f) :
    ∃ digits, digits <:+: s.toList ∧ AllDecimal digits ∧ maxIntegerDigits < digits.length := by
  have hwithin : (trim s).toList <:+: s.toList := by
    obtain ⟨front, back, hs, _⟩ := trimChars_between s.toList
    rw [trim, String.toList_ofList]
    exact ⟨front, back, by rw [List.append_assoc, ← hs]⟩
  cases compile_refused h.stuck with
  | malformed hs => cases f <;> cases hs
  | forbidden hs => cases f <;> cases hs
  | tooDeep hf => cases hf
  | number _ hin hd hlen => exact ⟨_, hin.trans hwithin, hd, hlen⟩

section Digits
variable {cs : List Char}

theorem trimChars_unblank (h : ∀ c ∈ cs, isBlank c = false) : trimChars cs = cs := by
  have hkept : ∀ ds : List Char, (∀ c ∈ ds, isBlank c = false) → ds.dropWhile isBlank = ds := by
    intro ds hds
    cases ds with
    | nil => rfl
    | cons c ds => simp [hds c List.mem_cons_self]
  have hback : ∀ c ∈ cs.reverse, isBlank c = false := fun c hc => h c (List.mem_reverse.mp hc)
  rw [trimChars, hkept cs h, hkept _ hback, List.reverse_reverse]

theorem isDenied_digits (hd : AllDecimal cs) : isDenied (String.ofList cs) = false := by
  rw [← Bool.not_eq_true, isDenied_iff, String.toList_ofList]
  intro h
  obtain ⟨name, hname, before, after, heq, _⟩ := h
  have hletters : deniedNames.all (fun name => name.toList.any (!isDecimal ·)) = true := by
    decide +kernel
  obtain ⟨c, hc, hletter⟩ := List.any_eq_true.mp (List.all_eq_true.mp hletters name hname)
  rw [hd c (heq ▸ by simp [hc])] at hletter
  cases hletter

variable (hd : AllDecimal cs) (hl : maxIntegerDigits < cs.length)
include hd hl

theorem numberOf_overlong : numberOf cs = .error (.tooLongToRead cs.length) := by
  obtain ⟨ds, hds, hlen⟩ := digitsAfter_decimal hd false
  have hall : cs.all isDecimal = true := List.all_eq_true.mpr hd
  rw [numberOf, if_pos hall, Reading.integer, String.toList_ofList, stripPadding_decimal hd,
    sign_decimal hd]
  simp only [Reading.digits, hds, hlen, if_pos hl]
  rfl

theorem tokensFrom_overlong : tokensFrom 0 0 cs = .error (.number (.tooLongToRead cs.length)) := by
  have hne : cs ≠ [] := List.ne_nil_of_length_pos (Nat.zero_lt_of_lt hl)
  have hn : IsNumeral cs := by simpa using IsNumeral.whole hne hd .none .none
  have hnothing : Apart [] := by simp [Apart]
  have hlength : numberLength cs = cs.length := by simpa using numberLength_append hn hnothing
  obtain ⟨c, rest, rfl⟩ := List.exists_cons_of_ne_nil hne
  obtain ⟨hblank, hstarts⟩ : isBlank c = false ∧ startsNumber c (rest ++ []) = true := hn.starts
  rw [List.append_nil] at hstarts
  simp [tokensFrom, scan, hblank, hstarts, hlength, numberOf_overlong hd hl]

/-- A condition of nothing but too many digits is overlong. -/
theorem overlong_of_digits : Overlong (String.ofList cs) (.tooLongToRead cs.length) := by
  have hunblank : ∀ c ∈ cs, isBlank c = false := fun c hc => not_isBlank_of_isDecimal (hd c hc)
  have htrim : trim (String.ofList cs) = String.ofList cs := by
    rw [trim, String.toList_ofList, trimChars_unblank hunblank]
  obtain ⟨c, hc⟩ := List.exists_mem_of_length_pos (Nat.zero_lt_of_lt hl)
  refine ⟨?_, ?_, ?_⟩
  · exact List.all_eq_false.mpr ⟨c, by simp [hc], by simp [hunblank c hc]⟩
  · rw [htrim]
    exact checked_eq_ok.mpr ⟨htrim.symm, htrim.symm ▸ isDenied_digits hd⟩
  · rw [htrim, compile, tokens, String.toList_ofList, tokensFrom_overlong hd hl]
    rfl

end Digits
end Texts

namespace Evaluator
variable {ev : Evaluator} {trimmed : String} {compiled : Expression} {expression : Value}
  {scope : Scope}

def Faithful (ev : Evaluator) : Prop := ∀ entry ∈ ev.cache, compile entry.1 = .ok entry.2

/-- The answer to a condition when no other was asked for before. -/
def answerAlone (custom : Option CustomEvaluator) (condition : String) (scope : Scope) :
    Except Failure Bool :=
  (evaluate ⟨1, [], custom⟩ (.text condition) scope).answer

theorem empty_faithful {capacity : Nat} (custom : Option CustomEvaluator) :
    Faithful ⟨capacity, [], custom⟩ :=
  List.forall_mem_nil _

theorem mem_remember {entry : String × Expression}
    (h : entry ∈ (ev.remember trimmed compiled).1.cache) :
    entry ∈ ev.cache ∨ entry = (trimmed, compiled) := by
  unfold remember at h
  split at h
  · split at h
    · rename_i hcache
      rw [hcache]
      exact (Entries.mem_put h).imp_left (List.mem_cons_of_mem _)
    · exact .inr (List.mem_singleton.mp h)
  · exact Entries.mem_put h

theorem remember_custom (ev : Evaluator) (trimmed : String) (compiled : Expression) :
    (ev.remember trimmed compiled).1.custom = ev.custom := by
  unfold remember
  split
  · split <;> rfl
  · rfl

theorem Faithful.remember (h : ev.Faithful) (hc : compile trimmed = .ok compiled) :
    (ev.remember trimmed compiled).1.Faithful := by
  intro entry he
  rcases mem_remember he with he | rfl
  · exact h entry he
  · exact hc

/-- The decision on a text that is neither refused nor a plain truth value: by the tree in the
cache, or by a new one that is kept there. -/
def consult (ev : Evaluator) (trimmed : String) (expression : Value) (scope : Scope) : Decision :=
  match ev.cache.get? trimmed with
  | some compiled => ⟨decide compiled expression scope, ev, none⟩
  | none =>
    match compileChecked trimmed expression with
    | .error f => ⟨.error f, ev, none⟩
    | .ok compiled =>
      let (ev, evicted) := ev.remember trimmed compiled
      ⟨decide compiled expression scope, ev, evicted⟩

/-- The cache is looked into for a text that is not blank, passes the check and is no plain truth
value. -/
theorem evaluateBuiltin_read {s : String} (hb : isAllBlank s = false)
    (hc : checked (.text s) = .ok (trim s)) (htrue : trim s ≠ "true") (hfalse : trim s ≠ "false") :
    evaluateBuiltin ev (.text s) scope = ev.consult (trim s) (.text s) scope := by
  cases hcache : ev.cache.get? (trim s) with
  | some compiled =>
    simp only [evaluateBuiltin, hb, Bool.false_eq_true, if_false, hc, consult, hcache]
  | none =>
    cases hcompiled : compileChecked (trim s) (.text s) <;>
      simp only [evaluateBuiltin, hb, Bool.false_eq_true, if_false, hc, consult, hcache, hcompiled]

/-- Whether the cache is asked depends on the condition alone, and it is asked for all that is
overlong. -/
theorem evaluateBuiltin_cases (s : String) (scope : Scope) :
    (∃ answer, (∀ ev, evaluateBuiltin ev (.text s) scope = ⟨answer, ev, none⟩) ∧
      (∀ f, answer ≠ .error (.literal f)) ∧ ∀ f, ¬ Overlong s f) ∨
    (∀ ev, evaluateBuiltin ev (.text s) scope = ev.consult (trim s) (.text s) scope) ∧
      isAllBlank s = false ∧ checked (.text s) = .ok (trim s) := by
  by_cases hb : isAllBlank s = true
  · refine .inl ⟨_, fun ev => if_pos hb, by simp, fun f h => ?_⟩
    rw [h.shows] at hb
    cases hb
  rcases hc : checked (.text s) with f | trimmed
  · refine .inl ⟨.error (.condition f), fun ev => ?_, by simp, fun f h => ?_⟩
    · simp only [evaluateBuiltin, if_neg hb, hc]
    · rw [h.passes] at hc
      cases hc
  by_cases htrue : trimmed = "true"
  · subst htrue
    refine .inl ⟨.ok true, fun ev => ?_, by simp, fun f h => h.checked_ne (by decide +kernel) hc⟩
    simp only [evaluateBuiltin, if_neg hb, hc]
  by_cases hfalse : trimmed = "false"
  · subst hfalse
    refine .inl ⟨.ok false, fun ev => ?_, by simp, fun f h => h.checked_ne (by decide +kernel) hc⟩
    simp only [evaluateBuiltin, if_neg hb, hc]
  obtain ⟨rfl, _⟩ := checked_eq_ok.mp hc
  have hshows : isAllBlank s = false := by simpa using hb
  exact .inr ⟨fun ev => evaluateBuiltin_read hshows hc htrue hfalse, hshows, rfl⟩

/-- A tree in the cache makes no difference to the answer. -/
theorem Faithful.consult (h : ev.Faithful) (trimmed : String) (expression : Value)
    (scope : Scope) :
    (ev.consult trimmed expression scope).answer =
        (compileChecked trimmed expression >>= fun compiled =>
          decide compiled expression scope) ∧
      (ev.consult trimmed expression scope).evaluator.Faithful ∧
      (ev.consult trimmed expression scope).evaluator.custom = ev.custom := by
  unfold Evaluator.consult
  cases hget : ev.cache.get? trimmed with
  | some compiled =>
    have hcompiled : compileChecked trimmed expression = .ok compiled :=
      compileChecked_eq_ok.mpr (h _ (Entries.mem_of_get? hget))
    exact ⟨by rw [hcompiled]; rfl, h, rfl⟩
  | none =>
    cases hcompiled : compileChecked trimmed expression with
    | error f => exact ⟨rfl, h, rfl⟩
    | ok compiled =>
      exact ⟨rfl, h.remember (compileChecked_eq_ok.mp hcompiled), ev.remember_custom _ _⟩

theorem evaluate_builtin (h : ev.custom = none) (expression : Value) (scope : Scope) :
    ev.evaluate expression scope = ev.evaluateBuiltin expression scope := by
  simp [evaluate, h]

/-- A faithful evaluator answers a condition as it would on its own, and stays faithful. -/
theorem Faithful.evaluate (h : ev.Faithful) (s : String) (scope : Scope) :
    (ev.evaluate (.text s) scope).answer = answerAlone ev.custom s scope ∧
      (ev.evaluate (.text s) scope).evaluator.Faithful ∧
      (ev.evaluate (.text s) scope).evaluator.custom = ev.custom := by
  unfold answerAlone
  cases hcustom : ev.custom with
  | some custom => simp [Evaluator.evaluate, hcustom, h]
  | none =>
    rw [evaluate_builtin hcustom, evaluate_builtin rfl, ← hcustom]
    rcases evaluateBuiltin_cases s scope with ⟨answer, hev, _⟩ | ⟨hev, _⟩
    · rw [hev, hev]
      exact ⟨rfl, h, rfl⟩
    · rw [hev, hev, ((empty_faithful _).consult _ (.text s) scope).1]
      exact h.consult _ (.text s) scope

theorem decide_not_literal {f : NumberFault} :
    decide compiled expression scope ≠ .error (.literal f) := by
  unfold decide
  split <;> simp

theorem Faithful.consult_literal (h : ev.Faithful) {f : NumberFault} :
    (ev.consult trimmed expression scope).answer = .error (.literal f) ↔
      compile trimmed = .error (.number f) := by
  rw [(h.consult trimmed expression scope).1, bind_eq_error, compileChecked_literal]
  exact or_iff_left fun ⟨_, _, hd⟩ => decide_not_literal hd

/-- Only overlong conditions that are left to the language are no fault of a condition. -/
theorem answerAlone_literal {custom : Option CustomEvaluator} {s : String} {f : NumberFault} :
    answerAlone custom s scope = .error (.literal f) ↔ custom = none ∧ Overlong s f := by
  unfold answerAlone
  cases custom with
  | some custom =>
    simp only [Evaluator.evaluate, reduceCtorEq, false_and, iff_false]
    cases custom (.text s) scope <;> simp
  | none =>
    rw [evaluate_builtin rfl, eq_self, true_and]
    rcases evaluateBuiltin_cases s scope with ⟨answer, hev, hanswer, hover⟩ | ⟨hev, hb, hc⟩
    · rw [hev]
      exact iff_of_false (hanswer f) (hover f)
    · rw [hev, (empty_faithful _).consult_literal]
      exact ⟨fun h => ⟨hb, hc, h⟩, Overlong.stuck⟩

end Evaluator
end Storyline.Condition
