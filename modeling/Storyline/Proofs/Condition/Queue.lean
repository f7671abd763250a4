import Mathlib.Data.List.DropRight
import Storyline.Proofs.Condition.Cache
import Storyline.Proofs.Json.Value

namespace Storyline.Condition

inductive Call where
  | evaluate (expression : Value) (scope : Scope)
  | validate (expression : Value)
  | clearCache
  | setCustom (custom : CustomEvaluator)
  | clearCustom

inductive Returned where
  | truth (answer : Except Failure Bool)
  | problem (found : Except NumberFault (Option String))
  | nothing

namespace Evaluator

/-- What comes back, and the evaluator after the call. -/
def call (ev : Evaluator) : Call → Returned × Evaluator
  | .evaluate expression scope =>
    let d := ev.evaluate expression scope
    (.truth d.answer, d.evaluator)
  | .validate expression => (.problem (Condition.validate expression), ev)
  | .clearCache => (.nothing, ev.clearCache)
  | .setCustom custom => (.nothing, ev.setCustom custom)
  | .clearCustom => (.nothing, ev.clearCustom)

def after (ev : Evaluator) (calls : List Call) : Evaluator :=
  calls.foldl (fun ev c => (ev.call c).2) ev

end Evaluator

/-- The text under which the tree of an expression is worth keeping: it passes the check, is more
than a plain truth value, and can be compiled. -/
def kept? (expression : Value) : Option String :=
  match checked expression with
  | .ok text => if text != "true" && text != "false" && (compile text).isOk then some text else none
  | .error _ => none

/-- All that is remembered of some calls: who decides, and the texts that were entered since the
cache was last cleared, oldest first. -/
structure Ledger where
  custom : Option CustomEvaluator
  entered : List String

namespace Ledger

def blank : Ledger := ⟨none, []⟩

/-- The ledger after a call. A text is entered if it is not among the last ones, of which there are
as many as the bound says; that it was met again is not noted. -/
def note (bound : Nat) (l : Ledger) : Call → Ledger
  | .evaluate expression _ =>
    match l.custom, kept? expression with
    | none, some text =>
      if text ∈ l.entered.rtake bound then l else { l with entered := l.entered ++ [text] }
    | _, _ => l
  | .validate _ => l
  | .clearCache => { l with entered := [] }
  | .setCustom custom => { l with custom := some custom }
  | .clearCustom => { l with custom := none }

def ofCalls (bound : Nat) (calls : List Call) : Ledger := calls.foldl (note bound) blank

end Ledger

/-- A cache holds the trees of the texts that were entered last, and of no others. -/
structure Recent (bound : Nat) (entered : List String) (cache : Entries Expression) : Prop where
  last : cache.keys = entered.rtake bound
  bounded : cache.length ≤ bound
  distinct : cache.keys.Nodup
  compiled : ∀ entry ∈ cache, checked (.text entry.1) = .ok entry.1 ∧
    compile entry.1 = .ok entry.2 ∧ entry.1 ≠ "true" ∧ entry.1 ≠ "false"

section
variable {expression : Value} {text : String} {bound : Nat} {entered : List String}
  {cache : Entries Expression}

theorem kept?_eq_some : kept? expression = some text ↔ checked expression = .ok text ∧
    text ≠ "true" ∧ text ≠ "false" ∧ ∃ tree, compile text = .ok tree := by
  unfold kept?
  rw [← isOk_eq_true]
  split
  · rename_i passed hc
    simp only [hc, Except.ok.injEq, Option.ite_none_right_eq_some, Bool.and_eq_true,
      bne_iff_ne, Option.some.injEq]
    constructor
    · rintro ⟨⟨⟨ht, hf⟩, hok⟩, rfl⟩
      exact ⟨rfl, ht, hf, hok⟩
    · rintro ⟨rfl, ht, hf, hok⟩
      exact ⟨⟨⟨ht, hf⟩, hok⟩, rfl⟩
  · rename_i hc
    simp [hc]

/-- What passes the check has no blanks around it, so it passes again as it is. -/
theorem checked_again (h : checked expression = .ok text) : checked (.text text) = .ok text := by
  cases expression with
  | text s =>
    obtain ⟨rfl, hd⟩ := checked_eq_ok.mp h
    rw [checked_eq_ok, Text.trim_trim]
    exact ⟨rfl, hd⟩
  | _ => cases h

theorem Recent.nil (bound : Nat) : Recent bound [] [] :=
  ⟨by simp [Entries.keys], Nat.zero_le _, List.nodup_nil, List.forall_mem_nil _⟩

theorem Recent.mem_keys (h : Recent bound entered cache) :
    text ∈ cache.keys ↔ text ∈ entered.rtake bound := by
  rw [h.last]

end

/-- One more member pushes the first one out of the last so many. -/
theorem rtake_concat {α : Type} {bound : Nat} (hb : 0 < bound) (l : List α) (x : α) :
    (l ++ [x]).rtake bound =
      if bound ≤ (l.rtake bound).length then (l.rtake bound).tail ++ [x] else l.rtake bound ++ [x] := by
  obtain ⟨n, rfl⟩ := Nat.exists_eq_succ_of_ne_zero (Nat.ne_of_gt hb)
  rw [List.rtake_concat_succ]
  simp only [List.rtake, List.length_drop, List.tail_drop]
  split
  · rw [show l.length - (n + 1) + 1 = l.length - n by omega]
  · rw [show l.length - n = 0 by omega, show l.length - (n + 1) = 0 by omega]

namespace Evaluator
variable {ev : Evaluator} {expression : Value} {text : String} {tree : Expression}
  {entered : List String} {calls : List Call}

/-- A new text goes to the end of the queue, and pushes out the oldest if the queue is full. -/
theorem remember_cache (hb : 0 < ev.capacity) (hnew : text ∉ ev.cache.keys) :
    (ev.remember text tree).1.cache =
      (if ev.capacity ≤ ev.cache.length then ev.cache.tail else ev.cache) ++ [(text, tree)] := by
  unfold remember
  split
  · rename_i hfull
    split
    · rename_i oldest rest hcache
      rw [hcache] at hnew ⊢
      exact Entries.put_of_new fun hin => hnew (List.mem_cons_of_mem _ hin)
    · rename_i hcache
      rw [hcache] at hfull
      exact absurd hfull (Nat.not_le.mpr hb)
  · exact Entries.put_of_new hnew

theorem remember_capacity (ev : Evaluator) (text : String) (tree : Expression) :
    (ev.remember text tree).1.capacity = ev.capacity := by
  unfold remember
  split
  · split <;> rfl
  · rfl

/-- What may be entered next to what a recent cache holds. -/
theorem remember_recent (h : Recent ev.capacity entered ev.cache) (hb : 0 < ev.capacity)
    (hnew : text ∉ ev.cache.keys) (hk : kept? expression = some text)
    (hc : compile text = .ok tree) :
    Recent ev.capacity (entered ++ [text]) (ev.remember text tree).1.cache := by
  obtain ⟨hchecked, htrue, hfalse, _⟩ := kept?_eq_some.mp hk
  have hlength : ev.cache.length = (entered.rtake ev.capacity).length := by
    rw [← h.last, Entries.keys, List.length_map]
  have hkeys : (ev.remember text tree).1.cache.keys =
      (entered ++ [text]).rtake ev.capacity := by
    rw [remember_cache hb hnew, rtake_concat hb, ← hlength, ← h.last]
    split <;> simp [Entries.keys, List.map_tail]
  refine ⟨hkeys, ?_, ?_, ?_⟩
  · calc (ev.remember text tree).1.cache.length
      _ = ((entered ++ [text]).rtake ev.capacity).length := by
        rw [← hkeys, Entries.keys, List.length_map]
      _ ≤ ev.capacity := by simp only [List.rtake, List.length_drop]; omega
  · have hold : (if ev.capacity ≤ ev.cache.length then ev.cache.tail else ev.cache).Sublist
        ev.cache := by
      split
      · exact List.tail_sublist _
      · exact List.Sublist.refl _
    rw [remember_cache hb hnew, Entries.keys, List.map_append]
    refine List.nodup_append.mpr ⟨h.distinct.sublist (hold.map _), by simp, ?_⟩
    intro a ha b hb' heq
    obtain rfl := List.mem_singleton.mp hb'
    exact hnew (heq ▸ (hold.map _).subset ha)
  · intro entry he
    rcases mem_remember he with he | rfl
    · exact h.compiled entry he
    · exact ⟨checked_again hchecked, hc, htrue, hfalse⟩

/-- A faithful evaluator decides as any other that is faithful and has its custom evaluator. -/
theorem Faithful.evaluate_alike {other : Evaluator} (h : ev.Faithful) (ho : other.Faithful)
    (hc : other.custom = ev.custom) (expression : Value) (scope : Scope) :
    (ev.evaluate expression scope).answer = (other.evaluate expression scope).answer := by
  cases expression with
  | text s => rw [(h.evaluate s scope).1, (ho.evaluate s scope).1, hc]
  | _ =>
    cases hcustom : ev.custom with
    | some custom => simp only [Evaluator.evaluate, hc, hcustom]
    | none =>
      rw [evaluate_builtin hcustom, evaluate_builtin (hc.trans hcustom)]
      rfl

/-- The cache is looked into for what is worth keeping. -/
theorem evaluateBuiltin_kept (hk : kept? expression = some text) (scope : Scope) :
    ev.evaluateBuiltin expression scope = ev.consult text expression scope := by
  obtain ⟨hc, htrue, hfalse, tree, htree⟩ := kept?_eq_some.mp hk
  cases expression with
  | text s =>
    obtain ⟨rfl, _⟩ := checked_eq_ok.mp hc
    have hb : Text.isAllBlank s = false := by
      rw [← Bool.not_eq_true]
      intro hb
      have hempty : (compile "").isOk = false := by decide +kernel
      rw [← Text.all_blank_trim hb, htree] at hempty
      cases hempty
    exact evaluateBuiltin_read hb hc htrue hfalse
  | _ => cases hc

/-- Nothing else leaves a trace. -/
theorem evaluateBuiltin_unkept (hk : kept? expression = none) (scope : Scope) :
    (ev.evaluateBuiltin expression scope).evaluator = ev := by
  cases expression with
  | text s =>
    by_cases hb : Text.isAllBlank s = true
    · simp only [evaluateBuiltin, if_pos hb]
    rcases hc : checked (.text s) with f | text
    · simp only [evaluateBuiltin, if_neg hb, hc]
    by_cases htrue : text = "true"
    · subst htrue
      simp only [evaluateBuiltin, if_neg hb, hc]
    by_cases hfalse : text = "false"
    · subst hfalse
      simp only [evaluateBuiltin, if_neg hb, hc]
    have hbroken : ∀ tree, compile text ≠ .ok tree := by
      intro tree htree
      rw [kept?_eq_some.mpr ⟨hc, htrue, hfalse, tree, htree⟩] at hk
      cases hk
    cases hcache : ev.cache.get? text with
    | some tree => simp only [evaluateBuiltin, if_neg hb, hc, hcache]
    | none =>
      cases hcompiled : compileChecked text (.text s) with
      | error f => simp only [evaluateBuiltin, if_neg hb, hc, hcache, hcompiled]
      | ok tree => exact absurd (compileChecked_eq_ok.mp hcompiled) (hbroken tree)
  | _ => rfl

/-- What is known about an evaluator after some calls. -/
structure Follows (ev : Evaluator) (bound : Nat) (l : Ledger) : Prop where
  capacity : ev.capacity = bound
  custom : ev.custom = l.custom
  faithful : ev.Faithful
  recent : Recent bound l.entered ev.cache

theorem Follows.evaluate {bound : Nat} {l : Ledger} (h : ev.Follows bound l) (hb : 0 < bound)
    (expression : Value) (scope : Scope) :
    (ev.evaluate expression scope).evaluator.Follows bound
      (l.note bound (.evaluate expression scope)) := by
  cases hcustom : ev.custom with
  | some custom =>
    have hl : l.custom = some custom := h.custom.symm.trans hcustom
    simpa only [Evaluator.evaluate, hcustom, Ledger.note, hl] using h
  | none =>
    have hl : l.custom = none := h.custom.symm.trans hcustom
    rw [evaluate_builtin hcustom]
    cases hk : kept? expression with
    | none =>
      rw [evaluateBuiltin_unkept hk]
      simpa only [Ledger.note, hl, hk] using h
    | some text =>
      obtain ⟨_, _, _, tree, htree⟩ := kept?_eq_some.mp hk
      rw [evaluateBuiltin_kept hk, consult]
      simp only [Ledger.note, hl, hk]
      cases hget : ev.cache.get? text with
      | some held =>
        have hin : text ∈ ev.cache.keys := List.mem_map_of_mem (Entries.mem_of_get? hget)
        rw [if_pos (h.recent.mem_keys.mp hin)]
        exact h
      | none =>
        have hnew : text ∉ ev.cache.keys := Entries.get?_eq_none.mp hget
        rw [if_neg fun hin => hnew (h.recent.mem_keys.mpr hin),
          compileChecked_eq_ok.mpr htree]
        obtain ⟨rfl, _, hfaithful, hrecent⟩ := h
        exact ⟨ev.remember_capacity text tree, (ev.remember_custom text tree).trans hcustom,
          hfaithful.remember htree, remember_recent hrecent hb hnew hk htree⟩

theorem Follows.call {bound : Nat} {l : Ledger} (h : ev.Follows bound l) (hb : 0 < bound)
    (c : Call) : (ev.call c).2.Follows bound (l.note bound c) := by
  cases c with
  | evaluate expression scope => exact h.evaluate hb expression scope
  | validate expression => exact h
  | clearCache => exact ⟨h.capacity, h.custom, List.forall_mem_nil _, Recent.nil bound⟩
  | setCustom custom => exact ⟨h.capacity, rfl, h.faithful, h.recent⟩
  | clearCustom => exact ⟨h.capacity, rfl, h.faithful, h.recent⟩

theorem Follows.after {bound : Nat} {l : Ledger} (h : ev.Follows bound l) (hb : 0 < bound)
    (calls : List Call) : (ev.after calls).Follows bound (calls.foldl (Ledger.note bound) l) := by
  induction calls generalizing ev l with
  | nil => exact h
  | cons c rest ih => exact ih (h.call hb c)

/-- Every evaluator is faithful after any calls. -/
theorem after_faithful {bound : Int} {fresh : Evaluator} (hmake : Evaluator.make bound = .ok fresh)
    (calls : List Call) : (fresh.after calls).Faithful := by
  unfold Evaluator.make at hmake
  split at hmake
  · cases hmake
  · cases hmake
    have hfirst : (new bound.toNat).Follows bound.toNat .blank :=
      ⟨rfl, rfl, empty_faithful none, Recent.nil _⟩
    exact (hfirst.after (by omega) calls).faithful

/-- Whatever is in the cache, a call is answered as by a new evaluator under the same custom
evaluator. The cache holds the trees of the texts that were entered last, within its bound, and
entered are those that the language decided and could compile. -/
theorem calls_alone {bound : Int} (hb : 1 ≤ bound) (calls : List Call) :
    ∃ ev, Evaluator.make bound = .ok ev ∧
      (∀ other fresh c, Evaluator.make other = .ok fresh →
        ((ev.after calls).call c).1 =
          (({ fresh with custom := (Ledger.ofCalls bound.toNat calls).custom } :
            Evaluator).call c).1) ∧
      Recent bound.toNat (Ledger.ofCalls bound.toNat calls).entered (ev.after calls).cache := by
  have hmake : Evaluator.make bound = .ok (new bound.toNat) := if_neg (Int.not_lt.mpr hb)
  have hfirst : (new bound.toNat).Follows bound.toNat .blank :=
    ⟨rfl, rfl, empty_faithful none, Recent.nil _⟩
  have hafter := hfirst.after (by omega) calls
  refine ⟨_, hmake, ?_, hafter.recent⟩
  intro other fresh c hfresh
  cases c with
  | evaluate expression scope =>
    unfold Evaluator.make at hfresh
    split at hfresh
    · cases hfresh
    · cases hfresh
      exact congrArg Returned.truth
        (hafter.faithful.evaluate_alike (empty_faithful _) hafter.custom.symm expression scope)
  | _ => rfl

/-- A cache for one text keeps the latest that was compiled. A custom evaluator also answers for
texts that cannot be compiled. -/
theorem calls_alone_one :
    let ask (text : String) : Call := .evaluate (.text text) ⟨"gate", [], [], .int 0, []⟩
    let calls := [ask " 1 > 2 ", ask "true", ask "1 >", ask "2 > 1", .setCustom fun _ _ => .ok true]
    ∃ ev, Evaluator.make 1 = .ok ev ∧ (ev.after calls).cache.keys = ["2 > 1"] ∧
      ((ev.after calls).call (ask "1 >")).1 = .truth (.ok true) := by
  intro ask calls
  obtain ⟨ev, hmake, halone, hrecent⟩ := calls_alone (Int.le_refl 1) calls
  refine ⟨ev, hmake, ?_, ?_⟩
  · rw [hrecent.last]
    decide +kernel
  · rw [halone 1 (new 1) _ rfl]
    rfl

end Evaluator
end Storyline.Condition
