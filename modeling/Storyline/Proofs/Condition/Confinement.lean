import Storyline.Proofs.Condition.Watching

namespace Storyline.Condition

section Contents
variable {s : Scope} {p : Place} {v w : Value}

/-- In the scope, the value lies at the place. -/
inductive Scope.Contains (s : Scope) : Place → Value → Prop
  | flags : s.Contains .flags (.record s.flags)
  | state : s.Contains .state s.stateOperand.value
  | customData : s.Contains .customData (.record s.customData)
  | field {p : Place} {fields : Entries Value} {key : String} {v : Value} :
    s.Contains p (.record fields) → fields.get? key = some v → s.Contains (p.enter key) v
  | item {p : Place} {items : List Value} {i : Nat} {v : Value} :
    s.Contains p (.list items) → items[i]? = some v → s.Contains (.item p i) v

def Scope.at? (s : Scope) : Place → Option Value
  | .flags => some (.record s.flags)
  | .state => some s.stateOperand.value
  | .history => some (.texts s.history)
  | .customData => some (.record s.customData)
  | .field p key => (s.at? p).bind (·.field? key)
  | .item p i => (s.at? p).bind fun v => v.asList?.bind (·[i]?)

theorem Scope.at?_enter (s : Scope) (p : Place) (key : String) :
    s.at? (p.enter key) = (s.at? p).bind (·.field? key) := by
  unfold Place.enter
  split <;> rfl

theorem Scope.Contains.at? (h : s.Contains p v) : s.at? p = some v := by
  induction h with
  | flags => rfl
  | state => rfl
  | customData => rfl
  | field _ hv ih =>
    rw [Scope.at?_enter, ih]
    exact hv
  | item _ hv ih =>
    rw [Scope.at?, ih]
    exact hv

/-- Two objects never lie at one place. -/
theorem Scope.Contains.unique (h : s.Contains p v) (h' : s.Contains p w) : v = w :=
  Option.some.inj (h.at?.symm.trans h'.at?)

/-- What a condition may come to see: what is no object, or an object of the scope. -/
inductive Scope.Exposes (s : Scope) : Operand → Prop
  | plain {v : Value} (place : Option Place) : v.isObject = false → s.Exposes ⟨v, place⟩
  | object {p : Place} {v : Value} : s.Contains p v → s.Exposes ⟨v, some p⟩

theorem Scope.Exposes.of (h : v.isObject = false) : s.Exposes (.of v) := .plain none h

theorem Scope.Exposes.contained {a : Operand} (h : s.Exposes a) (ho : a.value.isObject = true) :
    ∃ p, a.place = some p ∧ s.Contains p a.value := by
  cases h with
  | plain _ hno =>
    rw [hno] at ho
    cases ho
  | object hp => exact ⟨_, rfl, hp⟩

end Contents

section Operations
variable {s : Scope} {a b c : Operand} {v : Value}

/-- What can be a member of a value: a field or an item that is in it, or else no object. -/
inductive Operand.HasMember (a : Operand) : Operand → Prop
  | plain {v : Value} : v.isObject = false → a.HasMember (.of v)
  | field {fields : Entries Value} {key : String} {v : Value} : a.value = .record fields →
    fields.get? key = some v → a.HasMember ⟨v, a.place.map (·.enter key)⟩
  | item {items : List Value} {i : Nat} {v : Value} : a.value = .list items →
    items[i]? = some v → a.HasMember ⟨v, a.place.map (.item · i)⟩

theorem Operand.hasMember (h : a.member b = .ok c) : a.HasMember c := by
  obtain ⟨v, place⟩ := a
  cases v with
  | undefined | null =>
    obtain ⟨_, _, h⟩ := bind_eq_ok.mp h
    obtain ⟨_, _, h⟩ := bind_eq_ok.mp h
    cases h
  | record fields =>
    simp only [Operand.member] at h
    obtain ⟨name, _, h⟩ := bind_eq_ok.mp h
    split at h
    · rename_i v hv
      cases h
      exact .field rfl hv
    · cases h
      exact .plain rfl
  | list items =>
    simp only [Operand.member] at h
    split at h
    · cases h
      exact .plain rfl
    obtain ⟨index, _, h⟩ := bind_eq_ok.mp h
    split at h
    · split at h
      · rename_i v hv
        cases h
        exact .item rfl hv
      · cases h
        exact .plain rfl
    · cases h
      exact .plain rfl
  | text s =>
    -- A text has characters, which are texts, and no members besides.
    simp only [Operand.member] at h
    split at h
    · cases h
      exact .plain rfl
    obtain ⟨index, _, h⟩ := bind_eq_ok.mp h
    split at h
    · split at h <;> cases h <;> exact .plain rfl
    · cases h
      exact .plain rfl
  | bool | number | host =>
    cases h
    exact .plain rfl

/-- What is in something that is exposed is exposed as well. -/
theorem Scope.Exposes.inside (ha : s.Exposes a) (h : a.HasMember c) : s.Exposes c := by
  cases h with
  | plain hv => exact .of hv
  | field hrecord hv =>
    obtain ⟨p, hp, hin⟩ := ha.contained (by rw [hrecord]; rfl)
    rw [hrecord] at hin
    rw [hp]
    exact .object (.field hin hv)
  | item hlist hv =>
    obtain ⟨p, hp, hin⟩ := ha.contained (by rw [hlist]; rfl)
    rw [hlist] at hin
    rw [hp]
    exact .object (.item hin hv)

theorem Operand.hasMember_candidates : ∀ c ∈ a.candidates, a.HasMember c := by
  intro c hc
  unfold candidates at hc
  split at hc
  · rename_i vs hlist
    obtain ⟨i, hi, rfl⟩ := List.mem_mapIdx.mp hc
    exact .item hlist (List.getElem?_eq_getElem hi)
  · cases hc

theorem Scope.exposes_lookup {name : String} (h : s.lookup? name = some a) : s.Exposes a := by
  unfold lookup? at h
  split at h
  · cases h
    exact .object .flags
  · cases h
    exact .object .state
  · cases h
    exact .of rfl
  · cases h
    exact .object .customData
  · cases h

theorem Literal.value_plain (l : Literal) : l.value.isObject = false := by
  cases l <;> rfl

theorem Sign.apply_plain {g : Sign} (h : g.apply a = .ok v) : v.isObject = false := by
  cases g with
  | not =>
    obtain ⟨_, _, h⟩ := bind_eq_ok.mp h
    cases h
    rfl
  | minus | plus =>
    cases h
    rfl

theorem Operand.add_plain (h : a.add b = .ok v) : v.isObject = false := by
  unfold Operand.add at h
  split at h <;> obtain ⟨_, _, h⟩ := bind_eq_ok.mp h <;> cases h <;> rfl

/-- No operator makes an object, but for the connectives, which leave one of their operands. -/
theorem Operator.apply_plain {o : Operator} (ho : o.settledBy? = none) (h : o.apply a b = .ok v) :
    v.isObject = false := by
  cases o with
  | or | and => cases ho
  | strictEqual | strictUnequal | looseEqual | looseUnequal =>
    cases h
    rfl
  | add => exact Operand.add_plain h
  | _ =>
    obtain ⟨_, _, h⟩ := bind_eq_ok.mp h
    cases h
    rfl

theorem Operand.includes_plain {arguments : List Operand} (h : a.includes arguments = .ok c) :
    c.value.isObject = false := by
  unfold Operand.includes at h
  split at h
  · cases h
    rfl
  · cases h
    rfl
  · obtain ⟨_, _, h⟩ := bind_eq_ok.mp h
    cases h

end Operations

namespace Watched
variable {α β : Type} {P : Operand → Prop} {Q : α → Prop} {R : β → Prop}

/-- All that is seen is of one kind, and so is what comes of it. -/
def Keeps (P : Operand → Prop) (Q : α → Prop) (m : Watched α) : Prop :=
  (∀ a ∈ m.seen, P a) ∧ ∀ x, m.result = .ok x → Q x

theorem Keeps.bind {m : Watched α} {f : α → Watched β} (hm : m.Keeps P Q)
    (hf : ∀ x, Q x → (f x).Keeps P R) : (m >>= f).Keeps P R := by
  obtain ⟨seen, r⟩ := m
  cases r with
  | error fault => exact ⟨hm.1, fun x hx => nomatch hx⟩
  | ok x =>
    obtain ⟨hseen, hresult⟩ := hf x (hm.2 x rfl)
    exact ⟨List.forall_mem_append.mpr ⟨hm.1, hseen⟩, hresult⟩

theorem keeps_unseen {r : Except RunFault α} (h : ∀ x, r = .ok x → Q x) :
    (unseen r).Keeps P Q := ⟨List.forall_mem_nil _, h⟩

theorem keeps_shown {r : Except RunFault Operand} (h : ∀ a, r = .ok a → P a) :
    (shown r).Keeps P P := by
  refine ⟨fun a ha => ?_, h⟩
  cases r with
  | error fault => cases ha
  | ok b => exact h a (by rw [List.mem_singleton.mp ha])

theorem keeps_looked {values : List Operand} (h : ∀ a ∈ values, P a) :
    (looked values).Keeps P fun _ => True := ⟨h, fun _ _ => trivial⟩

end Watched

section Watching
open Watched

mutual

/-- All that is seen in the evaluation of an expression is exposed by the scope. -/
theorem watch_exposed (scope : Scope) :
    ∀ e d, (Expression.watch scope d e).Keeps scope.Exposes scope.Exposes
  | .literal l, d => by
    refine keeps_shown fun a ha => ?_
    cases ha
    exact .of l.value_plain
  | .name s, d => by
    refine keeps_shown fun a ha => ?_
    rw [Expression.run] at ha
    split at ha
    · rename_i hs
      cases ha
      exact Scope.exposes_lookup hs
    · cases ha
  | .sign g e, 0 => keeps_unseen fun a ha => nomatch ha
  | .sign g e, d + 1 => by
    rw [watch_sign]
    refine (watch_exposed scope e d).bind fun a _ => keeps_shown fun b hb => ?_
    obtain ⟨v, hv, rfl⟩ := map_eq_ok.mp hb
    exact .of (Sign.apply_plain hv)
  | .binary o left right, 0 => keeps_unseen fun a ha => nomatch ha
  | .binary o left right, d + 1 => by
    cases ho : o.settledBy? with
    | none =>
      rw [watch_operator ho]
      refine (watch_exposed scope left d).bind fun a _ => ?_
      refine (watch_exposed scope right d).bind fun b _ => keeps_shown fun c hc => ?_
      obtain ⟨v, hv, rfl⟩ := map_eq_ok.mp hc
      exact .of (Operator.apply_plain ho hv)
    | some t =>
      rw [watch_connective ho]
      refine (watch_exposed scope left d).bind fun a ha => ?_
      have htruth : (unseen a.truthy).Keeps scope.Exposes fun _ => True :=
        keeps_unseen fun _ _ => trivial
      refine htruth.bind fun b _ => ?_
      split
      · refine keeps_shown fun c hc => ?_
        cases hc
        exact ha
      · exact watch_exposed scope right d
  | .member target key, 0 => keeps_unseen fun a ha => nomatch ha
  | .member target key, d + 1 => by
    rw [watch_member]
    refine (watch_exposed scope target d).bind fun a ha => ?_
    refine (watch_exposed scope key d).bind fun b _ => keeps_shown fun c hc => ?_
    exact ha.inside (Operand.hasMember hc)
  | .includes target arguments, 0 => keeps_unseen fun a ha => nomatch ha
  | .includes target arguments, d + 1 => by
    rw [watch_includes]
    refine (watch_exposed scope target d).bind fun a ha => ?_
    refine (watchAll_exposed scope arguments d).bind fun values _ => ?_
    refine (keeps_looked fun c hc => ha.inside (a.hasMember_candidates c hc)).bind fun _ _ => ?_
    exact keeps_shown fun c hc => .plain c.place (Operand.includes_plain hc)

theorem watchAll_exposed (scope : Scope) :
    ∀ es d, (watchAll scope d es).Keeps scope.Exposes fun _ => True
  | [], d => keeps_unseen fun _ _ => trivial
  | e :: rest, d => by
    rw [watchAll]
    refine (watch_exposed scope e d).bind fun a _ => ?_
    refine (watchAll_exposed scope rest d).bind fun values _ => ?_
    exact keeps_unseen fun _ _ => trivial

end

end Watching

/-- Conditions see nothing but their scope. An evaluation comes to the same if it is watched. What
the parts that are evaluated come to is seen, and the whole is one of them. Whatever is seen is no
object, or an object that the scope contains, and so is all that is in it. Nothing else lies at the
place of such an object. -/
theorem confined_to_scope (scope : Scope) (e : Expression) (d : Nat) :
    (e.watch scope d).result = e.run scope d ∧
    (∀ x k a, Involves scope x k e d → x.run scope k = .ok a → a ∈ (e.watch scope d).seen) ∧
    (∀ a ∈ (e.watch scope d).seen, scope.Exposes a ∧ ∀ c, a.HasMember c → scope.Exposes c) ∧
    ∀ p v w, scope.Contains p v → scope.Contains p w → v = w := by
  refine ⟨watch_result scope e d, fun x k a hi ha => hi.seen ha, fun a ha => ?_,
    fun p v w hv hw => hv.unique hw⟩
  have hexposed := (watch_exposed scope e d).1 a ha
  exact ⟨hexposed, fun c hc => hexposed.inside hc⟩

/-- A record in a list of the flags is seen at its own place. -/
theorem confined_to_scope_lamp :
    Scope.Contains ⟨"hall", [("bag", .list [.record [("oil", .int 2)]])], ["hall"], .int 0, []⟩
      (.item (.field .flags "bag") 0) (.record [("oil", .int 2)]) := by
  let lamp : Expression :=
    .member (.member (.name "flags") (.literal (.text "bag"))) (.literal (.number (.int 0)))
  obtain ⟨_, hseen, hexposed, _⟩ := confined_to_scope
    ⟨"hall", [("bag", .list [.record [("oil", .int 2)]])], ["hall"], .int 0, []⟩
    (.binary .less (.member lamp (.literal (.text "oil"))) (.literal (.number (.int 1)))) 4
  have hlamp := hexposed _ (hseen lamp 2 _ (.leading rfl (.leading rfl .self)) rfl)
  obtain ⟨p, hp, hlies⟩ := hlamp.1.contained rfl
  cases hp
  exact hlies

/-- An object that lies nowhere is not exposed. -/
example (s : Scope) (fields : Entries Value) : ¬ s.Exposes (.of (.record fields)) := by
  intro h
  cases h with
  | plain _ hno => cases hno

end Storyline.Condition
