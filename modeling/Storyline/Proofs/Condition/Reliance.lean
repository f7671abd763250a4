import Mathlib.Data.List.Forall2
import Storyline.Proofs.Condition.Checking
import Storyline.Proofs.Condition.Evaluation

namespace Storyline.Condition

section Reading

def Expression.spelled? : Expression → Option String
  | .literal (.text s) => some s
  | _ => none

def Expression.mayRead (key : Expression) (s : String) : Bool :=
  match key with
  | .literal (.text k) => k == s
  | _ => true

/-- An expression may come to the object of the name, which is the flags or the state. Since objects
count as true, a conjunction leaves them behind on its left. The flags are also a member of the
state. -/
def Expression.mayBe : Expression → String → Bool
  | .name s, root => s == root
  | .binary .and _ right, root => right.mayBe root
  | .binary .or left right, root => left.mayBe root || right.mayBe root
  | .member target key, root => root == "flags" && target.mayBe "state" && key.mayRead "flags"
  | _, _ => false

mutual

/-- The lookups in an expression: what is looked into, and under which key. -/
def Expression.lookups : Expression → List (Expression × Expression)
  | .literal _ | .name _ => []
  | .sign _ e => e.lookups
  | .binary _ left right => left.lookups ++ right.lookups
  | .member target key => (target, key) :: (target.lookups ++ key.lookups)
  | .includes target arguments => target.lookups ++ allLookups arguments

def allLookups : List Expression → List (Expression × Expression)
  | [] => []
  | e :: rest => e.lookups ++ allLookups rest

end

/-- The flags are looked into only under keys that are spelled out. -/
def Expression.ReadsByName (e : Expression) : Prop :=
  ∀ p ∈ e.lookups, p.1.mayBe "flags" = true → p.2.spelled?.isSome

/-- The keys under which an expression looks into the flags. -/
def Expression.flagsRead (e : Expression) : List String :=
  e.lookups.filterMap fun p => if p.1.mayBe "flags" then p.2.spelled? else none

theorem Expression.spelled_eq {e : Expression} {n : String} (h : e.spelled? = some n) :
    e = .literal (.text n) := by
  unfold Expression.spelled? at h
  split at h
  · rw [Option.some.inj h]
  · cases h

end Reading

/-- Two scopes are the same but for flags that are not among the names. -/
structure Scope.SameBut (s t : Scope) (names : List String) : Prop where
  node : s.currentNodeId = t.currentNodeId
  history : s.history = t.history
  timestamp : s.timestamp = t.timestamp
  customData : s.customData = t.customData
  flags : ∀ n ∈ names, s.flags.get? n = t.flags.get? n

theorem Scope.SameBut.mono {s t : Scope} {names more : List String} (h : s.SameBut t more)
    (hsub : names ⊆ more) : s.SameBut t names :=
  ⟨h.node, h.history, h.timestamp, h.customData, fun n hn => h.flags n (hsub hn)⟩

/-- From outside, two records in one place are the same, whatever is in them. -/
inductive Resembles : Operand → Operand → Prop
  | same (a : Operand) : Resembles a a
  | records (f g : Entries Value) (place : Option Place) :
    Resembles ⟨.record f, place⟩ ⟨.record g, place⟩

namespace Resembles
variable {a a' b b' : Operand}

theorem truthy (h : Resembles a a') : a.truthy = a'.truthy := by
  cases h <;> rfl

theorem sign (h : Resembles a a') (g : Sign) : g.apply a = g.apply a' := by
  cases h
  · rfl
  · cases g <;> rfl

theorem strictEquals (h : Resembles a a') (h' : Resembles b b') :
    a.strictEquals b = a'.strictEquals b' := by
  cases h <;> cases h'
  · rfl
  · obtain ⟨v, p⟩ := a
    cases v <;> rfl
  · obtain ⟨v, p⟩ := b
    cases v <;> rfl
  · rfl

/-- No operator looks into a record. -/
theorem apply (h : Resembles a a') (h' : Resembles b b') {o : Operator}
    (ho : o.settledBy? = none) : o.apply a b = o.apply a' b' := by
  cases h <;> cases h'
  · rfl
  · obtain ⟨v, p⟩ := a
    cases o with
    | or | and => cases ho
    | _ => cases v <;> rfl
  · obtain ⟨v, p⟩ := b
    cases o <;> cases v <;> rfl
  · cases o with
    | or | and => cases ho
    | _ => rfl

/-- Nor does it matter as a key what is in a record. -/
theorem key (h : Resembles a a') (target : Operand) : target.member a = target.member a' := by
  cases h
  · rfl
  · obtain ⟨v, p⟩ := target
    cases v <;> rfl

theorem includes {as as' : List Operand} (h : Resembles a a')
    (hs : List.Forall₂ Resembles as as') : a.includes as = a'.includes as' := by
  have hneedle : Resembles (as.head?.getD (.of .undefined)) (as'.head?.getD (.of .undefined)) := by
    cases hs with
    | nil => exact .same _
    | cons hb _ => exact hb
  cases h
  · obtain ⟨v, p⟩ := a
    unfold Operand.includes
    generalize as.head?.getD (.of .undefined) = needle at hneedle ⊢
    generalize as'.head?.getD (.of .undefined) = needle' at hneedle ⊢
    cases v with
    | text s => cases hneedle <;> rfl
    | list vs =>
      have hequal : ∀ item : Operand, item.strictEquals needle = item.strictEquals needle' :=
        fun item => (Resembles.same item).strictEquals hneedle
      simp only [hequal]
    | _ => rfl
  · rfl

end Resembles

/-- Two results are the same fault, or values that are related. -/
inductive Tally {α : Type} (R : α → α → Prop) : Except RunFault α → Except RunFault α → Prop
  | fault (f : RunFault) : Tally R (.error f) (.error f)
  | value {a b : α} : R a b → Tally R (.ok a) (.ok b)

namespace Tally
variable {α β : Type} {R R' : α → α → Prop} {Q : β → β → Prop} {x y : Except RunFault α}

theorem refl (h : ∀ a, R a a) (x : Except RunFault α) : Tally R x x := by
  cases x with
  | error f => exact .fault f
  | ok a => exact .value (h a)

theorem mono (h : Tally R x y) (hsub : ∀ a b, R a b → R' a b) : Tally R' x y := by
  cases h with
  | fault f => exact .fault f
  | value hab => exact .value (hsub _ _ hab)

theorem eq (h : Tally Eq x y) : x = y := by
  cases h with
  | fault f => rfl
  | value hab => rw [hab]

/-- Where the next step tallies as well, so do the two together. -/
theorem bind (h : Tally R x y) {f g : α → Except RunFault β}
    (hfg : ∀ a b, x = .ok a → R a b → Tally Q (f a) (g b)) : Tally Q (x >>= f) (y >>= g) := by
  cases h with
  | fault f => exact .fault f
  | value hab => exact hfg _ _ rfl hab

end Tally

section Running
variable {s t : Scope} {names : List String}

/-- What an expression comes to in two scopes: the same, or the flags or the state of each, if it
may come to them. -/
inductive Alike (s t : Scope) (e : Expression) : Operand → Operand → Prop
  | same (a : Operand) : Alike s t e a a
  | flags : e.mayBe "flags" = true → Alike s t e s.flagsOperand t.flagsOperand
  | state : e.mayBe "state" = true → Alike s t e s.stateOperand t.stateOperand

theorem Alike.resembles {e : Expression} {a b : Operand} (h : Alike s t e a b) :
    Resembles a b := by
  cases h with
  | same => exact .same _
  | flags => exact .records _ _ _
  | state => exact .records _ _ _

theorem Alike.widen {e e' : Expression} {a b : Operand} (h : Alike s t e a b)
    (hsub : ∀ root, e.mayBe root = true → e'.mayBe root = true) : Alike s t e' a b := by
  cases h with
  | same => exact .same _
  | flags hmay => exact .flags (hsub _ hmay)
  | state hmay => exact .state (hsub _ hmay)

/-- The scopes have the same under all names that the flags are looked up under, and these are
spelled out. -/
def Covered (s t : Scope) (lookups : List (Expression × Expression)) : Prop :=
  ∀ p ∈ lookups, p.1.mayBe "flags" = true →
    ∃ n, p.2 = .literal (.text n) ∧ s.flags.get? n = t.flags.get? n

/-- A key that was evaluated may read as what it reads as. -/
theorem mayRead_of_run {key : Expression} {d : Nat} {a : Operand} {name : String}
    (h : key.run s d = .ok a) (hname : a.value.toText = .ok name) : key.mayRead name = true := by
  unfold Expression.mayRead
  split
  · cases h
    cases hname
    exact beq_self_eq_true _
  · rfl

/-- Members of the state are the same, but for the flags. -/
theorem member_state (h : s.SameBut t names) {target key : Expression} {d : Nat} {a b : Operand}
    (ht : target.mayBe "state" = true) (hrun : key.run s d = .ok a) (hkey : Resembles a b) :
    Tally (Alike s t (.member target key)) (s.stateOperand.member a) (t.stateOperand.member b) := by
  rw [← hkey.key]
  simp only [Operand.member, Scope.stateOperand, ← h.node, ← h.history]
  refine (Tally.refl (fun _ => rfl) _).bind fun name _ hread heq => ?_
  subst heq
  have hname : a.value.toText = .ok name := mapError_eq_ok.mp hread
  have hmay := mayRead_of_run hrun hname
  by_cases hflags : name = "flags"
  · subst hflags
    have hroot : (Expression.member target key).mayBe "flags" = true := by
      simp [Expression.mayBe, ht, hmay]
    exact .value (.flags hroot)
  · have hne : (name == "flags") = false := beq_false_of_ne hflags
    simp only [List.lookup_cons, hne]
    exact .refl .same _

theorem member_record (fields : Entries Value) (place : Option Place) (n : String) :
    Operand.member ⟨.record fields, place⟩ (.of (.text n)) =
      .ok (((fields.get? n).map fun v => ⟨v, place.map (·.enter n)⟩).getD (.of .undefined)) := by
  simp only [Operand.member, Operand.of, Value.toText, Entries.get?, computed, mapError_ok, ok_bind]
  cases List.lookup n fields <;> rfl

theorem Scope.SameBut.lookup (h : s.SameBut t names) {n : String} (hflags : n ≠ "flags")
    (hstate : n ≠ "state") : s.lookup? n = t.lookup? n := by
  unfold Scope.lookup?
  split
  · exact absurd rfl hflags
  · exact absurd rfl hstate
  · rw [h.timestamp]
  · rw [h.customData]
  · rfl

theorem run_name (h : s.SameBut t names) (n : String) (d : Nat) :
    Tally (Alike s t (.name n)) ((Expression.name n).run s d) ((Expression.name n).run t d) := by
  rw [Expression.run, Expression.run]
  by_cases hflags : n = "flags"
  · subst hflags
    exact .value (.flags (by simp [Expression.mayBe]))
  by_cases hstate : n = "state"
  · subst hstate
    exact .value (.state (by simp [Expression.mayBe]))
  rw [h.lookup hflags hstate]
  exact .refl .same _

theorem mayBe_right {o : Operator} {truth : Bool} {left right : Expression}
    (ho : o.settledBy? = some truth) (root : String) (h : right.mayBe root = true) :
    (Expression.binary o left right).mayBe root = true := by
  cases o <;> cases ho
  · simp [Expression.mayBe, h]
  · exact h

/-- A connective that its left side settles may come to what that may come to: to settle a
conjunction it is no object. -/
theorem Alike.settled {o : Operator} {truth : Bool} {left right : Expression} {a b : Operand}
    (h : Alike s t left a b) (ho : o.settledBy? = some truth) (hb : b.truthy = .ok truth) :
    Alike s t (.binary o left right) a b := by
  cases o <;> cases ho
  · exact h.widen fun root hroot => by simp [Expression.mayBe, hroot]
  · cases h with
    | same => exact .same _
    | flags => cases hb
    | state => cases hb

/-- What a connective may come to is what its sides may come to. -/
theorem run_binary_alike (o : Operator) {left right : Expression}
    (hleft : ∀ d, Tally (Alike s t left) (left.run s d) (left.run t d))
    (hright : ∀ d, Tally (Alike s t right) (right.run s d) (right.run t d)) (d : Nat) :
    Tally (Alike s t (.binary o left right)) ((Expression.binary o left right).run s d)
      ((Expression.binary o left right).run t d) := by
  cases d with
  | zero =>
    rw [run_zero rfl, run_zero rfl]
    exact .fault _
  | succ d =>
    cases ho : o.settledBy? with
    | none =>
      rw [run_operator ho, run_operator ho]
      refine (hleft d).bind fun a a' _ ha => (hright d).bind fun b b' _ hb => ?_
      rw [ha.resembles.apply hb.resembles ho]
      exact .refl .same _
    | some truth =>
      rw [run_connective ho, run_connective ho]
      refine (hleft d).bind fun a a' _ ha => ?_
      rw [ha.resembles.truthy]
      refine (Tally.refl (fun _ => rfl) _).bind fun b _ hb heq => ?_
      subst heq
      split
      · rename_i htruth
        exact .value (ha.settled ho (htruth ▸ hb))
      · exact (hright d).mono fun _ _ hb => hb.widen (mayBe_right ho)

mutual

/-- Where the scopes have the same under all names that the flags are looked up under, an
expression comes to the same in both. -/
theorem run_alike (h : s.SameBut t names) : ∀ (e : Expression) (d : Nat), Covered s t e.lookups →
    Tally (Alike s t e) (e.run s d) (e.run t d)
  | .literal l, d, _ => by
    rw [Expression.run, Expression.run]
    exact .refl .same _
  | .name n, d, _ => run_name h n d
  | .sign g e, 0, _ => by
    rw [run_zero rfl, run_zero rfl]
    exact .fault _
  | .sign g e, d + 1, hc => by
    rw [run_sign, run_sign]
    refine (run_alike h e d hc).bind fun a b _ hab => ?_
    rw [hab.resembles.sign g]
    exact .refl .same _
  | .binary o left right, d, hc => by
    obtain ⟨hleft, hright⟩ := List.forall_mem_append.mp hc
    exact run_binary_alike o (fun d => run_alike h left d hleft)
      (fun d => run_alike h right d hright) d
  | .member target key, 0, _ => by
    rw [run_zero rfl, run_zero rfl]
    exact .fault _
  | .member target key, d + 1, hc => by
    obtain ⟨hroot, hparts⟩ := List.forall_mem_cons.mp hc
    obtain ⟨htarget, hkey⟩ := List.forall_mem_append.mp hparts
    rw [run_member, run_member]
    refine (run_alike h target d htarget).bind fun a a' _ ha => ?_
    cases ha with
    | same =>
      refine (run_alike h key d hkey).bind fun b b' _ hb => ?_
      rw [hb.resembles.key]
      exact .refl .same _
    | state hmay =>
      exact (run_alike h key d hkey).bind fun b b' hb hbb' =>
        member_state h hmay hb hbb'.resembles
    | flags hmay =>
      obtain ⟨n, rfl, hsame⟩ := hroot hmay
      have hmember : s.flagsOperand.member (.of (.text n)) =
          t.flagsOperand.member (.of (.text n)) := by
        rw [Scope.flagsOperand, Scope.flagsOperand, member_record, member_record, hsame]
      rw [Expression.run, Expression.run]
      show Tally _ (s.flagsOperand.member (.of (.text n))) (t.flagsOperand.member (.of (.text n)))
      rw [hmember]
      exact .refl .same _
  | .includes target arguments, 0, _ => by
    rw [run_zero rfl, run_zero rfl]
    exact .fault _
  | .includes target arguments, d + 1, hc => by
    obtain ⟨htarget, harguments⟩ := List.forall_mem_append.mp hc
    rw [run_includes, run_includes]
    refine (run_alike h target d htarget).bind fun a a' _ ha => ?_
    refine (runAll_alike h arguments d harguments).bind fun bs bs' _ hbs => ?_
    rw [ha.resembles.includes hbs]
    exact .refl .same _

/-- So do arguments. -/
theorem runAll_alike (h : s.SameBut t names) : ∀ (es : List Expression) (d : Nat),
    Covered s t (allLookups es) →
      Tally (List.Forall₂ Resembles) (runAll s d es) (runAll t d es)
  | [], d, _ => by
    rw [runAll, runAll]
    exact .value .nil
  | e :: rest, d, hc => by
    obtain ⟨he, hrest⟩ := List.forall_mem_append.mp hc
    rw [runAll, runAll]
    refine (run_alike h e d he).bind fun a a' _ ha => ?_
    exact (runAll_alike h rest d hrest).bind fun as as' _ has => .value (.cons ha.resembles has)

end

/-- What an expression reads by name is covered where the names are told the same. -/
theorem Expression.ReadsByName.covered {e : Expression} (hreads : e.ReadsByName)
    (h : s.SameBut t e.flagsRead) : Covered s t e.lookups := by
  intro p hp hmay
  obtain ⟨n, hn⟩ := Option.isSome_iff_exists.mp (hreads p hp hmay)
  refine ⟨n, Expression.spelled_eq hn, h.flags n ?_⟩
  exact List.mem_filterMap.mpr ⟨p, hp, by rw [if_pos hmay, hn]⟩

/-- An expression that reads the flags by name decides the same wherever these names are told the
same. -/
theorem decide_alike {tree : Expression} (hreads : tree.ReadsByName)
    (h : s.SameBut t tree.flagsRead) (written : Value) :
    Evaluator.decide tree written s = Evaluator.decide tree written t := by
  have hrun : Tally (Alike s t tree) (tree.value s) (tree.value t) :=
    run_alike h tree maxDepth (hreads.covered h)
  have htruth : Tally Eq (tree.value s >>= Operand.truthy) (tree.value t >>= Operand.truthy) := by
    refine hrun.bind fun a b _ hab => ?_
    rw [hab.resembles.truthy]
    exact .refl (fun _ => rfl) _
  rw [Evaluator.decide, Evaluator.decide, htruth.eq]

/-- So is a condition that is left to the language. -/
theorem answerAlone_alike {text : String} {tree : Expression}
    (hcompile : compile (Text.trim text) = .ok tree) (hreads : tree.ReadsByName)
    (h : s.SameBut t tree.flagsRead) :
    Evaluator.answerAlone none text s = Evaluator.answerAlone none text t := by
  refine answerAlone_of_decide fun found hfound => ?_
  obtain rfl : tree = found := Except.ok.inj (hcompile.symm.trans hfound)
  exact decide_alike hreads h _

end Running
end Storyline.Condition
