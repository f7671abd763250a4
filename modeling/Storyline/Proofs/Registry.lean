import Mathlib.Data.List.Nodup
import Storyline.Proofs.Choosing

namespace Storyline

/-- The mark of the rule that failed overrides what the rule itself said under the same keys. -/
theorem Verdict.marked_get? (v : Verdict) (rule : Rule) (passed : Nat) (key : String) :
    (v.marked rule passed).metadata.get? key =
      if key = "rulesPassed" then some (.int passed)
      else if key = "failedRule" then some (.text rule.name)
      else v.metadata.get? key := by
  unfold marked
  split
  · rename_i hkey
    rw [hkey, Entries.get?_put_self]
  · rename_i hplace
    rw [Entries.get?_put_of_ne _ _ hplace]
    split
    · rename_i hkey
      rw [hkey, Entries.get?_put_self]
    · rename_i hrule
      rw [Entries.get?_put_of_ne _ _ hrule]

namespace Registry

inductive Change where
  | add (rule : Rule)
  | remove (name : String)

def Change.name : Change → String
  | add rule => rule.name
  | remove name => name

def Change.brings : Change → List Rule
  | add rule => [rule]
  | remove _ => []

def change (r : Registry) : Change → Registry
  | .add rule => r.add rule
  | .remove name => r.remove name

def after (r : Registry) (changes : List Change) : Registry := changes.foldl change r

/-- The rules that no later change concerns, in the order in which they were added. -/
def standing : List Change → List Rule
  | [] => []
  | .add rule :: later =>
    if later.any (·.name == rule.name) then standing later else rule :: standing later
  | .remove _ :: later => standing later

/-- A rule was added last under its name, and not taken out of force since. -/
def Stands (log : List Change) (rule : Rule) : Prop :=
  ∃ before later, log = before ++ .add rule :: later ∧ ∀ change ∈ later, change.name ≠ rule.name

variable {log : List Change} {rule : Rule} {rules : List Rule} {r : Registry}

theorem mem_standing : rule ∈ standing log ↔ Stands log rule := by
  induction log with
  | nil => simp [standing, Stands]
  | cons first later ih =>
    have hbehind : Stands later rule → Stands (first :: later) rule := by
      rintro ⟨before, rest, rfl, hrest⟩
      exact ⟨first :: before, rest, rfl, hrest⟩
    have hahead : Stands (first :: later) rule → first = .add rule ∧
        (∀ change ∈ later, change.name ≠ rule.name) ∨ Stands later rule := by
      rintro ⟨before, rest, hlog, hrest⟩
      cases before with
      | nil =>
        cases hlog
        exact .inl ⟨rfl, hrest⟩
      | cons _ before =>
        cases hlog
        exact .inr ⟨before, rest, rfl, hrest⟩
    cases first with
    | remove name =>
      rw [standing, ih]
      refine ⟨hbehind, fun h => (hahead h).resolve_left ?_⟩
      rintro ⟨h, _⟩
      cases h
    | add added =>
      rw [standing]
      split
      · rename_i hlater
        rw [ih]
        refine ⟨hbehind, fun h => (hahead h).resolve_left ?_⟩
        rintro ⟨h, hnone⟩
        cases h
        obtain ⟨change, hchange, hname⟩ := List.any_eq_true.mp hlater
        exact hnone change hchange (by simpa using hname)
      · rename_i hlater
        have hnone : ∀ change ∈ later, change.name ≠ added.name := by simpa using hlater
        rw [List.mem_cons, ih]
        constructor
        · rintro (rfl | h)
          · exact ⟨[], later, rfl, hnone⟩
          · exact hbehind h
        · intro h
          rcases hahead h with ⟨h, _⟩ | h
          · cases h
            exact .inl rfl
          · exact .inr h

/-- One more change puts the rule of its name out of force, and brings its own behind all others. -/
theorem standing_snoc (log : List Change) (change : Change) :
    standing (log ++ [change]) =
      (standing log).filter (·.name != change.name) ++ change.brings := by
  induction log with
  | nil => cases change <;> rfl
  | cons first later ih =>
    cases first with
    | remove name => exact ih
    | add rule =>
      rw [List.cons_append, standing, standing, List.any_append, ih]
      cases hlater : later.any (·.name == rule.name) with
      | true => rfl
      | false =>
        by_cases hname : change.name = rule.name
        · simp [hname]
        · simp [hname, Ne.symm hname]

theorem standing_names_nodup (log : List Change) : ((standing log).map Rule.name).Nodup := by
  induction log with
  | nil => exact List.nodup_nil
  | cons first later ih =>
    cases first with
    | remove name => exact ih
    | add rule =>
      rw [standing]
      split
      · exact ih
      · rename_i hlater
        refine List.nodup_cons.mpr ⟨?_, ih⟩
        intro hin
        obtain ⟨other, hother, hname⟩ := List.mem_map.mp hin
        obtain ⟨before, rest, rfl, _⟩ := mem_standing.mp hother
        simp [Change.name, hname] at hlater

theorem insert_perm (rule : Rule) (rules : List Rule) :
    (insert rule rules).Perm (rule :: rules) := by
  induction rules with
  | nil => exact .refl _
  | cons first rest ih =>
    rw [insert]
    split
    · exact (ih.cons first).trans (.swap rule first rest)
    · exact .refl _

def Rises (rules : List Rule) : Prop := rules.Pairwise (·.priority ≤ ·.priority)

theorem Rises.insert (h : Rises rules) (rule : Rule) : Rises (insert rule rules) := by
  induction rules with
  | nil => exact List.pairwise_singleton _ _
  | cons first rest ih =>
    obtain ⟨hfirst, hrest⟩ := List.pairwise_cons.mp h
    rw [Registry.insert]
    split
    · rename_i hle
      refine List.pairwise_cons.mpr ⟨?_, ih hrest⟩
      intro other hother
      rcases List.mem_cons.mp ((insert_perm rule rest).mem_iff.mp hother) with rfl | hother
      · exact hle
      · exact hfirst other hother
    · rename_i hgt
      refine List.pairwise_cons.mpr ⟨?_, h⟩
      intro other hother
      rcases List.mem_cons.mp hother with rfl | hother
      · omega
      · have hle := hfirst other hother
        omega

def ofPriority (p : Int) (rules : List Rule) : List Rule := rules.filter (·.priority == p)

/-- An added rule comes behind those of its priority. -/
theorem ofPriority_insert (h : Rises rules) (rule : Rule) (p : Int) :
    ofPriority p (insert rule rules) = ofPriority p rules ++ ofPriority p [rule] := by
  induction rules with
  | nil => rfl
  | cons first rest ih =>
    obtain ⟨hfirst, hrest⟩ := List.pairwise_cons.mp h
    have ih := ih hrest
    unfold ofPriority at ih ⊢
    rw [insert]
    split
    · rw [List.filter_cons, List.filter_cons, ih]
      split <;> rfl
    · rename_i hgt
      by_cases hp : rule.priority = p
      · -- all rules from here on are of higher priorities
        have hnone : (first :: rest).filter (·.priority == p) = [] := by
          apply List.filter_eq_nil_iff.mpr
          intro other hother
          have hle : first.priority ≤ other.priority := by
            rcases List.mem_cons.mp hother with rfl | hother
            · exact Int.le_refl _
            · exact hfirst other hother
          simp only [beq_iff_eq]
          omega
        rw [List.filter_cons, hnone]
        simp [hp]
      · rw [List.filter_cons]
        simp [hp]

/-- What the rules in force are, given all changes that there were. -/
structure Follows (r : Registry) (log : List Change) : Prop where
  distinct : (r.rules.map Rule.name).Nodup
  rising : Rises r.rules
  exact : ∀ rule, rule ∈ r.rules ↔ Stands log rule
  /-- Among equals the one that was added first comes first. -/
  ties : ∀ p, ofPriority p r.rules = ofPriority p (standing log)

theorem Follows.perm (h : r.Follows log) : r.rules.Perm (standing log) := by
  have hdistinct : r.rules.Nodup := h.distinct.of_map
  have hstanding : (standing log).Nodup := (standing_names_nodup log).of_map
  refine (List.perm_ext_iff_of_nodup hdistinct hstanding).mpr ?_
  intro rule
  rw [h.exact, mem_standing]

theorem Follows.of_perm (hperm : r.rules.Perm (standing log)) (hrising : Rises r.rules)
    (hties : ∀ p, ofPriority p r.rules = ofPriority p (standing log)) : r.Follows log where
  distinct := ((hperm.map Rule.name).nodup_iff).mpr (standing_names_nodup log)
  rising := hrising
  exact := fun _ => hperm.mem_iff.trans mem_standing
  ties := hties

/-- Rules that follow the changes so far follow one more. -/
theorem Follows.change (h : r.Follows log) (change : Change) :
    (r.change change).Follows (log ++ [change]) := by
  have hperm : (r.remove change.name).rules.Perm
      ((standing log).filter (·.name != change.name)) := h.perm.filter _
  have hrising : Rises (r.remove change.name).rules := h.rising.filter _
  have hties : ∀ p, ofPriority p (r.remove change.name).rules =
      ofPriority p ((standing log).filter (·.name != change.name)) := by
    intro p
    have hcomm : ∀ rules : List Rule, ofPriority p (rules.filter (·.name != change.name)) =
        (ofPriority p rules).filter (·.name != change.name) := fun _ => List.filter_comm _ _ _
    rw [remove, hcomm, hcomm, h.ties p]
  cases change with
  | remove name =>
    refine .of_perm ?_ hrising ?_ <;> rw [standing_snoc, Change.brings, List.append_nil]
    · exact hperm
    · exact hties
  | add rule =>
    refine .of_perm ?_ (hrising.insert rule) ?_ <;> rw [standing_snoc, Change.brings]
    · calc insert rule (r.remove rule.name).rules
        List.Perm _ (rule :: (r.remove rule.name).rules) := insert_perm rule _
        List.Perm _ (rule :: (standing log).filter (·.name != rule.name)) := hperm.cons rule
        List.Perm _ _ := (List.perm_append_singleton _ _).symm
    · intro p
      calc ofPriority p (insert rule (r.remove rule.name).rules)
        _ = ofPriority p (r.remove rule.name).rules ++ ofPriority p [rule] :=
          ofPriority_insert hrising rule p
        _ = ofPriority p ((standing log).filter (·.name != rule.name)) ++ ofPriority p [rule] :=
          congrArg (· ++ _) (hties p)
        _ = ofPriority p ((standing log).filter (·.name != rule.name) ++ [rule]) :=
          (List.filter_append ..).symm

theorem Follows.after (h : r.Follows log) (changes : List Change) :
    (r.after changes).Follows (log ++ changes) := by
  induction changes generalizing r log with
  | nil => simpa [Registry.after] using h
  | cons first rest ih => simpa [Registry.after] using ih (h.change first)

theorem follows_ofList (rules : List Rule) : (ofList rules).Follows (rules.map .add) := by
  have hempty : Follows ⟨[]⟩ [] :=
    ⟨List.nodup_nil, .nil, fun _ => by simp [Stands], fun _ => rfl⟩
  have hafter : ofList rules = Registry.after ⟨[]⟩ (rules.map .add) := by
    rw [Registry.after, List.foldl_map]
    rfl
  rw [hafter]
  exact hempty.after (rules.map .add)

variable {c : Choice} {x : RuleContext} {v : Verdict} {passed rest : List Rule} {f : RuleFault}

/-- Rules that a choice passes are counted, and nothing more. -/
theorem firstFailure?_append (h : ∀ rule ∈ passed, ∃ v, rule.check c x = .ok v ∧ v.valid = true)
    (n : Nat) (rest : List Rule) :
    firstFailure? c x n (passed ++ rest) = firstFailure? c x (n + passed.length) rest := by
  induction passed generalizing n with
  | nil => rfl
  | cons rule more ih =>
    obtain ⟨⟨v, hv, hvalid⟩, hmore⟩ := List.forall_mem_cons.mp h
    rw [List.cons_append, firstFailure?, hv, List.length_cons, ← Nat.add_assoc,
      Nat.add_right_comm, ← ih hmore]
    simp [hvalid]

/-- The first rule that a choice fails ends the judgement. -/
theorem FirstFailed.firstFailure? (h : FirstFailed c x rules passed rule v) :
    firstFailure? c x 0 rules = .ok (some (v.marked rule passed.length)) := by
  obtain ⟨rest, hrules⟩ := h.first
  obtain ⟨hv, hfails⟩ := h.fails
  rw [hrules, firstFailure?_append h.passes, Registry.firstFailure?, hv, Nat.zero_add]
  simp [hfails, Verdict.marked]

theorem FirstFailed.validate (h : FirstFailed c x r.rules passed rule v) :
    r.validate c x = .ok (v.marked rule passed.length) := by
  rw [Registry.validate, h.firstFailure?]
  rfl

def FirstBroken (c : Choice) (x : RuleContext) (rules : List Rule) (f : RuleFault) : Prop :=
  ∃ passed rule rest, rules = passed ++ rule :: rest ∧
    (∀ earlier ∈ passed, ∃ v, earlier.check c x = .ok v ∧ v.valid = true) ∧
    rule.check c x = .error f

/-- A choice passes all rules, or there is a first one that it fails, or that breaks on it. -/
theorem judged (c : Choice) (x : RuleContext) (rules : List Rule) :
    (∀ rule ∈ rules, ∃ v, rule.check c x = .ok v ∧ v.valid = true) ∨
    (∃ passed rule v, FirstFailed c x rules passed rule v) ∨ ∃ f, FirstBroken c x rules f := by
  induction rules with
  | nil => exact .inl (List.forall_mem_nil _)
  | cons rule rest ih =>
    cases hv : rule.check c x with
    | error f => exact .inr (.inr ⟨f, [], rule, rest, rfl, List.forall_mem_nil _, hv⟩)
    | ok v =>
      cases hvalid : v.valid with
      | false => exact .inr (.inl ⟨[], rule, v, ⟨rest, rfl⟩, List.forall_mem_nil _, hv, hvalid⟩)
      | true =>
        have hpasses : ∃ v, rule.check c x = .ok v ∧ v.valid = true := ⟨v, hv, hvalid⟩
        rcases ih with hall | ⟨passed, failed, w, h⟩ | ⟨f, passed, broken, more, hrest, hall, hf⟩
        · exact .inl (List.forall_mem_cons.mpr ⟨hpasses, hall⟩)
        · obtain ⟨more, hmore⟩ := h.first
          exact .inr (.inl ⟨rule :: passed, failed, w, ⟨more, by rw [hmore]; rfl⟩,
            List.forall_mem_cons.mpr ⟨hpasses, h.passes⟩, h.fails⟩)
        · exact .inr (.inr ⟨f, rule :: passed, broken, more, by rw [hrest]; rfl,
            List.forall_mem_cons.mpr ⟨hpasses, hall⟩, hf⟩)

theorem FirstBroken.validate (h : FirstBroken c x r.rules f) : r.validate c x = .error f := by
  obtain ⟨passed, rule, rest, hrules, hpasses, hf⟩ := h
  rw [Registry.validate, hrules, firstFailure?_append hpasses, Registry.firstFailure?, hf]
  rfl

/-- What the rules in force say of a choice. -/
structure Judges (r : Registry) (c : Choice) (x : RuleContext) : Prop where
  accepts : (∃ v, r.validate c x = .ok v ∧ v.valid = true) ↔
    ∀ rule ∈ r.rules, ∃ v, rule.check c x = .ok v ∧ v.valid = true
  refuses : ∀ w, r.validate c x = .ok w ∧ w.valid = false ↔
    ∃ passed rule v, FirstFailed c x r.rules passed rule v ∧ w = v.marked rule passed.length
  breaks : ∀ f, r.validate c x = .error f ↔ FirstBroken c x r.rules f
  /-- Whatever rules there are behind the first one that fails, the verdict is the same. -/
  unheard : ∀ passed rule v, FirstFailed c x r.rules passed rule v →
    ∀ others, validate ⟨passed ++ rule :: others⟩ c x = r.validate c x

theorem judges (r : Registry) (c : Choice) (x : RuleContext) : r.Judges c x where
  accepts := validate_valid
  refuses := by
    intro w
    constructor
    · rintro ⟨hw, hrefused⟩
      rcases judged c x r.rules with hall | ⟨passed, rule, v, h⟩ | ⟨f, h⟩
      · obtain ⟨v, hv, hvalid⟩ := validate_valid.mpr hall
        cases hv.symm.trans hw
        cases hvalid.symm.trans hrefused
      · exact ⟨passed, rule, v, h, (Except.ok.inj (h.validate.symm.trans hw)).symm⟩
      · cases h.validate.symm.trans hw
    · rintro ⟨passed, rule, v, h, rfl⟩
      exact ⟨h.validate, h.fails.2⟩
  breaks := by
    intro f
    refine ⟨fun hf => ?_, FirstBroken.validate⟩
    rcases judged c x r.rules with hall | ⟨passed, rule, v, h⟩ | ⟨g, h⟩
    · obtain ⟨v, hv, _⟩ := validate_valid.mpr hall
      cases hv.symm.trans hf
    · cases h.validate.symm.trans hf
    · cases h.validate.symm.trans hf
      exact h
  unheard := by
    intro passed rule v h others
    have hothers : FirstFailed c x (passed ++ rule :: others) passed rule v :=
      ⟨⟨others, rfl⟩, h.passes, h.fails⟩
    rw [h.validate]
    exact FirstFailed.validate (r := ⟨_⟩) hothers

/-- Whatever rules there are at first and however they are changed, those in force are the ones that
were added last under their names and not taken out of force since, by priority and among equals by
the order in which they were added. They accept what passes them all, and what they refuse has the
verdict of the first that it fails, under whose mark the name of that rule and the number of those
before it stand, whatever the rule itself said there. -/
theorem rules_decide (initial : List Rule) (changes : List Change) :
    ((ofList initial).after changes).Follows (initial.map .add ++ changes) ∧
    (∀ c x, ((ofList initial).after changes).Judges c x) ∧
    ∀ (v : Verdict) (rule : Rule) (passed : Nat) (key : String),
      (v.marked rule passed).metadata.get? key =
        if key = "rulesPassed" then some (.int passed)
        else if key = "failedRule" then some (.text rule.name)
        else v.metadata.get? key :=
  ⟨(follows_ofList initial).after changes, judges _, Verdict.marked_get?⟩

/-- A rule that is added again comes last among those of its priority. -/
example :
    let rule (name : String) (priority : Int) : Rule := ⟨name, priority, fun _ _ => .ok (.passed [])⟩
    let r := ofList [rule "first" 10, rule "second" 20, rule "third" 20]
    ((r.after [.add (rule "second" 20), .remove "first", .add (rule "fourth" 5)]).rules.map
      Rule.name) = ["fourth", "third", "second"] := by
  decide

end Registry
end Storyline
