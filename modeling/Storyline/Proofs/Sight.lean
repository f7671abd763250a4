import Storyline.Proofs.Condition.Cache
import Storyline.Proofs.Taking

namespace Storyline.Engine
open Condition Condition.Evaluator

/-- Whether a choice is in sight by its own condition: it is blank, or it holds. -/
def inSight (custom : Option CustomEvaluator) (scope : Scope) (c : Choice) : Bool :=
  let condition := c.condition.getD ""
  Text.isAllBlank condition ||
    match answerAlone custom condition scope with
    | .ok holds => holds
    | .error _ => false

/-- The condition of a choice is left to the language and overlong. -/
def Blocks (custom : Option CustomEvaluator) (c : Choice) (f : NumberFault) : Prop :=
  custom = none ∧ Overlong (c.condition.getD "") f

/-- The view of some choices: those that are in sight on their own, or the fault of the first that
blocks it. -/
inductive View (custom : Option CustomEvaluator) (scope : Scope) (cs : List Choice) :
    Except NumberFault (List Choice) → Prop
  | clear : (∀ c ∈ cs, ∀ f, ¬ Blocks custom c f) →
    View custom scope cs (.ok (cs.filter (inSight custom scope)))
  | blocked {before after : List Choice} {c : Choice} {f : NumberFault} :
    cs = before ++ c :: after → (∀ d ∈ before, ∀ g, ¬ Blocks custom d g) → Blocks custom c f →
    View custom scope cs (.error f)

section Shown
variable {ev : Evaluator} {scope : Scope} {c : Choice} {cs : List Choice} {f : NumberFault}

theorem isShown_keeps (h : ev.Faithful) (scope : Scope) (c : Choice) :
    (isShown ev scope c).2.Faithful ∧ (isShown ev scope c).2.custom = ev.custom := by
  unfold isShown
  dsimp only
  split
  · exact ⟨h, rfl⟩
  · exact (h.evaluate _ scope).2

theorem isShown_blocked (h : ev.Faithful) (scope : Scope) (hb : Blocks ev.custom c f) :
    (isShown ev scope c).1 = .error f := by
  have hanswer := (h.evaluate (c.condition.getD "") scope).1
  rw [answerAlone_literal.mpr hb] at hanswer
  simp [isShown, hb.2.shows, hanswer]

theorem isShown_clear (h : ev.Faithful) (scope : Scope) (hb : ∀ f, ¬ Blocks ev.custom c f) :
    (isShown ev scope c).1 = .ok (inSight ev.custom scope c) := by
  have hanswer := (h.evaluate (c.condition.getD "") scope).1
  cases hblank : Text.isAllBlank (c.condition.getD "") with
  | true => simp [isShown, inSight, hblank]
  | false =>
    cases ha : answerAlone ev.custom (c.condition.getD "") scope with
    | ok holds => simp [isShown, inSight, hblank, hanswer, ha]
    | error failure =>
      cases failure with
      | condition _ => simp [isShown, inSight, hblank, hanswer, ha]
      | literal f => exact absurd (answerAlone_literal.mp ha) (hb f)

theorem View.cons {r : Except NumberFault (List Choice)} {custom : Option CustomEvaluator}
    (hb : ∀ f, ¬ Blocks custom c f) (h : View custom scope cs r) :
    View custom scope (c :: cs)
      (r.map fun more => if inSight custom scope c then c :: more else more) := by
  cases h with
  | clear hclear =>
    have hview : View custom scope (c :: cs) (.ok ((c :: cs).filter (inSight custom scope))) :=
      .clear (List.forall_mem_cons.mpr ⟨hb, hclear⟩)
    rwa [List.filter_cons] at hview
  | blocked hcs hclear hf =>
    subst hcs
    exact .blocked rfl (List.forall_mem_cons.mpr ⟨hb, hclear⟩) hf

theorem Blocks.unique {custom : Option CustomEvaluator} {f g : NumberFault}
    (hf : Blocks custom c f) (hg : Blocks custom c g) : f = g := by
  have hsame := hf.2.stuck.symm.trans hg.2.stuck
  cases hsame
  rfl

/-- Behind a choice that blocks the view there is none that does so first. -/
theorem Blocks.first {custom : Option CustomEvaluator} {c' : Choice} {g : NumberFault}
    {between after after' : List Choice} (hf : Blocks custom c f) (hg : Blocks custom c' g)
    (heq : c :: after = between ++ c' :: after')
    (hclear : ∀ d ∈ between, ∀ f, ¬ Blocks custom d f) : f = g := by
  cases between with
  | nil =>
    cases heq
    exact hf.unique hg
  | cons d between =>
    cases heq
    exact absurd hf (hclear c List.mem_cons_self f)

/-- Some choices have one view. -/
theorem View.unique {r r' : Except NumberFault (List Choice)} {custom : Option CustomEvaluator}
    (h : View custom scope cs r) (h' : View custom scope cs r') : r = r' := by
  cases h with
  | clear hclear =>
    cases h' with
    | clear _ => rfl
    | blocked hcs _ hf => exact absurd hf (hclear _ (by simp [hcs]) _)
  | blocked hcs hbefore hf =>
    cases h' with
    | clear hclear => exact absurd hf (hclear _ (by simp [hcs]) _)
    | blocked hcs' hbefore' hg =>
      rcases List.append_eq_append_iff.mp (hcs.symm.trans hcs') with
        ⟨between, rfl, heq⟩ | ⟨between, rfl, heq⟩
      · have hbetween := fun d hd => hbefore' d (List.mem_append_right _ hd)
        rw [hf.first hg heq hbetween]
      · have hbetween := fun d hd => hbefore d (List.mem_append_right _ hd)
        rw [hg.first hf heq hbetween]

/-- A faithful evaluator gives the view that its conditions give one by one, and stays faithful. -/
theorem shown_view (h : ev.Faithful) (scope : Scope) (cs : List Choice) :
    View ev.custom scope cs (shown scope ev cs).1 ∧ (shown scope ev cs).2.Faithful ∧
      (shown scope ev cs).2.custom = ev.custom := by
  induction cs generalizing ev with
  | nil => exact ⟨.clear (List.forall_mem_nil _), h, rfl⟩
  | cons c rest ih =>
    obtain ⟨hfaithful, hcustom⟩ := isShown_keeps h scope c
    unfold shown
    by_cases hb : ∃ f, Blocks ev.custom c f
    · obtain ⟨f, hf⟩ := hb
      have hfirst := isShown_blocked h scope hf
      rcases hs : isShown ev scope c with ⟨r, ev'⟩
      rw [hs] at hfirst hfaithful hcustom
      cases hfirst
      exact ⟨.blocked rfl (List.forall_mem_nil _) hf, hfaithful, hcustom⟩
    · have hclear : ∀ f, ¬ Blocks ev.custom c f := not_exists.mp hb
      have hfirst := isShown_clear h scope hclear
      rcases hs : isShown ev scope c with ⟨r, ev'⟩
      rw [hs] at hfirst hfaithful hcustom
      cases hfirst
      obtain ⟨hview, hrest⟩ := ih hfaithful
      rw [show ev'.custom = ev.custom from hcustom] at hview hrest
      exact ⟨hview.cons hclear, hrest⟩

end Shown

section Faithful
variable {e : Engine}

def Faithful (e : Engine) : Prop := e.evaluator.Faithful

/-- What follows on a first part keeps the evaluator faithful that it does not touch. -/
theorem Faithful.andThen {α β : Type} {o : Outcome α} {next : α → Engine → Outcome β}
    (h : o.2.Faithful) (hn : ∀ a e, (next a e).2.evaluator = e.evaluator) :
    (andThen o next).2.Faithful := by
  apply andThen_keeps
  · exact h
  · intro a e' _ hfirst
    rw [Faithful, hn]
    exact hfirst

theorem Faithful.visible (h : e.Faithful) (customData : Entries Value) :
    (e.visible customData).2.Faithful := by
  unfold Engine.visible
  split
  · exact h
  · exact (shown_view h _ _).2.1

theorem Faithful.available (h : e.Faithful) (time : Option Number) (customData : Entries Value) :
    (e.available time customData).2.Faithful :=
  Faithful.andThen (h.visible customData) fun _ _ => rfl

theorem Faithful.triggerAutosave (h : e.Faithful) (trigger : String) (metadata : Entries Value) :
    (e.triggerAutosave trigger metadata).2.Faithful := by
  unfold Engine.triggerAutosave
  split
  · exact h
  · exact Faithful.andThen h fun _ _ => rfl

theorem Faithful.happened (h : e.Faithful) (trigger : Autosave.Trigger)
    (metadata : Entries Value) : (e.happened trigger metadata).2.Faithful := by
  unfold Engine.happened
  split
  · exact h
  · exact Faithful.andThen (h.triggerAutosave trigger.name metadata) fun _ _ => rfl

theorem Faithful.take (h : e.Faithful) (c : Choice) (target : Node) :
    (e.take c target).2.Faithful := by
  apply andThen_keeps
  · exact h
  · intro _ e' _ htracked
    split
    · exact htracked
    · have hfollowed : (e'.follow c target).Faithful := htracked
      exact Faithful.andThen (hfollowed.happened _ _) fun _ _ => rfl

theorem Faithful.commit (h : e.Faithful) (c : Choice) (offered : List Choice)
    (time : Option Number) : (e.commit c offered time).2.Faithful := by
  unfold Engine.commit
  split
  · exact h
  · split
    · exact h
    · split
      · exact h
      · exact h.take c _

theorem Faithful.select (h : e.Faithful) (c : Choice) (time : Option Number) :
    (e.select c time).2.Faithful := by
  apply andThen_keeps
  · exact h.available time []
  · intro offered e' _ hseen
    exact hseen.commit c offered time

theorem Faithful.choose (h : e.Faithful) (index : Value) (time : Option Number) :
    (e.choose index time).2.Faithful := by
  apply andThen_keeps
  · exact h.visible []
  · intro seen e' _ hseen
    split
    · exact hseen
    · exact hseen.select _ time

theorem Faithful.goTo (h : e.Faithful) (id : String) : (e.goTo id).2.Faithful := by
  unfold Engine.goTo
  split
  · exact h
  · exact Faithful.andThen h fun _ _ => rfl

theorem Faithful.setFlag (h : e.Faithful) (name value : Value) :
    (e.setFlag name value).2.Faithful := by
  unfold Engine.setFlag
  split
  · exact h
  · rename_i name _
    apply andThen_keeps
    · exact h
    · intro _ e' _ htracked
      dsimp only
      split
      · have hset :
            ({ e' with state := e'.state.withEffects [(name, value)] } : Engine).Faithful :=
          htracked
        exact hset.happened _ _
      · exact htracked

theorem Faithful.replace (h : e.Faithful) (s : NarrativeState) (tracked : Bool) :
    (e.replace s tracked).2.Faithful := by
  unfold Engine.replace
  split
  · exact h
  · split
    · exact h
    · apply andThen_keeps
      · exact h
      · intro _ e' _ htracked
        have hplaced : ({ e' with state := s } : Engine).Faithful := htracked
        exact hplaced.happened _ _

theorem Faithful.load (h : e.Faithful) (o : Save.LoadOptions) (data : Value) :
    (e.load o data).2.Faithful := by
  unfold Engine.load
  split
  · exact h
  · exact h
  · rename_i l _
    apply andThen_keeps
    · exact h
    · intro _ e' _ htracked
      have hrestored : (e'.restored o l).Faithful := htracked
      exact Faithful.andThen (hrestored.happened _ _) fun _ _ => rfl

theorem Faithful.restore (h : e.Faithful) (id : String) : (e.restore id).2.Faithful := by
  unfold Engine.restore
  split
  · exact h
  · split
    · exact h
    · exact Faithful.andThen h fun _ _ => rfl

/-- Whatever is done with an engine, its cache keeps telling the truth. -/
theorem Faithful.attempt (h : e.Faithful) (op : Operation) : (e.attempt op).2.Faithful := by
  cases op with
  | look customData => exact h.visible customData
  | offer time customData => exact h.available time customData
  | askComplete => exact Faithful.andThen (h.available none []) fun _ _ => rfl
  | consider c time => exact Faithful.andThen (h.visible []) fun _ _ => rfl
  | choose index time => exact h.choose index time
  | select c time => exact h.select c time
  | goTo id => exact h.goTo id
  | setFlag name value => exact h.setFlag name value
  | reset => exact Faithful.andThen h fun _ _ => rfl
  | loadState s tracked =>
    show (e.loadState s tracked).2.Faithful
    unfold loadState
    split
    · exact h
    · exact h.replace _ tracked
  | loadPayload payload tracked =>
    show (e.loadPayload payload tracked).2.Faithful
    unfold loadPayload
    split
    · exact h
    · exact h.replace _ tracked
  | load o data => exact h.load o data
  | loadFrom key o =>
    show (e.loadFrom key o).2.Faithful
    unfold loadFrom
    split
    · exact h
    · exact h.load o _
  | restore id => exact h.restore id
  | saveTo key o =>
    show (e.saveTo key o).2.Faithful
    unfold saveTo
    split <;> exact h
  | cleanup o =>
    show (e.cleanup o).2.Faithful
    unfold cleanup
    split <;> exact h
  | importCheckpoint data =>
    show (e.importCheckpoint data).2.Faithful
    unfold importCheckpoint
    split <;> exact h
  | configureTimeline changes =>
    show (e.configureTimeline changes).2.Faithful
    unfold configureTimeline
    split <;> exact h
  | configureAutosave changes =>
    show (e.configureAutosave changes).2.Faithful
    unfold configureAutosave
    split <;> exact h
  | triggerAutosave trigger metadata => exact h.triggerAutosave trigger metadata
  | _ => exact h

theorem Faithful.made {story : Story} {ambient : Ambient} {setup : Setup}
    (h : make story ambient setup = .ok e) : e.Faithful := by
  obtain ⟨state, _, h⟩ := bind_eq_ok.mp h
  obtain ⟨ev, hev, h⟩ := bind_eq_ok.mp h
  obtain ⟨shelf, _, h⟩ := bind_eq_ok.mp h
  obtain ⟨tc, _, h⟩ := bind_eq_ok.mp h
  obtain ⟨ac, _, h⟩ := bind_eq_ok.mp h
  cases h
  have hmade : Evaluator.make setup.settings.cacheSize = .ok ev := mapError_eq_ok.mp hev
  unfold Evaluator.make at hmade
  split at hmade
  · cases hmade
  · cases hmade
    exact empty_faithful none

theorem Reachable.faithful (h : e.Reachable) : e.Faithful := by
  induction h with
  | made _ hm => exact Faithful.made hm
  | next op _ ih => exact ih.attempt op

end Faithful

/-- The choices in sight are those of the current node whose conditions are blank or hold on their
own, in their order. A condition without an answer hides its choice and no other, unless it is left
to the language and has an integer of too many digits in it. This is for conditions that fit on the
stack and host values that print and compare. -/
theorem visible_view {e : Engine} (h : e.Reachable) (customData : Entries Value) :
    ∃ node seen, e.node = .ok node ∧ (e.visible customData).1 = seen.mapError .number ∧
      View e.evaluator.custom (e.scope customData) node.choices seen ∧
      ∀ c f, Blocks e.evaluator.custom c f → e.evaluator.custom = none ∧
        ∃ digits, digits <:+: (c.condition.getD "").toList ∧ AllDecimal digits ∧
          maxIntegerDigits < digits.length := by
  obtain ⟨node, hn⟩ : ∃ node, e.story.find? e.state.node = some node :=
    Option.isSome_iff_exists.mp h.sound.live.known
  have hnode : e.node = .ok node := by rw [Engine.node, hn]
  have hview := shown_view h.faithful (e.scope customData) node.choices
  refine ⟨node, _, hnode, ?_, hview.1, ?_⟩
  · rw [visible, hnode]
  · intro c f hb
    exact ⟨hb.1, hb.2.digits⟩

def wayIf (condition : String) : Choice := { openWay with condition := some condition }

def gateWith (ways : List Choice) : Story :=
  ⟨"gate", [⟨"gate", "A gate.", ways⟩, ⟨"hall", "A hall.", []⟩]⟩

theorem gateWith_made (ways : List Choice) : (gateWith ways).Made := by
  have hm : Story.make "gate" (gateWith ways).nodes = .ok (gateWith ways) := rfl
  apply Story.Made.built _ hm
  intro n hn
  simp only [gateWith, List.mem_cons, List.not_mem_nil, or_false] at hn
  rcases hn with rfl | rfl
  · exact ⟨.text "gate", .text "A gate.", _, by rfl⟩
  · exact ⟨.text "hall", .text "A hall.", _, by rfl⟩

def atGateWith (ways : List Choice) : Engine := fresh (gateWith ways) ⟨0, 0⟩ .off

theorem atGateWith_reachable (ways : List Choice) : (atGateWith ways).Reachable :=
  fresh_reachable (gateWith_made ways) _ _

/-- An unsafe condition hides its own choice. An integer of 4301 digits in one leaves no choices at
all. -/
theorem visible_view_unsafe :
    ((atGateWith [wayIf "eval(1)", openWay]).visible []).1 = .ok [openWay] ∧
      ((atGateWith [wayIf (String.ofList (List.replicate 4301 '1')), openWay]).visible []).1 =
        .error (.number (.tooLongToRead 4301)) := by
  constructor
  · obtain ⟨node, seen, hn, hv, hview, _⟩ :=
      visible_view (atGateWith_reachable [wayIf "eval(1)", openWay]) []
    cases hn
    have hclear : ∀ c ∈ [wayIf "eval(1)", openWay], ∀ f, ¬ Blocks none c f := by
      intro c hc f hb
      simp only [List.mem_cons, List.not_mem_nil, or_false] at hc
      cases hc with
      | inl hc =>
        subst hc
        cases hb.2.passes
      | inr hc =>
        subst hc
        cases hb.2.shows
    rw [hv, hview.unique (.clear hclear)]
    rfl
  · have hdigits : AllDecimal (List.replicate 4301 '1') := by
      intro c hc
      rw [List.eq_of_mem_replicate hc]
      decide
    have hlength : (List.replicate 4301 '1').length = 4301 := List.length_replicate
    have hlong : maxIntegerDigits < (List.replicate 4301 '1').length := by
      rw [hlength]
      decide
    obtain ⟨node, seen, hn, hv, hview, _⟩ :=
      visible_view (atGateWith_reachable [wayIf (String.ofList (List.replicate 4301 '1')), openWay]) []
    cases hn
    have hblocks : Blocks none (wayIf (String.ofList (List.replicate 4301 '1'))) _ :=
      ⟨rfl, overlong_of_digits hdigits hlong⟩
    rw [hv, hview.unique (.blocked rfl (List.forall_mem_nil _) hblocks), hlength]
    rfl

end Storyline.Engine
