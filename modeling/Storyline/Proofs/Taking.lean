import Storyline.Proofs.Breakage
import Storyline.Proofs.Mutation

namespace Storyline

/-- A rule whose judgement does not depend on what else is in sight. -/
def Rule.Impartial (r : Rule) : Prop :=
  ∀ c x offered, (r.check c { x with offered }).map Verdict.valid = (r.check c x).map Verdict.valid

theorem Rule.standard_impartial : ∀ r ∈ standard, r.Impartial := by
  intro r hr c x offered
  simp only [standard, List.mem_cons, List.not_mem_nil, or_false] at hr
  rcases hr with rfl | rfl | rfl | rfl | rfl <;> rfl

namespace Registry
variable {r : Registry} {c : Choice} {x : RuleContext}

theorem firstFailure?_none {passed : Nat} {rules : List Rule} :
    firstFailure? c x passed rules = .ok none ↔
      ∀ rule ∈ rules, ∃ v, rule.check c x = .ok v ∧ v.valid = true := by
  induction rules generalizing passed with
  | nil => simp [firstFailure?]
  | cons rule rest ih =>
    rw [firstFailure?, bind_eq_ok, List.forall_mem_cons]
    constructor
    · rintro ⟨v, hv, h⟩
      split at h
      · rename_i hvalid
        exact ⟨⟨v, hv, hvalid⟩, ih.mp h⟩
      · cases h
    · rintro ⟨⟨v, hv, hvalid⟩, h⟩
      exact ⟨v, hv, by rw [if_pos hvalid]; exact ih.mpr h⟩

theorem firstFailure?_some {passed : Nat} {rules : List Rule} {v : Verdict}
    (h : firstFailure? c x passed rules = .ok (some v)) : v.valid = false := by
  induction rules generalizing passed with
  | nil => cases h
  | cons rule rest ih =>
    obtain ⟨w, _, h⟩ := bind_eq_ok.mp h
    split at h
    · exact ih h
    · rename_i hw
      cases h
      exact Bool.eq_false_iff.mpr hw

/-- The rules accept a choice if each of them does. -/
theorem validate_valid : (∃ v, r.validate c x = .ok v ∧ v.valid = true) ↔
    ∀ rule ∈ r.rules, ∃ v, rule.check c x = .ok v ∧ v.valid = true := by
  rw [← @firstFailure?_none c x 0]
  constructor
  · rintro ⟨v, hv, hvalid⟩
    obtain ⟨failure, hf, h⟩ := bind_eq_ok.mp hv
    cases failure with
    | none => exact hf
    | some w =>
      cases h
      rw [firstFailure?_some hf] at hvalid
      cases hvalid
  · intro h
    exact ⟨_, by rw [validate, h]; rfl, rfl⟩

/-- The available choices are those that the rules accept. -/
theorem mem_available {cs offered : List Choice} (h : r.available x cs = .ok offered) :
    c ∈ offered ↔ c ∈ cs ∧ ∃ v, r.validate c x = .ok v ∧ v.valid = true := by
  induction cs generalizing offered with
  | nil =>
    cases h
    simp
  | cons d rest ih =>
    obtain ⟨v, hv, h⟩ := bind_eq_ok.mp h
    obtain ⟨more, hm, h⟩ := bind_eq_ok.mp h
    cases h
    rw [List.mem_cons]
    by_cases hvalid : v.valid = true
    · rw [if_pos hvalid, List.mem_cons, ih hm]
      constructor
      · rintro (rfl | ⟨hc, hw⟩)
        · exact ⟨.inl rfl, v, hv, hvalid⟩
        · exact ⟨.inr hc, hw⟩
      · rintro ⟨rfl | hc, hw⟩
        · exact .inl rfl
        · exact .inr ⟨hc, hw⟩
    · rw [if_neg hvalid, ih hm]
      constructor
      · rintro ⟨hc, hw⟩
        exact ⟨.inr hc, hw⟩
      · rintro ⟨rfl | hc, w, hw, hwv⟩
        · rw [hv] at hw
          cases hw
          exact absurd hwv hvalid
        · exact ⟨hc, w, hw, hwv⟩

end Registry

namespace Engine
open Condition
variable {e e' : Engine} {c : Choice} {time : Option Number} {n target : Node}
  {offered : List Choice}

theorem shown_subset {scope : Scope} {ev : Evaluator} {cs seen : List Choice}
    (h : (shown scope ev cs).1 = .ok seen) : seen ⊆ cs := by
  induction cs generalizing ev seen with
  | nil =>
    cases h
    exact List.Subset.refl _
  | cons c rest ih =>
    rw [shown] at h
    split at h
    · cases h
    · rename_i shows ev' _
      obtain ⟨more, hm, rfl⟩ := map_eq_ok.mp h
      have hrest := ih hm
      cases shows with
      | true => exact List.cons_subset_cons _ hrest
      | false => exact List.Subset.trans hrest (List.subset_cons_self _ _)

/-- A choice without a condition is always in sight. -/
theorem mem_shown_of_blank {scope : Scope} {ev : Evaluator} {cs seen : List Choice}
    (h : (shown scope ev cs).1 = .ok seen) (hc : c ∈ cs)
    (hb : Text.isAllBlank (c.condition.getD "") = true) : c ∈ seen := by
  induction cs generalizing ev seen with
  | nil => cases hc
  | cons d rest ih =>
    rw [shown] at h
    split at h
    · cases h
    · rename_i shows ev' hs
      obtain ⟨more, hm, rfl⟩ := map_eq_ok.mp h
      rcases List.mem_cons.mp hc with rfl | hc
      · simp only [isShown, hb, if_true, Prod.mk.injEq, Except.ok.injEq] at hs
        simp [← hs.1]
      · have hmem := ih hm hc
        cases shows with
        | true => exact List.mem_cons_of_mem _ hmem
        | false => exact hmem

/-- The choices in sight are some of those of the current node. -/
theorem visible_eq_ok {customData : Entries Value} {seen : List Choice}
    (h : (e.visible customData).1 = .ok seen) : ∃ node evaluator, e.node = .ok node ∧
      (shown (e.scope customData) e.evaluator node.choices).1 = .ok seen ∧
      (e.visible customData).2 = { e with evaluator } := by
  unfold visible at h ⊢
  split at h
  · cases h
  · rename_i node hn
    exact ⟨node, _, hn, mapError_eq_ok.mp h, rfl⟩

/-- All rules accept a choice, while some choices are in sight. -/
def Passes (e : Engine) (c : Choice) (seen : List Choice) (time : Option Number) : Prop :=
  ∃ v, e.verdictAmong c seen time = .ok v ∧ v.valid = true

theorem passes_iff {node : Node} (hn : e.node = .ok node) {seen : List Choice} :
    e.Passes c seen time ↔ ∀ rule ∈ e.rules.rules, ∃ v, rule.check c
      ⟨node, e.state, seen, time.getD (.double e.ambient.milliseconds)⟩ = .ok v ∧
        v.valid = true := by
  rw [← Registry.validate_valid]
  simp [Passes, verdictAmong, ruleContext, hn]

/-- The available choices are those in sight that pass all rules. -/
theorem available_eq_ok {customData : Entries Value}
    (h : (e.available time customData).1 = .ok offered) : ∃ seen evaluator,
      (e.visible customData).1 = .ok seen ∧
      e.available time customData = (.ok offered, { e with evaluator }) ∧
      ∀ c, c ∈ offered ↔ c ∈ seen ∧ e.Passes c seen time := by
  rcases ha : e.available time customData with ⟨r, e₁⟩
  rw [ha] at h
  cases h
  obtain ⟨seen, e₂, hv, ho⟩ := andThen_eq_ok.mp ha
  have hseen : (e.visible customData).1 = .ok seen := by rw [hv]
  obtain ⟨node, ev, hn, _, hev⟩ := visible_eq_ok hseen
  rw [hv] at hev
  cases hev
  obtain ⟨hoffered, rfl⟩ := Prod.ext_iff.mp ho
  obtain ⟨x, hx, hoffered⟩ := bind_eq_ok.mp hoffered
  refine ⟨seen, ev, hseen, rfl, fun c => ?_⟩
  rw [Registry.mem_available (mapError_eq_ok.mp hoffered)]
  have hx' : e.ruleContext seen time = .ok x := hx
  simp [Passes, verdictAmong, hx']

/-- What taking a choice requires, with some choices on offer: all rules accept it, one with a
condition looks like a choice on offer, and it leads to a node. -/
structure Grants (e : Engine) (c : Choice) (offered : List Choice) (time : Option Number) :
    Prop where
  passes : e.Passes c offered time
  resembles : c.condition.getD "" = "" ∨ ∃ d ∈ offered, c.looksLike d = true
  leads : e.story.has c.target = true

/-- The final verdict is good if the rules accept the choice, and one with a condition is not
turned down for it. -/
theorem finalVerdict_valid : (∃ v, e.finalVerdict c offered time = .ok v ∧ v.valid = true) ↔
    e.Passes c offered time ∧
      (c.condition.getD "" = "" ∨ ∃ d ∈ offered, c.looksLike d = true) := by
  constructor
  · rintro ⟨v, hv, hvalid⟩
    obtain ⟨w, hw, h⟩ := bind_eq_ok.mp hv
    dsimp only at h
    split at h
    · cases h
      cases hvalid
    · rename_i hmet
      cases h
      refine ⟨⟨_, hw, hvalid⟩, ?_⟩
      by_cases hblank : c.condition.getD "" = ""
      · exact .inl hblank
      · simpa [hvalid, hblank] using hmet
  · rintro ⟨⟨v, hv, hvalid⟩, hmet⟩
    refine ⟨v, bind_eq_ok.mpr ⟨v, hv, ?_⟩, hvalid⟩
    rw [if_neg]
    · rfl
    · rcases hmet with hblank | ⟨d, hd, hl⟩
      · simp [hblank]
      · simp only [hvalid, Bool.true_and, Bool.and_eq_true, Bool.not_eq_true', not_and,
          Bool.not_eq_false]
        exact fun _ => List.any_eq_true.mpr ⟨d, hd, hl⟩

theorem commit_eq_ok : e.commit c offered time = (.ok n, e') ↔
    e.Grants c offered time ∧ ∃ target, e.story.find? c.target = some target ∧
      e.take c target = (.ok n, e') := by
  constructor
  · intro h
    unfold commit at h
    split at h
    · cases h
    · rename_i v hv
      split at h
      · cases h
      · rename_i hvalid
        obtain ⟨hp, hr⟩ := finalVerdict_valid.mp ⟨v, hv, by simpa using hvalid⟩
        split at h
        · cases h
        · rename_i target ht
          exact ⟨⟨hp, hr, (Story.has_eq_find? ht).1⟩, target, ht, h⟩
  · rintro ⟨hg, target, ht, h⟩
    obtain ⟨v, hv, hvalid⟩ := finalVerdict_valid.mpr ⟨hg.passes, hg.resembles⟩
    simp [commit, hv, hvalid, ht, h]

abbrev takeMetadata (e : Engine) (c : Choice) : Entries Value :=
  [("nodeId", .text e.state.node), ("choiceText", .text c.text),
    ("flagsChanged", .texts c.effects.keys)]

theorem texts_copyable (ss : List String) : (Value.texts ss).copyable = true := by
  simp only [Value.texts, Value.copyable]
  induction ss with
  | nil => rfl
  | cons s rest ih => simpa [Value.allCopyable, Value.copyable] using ih

theorem takeMetadata_copyable (e : Engine) (c : Choice) :
    Value.allFieldsCopyable (e.takeMetadata c) = true := by
  simp [Value.allFieldsCopyable, Value.copyable, texts_copyable]

/-- A sound engine takes a choice in three steps: the state before is recorded, the choice is
followed, and an automatic save may be set off. -/
theorem take_tracked (h : e.Sound) (c : Choice) (target : Node) :
    ∃ e₁, e.track .choice (e.takeMetadata c) = (.ok (), e₁) ∧ e₁.Sound ∧
      e₁.story = e.story ∧ e₁.state = e.state ∧ e₁.events = e.events ∧ e₁.shelf = e.shelf ∧
      e₁.autosave = e.autosave ∧ e₁.ambient.clock = e.ambient.clock ∧
      e.take c target =
        if Value.allFieldsCopyable c.effects then
          andThen ((e₁.follow c target).happened .choice
            [("choiceText", .text c.text), ("nodeId", .text target.id)]) fun _ e => (.ok target, e)
        else (.error .uncopyable, e₁) := by
  obtain ⟨t, a, ht, ha⟩ := track_ok h .choice (e.takeMetadata_copyable c)
  have hs := h.track .choice (e.takeMetadata c)
  rw [ht] at hs
  refine ⟨_, ht, hs, rfl, rfl, rfl, rfl, rfl, ha, ?_⟩
  unfold take
  dsimp only
  rw [ht]
  cases hc : Value.allFieldsCopyable c.effects <;> simp [andThen]

/-- A granted choice is taken if its effects can be copied and no automatic save gets in the way. -/
theorem take_succeeds (h : e.Sound) (ht : e.story.find? c.target = some target) :
    (∃ n e', e.take c target = (.ok n, e')) ↔ Value.allFieldsCopyable c.effects = true ∧
      ¬ e.autosave.Escapes e.ambient c.target Autosave.Trigger.choice.name := by
  obtain ⟨e₁, _, hs, hstory, _, _, _, hauto, hclock, htake⟩ := take_tracked h c target
  rw [htake, ← Autosave.escapes_congr hclock, ← hauto]
  cases hc : Value.allFieldsCopyable c.effects with
  | false => simp
  | true =>
    have hfollow : (e₁.follow c target).Sound := hs.follow (hstory ▸ ht) hc
    have hbreaks := happened_breaks hfollow .choice
      [("choiceText", .text c.text), ("nodeId", .text target.id)]
    have hid : (e₁.follow c target).state.node = c.target := (Story.has_eq_find? ht).2
    rw [hid] at hbreaks
    rw [if_pos rfl]
    simp only [true_and]
    rw [show e₁.autosave = (e₁.follow c target).autosave from rfl,
      show e₁.ambient = (e₁.follow c target).ambient from rfl, ← hbreaks]
    rcases (e₁.follow c target).happened .choice
      [("choiceText", .text c.text), ("nodeId", .text target.id)] with ⟨f | r, e₂⟩ <;>
      simp [andThen]

/-- A choice that was taken has set its effects, and its target is the current node. -/
theorem take_eq_ok (h : e.Sound) (ht : e.take c target = (.ok n, e')) :
    n = target ∧ e'.state = (e.state.withEffects c.effects).moveTo target.id := by
  obtain ⟨e₁, _, _, _, hst, _, _, _, _, htake⟩ := take_tracked h c target
  rw [htake] at ht
  split at ht
  · obtain ⟨_, e₂, h₂, ht⟩ := andThen_eq_ok.mp ht
    cases ht
    exact ⟨rfl, by rw [(happened_alike h₂).state, follow, hst]⟩
  · cases ht

theorem Sound.withEvaluator (h : e.Sound) (evaluator : Evaluator) :
    ({ e with evaluator } : Engine).Sound :=
  { h with }

theorem select_eq_ok : e.select c time = (.ok n, e') ↔
    ∃ offered evaluator, e.available time [] = (.ok offered, { e with evaluator }) ∧
      e.Grants c offered time ∧ ∃ target, e.story.find? c.target = some target ∧
        ({ e with evaluator } : Engine).take c target = (.ok n, e') := by
  unfold select
  rw [andThen_eq_ok]
  constructor
  · rintro ⟨offered, e₁, ha, h⟩
    obtain ⟨ev, rfl⟩ := available_keeps ha
    obtain ⟨hg, ht⟩ := commit_eq_ok.mp h
    exact ⟨offered, ev, ha, ⟨hg.passes, hg.resembles, hg.leads⟩, ht⟩
  · rintro ⟨offered, ev, ha, hg, ht⟩
    exact ⟨offered, _, ha, commit_eq_ok.mpr ⟨⟨hg.passes, hg.resembles, hg.leads⟩, ht⟩⟩

/-- If the rule that choices exist is in force, a choice that passes looks like one of the node. -/
theorem Passes.exists {node : Node} {seen : List Choice} (h : e.Passes c seen time)
    (hn : e.node = .ok node) (hr : Rule.choiceExists ∈ e.rules.rules) :
    ∃ d ∈ node.choices, d.looksLike c = true := by
  obtain ⟨v, hv, hvalid⟩ := (passes_iff hn).mp h _ hr
  simp only [Rule.choiceExists, Rule.checkExists] at hv
  split at hv
  · rename_i hany
    exact List.any_eq_true.mp hany
  · cases hv
    cases hvalid

/-- Impartial rules let a choice pass whatever else is in sight. -/
theorem Passes.among {node : Node} {seen : List Choice} (h : e.Passes c seen time)
    (hn : e.node = .ok node) (hi : ∀ rule ∈ e.rules.rules, rule.Impartial) (others : List Choice) :
    e.Passes c others time := by
  rw [passes_iff hn] at h ⊢
  intro rule hr
  have hsame := hi rule hr c
    ⟨node, e.state, seen, time.getD (.double e.ambient.milliseconds)⟩ others
  obtain ⟨v, hv, hvalid⟩ := h rule hr
  rw [hv] at hsame
  obtain ⟨w, hw, heq⟩ := map_eq_ok.mp hsame
  exact ⟨w, hw, heq.trans hvalid⟩

/-- A choice is taken exactly if all rules accept it, it looks like a choice on offer should it have
a condition, and it leads somewhere; its own effects hold afterwards. Another choice of its text and
target is enough for that. Where the node has no other, and no rule minds what else is in sight, a
choice that is taken was itself on offer. -/
theorem select_grants (h : e.Reachable) (c : Choice) (time : Option Number) :
    ((∃ n e', e.select c time = (.ok n, e')) ↔
      ∃ offered, (e.available time []).1 = .ok offered ∧ e.Grants c offered time ∧
        Value.allFieldsCopyable c.effects = true ∧
        ¬ e.autosave.Escapes e.ambient c.target Autosave.Trigger.choice.name) ∧
    ∀ n e', e.select c time = (.ok n, e') →
      e'.state = (e.state.withEffects c.effects).moveTo c.target ∧
      ∃ node seen offered, e.node = .ok node ∧ (e.visible []).1 = .ok seen ∧ seen ⊆ node.choices ∧
        (e.available time []).1 = .ok offered ∧
        (c ∈ offered ↔ c ∈ seen ∧ e.Passes c seen time) ∧
        (Rule.choiceExists ∈ e.rules.rules → (∃ d ∈ node.choices, d.looksLike c = true) ∧
          ((∀ rule ∈ e.rules.rules, rule.Impartial) →
            (∀ d ∈ node.choices, d.looksLike c = true → d = c) → c ∈ offered)) := by
  refine ⟨⟨?_, ?_⟩, ?_⟩
  · rintro ⟨n, e', hs⟩
    obtain ⟨offered, ev, ha, hg, target, ht, htake⟩ := select_eq_ok.mp hs
    exact ⟨offered, by rw [ha], hg,
      (take_succeeds (h.sound.withEvaluator ev) ht).mp ⟨n, e', htake⟩⟩
  · rintro ⟨offered, ho, hg, hc, hesc⟩
    obtain ⟨_, ev, _, ha, _⟩ := available_eq_ok ho
    obtain ⟨target, ht⟩ := Option.isSome_iff_exists.mp hg.leads
    obtain ⟨n, e', htake⟩ := (take_succeeds (h.sound.withEvaluator ev) ht).mpr ⟨hc, hesc⟩
    exact ⟨n, e', select_eq_ok.mpr ⟨offered, ev, ha, hg, target, ht, htake⟩⟩
  · intro n e' hs
    obtain ⟨offered, ev, ha, hg, target, ht, htake⟩ := select_eq_ok.mp hs
    obtain ⟨_, hst⟩ := take_eq_ok (h.sound.withEvaluator ev) htake
    have ho : (e.available time []).1 = .ok offered := by rw [ha]
    obtain ⟨seen, _, hseen, _, hmem⟩ := available_eq_ok ho
    obtain ⟨node, _, hn, hshown, _⟩ := visible_eq_ok hseen
    refine ⟨by rw [hst, (Story.has_eq_find? ht).2], node, seen, offered, hn, hseen,
      shown_subset hshown, ho, hmem c, fun hr => ⟨hg.passes.exists hn hr, ?_⟩⟩
    intro hi hsole
    rcases hg.resembles with hblank | ⟨d, hd, hl⟩
    · -- nothing hides a choice without a condition, so it is in sight if it is on the node
      obtain ⟨d, hd, hl⟩ := hg.passes.exists hn hr
      have hc : c ∈ node.choices := hsole d hd hl ▸ hd
      exact (hmem c).mpr
        ⟨mem_shown_of_blank hshown hc (by rw [hblank]; rfl), hg.passes.among hn hi seen⟩
    · have hnode : d ∈ node.choices := shown_subset hshown ((hmem d).mp hd).1
      have hl' : d.looksLike c = true := by
        simp only [Choice.looksLike, Bool.and_eq_true, beq_iff_eq] at hl ⊢
        exact ⟨hl.1.symm, hl.2.symm⟩
      exact hsole d hnode hl' ▸ hd

def hiddenWay : Choice := ⟨"Enter", "hall", [("gold", .int 1)], [], none, [], none, some "false"⟩

def openWay : Choice := ⟨"Enter", "hall", [], [], none, [], none, none⟩

def twinGate : Story :=
  ⟨"gate", [⟨"gate", "A gate.", [hiddenWay, openWay]⟩, ⟨"hall", "A hall.", []⟩]⟩

theorem twinGate_made : twinGate.Made := by
  have hm : Story.make "gate" twinGate.nodes = .ok twinGate := rfl
  refine .built ?_ hm
  intro n hn
  simp only [twinGate, List.mem_cons, List.not_mem_nil, or_false] at hn
  rcases hn with rfl | rfl
  · exact ⟨.text "gate", .text "A gate.", _, by rfl⟩
  · exact ⟨.text "hall", .text "A hall.", _, by rfl⟩

/-- A hidden choice is taken if an available one has its text and target. A choice that no other
looks like is taken only if it is available. -/
theorem select_grants_twin :
    let e := fresh twinGate ⟨0, 0⟩ .off
    (e.available none []).1 = .ok [openWay] ∧ hiddenWay ∉ [openWay] ∧
      (∃ n e', e.select hiddenWay none = (.ok n, e') ∧
        e'.state = ⟨"hall", [("gold", .int 1)], ["gate", "hall"]⟩) ∧
      ∃ offered, (atGate.available none []).1 = .ok offered ∧ openWay ∈ offered := by
  intro e
  have hoffer : (e.available none []).1 = .ok [openWay] := rfl
  refine ⟨hoffer, by simp [hiddenWay, openWay], ?_, ?_⟩
  · obtain ⟨hiff, heffect⟩ :=
      select_grants (fresh_reachable twinGate_made ⟨0, 0⟩ .off) hiddenWay none
    have hgrants : e.Grants hiddenWay [openWay] none :=
      ⟨⟨_, rfl, rfl⟩, .inr ⟨openWay, List.mem_singleton_self _, rfl⟩, rfl⟩
    obtain ⟨n, e', hs⟩ := hiff.mpr ⟨_, hoffer, hgrants, rfl, fun hesc => nomatch hesc.1⟩
    exact ⟨n, e', hs, (heffect n e' hs).1⟩
  · obtain ⟨_, node, _, offered, hn, _, _, ho, _, hin⟩ :=
      (select_grants atGate_reachable openWay none).2 _ _ rfl
    cases hn
    refine ⟨offered, ho, (hin ?_).2 Rule.standard_impartial ?_⟩
    · exact List.mem_cons_self
    · intro d hd _
      exact List.mem_singleton.mp hd

end Engine
end Storyline
