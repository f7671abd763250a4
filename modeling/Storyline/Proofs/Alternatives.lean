import Storyline.Proofs.Choosing
import Storyline.Proofs.Failure
import Storyline.Proofs.Range

namespace Storyline

namespace Registry
variable {c : Choice} {x : RuleContext} {v : Verdict}

/-- The first standard rule passes if the node has the choice, and otherwise suggests all that it
has. -/
theorem choiceExists_verdict (h : Rule.choiceExists.check c x = .ok v) :
    v.valid = x.node.choices.any (·.looksLike c) ∧
      v.suggested = if x.node.choices.any (·.looksLike c) then [] else x.node.choices := by
  simp only [Rule.choiceExists, Rule.checkExists] at h
  split at h
  · rename_i hknown
    cases h
    exact ⟨hknown.symm, (if_pos hknown).symm⟩
  · rename_i hunknown
    cases h
    exact ⟨(Bool.eq_false_iff.mpr hunknown).symm, (if_neg hunknown).symm⟩

/-- Behind the first one, no standard rule has suggestions. -/
theorem standard_silent {rule : Rule} (hr : rule ∈ Rule.standard.tail)
    (h : rule.check c x = .ok v) : v.suggested = [] := by
  simp only [Rule.standard, List.tail_cons, List.mem_cons, List.not_mem_nil, or_false] at hr
  rcases hr with rfl | rfl | rfl | rfl
  · obtain ⟨found, _, h⟩ := bind_eq_ok.mp h
    dsimp only at h
    split at h <;> cases h <;> rfl
  · simp only [Rule.choiceEnabled, Rule.checkEnabled] at h
    split at h <;> cases h <;> rfl
  · simp only [Rule.timeConditions, Rule.checkTime] at h
    split at h
    · cases h
      rfl
    · split at h <;> cases h <;> rfl
  · obtain ⟨missing, _, h⟩ := bind_eq_ok.mp h
    split at h <;> cases h <;> rfl

/-- Of the standard rules only the first suggests anything, for a choice that the node does not
have. -/
theorem standard_suggested (h : firstFailure? c x 0 Rule.standard = .ok (some v)) :
    v.suggested = if x.node.choices.any (·.looksLike c) then [] else x.node.choices := by
  obtain ⟨passed, rule, w, hfirst, rfl⟩ := firstFailure?_eq_some h
  obtain ⟨⟨rest, hrules⟩, hpasses, hw, hinvalid⟩ := hfirst
  cases passed with
  | nil =>
    cases hrules
    exact (choiceExists_verdict hw).2
  | cons first passed =>
    -- the first rule was passed, so the node knows the choice
    injection hrules with hfirst hrest
    obtain ⟨u, hu, hvalid⟩ := hpasses first List.mem_cons_self
    have hknown : x.node.choices.any (·.looksLike c) = true := by
      rw [← (choiceExists_verdict (hfirst ▸ hu)).1, hvalid]
    have hlater : rule ∈ Rule.standard.tail := by
      rw [Rule.standard, List.tail_cons, hrest]
      exact List.mem_append_right _ List.mem_cons_self
    have hsilent := standard_silent hlater hw
    rw [if_pos hknown]
    exact hsilent

end Registry

namespace Engine
variable {e e' : Engine} {c : Choice} {time : Option Number} {offered : List Choice}
  {r : Rejection}

/-- A choice that could be taken instead: it is in sight, and all rules accept it. -/
def Alternative (e : Engine) (time : Option Number) (d : Choice) : Prop :=
  ∃ seen, (e.visible []).1 = .ok seen ∧ d ∈ seen ∧ e.Passes d seen time

/-- Where a rejection points. -/
structure Points (e : Engine) (time : Option Number) (r : Rejection) : Prop where
  available : (e.available time []).1 = .ok r.available
  alternatives : ∀ d ∈ r.available, e.Alternative time d
  suggested : ∃ node, e.node = .ok node ∧ r.verdict.suggested =
    if node.choices.any (·.looksLike r.choice) then r.available else node.choices
  nonempty : r.available ≠ [] → r.verdict.suggested ≠ []

theorem not_looking (r : Rejection) : ¬ (EngineFault.rejected r).OfLooking := nofun

/-- A choice is rejected where it gets no good verdict, with the choices that were available. -/
theorem commit_rejected (h : e.Sound)
    (hr : e.commit c offered time = (.error (.rejected r), e')) :
    ∃ v, e.finalVerdict c offered time = .ok v ∧ v.valid = false ∧
      r = ⟨c, suggesting v offered, offered, e.ambient.seconds⟩ := by
  unfold commit at hr
  split at hr
  · rename_i f hf
    cases hr
    exact absurd (finalVerdict_looking hf) (not_looking r)
  · rename_i v hv
    split at hr
    · rename_i hinvalid
      cases hr
      exact ⟨v, hv, by simpa using hinvalid, rfl⟩
    · split at hr
      · cases hr
      · -- a choice that is being taken fails too late to be rejected
        exact absurd ⟨nofun, nofun⟩ (take_late h hr)

theorem select_rejected (h : e.Sound)
    (hr : e.select c time = (.error (.rejected r), e')) :
    ∃ v, (e.available time []).1 = .ok r.available ∧
      e.finalVerdict c r.available time = .ok v ∧ v.valid = false ∧
      r.choice = c ∧ r.verdict = suggesting v r.available := by
  rcases andThen_eq_error.mp hr with ha | ⟨offered, e₁, ha, hr⟩
  · exact absurd (available_looking ha) (not_looking r)
  · obtain ⟨evaluator, rfl⟩ := available_keeps ha
    obtain ⟨v, hv, hinvalid, rfl⟩ := commit_rejected (h.withEvaluator evaluator) hr
    exact ⟨v, by rw [ha], hv, hinvalid, rfl, rfl⟩

/-- Choosing rejects what selecting rejects, and only choices in sight. -/
theorem choose_rejected (h : e.Reachable) {index : Value}
    (hr : e.choose index time = (.error (.rejected r), e')) :
    ∃ seen c v, (e.visible []).1 = .ok seen ∧ c ∈ seen ∧
      (e.available time []).1 = .ok r.available ∧
      e.finalVerdict c r.available time = .ok v ∧ v.valid = false ∧
      r.choice = c ∧ r.verdict = suggesting v r.available := by
  rcases andThen_eq_error.mp hr with hv | ⟨seen, e₁, hv, hr⟩
  · exact absurd (visible_looking hv) (not_looking r)
  · have hseen : (e.visible []).1 = .ok seen := by rw [hv]
    obtain ⟨evaluator, hagain, hfaithful, hcustom⟩ := visible_again h.faithful hseen
    cases hv.symm.trans hagain
    split at hr
    · obtain ⟨hfault, _⟩ := Prod.mk.inj hr
      have hlooking := badIndex_looking (e := { e with evaluator }) index seen.length
      rw [Except.error.inj hfault] at hlooking
      exact absurd hlooking (not_looking r)
    · rename_i c hat
      obtain ⟨i, _, hget⟩ := choiceAt?_eq_some hat
      obtain ⟨v, hoffered, hverdict⟩ := select_rejected (h.sound.withEvaluator evaluator) hr
      rw [available_relearnt h.faithful hfaithful hcustom] at hoffered
      exact ⟨seen, c, v, hseen, List.mem_of_getElem? hget, hoffered, hverdict⟩

theorem verdictAmong_eq_ok {node : Node} {v : Verdict} (hn : e.node = .ok node) :
    e.verdictAmong c offered time = .ok v ↔ e.rules.validate c
      ⟨node, e.state, offered, time.getD (.double e.ambient.milliseconds)⟩ = .ok v := by
  simp [verdictAmong, ruleContext, hn]

/-- The final verdict of the standard rules suggests all choices of a node that does not have the
choice, and nothing otherwise. -/
theorem finalVerdict_suggested {node : Node} {v : Verdict} (hs : e.rules = .standard)
    (hn : e.node = .ok node) (h : e.finalVerdict c offered time = .ok v) (hv : v.valid = false) :
    v.suggested = if node.choices.any (·.looksLike c) then [] else node.choices := by
  obtain ⟨w, hw, h⟩ := bind_eq_ok.mp h
  dsimp only at h
  split at h
  · -- only the condition is not met, so the choice passes the rule that it exists
    rename_i hunmet
    cases h
    have hpasses : e.Passes c offered time := ⟨w, hw, by simp_all⟩
    have hexists : Rule.choiceExists ∈ e.rules.rules := by
      rw [hs, Registry.standard_rules]
      exact List.mem_cons_self
    rw [if_pos (List.any_eq_true.mpr (hpasses.exists hn hexists))]
    rfl
  · cases h
    obtain ⟨failure, hf, h⟩ := bind_eq_ok.mp ((verdictAmong_eq_ok hn).mp hw)
    rw [hs, Registry.standard_rules] at hf
    cases failure with
    | some u =>
      cases h
      exact Registry.standard_suggested hf
    | none =>
      cases h
      cases hv

/-- What a rejection under the standard rules points to. -/
theorem points_of_verdict {node : Node} {v : Verdict} (hs : e.rules = .standard)
    (hn : e.node = .ok node) (ho : (e.available time []).1 = .ok r.available)
    (hv : e.finalVerdict r.choice r.available time = .ok v) (hinvalid : v.valid = false)
    (hr : r.verdict = suggesting v r.available) : e.Points time r := by
  obtain ⟨seen, _, hseen, _, hmem⟩ := available_eq_ok ho
  obtain ⟨node', _, hn', hshown, _⟩ := visible_eq_ok hseen
  cases hn.symm.trans hn'
  have hwithin : r.available ⊆ node.choices := fun d hd =>
    shown_subset hshown ((hmem d).mp hd).1
  have hnone : node.choices = [] → r.available = [] := fun hnone =>
    List.subset_nil.mp (hnone ▸ hwithin)
  have hsuggested : r.verdict.suggested =
      if node.choices.any (·.looksLike r.choice) then r.available else node.choices := by
    rw [hr, suggesting, finalVerdict_suggested hs hn hv hinvalid]
    by_cases hknown : node.choices.any (·.looksLike r.choice) = true
    · simp [hknown]
    · cases hchoices : node.choices with
      | nil => simp [hnone hchoices]
      | cons d rest =>
        rw [hchoices] at hknown
        simp only [if_neg hknown, List.isEmpty_cons, Bool.false_eq_true, if_false]
        rw [finalVerdict_suggested hs hn hv hinvalid, hchoices, if_neg hknown]
  refine ⟨ho, fun d hd => ⟨seen, hseen, (hmem d).mp hd⟩, ⟨node, hn, hsuggested⟩, fun hne => ?_⟩
  rw [hsuggested]
  split
  · exact hne
  · exact fun h => hne (hnone h)

/-- A rejection under the standard rules lists the choices that are available, and suggests them if
the node has the choice. For a choice that it does not have, all choices of the node are suggested.
Choosing by index is never rejected in that way. -/
theorem rejected_points (h : e.Reachable) (hs : e.rules = .standard) (time : Option Number)
    (r : Rejection) :
    (∀ c e', e.select c time = (.error (.rejected r), e') → r.choice = c ∧ e.Points time r) ∧
      ∀ index e', e.choose index time = (.error (.rejected r), e') →
        e.Points time r ∧ r.verdict.suggested = r.available := by
  constructor
  · intro c e' hr
    obtain ⟨v, ho, hv, hinvalid, rfl, hverdict⟩ := select_rejected h.sound hr
    obtain ⟨seen, _, hseen, _⟩ := available_eq_ok ho
    obtain ⟨node, _, hn, _⟩ := visible_eq_ok hseen
    exact ⟨rfl, points_of_verdict hs hn ho hv hinvalid hverdict⟩
  · intro index e' hr
    obtain ⟨seen, c, v, hseen, hin, ho, hv, hinvalid, rfl, hverdict⟩ :=
      choose_rejected h hr
    obtain ⟨node, _, hn, hshown, _⟩ := visible_eq_ok hseen
    have hpoints := points_of_verdict hs hn ho hv hinvalid hverdict
    obtain ⟨node', hn', hsuggested⟩ := hpoints.suggested
    cases hn.symm.trans hn'
    have hknown : node.choices.any (·.looksLike r.choice) = true := by
      apply List.any_eq_true.mpr
      exact ⟨r.choice, shown_subset hshown hin, by simp [Choice.looksLike]⟩
    exact ⟨hpoints, by rw [hsuggested, if_pos hknown]⟩

/-- For a choice that the node does not have, a rejection suggests every choice of the node, in
sight or not. For one that it has, only what is available. -/
theorem rejected_points_tunnel :
    let tunnel : Choice := { openWay with text := "Dig" }
    let ladder : Choice := { openWay with text := "Climb" }
    let e := atGateWith [hiddenWay, lockedWay, ladder]
    (∃ r e', e.select tunnel none = (.error (.rejected r), e') ∧ e.Points none r ∧
        r.available = [ladder] ∧ r.verdict.suggested = [hiddenWay, lockedWay, ladder]) ∧
      ∃ r e', e.choose (.int 0) none = (.error (.rejected r), e') ∧ r.choice = lockedWay ∧
        r.verdict.suggested = [ladder] := by
  intro tunnel ladder e
  have hreachable := atGateWith_reachable [hiddenWay, lockedWay, ladder]
  constructor
  · refine ⟨_, _, rfl, ?_⟩
    have hpoints := (rejected_points hreachable rfl none _).1 tunnel _ rfl
    exact ⟨hpoints.2, rfl, rfl⟩
  · refine ⟨_, _, rfl, rfl, ?_⟩
    have hpoints := (rejected_points hreachable rfl none _).2 (.int 0) _ rfl
    exact hpoints.2.trans rfl

end Engine
end Storyline
