import Storyline.Proofs.Sight
import Storyline.Proofs.Template

namespace Storyline

namespace Entries

/-- After a merge the last of the new entries of a key counts, or else the old one. -/
theorem get?_merge {α : Type} (es added : Entries α) (key : String) :
    (merge es added).get? key = (get? added.reverse key).or (es.get? key) := by
  induction added generalizing es with
  | nil => rfl
  | cons entry rest ih =>
    obtain ⟨k, v⟩ := entry
    have hput : merge es ((k, v) :: rest) = merge (es.put k v) rest := rfl
    have happend : get? (rest.reverse ++ [(k, v)]) key =
        (get? rest.reverse key).or (get? [(k, v)] key) := List.lookup_append
    rw [hput, ih, List.reverse_cons, happend, Option.or_assoc]
    congr 1
    by_cases hkey : key = k
    · subst hkey
      rw [get?_put_self]
      simp [get?]
    · rw [get?_put_of_ne es v hkey]
      simp [get?, List.lookup_cons, beq_eq_false_iff_ne.mpr hkey]

end Entries

namespace Timeline
variable {t t' : Timeline}

def Idle (t : Timeline) : Prop := t.config.enabled = false → t.past = [] ∧ t.future = []

theorem record_off (h : t.config.enabled = false) (a : Ambient) (s : NarrativeState)
    (action : Action) (metadata : Entries Value) :
    t.record a s action metadata = (.ok none, t, a) := by
  simp [record, h]

theorem Idle.record (h : t.Idle) (a : Ambient) (s : NarrativeState) (action : Action)
    (metadata : Entries Value) : (t.record a s action metadata).2.1.Idle := by
  intro hoff
  rw [record_config] at hoff
  rw [record_off hoff]
  exact h hoff

theorem Idle.travel (h : t.Idle) (a : Ambient) (d : Direction)
    (captured : Except StateFault NarrativeState) :
    (t.travel a d captured).timeline.Idle := by
  rcases travel_cases t a d captured with ⟨_, ht, _⟩ | ⟨entry, rest, current, left, ha, _, _, _, _, ht⟩
  · rw [ht]
    exact h
  · -- an idle timeline has nothing ahead
    intro hoff
    rw [travel_config] at hoff
    obtain ⟨hpast, hfuture⟩ := h hoff
    cases d with
    | undo => cases hpast.symm.trans ha
    | redo => cases hfuture.symm.trans ha

theorem configure_idle (t : Timeline) (c : Config) : (t.configure c).Idle := by
  intro hoff
  unfold configure at hoff ⊢
  split
  · rename_i hon
    rw [if_pos hon] at hoff
    exact absurd hon (Bool.eq_false_iff.mp hoff)
  · exact ⟨rfl, rfl⟩

theorem entryFor_action {a : Ambient} {s : NarrativeState} {action : Action}
    {metadata : Entries Value} {entry : TimelineEntry}
    (h : entryFor a s action metadata = .ok entry) : entry.action = action := by
  obtain ⟨_, _, h⟩ := bind_eq_ok.mp h
  split at h
  · cases h
    rfl
  · cases h

/-- What an action leaves on a timeline: the state before, if it is followed, and nothing to
redo. -/
structure Noted (t : Timeline) (action : Action) (s : NarrativeState) (t' : Timeline) : Prop where
  pushed : t.config.enabled = true → action ∈ t.config.actions →
    ∃ entry : TimelineEntry, entry.state = s ∧ entry.action = action ∧
      t'.past = (entry :: t.past).take t.config.maxUndo
  kept : t.config.enabled = false ∨ action ∉ t.config.actions → t'.past = t.past
  future : t'.future = []

theorem record_noted (h : t.Idle) (hr : t.restoring = false) {a a' : Ambient} {s : NarrativeState}
    (hs : s.clone = .ok s) {action : Action} {metadata : Entries Value}
    {x : Option TimelineEntry} (hrec : t.record a s action metadata = (.ok x, t', a')) :
    t.Noted action s t' := by
  cases henabled : t.config.enabled with
  | false =>
    rw [record_off henabled] at hrec
    cases hrec
    exact ⟨fun h => by simp [h] at henabled, fun _ => rfl, (h henabled).2⟩
  | true =>
    simp only [Timeline.record, hr, henabled, Bool.not_true, Bool.or_self, Bool.false_eq_true,
      if_false] at hrec
    by_cases hfollowed : action ∈ t.config.actions
    · rw [List.contains_iff_mem.mpr hfollowed] at hrec
      cases hentry : entryFor a.issue s action (keptMetadata t.config metadata) with
      | error fault =>
        rw [hentry] at hrec
        cases hrec
      | ok entry =>
        rw [hentry] at hrec
        cases hrec
        have hstate : s = entry.state := Except.ok.inj (hs.symm.trans (entryFor_eq_ok hentry))
        refine ⟨fun _ _ => ⟨entry, hstate.symm, entryFor_action hentry, rfl⟩, ?_, rfl⟩
        intro hnot
        simp [hfollowed, henabled] at hnot
    · have hnot : t.config.actions.contains action = false := by simpa using hfollowed
      rw [hnot] at hrec
      cases hrec
      exact ⟨fun _ hin => absurd hin hfollowed, fun _ => rfl, rfl⟩

end Timeline

/-- A verdict of a rule, with the name of the rule and how many were passed before it. -/
def Verdict.marked (v : Verdict) (rule : Rule) (passed : Nat) : Verdict :=
  { v with
    metadata := (v.metadata.put "failedRule" (.text rule.name)).put "rulesPassed" (.int passed) }

namespace Registry
variable {r : Registry} {c : Choice} {x : RuleContext} {cs offered : List Choice}

/-- The first of some rules that a choice fails, behind those that it passes. -/
structure FirstFailed (c : Choice) (x : RuleContext) (rules passed : List Rule) (rule : Rule)
    (v : Verdict) : Prop where
  first : ∃ rest, rules = passed ++ rule :: rest
  passes : ∀ earlier ∈ passed, ∃ w, earlier.check c x = .ok w ∧ w.valid = true
  fails : rule.check c x = .ok v ∧ v.valid = false

theorem firstFailure?_eq_some {n : Nat} {rules : List Rule} {w : Verdict}
    (h : firstFailure? c x n rules = .ok (some w)) : ∃ passed rule v,
      FirstFailed c x rules passed rule v ∧ w = v.marked rule (n + passed.length) := by
  induction rules generalizing n with
  | nil => cases h
  | cons rule rest ih =>
    obtain ⟨v, hv, h⟩ := bind_eq_ok.mp h
    split at h
    · rename_i hvalid
      obtain ⟨passed, failed, u, hfirst, hw⟩ := ih h
      obtain ⟨more, hrest⟩ := hfirst.first
      refine ⟨rule :: passed, failed, u, ⟨⟨more, by rw [hrest]; rfl⟩, ?_, hfirst.fails⟩, ?_⟩
      · exact List.forall_mem_cons.mpr ⟨⟨v, hv, hvalid⟩, hfirst.passes⟩
      · rw [hw, List.length_cons, Nat.add_assoc, Nat.add_comm 1]
    · rename_i hvalid
      cases h
      have hfails : v.valid = false := Bool.eq_false_iff.mpr hvalid
      exact ⟨[], rule, v, ⟨⟨rest, rfl⟩, List.forall_mem_nil _, hv, hfails⟩, rfl⟩

/-- Impartial rules fail a choice whatever else is in sight. -/
theorem firstFailure?_impartial {rules : List Rule} (hi : ∀ rule ∈ rules, rule.Impartial)
    (n : Nat) (others : List Choice) :
    (firstFailure? c { x with offered := others } n rules).map Option.isSome =
      (firstFailure? c x n rules).map Option.isSome := by
  induction rules generalizing n with
  | nil => rfl
  | cons rule rest ih =>
    obtain ⟨hrule, hrest⟩ := List.forall_mem_cons.mp hi
    have hsame := hrule c x others
    cases hv : rule.check c x with
    | error f =>
      rw [hv] at hsame
      cases hw : rule.check c { x with offered := others } with
      | error g =>
        rw [hw] at hsame
        cases hsame
        simp [firstFailure?, hv, hw]
      | ok w =>
        rw [hw] at hsame
        cases hsame
    | ok v =>
      rw [hv] at hsame
      obtain ⟨w, hw, hvalid⟩ := map_eq_ok.mp hsame
      simp only [firstFailure?, hv, hw, ok_bind, hvalid]
      split
      · exact ih hrest (n + 1)
      · rfl

/-- If the available choices are found, there is a verdict on every choice in sight. -/
theorem validate_of_available (h : r.available x cs = .ok offered) (hc : c ∈ cs) :
    ∃ v, r.validate c x = .ok v := by
  induction cs generalizing offered with
  | nil => cases hc
  | cons d rest ih =>
    obtain ⟨v, hv, h⟩ := bind_eq_ok.mp h
    obtain ⟨more, hmore, _⟩ := bind_eq_ok.mp h
    cases hc with
    | head => exact ⟨v, hv⟩
    | tail _ hc => exact ih hmore hc

end Registry

namespace Engine
open Condition
variable {e e' : Engine} {c : Choice} {n target : Node} {time : Option Number}
  {seen offered : List Choice}

theorem idle_step {brought : NarrativeState → Prop} (hs : Step brought e e')
    (h : e.timeline.Idle) : e'.timeline.Idle := by
  cases hs with
  | tracked action metadata => exact h.record _ _ _ _
  | travelled d => exact h.travel _ _ _
  | cleared => exact fun _ => ⟨rfl, rfl⟩
  | rebounded c => exact Timeline.configure_idle _ c
  | _ => exact h

theorem Reachable.idle (h : e.Reachable) : e.timeline.Idle := by
  apply h.keeps
  · intro story ambient setup e _ hm
    obtain ⟨_, _, ⟨c, ht⟩, _⟩ := make_eq_ok hm
    rw [ht]
    exact fun _ => ⟨rfl, rfl⟩
  · exact idle_step

theorem track_noted (h : e.Sound) (hidle : e.timeline.Idle) {action : Action}
    {metadata : Entries Value} (ht : e.track action metadata = (.ok (), e')) :
    e.timeline.Noted action e.state e'.timeline := by
  unfold track at ht
  rcases hr : e.timeline.record e.ambient e.state action metadata with ⟨x, t, a⟩
  rw [hr] at ht
  cases x with
  | error fault => cases ht
  | ok x =>
    cases ht
    exact Timeline.record_noted hidle h.settled.still h.clone hr

/-- What a choice leads to: its target is the current node, its effects hold, and both the trail and
the timeline have an entry for it. -/
structure Taken (e : Engine) (c : Choice) (target : Node) (e' : Engine) : Prop where
  node : e'.state.node = target.id
  history : e'.state.history = e.state.history ++ [target.id]
  flags : ∀ key, e'.state.flags.get? key =
    (Entries.get? c.effects.reverse key).or (e.state.flags.get? key)
  events : e'.events = e.events ++
    [⟨e.state.node, target.id, c.text, .double e.ambient.milliseconds⟩]
  noted : e.timeline.Noted .choice e.state e'.timeline

/-- A choice whose effects can be copied is taken, unless an automatic save cannot be named. -/
theorem take_taken (h : e.Sound) (hidle : e.timeline.Idle)
    (ht : e.story.find? c.target = some target) (hc : Value.allFieldsCopyable c.effects = true)
    (hp : Template.usesOnly Autosave.placeholders e.autosave.config.pattern = true) :
    ∃ e', e.take c target = (.ok target, e') ∧ e.Taken c target e' := by
  have hescapes : ¬ e.autosave.Escapes e.ambient c.target Autosave.Trigger.choice.name := by
    intro hescapes
    obtain ⟨_, _, f, hf, hescape⟩ := hescapes
    rw [Autosave.nameFor_documented hp hf] at hescape
    cases hescape
  obtain ⟨n, e', htake⟩ := (take_succeeds h ht).mpr ⟨hc, hescapes⟩
  obtain ⟨rfl, hstate⟩ := take_eq_ok h htake
  refine ⟨e', htake, ?_⟩
  obtain ⟨e₁, htrack, _, _, hst, hevents, _, _, hclock, heq⟩ := take_tracked h c n
  rw [heq, if_pos hc] at htake
  obtain ⟨_, e₂, hhappened, hend⟩ := andThen_eq_ok.mp htake
  cases hend
  have halike := happened_alike hhappened
  have hms : e₁.ambient.milliseconds = e.ambient.milliseconds := by
    rw [Ambient.milliseconds, Ambient.milliseconds, hclock]
  refine ⟨by rw [hstate]; rfl, by rw [hstate]; rfl, fun key => ?_, ?_, ?_⟩
  · rw [hstate]
    exact Entries.get?_merge _ _ key
  · rw [halike.events, follow, hevents, hst, hms]
  · rw [halike.timeline]
    have hnoted : e.timeline.Noted .choice e.state e₁.timeline := track_noted h hidle htrack
    exact hnoted

/-- A rejection by the first rule that a choice fails, with the choices that are available. -/
def rejection (e : Engine) (c : Choice) (v : Verdict) (rule : Rule) (passed : Nat)
    (offered : List Choice) : Rejection :=
  ⟨c, suggesting (v.marked rule passed) offered, offered, e.ambient.seconds⟩

theorem rejection_failedRule (v : Verdict) (rule : Rule) (passed : Nat) :
    (e.rejection c v rule passed offered).failedRule? = some rule.name := by
  have hmetadata : (e.rejection c v rule passed offered).verdict.metadata =
      (v.marked rule passed).metadata := by
    unfold rejection suggesting
    dsimp only
    split <;> rfl
  unfold Rejection.failedRule?
  rw [hmetadata, Verdict.marked, Entries.get?_put_of_ne _ _ (by decide), Entries.get?_put_self]
  rfl

/-- What comes of choosing by index, while some choices are in sight and others are on offer. -/
inductive Chosen (e : Engine) (index : Value) (time : Option Number)
    (seen offered : List Choice) : Except EngineFault Node → Engine → Prop
  | outOfRange {shown : String} {evaluator : Evaluator} :
    (∀ i < seen.length, index ≠ .int i) → index.plainText = .ok shown →
    Chosen e index time seen offered
      (.error (.navigation (.badIndex index shown seen.length e.state.node))) { e with evaluator }
  | unspeakable {f : NumberFault} {evaluator : Evaluator} :
    (∀ i < seen.length, index ≠ .int i) → index.isShort = false → index.plainText = .error f →
    Chosen e index time seen offered (.error (.number f)) { e with evaluator }
  | refused {i : Nat} {c : Choice} {node : Node} {passed : List Rule} {rule : Rule} {v : Verdict}
      {evaluator : Evaluator} :
    index = .int i → seen[i]? = some c → c ∉ offered → e.node = .ok node →
    Registry.FirstFailed c ⟨node, e.state, offered, time.getD (.double e.ambient.milliseconds)⟩
      e.rules.rules passed rule v →
    (e.rejection c v rule passed.length offered).failedRule? = some rule.name →
    Chosen e index time seen offered
      (.error (.rejected (e.rejection c v rule passed.length offered))) { e with evaluator }
  | leadsNowhere {i : Nat} {c : Choice} {evaluator : Evaluator} :
    index = .int i → seen[i]? = some c → c ∈ offered → e.story.find? c.target = none →
    Chosen e index time seen offered
      (.error (.navigation (.leadsNowhere c.text c.target))) { e with evaluator }
  | taken {i : Nat} {c : Choice} {target : Node} {e' : Engine} :
    index = .int i → seen[i]? = some c → c ∈ offered → e.story.find? c.target = some target →
    e.Taken c target e' → Chosen e index time seen offered (.ok target) e'

theorem visible_relearnt (h : e.Faithful) {evaluator : Evaluator} (hf : evaluator.Faithful)
    (hc : evaluator.custom = e.evaluator.custom) (customData : Entries Value) :
    (({ e with evaluator } : Engine).visible customData).1 = (e.visible customData).1 := by
  have hnode : ({ e with evaluator } : Engine).node = e.node := rfl
  unfold visible
  rw [hnode]
  cases e.node with
  | error f => rfl
  | ok node =>
    have hview := (shown_view hf (e.scope customData) node.choices).1
    rw [hc] at hview
    have hsame := hview.unique (shown_view h (e.scope customData) node.choices).1
    exact congrArg (Except.mapError EngineFault.number) hsame

/-- Availability is decided by what is in sight. -/
theorem available_fst (e : Engine) (time : Option Number) (customData : Entries Value) :
    (e.available time customData).1 = ((e.visible customData).1 >>= fun seen => do
      let x ← e.ruleContext seen time
      (e.rules.available x seen).mapError .rule) := by
  obtain ⟨evaluator, hev⟩ := visible_keeps (e := e) customData
  unfold available
  rcases hv : e.visible customData with ⟨r, e₁⟩
  rw [hv] at hev
  cases hev
  cases r <;> rfl

theorem available_relearnt (h : e.Faithful) {evaluator : Evaluator} (hf : evaluator.Faithful)
    (hc : evaluator.custom = e.evaluator.custom) (time : Option Number)
    (customData : Entries Value) :
    (({ e with evaluator } : Engine).available time customData).1 =
      (e.available time customData).1 := by
  rw [available_fst, available_fst, visible_relearnt h hf hc]
  rfl

/-- A second look finds what the first one found. -/
theorem visible_again {customData : Entries Value} (h : e.Faithful)
    (hv : (e.visible customData).1 = .ok seen) : ∃ evaluator : Evaluator,
      e.visible customData = (.ok seen, { e with evaluator }) ∧ evaluator.Faithful ∧
        evaluator.custom = e.evaluator.custom := by
  obtain ⟨node, _, hn, _, _⟩ := visible_eq_ok hv
  have hkeeps := (shown_view h (e.scope customData) node.choices).2
  refine ⟨_, Prod.ext hv ?_, hkeeps⟩
  rw [visible, hn]

theorem choiceAt?_eq_some {index : Value} (h : choiceAt? seen index = some c) :
    ∃ i : Nat, index = .int i ∧ seen[i]? = some c := by
  unfold choiceAt? at h
  split at h
  · rename_i n
    split at h
    · cases h
    · rename_i hn
      refine ⟨n.toNat, ?_, h⟩
      rw [Int.toNat_of_nonneg (Int.not_lt.mp hn)]
      rfl
  · cases h

theorem choiceAt?_eq_none {index : Value} (h : choiceAt? seen index = none) :
    ∀ i < seen.length, index ≠ .int i := by
  intro i hi heq
  subst heq
  have hlast : choiceAt? seen (.int i) = seen[i]? := by simp [choiceAt?, Value.int]
  rw [hlast, List.getElem?_eq_none_iff] at h
  exact absurd hi (Nat.not_lt.mpr h)

/-- A choice in sight that is not available fails some rule, among those available as well. -/
theorem fails_among {node : Node} (hn : e.node = .ok node)
    (hi : ∀ rule ∈ e.rules.rules, rule.Impartial) {customData : Entries Value}
    (hv : (e.visible customData).1 = .ok seen)
    (ho : (e.available time customData).1 = .ok offered) (hc : c ∈ seen) (hno : c ∉ offered) :
    ∃ v, Registry.firstFailure? c
      ⟨node, e.state, offered, time.getD (.double e.ambient.milliseconds)⟩ 0 e.rules.rules =
        .ok (some v) := by
  rw [available_fst, hv] at ho
  obtain ⟨_, hseen, ho⟩ := bind_eq_ok.mp ho
  cases hseen
  obtain ⟨x, hx, ho⟩ := bind_eq_ok.mp ho
  rw [ruleContext, hn] at hx
  cases hx
  replace ho := mapError_eq_ok.mp ho
  obtain ⟨v, hverdict⟩ := Registry.validate_of_available ho hc
  obtain ⟨failure, hfailure, hrest⟩ := bind_eq_ok.mp hverdict
  have hsome : failure.isSome = true := by
    cases failure with
    | some _ => rfl
    | none =>
      cases hrest
      exact absurd ((Registry.mem_available ho).mpr ⟨hc, _, hverdict, rfl⟩) hno
  have hsame := Registry.firstFailure?_impartial (c := c) (x := ⟨node, e.state, seen,
    time.getD (.double e.ambient.milliseconds)⟩) hi 0 offered
  rw [hfailure] at hsame
  obtain ⟨failure', hfailure', heq⟩ := map_eq_ok.mp hsame
  obtain ⟨v', hv'⟩ := Option.isSome_iff_exists.mp (heq.trans hsome)
  rw [hv'] at hfailure'
  exact ⟨v', hfailure'⟩

theorem commit_refused {node : Node} (hn : e.node = .ok node) {v : Verdict}
    (hf : Registry.firstFailure? c
      ⟨node, e.state, offered, time.getD (.double e.ambient.milliseconds)⟩ 0 e.rules.rules =
        .ok (some v)) :
    e.commit c offered time =
      (.error (.rejected ⟨c, suggesting v offered, offered, e.ambient.seconds⟩), e) := by
  have hinvalid : v.valid = false := Registry.firstFailure?_some hf
  have hamong : e.verdictAmong c offered time = .ok v := by
    simp [verdictAmong, ruleContext, hn, Registry.validate, hf]
  have hfinal : e.finalVerdict c offered time = .ok v := by
    simp [finalVerdict, hamong, hinvalid]
  simp [commit, hfinal, hinvalid]

theorem commit_available (hp : e.Passes c offered time) (hc : c ∈ offered) :
    e.commit c offered time = match e.story.find? c.target with
      | none => (.error (.navigation (.leadsNowhere c.text c.target)), e)
      | some target => e.take c target := by
  have hself : c.looksLike c = true := by simp [Choice.looksLike]
  obtain ⟨v, hv, hvalid⟩ := finalVerdict_valid.mpr ⟨hp, .inr ⟨c, hc, hself⟩⟩
  cases ht : e.story.find? c.target <;> simp [commit, hv, hvalid, ht]

/-- Choosing comes down to committing to a choice in sight, with the same choices on offer. -/
theorem choose_commits (h : e.Faithful) (hv : (e.visible []).1 = .ok seen)
    (ho : (e.available time []).1 = .ok offered) (index : Value) :
    ∃ evaluator : Evaluator, e.choose index time = match choiceAt? seen index with
      | none => (.error (e.badIndex index seen.length), { e with evaluator })
      | some c => ({ e with evaluator } : Engine).commit c offered time := by
  obtain ⟨ev₁, hv₁, hfaithful, hcustom⟩ := visible_again h hv
  cases hat : choiceAt? seen index with
  | none =>
    refine ⟨ev₁, ?_⟩
    simp [choose, hv₁, andThen, hat, badIndex]
  | some c =>
    rcases ha : ({ e with evaluator := ev₁ } : Engine).available time [] with ⟨r, e₂⟩
    obtain ⟨ev₂, rfl⟩ := available_keeps ha
    have hr : r = .ok offered := by
      rw [← ho, ← available_relearnt h hfaithful hcustom, ha]
    refine ⟨ev₂, ?_⟩
    simp [choose, hv₁, andThen, hat, select, ha, hr]

theorem node_mem {node : Node} (h : e.node = .ok node) : node ∈ e.story.nodes := by
  unfold Engine.node at h
  split at h
  · rename_i hfound
    cases h
    exact List.mem_of_find?_eq_some hfound
  · cases h

/-- Choosing by index is exact. A choice in sight is taken if it is available and leads to a node,
refused by the first rule that it fails if it is not available, and leads nowhere otherwise; an
index that is none of theirs is told as such, unless an integer in it is too long to be told. In the
end either the choice was made, or nothing has changed but what is known about conditions. -/
theorem choose_exact (h : e.Reachable)
    (hc : ∀ node ∈ e.story.nodes, ∀ c ∈ node.choices, Value.allFieldsCopyable c.effects = true)
    (hi : ∀ rule ∈ e.rules.rules, rule.Impartial)
    (hp : Template.usesOnly Autosave.placeholders e.autosave.config.pattern = true)
    (ho : (e.available time []).1 = .ok offered) (index : Value) :
    ∃ seen r e', (e.visible []).1 = .ok seen ∧ e.choose index time = (r, e') ∧
      e.Chosen index time seen offered r e' := by
  obtain ⟨seen, _, hv, _, hmem⟩ := available_eq_ok ho
  obtain ⟨node, _, hn, hshown, _⟩ := visible_eq_ok hv
  obtain ⟨evaluator, hchoose⟩ := choose_commits h.faithful hv ho index
  refine ⟨seen, (e.choose index time).1, (e.choose index time).2, hv, rfl, ?_⟩
  rw [hchoose]
  cases hat : choiceAt? seen index with
  | none =>
    have hbad := choiceAt?_eq_none hat
    unfold badIndex
    cases hshow : index.plainText with
    | ok shown => exact .outOfRange hbad hshow
    | error f =>
      have hlong : index.isShort = false := by
        rw [← Value.plainText_isOk, hshow]
        rfl
      exact .unspeakable hbad hlong hshow
  | some c =>
    obtain ⟨i, hindex, hget⟩ := choiceAt?_eq_some hat
    have hin : c ∈ seen := List.mem_of_getElem? hget
    by_cases hoffered : c ∈ offered
    · have hpasses : ({ e with evaluator } : Engine).Passes c offered time :=
        ((hmem c).mp hoffered).2.among hn hi offered
      dsimp only
      rw [commit_available hpasses hoffered]
      cases ht : e.story.find? c.target with
      | none => exact .leadsNowhere hindex hget hoffered ht
      | some target =>
        have hcopy := hc node (node_mem hn) c (shown_subset hshown hin)
        obtain ⟨e', htake, htaken⟩ :=
          take_taken (h.sound.withEvaluator evaluator) h.idle ht hcopy hp
        dsimp only
        rw [htake]
        exact .taken hindex hget hoffered ht
          ⟨htaken.node, htaken.history, htaken.flags, htaken.events, htaken.noted⟩
    · obtain ⟨w, hw⟩ := fails_among hn hi hv ho hin hoffered
      obtain ⟨passed, rule, v, hfirst, rfl⟩ := Registry.firstFailure?_eq_some hw
      dsimp only
      rw [commit_refused (e := { e with evaluator }) hn hw, Nat.zero_add]
      exact .refused hindex hget hoffered hn hfirst (rejection_failedRule v rule passed.length)

def lockedWay : Choice := { openWay with enabled := some false }

/-- The index of a choice counts those in sight that the rules refuse. -/
theorem choose_exact_locked :
    ∃ e', (atGateWith [lockedWay, openWay]).choose (.int 1) none =
        (.ok ⟨"hall", "A hall.", []⟩, e') ∧
      e'.state.history = ["gate", "hall"] ∧ e'.timeline.future = [] := by
  have hcopy : ∀ node ∈ (gateWith [lockedWay, openWay]).nodes, ∀ c ∈ node.choices,
      Value.allFieldsCopyable c.effects = true := by
    simp [gateWith, lockedWay, openWay, Value.allFieldsCopyable]
  have hoffered : ((atGateWith [lockedWay, openWay]).available none []).1 = .ok [openWay] := rfl
  obtain ⟨seen, r, e', hv, hchoose, hchosen⟩ := choose_exact
    (atGateWith_reachable [lockedWay, openWay]) hcopy Rule.standard_impartial rfl hoffered (.int 1)
  cases hv
  have hsecond : ∀ {i : Nat} {c : Choice}, Value.int 1 = .int i →
      [lockedWay, openWay][i]? = some c → c = openWay := by
    intro i c hindex hget
    have hi : i = 1 := by
      simp only [Value.int, Value.number.injEq, Number.int.injEq] at hindex
      omega
    subst hi
    exact (Option.some.inj hget).symm
  cases hchosen with
  | outOfRange hbad => exact absurd rfl (hbad 1 (by decide))
  | unspeakable hbad => exact absurd rfl (hbad 1 (by decide))
  | refused hindex hget hno =>
    obtain rfl := hsecond hindex hget
    exact absurd List.mem_cons_self hno
  | leadsNowhere hindex hget _ hno =>
    obtain rfl := hsecond hindex hget
    cases hno
  | taken hindex hget _ ht htaken =>
    obtain rfl := hsecond hindex hget
    cases ht
    exact ⟨e', hchoose, htaken.history, htaken.noted.future⟩

end Engine
end Storyline
