import Storyline.Proofs.Choosing
import Storyline.Proofs.Json.Value
import Storyline.Proofs.Service.Reachable
import Storyline.Proofs.Undecided

namespace Storyline

def Service.chosen (os : List Service.Offer) : List Choice :=
  (os.filter (·.verdict.valid)).map Service.Offer.choice

namespace Registry
open Service

def Judged (x : RuleContext) (os : List Offer) : Prop :=
  ∀ o ∈ os, standard.validate o.choice x = .ok o.verdict

theorem standard_judges {x : RuleContext} {cs : List Choice} (hc : ∀ c ∈ cs, c.InRange)
    (hx : Value.allFieldsInRange x.state.flags = true) :
    ∃ os : List Offer, os.map Offer.choice = cs ∧ Judged x os := by
  induction cs with
  | nil => exact ⟨[], rfl, List.forall_mem_nil _⟩
  | cons c rest ih =>
    obtain ⟨hfirst, hrest⟩ := List.forall_mem_cons.mp hc
    obtain ⟨v, hv⟩ := isOk_eq_true.mp (standard_validate_isOk hfirst hx)
    obtain ⟨os, hos, hjudged⟩ := ih hrest
    exact ⟨⟨c, v⟩ :: os, by rw [List.map_cons, hos], List.forall_mem_cons.mpr ⟨hv, hjudged⟩⟩

theorem Judged.available {x : RuleContext} {os : List Offer} (h : Judged x os)
    (offered : List Choice) :
    standard.available { x with offered } (os.map Offer.choice) = .ok (chosen os) := by
  induction os with
  | nil => rfl
  | cons o rest ih =>
    obtain ⟨hfirst, hrest⟩ := List.forall_mem_cons.mp h
    rw [← standard_validate_blind _ _ offered] at hfirst
    simp only [List.map_cons, Registry.available, hfirst, ih hrest, ok_bind, pure_ok, chosen,
      List.filter_cons]
    split <;> rfl

end Registry

namespace Engine
open Condition Service
variable {e e' : Engine} {evaluator : Evaluator} {n : Node} {os : List Offer}

/-- An engine that follows the standard rules and leaves conditions to the language, on a story and
flags with numbers in range. -/
structure Ordinary (e : Engine) : Prop where
  reachable : e.Reachable
  rules : e.rules = .standard
  custom : e.evaluator.custom = none
  story : e.story.InRange
  flags : Value.allFieldsInRange e.state.flags = true

/-- What the rules look at, with nothing else in sight. -/
def plainContext (e : Engine) (n : Node) : RuleContext :=
  ⟨n, e.state, [], .double e.ambient.milliseconds⟩

theorem Sound.node (h : e.Sound) : ∃ n, e.node = .ok n := by
  obtain ⟨n, hfound⟩ := Option.isSome_iff_exists.mp h.live.known
  exact ⟨n, by rw [Engine.node, hfound]⟩

/-- No condition of an ordinary engine blocks the view. -/
theorem Ordinary.visible (h : e.Ordinary) (hn : e.node = .ok n) :
    (e.visible []).1 = .ok (n.choices.filter (inSight none (e.scope []))) := by
  have hview := (shown_view h.reachable.faithful (e.scope []) n.choices).1
  have hclear : ∀ c ∈ n.choices, ∀ f, ¬ Blocks e.evaluator.custom c f := by
    intro c hc f hblocks
    exact ((h.story n (node_mem hn)).choices c hc).condition f hblocks.2
  have hshown := hview.unique (.clear hclear)
  rw [Engine.visible, hn]
  dsimp only
  rw [hshown, h.custom]
  rfl

theorem verdictAmong_standard {c : Choice} {v : Verdict} (hrules : e.rules = .standard)
    (hn : e.node = .ok n) (hv : Registry.standard.validate c (e.plainContext n) = .ok v)
    (offered : List Choice) (evaluator : Evaluator) :
    ({ e with evaluator } : Engine).verdictAmong c offered none = .ok v := by
  have hnode : ({ e with evaluator } : Engine).node = .ok n := hn
  have hkept : ({ e with evaluator } : Engine).rules = .standard := hrules
  rw [← Registry.standard_validate_blind _ _ offered] at hv
  rw [verdictAmong, ruleContext, hnode, hkept]
  exact mapError_eq_ok.mpr hv

/-- The verdicts are those of the standard rules, whatever was learnt about conditions meanwhile. -/
theorem judge_judged {seen : List Choice} (h : e.Faithful) (hrules : e.rules = .standard)
    (hn : e.node = .ok n) (hv : (e.visible []).1 = .ok seen)
    (hj : Registry.Judged (e.plainContext n) os) {learnt : Evaluator} (hf : learnt.Faithful)
    (hc : learnt.custom = e.evaluator.custom) :
    ∃ evaluator : Evaluator, judge { e with evaluator := learnt } (os.map Offer.choice) =
      (.ok os, { e with evaluator }) ∧ evaluator.Faithful ∧
        evaluator.custom = e.evaluator.custom := by
  induction os generalizing learnt with
  | nil => exact ⟨learnt, rfl, hf, hc⟩
  | cons o rest ih =>
    obtain ⟨hfirst, hrest⟩ := List.forall_mem_cons.mp hj
    have hagain : (({ e with evaluator := learnt } : Engine).visible []).1 = .ok seen := by
      rw [visible_relearnt h hf hc, hv]
    obtain ⟨ev, hvisible, hfaithful, hcustom⟩ :=
      visible_again (e := { e with evaluator := learnt }) hf hagain
    obtain ⟨evaluator, hjudge, hkept⟩ := ih hrest hfaithful (hcustom.trans hc)
    have hverdict := verdictAmong_standard hrules hn hfirst seen ev
    refine ⟨evaluator, ?_, hkept⟩
    simp only [List.map_cons, judge, verdict, hvisible, andThen, hverdict, hjudge]

/-- What an ordinary engine lists: the choices in sight, each with the verdict of the standard
rules. -/
structure Lists (e : Engine) (n : Node) (os : List Offer) : Prop where
  here : e.node = .ok n
  seen : (e.visible []).1 = .ok (os.map Offer.choice)
  judged : Registry.Judged (e.plainContext n) os

theorem Ordinary.lists (h : e.Ordinary) : ∃ n os, e.Lists n os := by
  obtain ⟨n, hn⟩ := h.reachable.sound.node
  have hvisible := h.visible hn
  have hchoices : ∀ c ∈ n.choices.filter (inSight none (e.scope [])), c.InRange :=
    fun c hc => (h.story n (node_mem hn)).choices c (List.mem_of_mem_filter hc)
  obtain ⟨os, hos, hjudged⟩ := Registry.standard_judges (x := e.plainContext n) hchoices h.flags
  exact ⟨n, os, hn, by rw [hvisible, hos], hjudged⟩

theorem Lists.length_le (h : e.Lists n os) (ho : e.Ordinary) : os.length ≤ n.choices.length := by
  have hseen := Except.ok.inj (h.seen.symm.trans (ho.visible h.here))
  have hlength := congrArg List.length hseen
  rw [List.length_map] at hlength
  exact hlength ▸ List.length_filter_le _ _

theorem Lists.inRange (h : e.Lists n os) (ho : e.Ordinary) {o : Offer} (hin : o ∈ os) :
    o.choice.InRange := by
  have hseen := Except.ok.inj (h.seen.symm.trans (ho.visible h.here))
  have hmem : o.choice ∈ os.map Offer.choice := List.mem_map_of_mem hin
  rw [hseen] at hmem
  exact (ho.story n (node_mem h.here)).choices o.choice (List.mem_of_mem_filter hmem)

theorem Lists.offers (h : e.Lists n os) (ho : e.Ordinary) :
    ∃ evaluator : Evaluator, offersOf e = (.ok os, { e with evaluator }) ∧ evaluator.Faithful ∧
      evaluator.custom = e.evaluator.custom := by
  obtain ⟨ev, hvisible, hfaithful, hcustom⟩ := visible_again ho.reachable.faithful h.seen
  obtain ⟨evaluator, hjudge, hkept⟩ :=
    judge_judged ho.reachable.faithful ho.rules h.here h.seen h.judged hfaithful hcustom
  exact ⟨evaluator, by simp only [offersOf, hvisible, andThen, hjudge], hkept⟩

/-- What is learnt about conditions does not change the list. -/
theorem Lists.relearnt (h : e.Lists n os) (ho : e.Ordinary) {evaluator : Evaluator}
    (hf : evaluator.Faithful) (hc : evaluator.custom = e.evaluator.custom) :
    ({ e with evaluator } : Engine).Lists n os where
  here := h.here
  seen := by rw [visible_relearnt ho.reachable.faithful hf hc, h.seen]
  judged := h.judged

/-- What is available is what the list says. -/
theorem Lists.available (h : e.Lists n os) (ho : e.Ordinary) :
    (e.available none []).1 = .ok (chosen os) := by
  have havailable : Registry.standard.available
      ⟨n, e.state, os.map Offer.choice, .double e.ambient.milliseconds⟩ (os.map Offer.choice) =
        .ok (chosen os) := h.judged.available _
  rw [available_fst, h.seen]
  simp only [ok_bind, ruleContext, h.here, map_ok, ho.rules, Option.getD_none, havailable,
    mapError_ok]

theorem chosen_eq_nil : chosen os = [] ↔ ∀ o ∈ os, o.verdict.valid = false := by
  simp [chosen, List.filter_eq_nil_iff]

theorem Lists.isComplete (h : e.Lists n os) (ho : e.Ordinary) :
    e.isComplete.1 = .ok (!os.any (·.verdict.valid)) := by
  have havailable := h.available ho
  rcases ha : e.available none [] with ⟨r, e₁⟩
  rw [ha] at havailable
  cases havailable
  have hempty : (chosen os).isEmpty = !os.any (·.verdict.valid) := by
    rw [Bool.eq_iff_iff, List.isEmpty_iff, chosen_eq_nil]
    simp
  simp only [Engine.isComplete, ha, andThen, hempty]

/-- The session of an ordinary engine can be shown, with its list. -/
theorem Lists.view (h : e.Lists n os) (ho : e.Ordinary) (id : String) :
    ∃ evaluator : Evaluator, Service.view id e =
      (.ok ⟨id, n, os, e.state, e.timeline.canUndo, e.timeline.canRedo⟩, { e with evaluator }) := by
  obtain ⟨evaluator, hoffers, _⟩ := h.offers ho
  exact ⟨evaluator, by simp only [Service.view, h.here, hoffers, andThen]⟩

/-- A choice whose verdict is bad is refused by the rule that gave the verdict. -/
theorem Lists.refused (h : e.Lists n os) (ho : e.Ordinary) {o : Offer} (hin : o ∈ os)
    (hbad : o.verdict.valid = false) (evaluator : Evaluator) : ∃ passed rule v r,
      Registry.FirstFailed o.choice (e.plainContext n) Rule.standard passed rule v ∧
      v.reason = o.verdict.reason ∧ r.failedRule? = some rule.name ∧
      ({ e with evaluator } : Engine).commit o.choice (chosen os) none =
        (.error (.rejected r), { e with evaluator }) := by
  obtain ⟨c, verdict⟩ := o
  obtain ⟨failure, hfailure, hrest⟩ := bind_eq_ok.mp (h.judged _ hin)
  cases failure with
  | none =>
    cases hrest
    cases hbad
  | some w =>
    cases hrest
    obtain ⟨passed, rule, v, hfirst, hw⟩ := Registry.firstFailure?_eq_some hfailure
    rw [hw, Nat.zero_add] at hfailure
    have hblind := Registry.firstFailure?_blind (x := e.plainContext n) (chosen os)
      (Rule.standard_blind c _ _) 0
    have hamong : Registry.firstFailure? c
        ⟨n, e.state, chosen os, Option.getD none (.double e.ambient.milliseconds)⟩ 0
          ({ e with evaluator } : Engine).rules.rules = .ok (some (v.marked rule passed.length)) := by
      show Registry.firstFailure? c _ 0 e.rules.rules = _
      rw [ho.rules]
      exact hblind.trans hfailure
    have hnode : ({ e with evaluator } : Engine).node = .ok n := h.here
    exact ⟨passed, rule, v, _, hfirst, by rw [hw]; rfl, rejection_failedRule v rule passed.length,
      commit_refused hnode hamong⟩

theorem mem_chosen {o : Offer} (hin : o ∈ os) (hgood : o.verdict.valid = true) :
    o.choice ∈ chosen os :=
  List.mem_map_of_mem (List.mem_filter.mpr ⟨hin, hgood⟩)

/-- A choice whose verdict is good is taken to its target, if there is one. -/
theorem Lists.granted (h : e.Lists n os) (ho : e.Ordinary) {o : Offer} (hin : o ∈ os)
    (hgood : o.verdict.valid = true) (evaluator : Evaluator) :
    ({ e with evaluator } : Engine).commit o.choice (chosen os) none =
      match e.story.find? o.choice.target with
      | none => (.error (.navigation (.leadsNowhere o.choice.text o.choice.target)),
        { e with evaluator })
      | some target => ({ e with evaluator } : Engine).take o.choice target := by
  have hpasses : ({ e with evaluator } : Engine).Passes o.choice (chosen os) none :=
    ⟨o.verdict, verdictAmong_standard ho.rules h.here (h.judged o hin) _ _, hgood⟩
  exact commit_available hpasses (mem_chosen hin hgood)

/-- An ordinary engine stays so when it takes a choice. -/
theorem Ordinary.taken (h : e.Ordinary) {c : Choice} {target : Node} (hc : c.InRange)
    (hs : Serves e e') {evaluator : Evaluator}
    (ht : ({ e with evaluator } : Engine).take c target = (.ok target, e')) : e'.Ordinary := by
  obtain ⟨_, hstate⟩ := take_eq_ok (h.reachable.sound.withEvaluator evaluator) ht
  have hflags : Value.allFieldsInRange (e.state.flags.merge c.effects) = true := by
    rw [Value.allFieldsInRange_iff]
    intro entry hentry
    rcases Entries.mem_merge hentry with hold | hnew
    · exact Value.allFieldsInRange_iff.mp h.flags entry hold
    · exact Value.allFieldsInRange_iff.mp hc.effects entry hnew
  exact {
    reachable := hs.reachable h.reachable
    rules := hs.steady.rules.trans h.rules
    custom := hs.steady.custom.trans h.custom
    story := hs.steady.story ▸ h.story
    flags := by
      rw [hstate]
      exact hflags }

end Engine

namespace Service
open Engine
variable {e : Engine} {n : Node} {os : List Offer} {id : String}

def offerAt? (os : List Offer) (i : Int) : Option Offer := if i < 0 then none else os[i.toNat]?

theorem choiceAt?_offerAt (os : List Offer) (i : Int) :
    choiceAt? (os.map Offer.choice) (.int i) = (offerAt? os i).map Offer.choice := by
  simp only [choiceAt?, Value.int, offerAt?]
  split
  · rfl
  · exact List.getElem?_map

theorem mem_of_offerAt? {i : Int} {o : Offer} (h : offerAt? os i = some o) : o ∈ os := by
  unfold offerAt? at h
  split at h
  · cases h
  · exact List.mem_of_getElem? h

/-- The list has a choice at the index that is available and leads to a node, and the flags that it
leaves can be written in a reply or not. -/
def Grants (story : Story) (x : RuleContext) (os : List Offer) (i : Int) (writable : Bool) : Prop :=
  ∃ o, offerAt? os i = some o ∧ o.verdict.valid = true ∧ story.has o.choice.target = true ∧
    Reply.writable (x.state.flags.merge o.choice.effects) = writable

/-- The reply to a request for the choice at an index agrees with the list, but for flags that
cannot be written. -/
structure Keeps (story : Story) (x : RuleContext) (os : List Offer) (i : Int) (r : Reply) :
    Prop where
  taken : r.status = 200 ↔ Grants story x os i true
  broken : r.status = 500 ↔ Grants story x os i false
  refused : r.status = 409 ↔ ∃ o, offerAt? os i = some o ∧ o.verdict.valid = false
  otherwise : r.status ≠ 200 → r.status ≠ 409 → r.status ≠ 500 → r.status = 400
  /-- The rule that gave the reason in the list is the one that the refusal names. -/
  rule : ∀ o, offerAt? os i = some o → o.verdict.valid = false → ∃ passed rule v rejection,
    Registry.FirstFailed o.choice x Rule.standard passed rule v ∧ v.reason = o.verdict.reason ∧
    rejection.failedRule? = some rule.name ∧ r = ⟨409, .json (rejectionResource rejection)⟩

theorem respond_error {α : Type} {f : EngineFault} {refuse : EngineFault → Option Reply}
    {go : α → Engine → Reply × Engine} {r : Reply} (h : refuse f = some r) :
    respond ((.error f, e) : Outcome α) refuse go = (r, e) := by
  rw [respond, h, Option.getD_some]

theorem grants_iff {story : Story} {x : RuleContext} {i : Int} {o : Offer} {writable : Bool}
    (hentry : offerAt? os i = some o) : Grants story x os i writable ↔
      o.verdict.valid = true ∧ story.has o.choice.target = true ∧
        Reply.writable (x.state.flags.merge o.choice.effects) = writable := by
  simp [Grants, hentry]

theorem not_grants {story : Story} {x : RuleContext} {i : Int} (writable : Bool)
    (hentry : offerAt? os i = none) : ¬ Grants story x os i writable := by
  simp [Grants, hentry]

/-- What is available is taken if it leads somewhere. -/
theorem Keeps.good {story : Story} {x : RuleContext} {i : Int} {o : Offer} {r : Reply}
    (hentry : offerAt? os i = some o) (hvalid : o.verdict.valid = true)
    (hr : r.status = if story.has o.choice.target then
      if Reply.writable (x.state.flags.merge o.choice.effects) then 200 else 500 else 400) :
    Keeps story x os i r := by
  have hrule : ∀ o', offerAt? os i = some o' → o'.verdict.valid = true := by
    intro o' ho'
    rw [hentry] at ho'
    cases ho'
    exact hvalid
  refine ⟨?_, ?_, ?_, ?_, fun o' ho' hbad => by simp [hrule o' ho'] at hbad⟩ <;>
    cases hhas : story.has o.choice.target <;>
    cases hwritable : Reply.writable (x.state.flags.merge o.choice.effects) <;>
    simp [hr, grants_iff hentry, hentry, hvalid, hhas, hwritable]

/-- Where the list ends there is nothing to take. -/
theorem Keeps.absent {story : Story} {x : RuleContext} {i : Int} {r : Reply}
    (hentry : offerAt? os i = none) (hr : r.status = 400) : Keeps story x os i r := by
  refine ⟨?_, ?_, ?_, fun _ _ _ => hr, ?_⟩ <;> simp [hr, hentry, not_grants]

theorem resource_status (status : Nat) (v : Value) (loose : Entries Value) :
    (Reply.resource status v loose).status = if Reply.writable loose then status else 500 := by
  unfold Reply.resource
  split <;> rfl

theorem present_status (ho : e.Ordinary) (id : String) (status : Nat) :
    (present id status e).1.status = if Reply.writable e.state.flags then status else 500 := by
  obtain ⟨n, os, hlists⟩ := ho.lists
  obtain ⟨evaluator, hview⟩ := hlists.view ho id
  rw [present, hview]
  exact resource_status status _ _

theorem choose_keeps (ho : e.Ordinary) (h : e.Lists n os)
    (hp : Template.usesOnly Autosave.placeholders e.autosave.config.pattern = true) {i : Int}
    (hshort : (Number.int i).isShort = true) (id : String) :
    Keeps e.story (e.plainContext n) os i ((SessionAsk.choose i).run id e).1 := by
  obtain ⟨evaluator, hchoose⟩ :=
    choose_commits ho.reachable.faithful h.seen (h.available ho) (.int i)
  rw [choiceAt?_offerAt] at hchoose
  rw [SessionAsk.run]
  cases hentry : offerAt? os i with
  | none =>
    obtain ⟨shown, hshown⟩ := isOk_eq_true.mp ((Value.plainText_isOk (.int i)).trans hshort)
    rw [hentry] at hchoose
    simp only [Option.map_none, badIndex, hshown] at hchoose
    rw [hchoose, respond_error rfl]
    exact .absent hentry rfl
  | some o =>
    have hin := mem_of_offerAt? hentry
    rw [hentry] at hchoose
    cases hvalid : o.verdict.valid with
    | false =>
      obtain ⟨passed, rule, v, r, hfirst, hreason, hnamed, hcommit⟩ := h.refused ho hin hvalid evaluator
      have hrefused := hchoose.trans hcommit
      rw [hrefused, respond_error rfl]
      refine ⟨by simp [grants_iff hentry, hvalid], by simp [grants_iff hentry, hvalid],
        by simp [hentry, hvalid], by simp, ?_⟩
      intro o' ho' _
      rw [hentry] at ho'
      cases ho'
      exact ⟨passed, rule, v, r, hfirst, hreason, hnamed, rfl⟩
    | true =>
      have hgranted := hchoose.trans (h.granted ho hin hvalid evaluator)
      cases ht : e.story.find? o.choice.target with
      | none =>
        rw [ht] at hgranted
        have hhas : e.story.has o.choice.target = false := by rw [Story.has, ht]; rfl
        rw [hgranted, respond_error rfl]
        exact .good hentry hvalid (by rw [hhas]; rfl)
      | some target =>
        have hhas : e.story.has o.choice.target = true := by rw [Story.has, ht]; rfl
        have hc : o.choice.InRange := h.inRange ho hin
        have hcopyable :=
          Value.allFieldsCopyable_of_plain (Value.allFieldsPlain_of_inRange hc.effects)
        obtain ⟨e', htake, _⟩ := take_taken (ho.reachable.sound.withEvaluator evaluator)
          ho.reachable.idle ht hcopyable hp
        rw [ht] at hgranted
        replace hgranted := hgranted.trans htake
        obtain ⟨_, hstate⟩ := take_eq_ok (ho.reachable.sound.withEvaluator evaluator) htake
        have hserves : Serves e (e.choose (.int i) none).2 :=
          (Serves.refl e).next (.choose (.int i) none) trivial
        rw [hgranted] at hserves ⊢
        have hstatus := present_status (ho.taken hc hserves htake) id 200
        rw [hstate] at hstatus
        exact .good hentry hvalid (by rw [hhas]; exact hstatus)

/-- The steps behind the id of a session say what a path of the session offers. -/
theorem offers_session {rest : List String} (hid : id.isEmpty = false)
    (hrest : rest.any String.isEmpty = false) :
    offers ("api" :: "sessions" :: id :: rest) =
      (sessionOffers rest).map fun (method, ask) => (method, fun body => (ask body).map (.of id)) := by
  have hsteps : ("api" :: "sessions" :: id :: rest).any String.isEmpty = false := by
    simp only [List.any_cons, hid, hrest, Bool.or_false]
    decide
  simp only [offers, hsteps, Bool.false_eq_true, if_false]

theorem sessionId_isEmpty (a : Ambient) : (sessionId a).isEmpty = false := by
  rw [← Bool.not_eq_true, String.isEmpty_iff]
  intro hempty
  have hlength := congrArg String.length hempty
  simp [sessionId] at hlength

/-- A body with one integer is neither empty nor marked. -/
theorem numbered_unmarked (key : String) (i : Int) : (Json.numbered key i).isEmpty = false ∧
    ((Json.numbered key i).toList.head? == some (Char.ofNat 0xFEFF)) = false := by
  refine ⟨?_, by simp [Json.numbered]⟩
  rw [← Bool.not_eq_true, String.isEmpty_iff]
  intro hempty
  have hlength := congrArg String.length hempty
  simp [Json.numbered] at hlength

theorem chooseBody_numbered {i : Int} (h : (Number.int i).isShort = true) :
    chooseBody (Json.numbered "index" i) = .ok (.choose i) := by
  obtain ⟨hne, hhead⟩ := numbered_unmarked "index" i
  have hread := Json.read_numbered "index" (of_decide_eq_true h)
  have hbody : readBody (Json.numbered "index" i) = .ok (.record [("index", .int i)]) := by
    simp only [readBody, hne, hhead, Bool.false_eq_true, if_false, String.ofList_toList, hread]
  rw [chooseBody, requireBody, hbody]
  rfl

theorem chooseBody_tooLong {i : Int} (h : (Number.int i).isShort = false) :
    chooseBody (Json.numbered "index" i) = .error .unreadable := by
  obtain ⟨hne, hhead⟩ := numbered_unmarked "index" i
  obtain ⟨f, hread⟩ := Json.read_numbered_tooLong "index" (Nat.not_le.mp (of_decide_eq_false h))
  have hbody : readBody (Json.numbered "index" i) = .error .unreadable := by
    simp only [readBody, hne, hhead, Bool.false_eq_true, if_false, String.ofList_toList, hread]
  rw [chooseBody, requireBody, hbody]
  rfl

/-- There is no offer at an overlong index. -/
theorem offerAt?_tooLong (ho : e.Ordinary) (h : e.Lists n os) {i : Int}
    (hlong : (Number.int i).isShort = false) : offerAt? os i = none := by
  cases hoffer : offerAt? os i with
  | none => rfl
  | some o =>
    unfold offerAt? at hoffer
    split at hoffer
    · cases hoffer
    · rename_i hi
      obtain ⟨hlt, _⟩ := List.getElem?_eq_some_iff.mp hoffer
      have hnumbered := (ho.story n (node_mem h.here)).numbered i.toNat
        (Nat.lt_of_lt_of_le hlt (h.length_le ho))
      rw [Int.toNat_of_nonneg (Int.not_lt.mp hi), hlong] at hnumbered
      cases hnumbered

theorem ofRequest_list (hid : id.isEmpty = false) {path : String}
    (hpath : offersAt path = offers ["api", "sessions", id, "choices"]) (body : String) :
    Ask.ofRequest ⟨"GET", path, body⟩ = .ok (.of id .listChoices) := by
  rw [offers_session hid (by decide)] at hpath
  simp only [Ask.ofRequest, hpath]
  rfl

theorem ofRequest_choose (hid : id.isEmpty = false) {path : String}
    (hpath : offersAt path = offers ["api", "sessions", id, "choices"]) (body : String) :
    Ask.ofRequest ⟨"POST", path, body⟩ =
      ((chooseBody body).map (.of id)).mapError BodyFault.reply := by
  rw [offers_session hid (by decide)] at hpath
  simp only [Ask.ofRequest, hpath]
  rfl

theorem ofRequest_look (hid : id.isEmpty = false) {path : String}
    (hpath : offersAt path = offers ["api", "sessions", id]) (body : String) :
    Ask.ofRequest ⟨"GET", path, body⟩ = .ok (.of id .look) := by
  rw [offers_session hid rfl] at hpath
  simp only [Ask.ofRequest, hpath]
  rfl

/-- The list of choices tells the truth, but for flags that cannot be written. Right after it was
shown, an index is taken if the list has an available choice there that leads to a node, refused by
the rule that gave the reason in the list if the choice there is not available, and none of the
story otherwise; the reply to a choice that is taken is broken if it leaves flags that are too deep.
A session is complete, in what is shown of it and for its engine, if nothing in the list is
available. Texts have no lone surrogates. -/
theorem list_truthful {s : Service} {path path' : String} (hs : s.Reachable)
    (he : s.sessions.get? id = some e) (hstory : s.story.InRange)
    (hflags : Value.allFieldsInRange e.state.flags = true)
    (hlist : offersAt path = offers ["api", "sessions", id, "choices"])
    (hlook : offersAt path' = offers ["api", "sessions", id]) :
    ∃ n os v, (s.lend e).node = .ok n ∧
      (s.handle ⟨"GET", path, ""⟩).1 = .ok (offersPayload os) ∧
      (s.handle ⟨"GET", path', ""⟩).1 = .ok (SessionView.payload v) e.state.flags ∧ v.offers = os ∧
      (v.isComplete = true ↔ ∀ o ∈ os, o.verdict.valid = false) ∧
      (s.lend e).isComplete.1 = .ok v.isComplete ∧
      ∀ i : Int, Keeps s.story ((s.lend e).plainContext n) os i
        ((s.handle ⟨"GET", path, ""⟩).2.handle ⟨"POST", path, Json.numbered "index" i⟩).1 := by
  obtain ⟨hfurnished, a, hid⟩ := hs.furnished he
  have hlent := hfurnished.lent
  have ho : (s.lend e).Ordinary :=
    ⟨hlent.reachable, hlent.rules, hlent.custom, hlent.story ▸ hstory, hflags⟩
  obtain ⟨n, os, hlists⟩ := ho.lists
  obtain ⟨evaluator, hoffers, hf, hc⟩ := hlists.offers ho
  obtain ⟨ev, hview⟩ := hlists.view ho id
  have hshown : id.isEmpty = false := hid ▸ sessionId_isEmpty a
  refine ⟨n, os, ⟨id, n, os, (s.lend e).state, (s.lend e).timeline.canUndo,
    (s.lend e).timeline.canRedo⟩, hlists.here, ?_, ?_, rfl, ?_, hlists.isComplete ho, ?_⟩
  · simp only [handle, ofRequest_list hshown hlist, answer, askSession_open he, SessionAsk.run,
      hoffers, respond]
  · simp only [handle, ofRequest_look hshown hlook, answer, askSession_open he, SessionAsk.run,
      present, hview, respond]
    rfl
  · simp [SessionView.isComplete]
  · intro i
    let e₁ : Engine := { s.lend e with evaluator }
    have hlater : (s.handle ⟨"GET", path, ""⟩).2 = s.takeBack id e₁ := by
      simp only [handle, ofRequest_list hshown hlist, answer, askSession_open he, SessionAsk.run,
        hoffers, respond]
      rfl
    rw [hlater, handle, ofRequest_choose hshown hlist]
    cases hshort : (Number.int i).isShort with
    | false =>
      have hnone := offerAt?_tooLong ho hlists hshort
      rw [chooseBody_tooLong hshort]
      exact .absent hnone rfl
    | true =>
      have hserves : Serves (s.lend e) e₁ := by
        have hserves := offersOf_serves (.refl (s.lend e))
        rwa [hoffers] at hserves
      have hfound : (s.takeBack id e₁).sessions.get? id = some e₁ := Entries.get?_put_self _ _ _
      have hsame : (s.takeBack id e₁).lend e₁ = e₁ := rfl
      have ho₁ : e₁.Ordinary := { ho with
        reachable := hserves.reachable ho.reachable
        custom := hc.trans ho.custom }
      rw [chooseBody_numbered hshort]
      simp only [map_ok, mapError_ok, answer, askSession_open hfound, hsame]
      have hkeeps := choose_keeps ho₁ (hlists.relearnt ho hf hc) hlent.pattern hshort id
      rwa [show e₁.story = s.story from hlent.story] at hkeeps

/-- A service for a gate with a choice that is not available and one that is, and a session at
it. -/
def atTwoWays : Service :=
  let s : Service := ⟨gateWith [lockedWay, openWay], {}, .memory [], ⟨0, 0⟩, []⟩
  (s.handle ⟨"POST", "/api/sessions", ""⟩).2

theorem atTwoWays_reachable : atTwoWays.Reachable := by
  have hstart : start (.given (gateWith [lockedWay, openWay])) {} (.memory []) ⟨0, 0⟩ =
      .ok ⟨gateWith [lockedWay, openWay], {}, .memory [], ⟨0, 0⟩, []⟩ := by rfl
  exact .asked _ (.started hstart (gateWith_made _))

theorem atTwoWays_inRange : atTwoWays.story.InRange := by
  have hblank : ∀ f, ¬ Condition.Overlong ((none : Option String).getD "") f :=
    fun f hlong => absurd hlong.shows (by decide)
  have hways : ∀ c ∈ [lockedWay, openWay], c.InRange := by
    intro c hc
    simp only [List.mem_cons, List.not_mem_nil, or_false] at hc
    rcases hc with rfl | rfl <;> exact ⟨rfl, rfl, List.forall_mem_nil _, hblank⟩
  intro n hn
  rw [show atTwoWays.story = gateWith [lockedWay, openWay] from handle_story _ _] at hn
  simp only [gateWith, List.mem_cons, List.not_mem_nil, or_false] at hn
  rcases hn with rfl | rfl
  · refine ⟨hways, fun i hi => ?_⟩
    exact Double.isShort_of_lt (k := 1) hi (by decide)
  · exact ⟨List.forall_mem_nil _, fun i hi => absurd hi (Nat.not_lt_zero i)⟩

theorem offersAt_of_steps {path : String} {steps : List String}
    (h : stepsOf (plainPath path) = steps) (hne : offers steps ≠ []) :
    offersAt path = offers steps := by
  cases hfound : offers steps with
  | nil => exact absurd hfound hne
  | cons _ _ => simp only [offersAt, h, hfound]

/-- The list has an entry that is not available and one that is. -/
theorem list_truthful_gate :
    let id := "00000000000100000000000000000000"
    ∃ os, (atTwoWays.handle ⟨"GET", "/api/sessions/" ++ id ++ "/choices", ""⟩).1 =
        .ok (offersPayload os) ∧
      (∃ o, offerAt? os 0 = some o ∧ o.verdict.valid = false) ∧ ∃ o ∈ os, o.verdict.valid = true := by
  intro id
  have hopened : (atTwoWays.sessions.get? id).any fun e =>
      Value.allFieldsInRange e.state.flags &&
        (atTwoWays.lend e).isComplete.1.toOption == some false := by
    decide +kernel
  obtain ⟨e, he, hready⟩ := (Option.any_eq_true _ _).mp hopened
  obtain ⟨hflags, hincomplete⟩ := Bool.and_eq_true_iff.mp hready
  have hlist : offersAt ("/api/sessions/" ++ id ++ "/choices") =
      offers ["api", "sessions", id, "choices"] :=
    offersAt_of_steps (by decide +kernel) (List.cons_ne_nil _ _)
  have hlook : offersAt ("/api/sessions/" ++ id) = offers ["api", "sessions", id] :=
    offersAt_of_steps (by decide +kernel) (List.cons_ne_nil _ _)
  obtain ⟨n, os, v, _, hlisted, _, _, hcomplete, hagrees, hkeeps⟩ :=
    list_truthful atTwoWays_reachable he atTwoWays_inRange hflags hlist hlook
  have hrefused : ((atTwoWays.handle ⟨"GET", "/api/sessions/" ++ id ++ "/choices", ""⟩).2.handle
      ⟨"POST", "/api/sessions/" ++ id ++ "/choices", Json.numbered "index" 0⟩).1.status = 409 := by
    decide +kernel
  refine ⟨os, hlisted, (hkeeps 0).refused.mp hrefused, ?_⟩
  rw [hagrees] at hincomplete
  have hopen : ¬ ∀ o ∈ os, o.verdict.valid = false := by
    rw [← hcomplete]
    simpa [Except.toOption] using hincomplete
  simpa using hopen

end Service
end Storyline
