import Storyline.Proofs.Choosing
import Storyline.Proofs.Condition.Names

namespace Storyline

/-- A condition is answered in the same way whatever the custom data are. If it is left to the
language, it does not name them. -/
def Choice.Unread (c : Choice) : Option Condition.CustomEvaluator → Prop
  | none => ∀ tree, Condition.compile (Text.trim (c.condition.getD "")) = .ok tree →
    "customData" ∉ tree.names
  | some custom => Text.isAllBlank (c.condition.getD "") = false → ∀ scope customData,
    custom (.text (c.condition.getD "")) { scope with customData } =
      custom (.text (c.condition.getD "")) scope

namespace Engine
open Condition Condition.Evaluator

section Sight
variable {custom : Option CustomEvaluator} {c : Choice} {cs : List Choice} {scope scope' : Scope}

theorem lookup?_customData {name : String} (h : name ≠ "customData")
    (customData : Entries Value) :
    ({ scope with customData } : Scope).lookup? name = scope.lookup? name := by
  unfold Scope.lookup?
  split <;> first | rfl | contradiction

/-- What does not depend on custom data is in sight with any of them, or with none. -/
theorem inSight_unread (h : c.Unread custom) (scope : Scope) (customData : Entries Value) :
    inSight custom { scope with customData } c = inSight custom scope c := by
  cases hb : Text.isAllBlank (c.condition.getD "") with
  | true => simp [inSight, hb]
  | false =>
    have hanswer : answerAlone custom (c.condition.getD "") { scope with customData } =
        answerAlone custom (c.condition.getD "") scope := by
      cases custom with
      | none =>
        apply answerAlone_congr
        intro tree htree name hname
        apply lookup?_customData
        rintro rfl
        exact h tree htree hname
      | some custom =>
        simp only [answerAlone, evaluate]
        rw [h hb]
    simp only [inSight, hanswer]

theorem View.congr {r : Except NumberFault (List Choice)} (h : View custom scope cs r)
    (hsame : ∀ c ∈ cs, inSight custom scope c = inSight custom scope' c) :
    View custom scope' cs r := by
  cases h with
  | clear hclear =>
    rw [List.filter_congr hsame]
    exact .clear hclear
  | blocked hcs hbefore hf => exact .blocked hcs hbefore hf

end Sight

variable {α β : Type} {e e' : Engine} {c : Choice} {node target : Node} {time : Option Number}
  {customData : Entries Value} {seen offered : List Choice}

/-- Where nothing blocks the view, what is in sight on its own is seen. -/
theorem visible_clear (h : e.Faithful) (hn : e.node = .ok node)
    (hclear : ∀ c ∈ node.choices, ∀ f, ¬ Blocks e.evaluator.custom c f)
    (customData : Entries Value) : (e.visible customData).1 =
      .ok (node.choices.filter (inSight e.evaluator.custom (e.scope customData))) := by
  have hview := (shown_view h (e.scope customData) node.choices).1.unique (.clear hclear)
  rw [visible, hn]
  exact congrArg (Except.mapError EngineFault.number) hview

/-- At the current node the conditions do not depend on custom data. -/
def Unread (e : Engine) : Prop :=
  ∀ node, e.node = .ok node → ∀ c ∈ node.choices, c.Unread e.evaluator.custom

/-- At the current node the same choices are in sight with these custom data as without them. -/
def Ignores (e : Engine) (customData : Entries Value) : Prop :=
  ∀ node, e.node = .ok node → ∀ c ∈ node.choices,
    inSight e.evaluator.custom (e.scope customData) c = inSight e.evaluator.custom (e.scope []) c

theorem Unread.ignores (h : e.Unread) (customData : Entries Value) : e.Ignores customData :=
  fun node hn c hc => inSight_unread (h node hn c hc) (e.scope []) customData

theorem Ignores.visible (hi : e.Ignores customData) (h : e.Faithful) :
    (e.visible customData).1 = (e.visible []).1 := by
  unfold Engine.visible
  cases hn : e.node with
  | error f => rfl
  | ok node =>
    have hplain : View e.evaluator.custom (e.scope []) node.choices _ :=
      (shown_view h (e.scope customData) node.choices).1.congr (hi node hn)
    exact congrArg (Except.mapError EngineFault.number)
      (hplain.unique (shown_view h (e.scope []) node.choices).1)

theorem Ignores.available (hi : e.Ignores customData) (h : e.Faithful) (time : Option Number) :
    (e.available time customData).1 = (e.available time []).1 := by
  rw [available_fst, available_fst, hi.visible h]

/-- The outcome, with another evaluator in the engine afterwards. -/
def knowing (evaluator : Evaluator) (o : Outcome α) : Outcome α := (o.1, { o.2 with evaluator })

section Knowing
variable {evaluator : Evaluator}

theorem andThen_knowing {o : Outcome α} {next : α → Engine → Outcome β}
    (hn : ∀ a e, next a { e with evaluator } = knowing evaluator (next a e)) :
    andThen (knowing evaluator o) next = knowing evaluator (andThen o next) := by
  obtain ⟨x, e⟩ := o
  cases x with
  | error f => rfl
  | ok a => exact hn a e

theorem triggerAutosave_knowing (trigger : String) (metadata : Entries Value) :
    ({ e with evaluator } : Engine).triggerAutosave trigger metadata =
      knowing evaluator (e.triggerAutosave trigger metadata) := by
  have hjob : ({ e with evaluator } : Engine).job trigger metadata = e.job trigger metadata := rfl
  unfold triggerAutosave
  simp only [hjob]
  split
  · rfl
  · exact andThen_knowing (o := e.attempted _) fun _ _ => rfl

theorem happened_knowing (trigger : Autosave.Trigger) (metadata : Entries Value) :
    ({ e with evaluator } : Engine).happened trigger metadata =
      knowing evaluator (e.happened trigger metadata) := by
  unfold happened
  split
  · rfl
  · rw [triggerAutosave_knowing]
    exact andThen_knowing fun _ _ => rfl

/-- Taking a choice asks nothing of the evaluator. -/
theorem take_knowing : ({ e with evaluator } : Engine).take c target =
    knowing evaluator (e.take c target) := by
  have htrack : ({ e with evaluator } : Engine).track .choice (e.takeMetadata c) =
      knowing evaluator (e.track .choice (e.takeMetadata c)) := rfl
  have htake : ({ e with evaluator } : Engine).take c target =
      andThen (knowing evaluator (e.track .choice (e.takeMetadata c))) _ := rfl
  rw [htake]
  apply andThen_knowing
  intro _ e'
  split
  · rfl
  · have hfollow : ({ e' with evaluator } : Engine).follow c target =
        { e'.follow c target with evaluator } := rfl
    dsimp only
    rw [hfollow, happened_knowing]
    exact andThen_knowing fun _ _ => rfl

theorem commit_knowing : ({ e with evaluator } : Engine).commit c offered time =
    knowing evaluator (e.commit c offered time) := by
  have hverdict : ({ e with evaluator } : Engine).finalVerdict c offered time =
      e.finalVerdict c offered time := rfl
  unfold commit
  simp only [hverdict]
  split
  · rfl
  · split
    · rfl
    · split
      · rfl
      · exact take_knowing

end Knowing

/-- Choosing by index is selecting what is in sight under that index without custom data. -/
theorem choose_selects (h : e.Faithful) (hv : (e.visible []).1 = .ok seen) {i : Nat}
    (hi : seen[i]? = some c) (time : Option Number) :
    ∃ evaluator, e.choose (.int i) time = knowing evaluator (e.select c time) := by
  obtain ⟨ev₁, hv₁, hfaithful, hcustom⟩ := visible_again h hv
  have hat : choiceAt? seen (.int i) = some c := by simpa [choiceAt?, Value.int] using hi
  have hchoose : e.choose (.int i) time = ({ e with evaluator := ev₁ } : Engine).select c time := by
    simp [choose, hv₁, andThen, hat]
  have hsame := available_relearnt h hfaithful hcustom time []
  rw [hchoose]
  unfold select
  rcases ha : e.available time [] with ⟨r, e₁⟩
  rcases ha₂ : ({ e with evaluator := ev₁ } : Engine).available time [] with ⟨r₂, e₂⟩
  obtain ⟨ev₂, rfl⟩ := available_keeps ha
  obtain ⟨ev₃, rfl⟩ := available_keeps ha₂
  rw [ha, ha₂] at hsame
  dsimp only at hsame
  subst hsame
  refine ⟨ev₃, ?_⟩
  cases r₂ with
  | error f => rfl
  | ok offered =>
    have hfirst : ({ e with evaluator := ev₂ } : Engine).commit c offered time =
        knowing ev₂ (e.commit c offered time) := commit_knowing
    simp only [andThen]
    rw [hfirst]
    exact commit_knowing

/-- A choice that leads somewhere is taken if all is granted without custom data. -/
theorem select_succeeds (h : e.Sound) (ht : e.story.find? c.target = some target)
    (time : Option Number) : (∃ e', e.select c time = (.ok target, e')) ↔
      ∃ plain, (e.available time []).1 = .ok plain ∧ e.Grants c plain time ∧
        Value.allFieldsCopyable c.effects = true ∧
        ¬ e.autosave.Escapes e.ambient c.target Autosave.Trigger.choice.name := by
  constructor
  · intro ⟨e', hs⟩
    obtain ⟨plain, ev, ha, hg, target', ht', htake⟩ := select_eq_ok.mp hs
    exact ⟨plain, by rw [ha], hg,
      (take_succeeds (h.withEvaluator ev) ht').mp ⟨target, e', htake⟩⟩
  · intro ⟨plain, ho, hg, hfree⟩
    obtain ⟨_, ev, _, ha, _⟩ := available_eq_ok ho
    obtain ⟨n, e', htake⟩ := (take_succeeds (h.withEvaluator ev) ht).mpr hfree
    obtain ⟨rfl, _⟩ := take_eq_ok (h.withEvaluator ev) htake
    exact ⟨e', select_eq_ok.mpr ⟨plain, ev, ha, hg, _, ht, htake⟩⟩

theorem choose_beyond (h : e.Faithful) (hv : (e.visible []).1 = .ok seen) {i : Nat}
    (hi : seen[i]? = none) (time : Option Number) :
    ∃ evaluator, e.choose (.int i) time =
      (.error (e.badIndex (.int i) seen.length), { e with evaluator }) := by
  obtain ⟨evaluator, hv₁, _⟩ := visible_again h hv
  have hat : choiceAt? seen (.int i) = none := by simpa [choiceAt?, Value.int] using hi
  exact ⟨evaluator, by simp [choose, hv₁, andThen, hat, badIndex]⟩

/-- An engine keeps to what it lists with custom data. -/
structure KeepsTo (e : Engine) (time : Option Number) (customData : Entries Value) : Prop where
  /-- What is offered can be taken, if the rules accept it among the other offers as well. -/
  takes : ∀ offered, (e.available time customData).1 = .ok offered → ∀ c ∈ offered, ∀ target,
    e.story.find? c.target = some target → ((∃ e', e.select c time = (.ok target, e')) ↔
      e.Passes c offered time ∧ Value.allFieldsCopyable c.effects = true ∧
        ¬ e.autosave.Escapes e.ambient c.target Autosave.Trigger.choice.name)
  /-- They do so if they do not mind what else is in sight. -/
  accepts : ∀ offered, (e.available time customData).1 = .ok offered →
    (∀ rule ∈ e.rules.rules, rule.Impartial) → ∀ c ∈ offered, e.Passes c offered time
  /-- An index means the choice that is listed under it. -/
  indexed : ∀ seen, (e.visible customData).1 = .ok seen → ∀ (i : Nat) c, seen[i]? = some c →
    ∃ evaluator, e.choose (.int i) time = knowing evaluator (e.select c time)

theorem Ignores.keepsTo (hi : e.Ignores customData) (h : e.Reachable) (time : Option Number) :
    e.KeepsTo time customData := by
  constructor
  · intro offered ho c hc target ht
    rw [hi.available h.faithful] at ho
    rw [select_succeeds h.sound ht]
    constructor
    · intro ⟨plain, hp, hg, hfree⟩
      cases ho.symm.trans hp
      exact ⟨hg.passes, hfree⟩
    · intro ⟨hpasses, hfree⟩
      have hself : c.looksLike c = true := by simp [Choice.looksLike]
      exact ⟨offered, ho, ⟨hpasses, .inr ⟨c, hc, hself⟩, (Story.has_eq_find? ht).1⟩, hfree⟩
  · intro offered ho himpartial c hc
    obtain ⟨seen, _, hv, _, hmem⟩ := available_eq_ok ho
    obtain ⟨node, _, hn, _⟩ := visible_eq_ok hv
    exact ((hmem c).mp hc).2.among hn himpartial offered
  · intro seen hv i c hat
    rw [hi.visible h.faithful] at hv
    exact choose_selects h.faithful hv hat time

/-- What is listed with custom data can be taken, and goes by its index, as long as they make no
difference to what is in sight. None do where no condition names them. Otherwise a choice is taken
if that is granted without them, and an index means the choice in sight without them, or none. -/
theorem offers_kept (h : e.Reachable) (time : Option Number) (customData : Entries Value) :
    (e.Unread → e.Ignores customData) ∧ (e.Ignores customData → e.KeepsTo time customData) ∧
      (∀ c target, e.story.find? c.target = some target →
        ((∃ e', e.select c time = (.ok target, e')) ↔
          ∃ plain, (e.available time []).1 = .ok plain ∧ e.Grants c plain time ∧
            Value.allFieldsCopyable c.effects = true ∧
            ¬ e.autosave.Escapes e.ambient c.target Autosave.Trigger.choice.name)) ∧
      ∀ plain, (e.visible []).1 = .ok plain → ∀ i : Nat, ∃ evaluator,
        e.choose (.int i) time = match plain[i]? with
          | some c => knowing evaluator (e.select c time)
          | none => (.error (e.badIndex (.int i) plain.length), { e with evaluator }) := by
  refine ⟨fun hu => hu.ignores customData, fun hi => hi.keepsTo h time, ?_, ?_⟩
  · intro c target ht
    exact select_succeeds h.sound ht time
  · intro plain hv i
    cases hat : plain[i]? with
    | some c => exact choose_selects h.faithful hv hat time
    | none => exact choose_beyond h.faithful hv hat time

def guestWay : Choice := wayIf "customData.guest"

def ladder : Choice := { openWay with text := "Climb" }

/-- A choice that was listed for its custom data is not taken, and its index means the next one in
sight. A choice without a condition that is listed is taken. -/
theorem offers_kept_guest :
    let guest : Entries Value := [("guest", .bool true)]
    let e := atGateWith [guestWay, ladder]
    (e.available none guest).1 = .ok [guestWay, ladder] ∧
      (¬ ∃ e', e.select guestWay none = (.ok ⟨"hall", "A hall.", []⟩, e')) ∧
      (∃ evaluator, e.choose (.int 0) none = knowing evaluator (e.select ladder none)) ∧
      ∃ e', (atGateWith [lockedWay, ladder]).select ladder none =
        (.ok ⟨"hall", "A hall.", []⟩, e') := by
  intro guest e
  have hreachable := atGateWith_reachable [guestWay, ladder]
  obtain ⟨_, _, htakes, hindex⟩ := offers_kept hreachable none guest
  have hclear : ∀ c ∈ [guestWay, ladder], ∀ f, ¬ Blocks none c f := by
    intro c hc f hb
    simp only [List.mem_cons, List.not_mem_nil, or_false] at hc
    cases hc with
    | inl hc =>
      subst hc
      have hread : (compile (Text.trim "customData.guest")).isOk = true := by decide +kernel
      rw [show compile (Text.trim "customData.guest") = _ from hb.2.stuck] at hread
      cases hread
    | inr hc =>
      subst hc
      cases hb.2.shows
  have hseen := fun customData => visible_clear hreachable.faithful rfl hclear customData
  have hguest : [guestWay, ladder].filter (inSight none (e.scope guest)) = [guestWay, ladder] := by
    have hfirst : inSight none (e.scope guest) guestWay = true := by decide +kernel
    have hsecond : inSight none (e.scope guest) ladder = true := by decide +kernel
    simp [List.filter, hfirst, hsecond]
  have hstranger : [guestWay, ladder].filter (inSight none (e.scope [])) = [ladder] := by
    have hfirst : inSight none (e.scope []) guestWay = false := by decide +kernel
    have hsecond : inSight none (e.scope []) ladder = true := by decide +kernel
    simp [List.filter, hfirst, hsecond]
  have hwithout : (e.visible []).1 = .ok [ladder] := (hseen []).trans (congrArg _ hstranger)
  refine ⟨?_, ?_, hindex [ladder] hwithout 0, ?_⟩
  · rw [available_fst, hseen guest]
    show (Except.ok ([guestWay, ladder].filter (inSight none (e.scope guest))) >>= _) = _
    rw [hguest]
    rfl
  · rw [htakes guestWay _ rfl]
    intro ⟨plain, ho, hg, _⟩
    have hplain : (e.available none []).1 = .ok [ladder] := by
      rw [available_fst, hwithout]
      rfl
    cases hplain.symm.trans ho
    rcases hg.resembles with hblank | ⟨d, hd, hl⟩
    · exact absurd hblank (by decide)
    · cases List.mem_singleton.mp hd
      cases hl
  · have hreachable' := atGateWith_reachable [lockedWay, ladder]
    obtain ⟨hignores, hkeeps, _⟩ := offers_kept hreachable' none guest
    have hunread : (atGateWith [lockedWay, ladder]).Unread := by
      intro node hn c hc tree htree
      cases hn
      simp only [List.mem_cons, List.not_mem_nil, or_false] at hc
      rcases hc with rfl | rfl <;> cases compile_empty.symm.trans htree
    exact ((hkeeps (hignores hunread)).takes [ladder] rfl ladder (List.mem_singleton_self _) _
      rfl).mpr ⟨⟨_, rfl, rfl⟩, rfl, fun hesc => nomatch hesc.1⟩

end Engine
end Storyline
