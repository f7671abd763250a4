import Storyline.Proofs.Journal
import Storyline.Proofs.Line

namespace Storyline

namespace Autosave
variable {s : Autosave} {shelf : Shelf} {a : Ambient} {j : Job} {t : Attempt} {f : Fault}

/-- A save at one clock is too recent at another one. -/
def Recent (limit : Number) (now before : Int) : Prop :=
  (Number.double ((Time.seconds now).sub (Time.seconds before))).less limit = true

/-- Enough time has passed since a save. The difference of the readings is rounded, but where it is
a double, it is no less than the limit itself. -/
structure Apart (limit : Number) (now before : Int) : Prop where
  rounded : ¬ Recent limit now before
  exactly : ∀ (x y : ℝ) (u : Double) (l : EReal), (Time.seconds now).place? = some (x : EReal) →
    (Time.seconds before).place? = some (y : EReal) → u.place? = some ((x - y : ℝ) : EReal) →
    limit.place? = some l → l ≤ (x - y : ℝ)

theorem Apart.of_not_recent {limit : Number} {now before : Int}
    (h : ¬ Recent limit now before) : Apart limit now before where
  rounded := h
  exactly := by
    intro x y u l hx hy hu hl
    by_contra hlt
    refine h (Number.less_iff.mpr ⟨_, l, ?_, hl, not_le.mp hlt⟩)
    exact (Double.place?_sub_exact hx hy hu).trans hu

theorem recent_of_throttled? (h : s.throttled? a = some f) : ∃ before seconds,
    s.savedAt = some before ∧ f = .throttled seconds ∧
      (Number.double (a.seconds.sub before)).less s.config.throttle = true := by
  unfold throttled? at h
  split at h
  · cases h
  · rename_i before hbefore
    split at h
    · rename_i hless
      cases h
      exact ⟨before, _, hbefore, rfl, hless⟩
    · cases h

theorem throttled?_of_recent {before : Double} (hbefore : s.savedAt = some before)
    (h : (Number.double (a.seconds.sub before)).less s.config.throttle = true) :
    ∃ f, s.throttled? a = some f := by
  unfold throttled?
  rw [hbefore]
  exact ⟨_, if_pos h⟩

/-- An attempt leaves the time of its success, or nothing but its result. -/
theorem Tried.spent (h : Tried s shelf a j t) :
    (∃ saved, t.result.toOption = some ⟨j.trigger, .ok saved⟩ ∧
        t.autosave.savedAt = some a.seconds) ∨
      (∀ x, t.result.toOption = some x → ∃ f : Fault, f.Lasting ∧ x = ⟨j.trigger, .error f⟩) ∧
        t.autosave = { s with last := t.result.toOption.or s.last } := by
  cases h with
  | unmade hr _ => exact .inr ⟨hr, rfl⟩
  | @unsized _ _ fault _ _ _ _ _ =>
    exact .inr ⟨fun x hx => ⟨.size fault, fun _ => nofun, (Option.some.inj hx).symm⟩, rfl⟩
  | @saved d n size shelf' a' _ _ hcreate =>
    have hclock : a'.clock = a.clock := by
      have hsteady := (Engine.create_steady shelf a d).1
      rwa [hcreate] at hsteady
    exact .inl ⟨⟨n.id, size⟩, rfl, congrArg (fun c => some (Time.seconds c)) hclock⟩

end Autosave

namespace Engine
open Autosave (Recent Apart)
variable {e : Engine} {op : Operation} {log : List Autosave.Entry}

/-- The time that is remembered changes with a success only. -/
theorem savedAt_attempt (hstill : e.timeline.restoring = false) (op : Operation) :
    (e.attempt op).2.autosave.savedAt =
      ((e.saved? op).map fun s => Time.seconds s.clock).or e.autosave.savedAt := by
  have hkept : (∀ r, e.saving? op = some r → r.success = false) →
      (e.attempt op).2.autosave.savedAt = e.autosave.savedAt →
      (e.attempt op).2.autosave.savedAt =
        ((e.saved? op).map fun s => Time.seconds s.clock).or e.autosave.savedAt := by
    intro hr hsame
    rw [saved?_eq_none hr, hsame]
    rfl
  cases account hstill op with
  | quiet hsaving hautosave _ _ =>
    rw [hsaving] at hkept
    exact hkept nofun (congrArg (·.savedAt) hautosave)
  | configured c _ hsaving hconfigured =>
    rw [hsaving] at hkept
    exact hkept nofun (congrArg (·.1.savedAt) hconfigured)
  | throttled _ _ _ hsaving hautosave _ =>
    rw [hsaving] at hkept
    refine hkept ?_ (congrArg (·.savedAt) hautosave)
    rintro _ ⟨⟩
    rfl
  | @tried a j hclock _ _ hsaving hautosave _ _ =>
    rcases (Autosave.save_tried e.autosave e.shelf a j).spent with
      ⟨saved, hr, hat⟩ | ⟨hr, hsame⟩
    · rw [hr] at hsaving
      rw [saved?_eq_some hsaving, hautosave, hat]
      exact congrArg (fun c => some (Time.seconds c)) hclock
    · refine hkept (fun r hsome => ?_) ?_
      · obtain ⟨f, _, rfl⟩ := hr r (hsaving.symm.trans hsome)
        rfl
      · rw [hautosave, hsame]

/-- The time of the latest success is that of the latest save, and no clock was ahead of it then or
is behind it now. -/
structure Remembers (e : Engine) (log : List Autosave.Entry) : Prop where
  latest : e.autosave.savedAt = log.getLast?.map fun s => Time.seconds s.clock
  ordered : ∀ s ∈ log, ∀ last ∈ log.getLast?, s.clock ≤ last.clock
  past : ∀ s ∈ log, s.clock ≤ e.ambient.clock

theorem saved?_clock {s : Autosave.Entry} (h : e.saved? op = some s) :
    s.clock = e.ambient.clock := by
  unfold saved? at h
  split at h <;> cases h
  rfl

theorem Remembers.attempt (h : e.Remembers log) (hstill : e.timeline.restoring = false)
    (hclock : e.ambient.clock ≤ (e.attempt op).2.ambient.clock) :
    (e.attempt op).2.Remembers (log ++ (e.saved? op).toList) := by
  have hsavedAt := savedAt_attempt hstill op
  cases hs : e.saved? op with
  | none =>
    rw [hs] at hsavedAt
    rw [Option.toList_none, List.append_nil]
    exact ⟨hsavedAt.trans h.latest, h.ordered, fun s hmem => (h.past s hmem).trans hclock⟩
  | some s =>
    rw [hs] at hsavedAt
    have hnow : s.clock = e.ambient.clock := saved?_clock hs
    have hpast : ∀ t ∈ log ++ [s], t.clock ≤ e.ambient.clock := by
      intro t ht
      rcases List.mem_append.mp ht with ht | ht
      · exact h.past t ht
      · exact (List.mem_singleton.mp ht ▸ hnow).le
    refine ⟨?_, ?_, fun t ht => (hpast t ht).trans hclock⟩
    · rw [hsavedAt, Option.toList_some, List.getLast?_concat]
      rfl
    · intro t ht last hlast
      rw [Option.toList_some, List.getLast?_concat] at hlast
      cases hlast
      exact hnow ▸ hpast t ht

/-- Later saves are the more recent ones, so the latest decides for all of them. -/
theorem Remembers.throttled_iff (h : e.Remembers log) :
    (∃ f, e.autosave.throttled? e.ambient = some f) ↔
      ∃ s ∈ log, Recent e.autosave.config.throttle e.ambient.clock s.clock := by
  constructor
  · rintro ⟨f, hf⟩
    obtain ⟨before, _, hbefore, _, hless⟩ := Autosave.recent_of_throttled? hf
    rw [h.latest] at hbefore
    obtain ⟨last, hlast, rfl⟩ := Option.map_eq_some_iff.mp hbefore
    exact ⟨last, List.mem_of_getLast? hlast, hless⟩
  · rintro ⟨s, hs, hrecent⟩
    obtain ⟨last, hlast⟩ : ∃ last, log.getLast? = some last :=
      Option.isSome_iff_exists.mp (List.getLast?_isSome.mpr (List.ne_nil_of_mem hs))
    have hbefore : e.autosave.savedAt = some (Time.seconds last.clock) := by
      rw [h.latest, hlast]
      rfl
    exact Autosave.throttled?_of_recent hbefore (Time.seconds_less_of_le (h.ordered s hs last hlast)
      (h.past last (List.mem_of_getLast? hlast)) hrecent)

/-- The result that a trigger tells is the one of the attempt. -/
theorem saving?_triggerAutosave {name : String} {metadata : Entries Value}
    {x : Option Autosave.Result}
    (h : (e.triggerAutosave name metadata).1 = .ok x) :
    e.saving? (.triggerAutosave name metadata) = x := by
  have hforgot : (e.withSaves { e.autosave with last := none }).autosave.trigger e.shelf e.ambient
      (e.job name metadata) = _ := Autosave.trigger_last none
  cases htrigger : e.autosave.trigger e.shelf e.ambient (e.job name metadata) with
  | none =>
    rw [htrigger] at hforgot
    rw [triggerAutosave_none htrigger] at h
    cases h
    exact congrArg (·.2.autosave.last) (triggerAutosave_none hforgot)
  | some t =>
    rw [htrigger] at hforgot
    rw [triggerAutosave_some htrigger] at h
    refine (congrArg (·.2.autosave.last) (triggerAutosave_some hforgot)).trans ?_
    obtain ⟨r, hr, rfl⟩ := map_eq_ok.mp h
    show t.result.toOption.or none = some r
    rw [mapError_eq_ok.mp hr]
    rfl

/-- How saves are timed after some were made. -/
structure Throttles (e : Engine) (log : List Autosave.Entry) : Prop where
  saved : ∀ op name r, op.call? = some name → e.saving? op = some r → r.success = true →
    e.autosave.config.enabled = true ∧ name ∈ e.autosave.config.triggers.map Autosave.Trigger.name ∧
      ∀ s ∈ log, Apart e.autosave.config.throttle e.ambient.clock s.clock
  dropped : ∀ op name s, op.call? = some name → (e.attempt op).1 = true →
    Autosave.heeds e.autosave.config name = true → s ∈ log →
    Recent e.autosave.config.throttle e.ambient.clock s.clock →
    ∃ seconds, e.saving? op = some ⟨name, .error (.throttled seconds)⟩ ∧
      (e.attempt op).2.shelf = e.shelf ∧
      (e.attempt op).2.autosave = { e.autosave with last := e.saving? op }
  throttled : ∀ op name seconds, e.saving? op = some ⟨name, .error (.throttled seconds)⟩ →
    op.call? = some name ∧ ∃ s ∈ log, Recent e.autosave.config.throttle e.ambient.clock s.clock
  failed : ∀ op, (∀ r, e.saving? op = some r → r.success = false) →
    (e.attempt op).2.autosave.savedAt = e.autosave.savedAt
  byHand : ∀ metadata before,
    let e' : Engine := { e with autosave := { e.autosave with savedAt := before } }
    (e'.saveNow metadata).1 = (e.saveNow metadata).1 ∧
      (e'.saveNow metadata).2.shelf = (e.saveNow metadata).2.shelf
  answer : ∀ name metadata x, (e.triggerAutosave name metadata).1 = .ok x →
    e.saving? (.triggerAutosave name metadata) = x
  travel : ∀ d, e.saving? (.travel d) = none ∧
    (e.attempt (.travel d)).2.autosave = e.autosave ∧ (e.attempt (.travel d)).2.shelf = e.shelf

theorem heeds_iff {c : Autosave.Config} {name : String} : Autosave.heeds c name = true ↔
    c.enabled = true ∧ name ∈ c.triggers.map Autosave.Trigger.name := by
  simp [Autosave.heeds]

/-- An attempt that is made does not run into the throttle. -/
theorem tried_lasting {a : Ambient} {j : Autosave.Job} {name seconds : String}
    (h : e.saving? op = (e.autosave.save e.shelf a j).result.toOption) :
    e.saving? op ≠ some ⟨name, .error (.throttled seconds)⟩ := by
  intro hsome
  have hr := h.symm.trans hsome
  rcases (Autosave.save_tried e.autosave e.shelf a j).spent with ⟨saved, hsaved, _⟩ | ⟨hfailed, _⟩
  · cases hsaved.symm.trans hr
  · obtain ⟨f, hf, hx⟩ := hfailed _ hr
    cases hx
    exact hf _ rfl

theorem Remembers.throttles (h : e.Remembers log) (hstill : e.timeline.restoring = false) :
    e.Throttles log where
  saved := by
    intro op name r hcall hr hsuccess
    cases account hstill op with
    | quiet hsaving _ _ _ => cases hsaving.symm.trans hr
    | configured _ hnone _ _ => cases hnone.symm.trans hcall
    | throttled _ _ _ hsaving _ _ =>
      cases hsaving.symm.trans hr
      cases hsuccess
    | tried _ _ hfree _ _ _ _ =>
      obtain ⟨_, hheeds, hth⟩ := hfree name hcall
      obtain ⟨henabled, hname⟩ := heeds_iff.mp hheeds
      refine ⟨henabled, hname, fun s hs => .of_not_recent fun hrecent => ?_⟩
      obtain ⟨f, hf⟩ := h.throttled_iff.mpr ⟨s, hs, hrecent⟩
      cases hth.symm.trans hf
  dropped := by
    intro op name s hcall hdone hheeds hs hrecent
    obtain ⟨f, hf⟩ := h.throttled_iff.mpr ⟨s, hs, hrecent⟩
    obtain ⟨_, seconds, _, rfl, _⟩ := Autosave.recent_of_throttled? hf
    cases account hstill op with
    | quiet _ _ _ hunheeded =>
      cases (hunheeded hdone name hcall).symm.trans hheeds
    | configured _ hnone _ _ => cases hnone.symm.trans hcall
    | throttled hcall' _ hf' hsaving hautosave hshelf =>
      cases hcall'.symm.trans hcall
      cases hf'.symm.trans hf
      exact ⟨seconds, hsaving, hshelf, hsaving ▸ hautosave⟩
    | tried _ _ hfree _ _ _ _ => cases (hfree name hcall).2.2.symm.trans hf
  throttled := by
    intro op name seconds hr
    cases account hstill op with
    | quiet hsaving _ _ _ => cases hsaving.symm.trans hr
    | configured _ _ hsaving _ => cases hsaving.symm.trans hr
    | throttled hcall _ hf hsaving _ _ =>
      cases hsaving.symm.trans hr
      exact ⟨hcall, h.throttled_iff.mp ⟨_, hf⟩⟩
    | tried _ _ _ hsaving _ _ _ => exact absurd hr (tried_lasting hsaving)
  failed := by
    intro op hfailed
    rw [savedAt_attempt hstill op, saved?_eq_none hfailed]
    rfl
  byHand := by
    intro metadata before
    obtain ⟨hresult, hshelf⟩ := @Autosave.save_whenever e.autosave e.shelf e.ambient
      (e.job Autosave.manualTrigger metadata) before
    exact ⟨congrArg (Except.mapError EngineFault.template) hresult, hshelf⟩
  answer := fun _ _ _ => saving?_triggerAutosave
  travel := fun _ => ⟨rfl, rfl, rfl⟩

/-- The saves of a run are remembered. -/
theorem remembers_after {e₀ : Engine} (h : e₀.Reachable) (hfirst : e₀.autosave.savedAt = none)
    {ops : List Operation}
    (hclock : e₀.Throughout (fun e _ op => e.ambient.clock ≤ (e.attempt op).2.ambient.clock) ops) :
    (e₀.after ops).Remembers (e₀.journal ops) := by
  induction ops using List.reverseRecOn with
  | nil => exact ⟨hfirst, nofun, nofun⟩
  | append_singleton ops op ih =>
    obtain ⟨hbefore, hnow⟩ := throughout_snoc.mp hclock
    rw [after_snoc, journal_snoc]
    exact (ih hbefore).attempt (after_reachable h ops).sound.settled.still hnow

/-- Whatever is done with a new engine while the clock does not go back: a trigger saves only if it
is configured and no save so far is too recent, and else nothing comes of it. -/
theorem saves_throttled {story : Story} (hstory : story.Made) {ambient : Ambient} {setup : Setup}
    {e₀ : Engine} (hm : make story ambient setup = .ok e₀) {ops : List Operation}
    (hclock : e₀.Throughout (fun e _ op => e.ambient.clock ≤ (e.attempt op).2.ambient.clock) ops) :
    (e₀.after ops).Throttles (e₀.journal ops) := by
  have hreach : e₀.Reachable := .made hstory hm
  obtain ⟨c, hc⟩ := make_autosave hm
  have hfirst : e₀.autosave.savedAt = none := by rw [hc]; rfl
  exact (remembers_after hreach hfirst hclock).throttles
    (after_reachable hreach ops).sound.settled.still

end Engine

/-- Each flag sets off an automatic save, if a second has passed. -/
def Autosave.Config.sparing : Autosave.Config :=
  { off with enabled := true, triggers := [.flagChange], throttle := .int 1
             throttle_nonneg := by decide }

namespace Engine
open Autosave (Recent)

def justSaved : Engine := (fresh .hallway ⟨0, 0⟩ .sparing).after [.saveNow [], .wait 500 0]

/-- A trigger at the time of a successful save is throttled and makes no checkpoint. -/
theorem saves_throttled_lamp : ∃ seconds,
    justSaved.saving? (.setFlag (.text "lamp") (.bool true)) =
        some ⟨"flag-change", .error (.throttled seconds)⟩ ∧
      (justSaved.attempt (.setFlag (.text "lamp") (.bool true))).2.shelf = justSaved.shelf := by
  have hmake : make .hallway ⟨0, 0⟩ { timeline := some .standard, autosave := some .sparing } =
      .ok (fresh .hallway ⟨0, 0⟩ .sparing) := rfl
  have hclock : (fresh .hallway ⟨0, 0⟩ .sparing).Throughout
      (fun e _ op => e.ambient.clock ≤ (e.attempt op).2.ambient.clock)
      [.saveNow [], .wait 500 0] := by
    have hops : [.saveNow [], .wait 500 0] = [] ++ [Operation.saveNow []] ++ [.wait 500 0] := rfl
    rw [hops, throughout_snoc, throughout_snoc]
    exact ⟨⟨throughout_nil, by decide +kernel⟩, by decide +kernel⟩
  have hlog : ((fresh .hallway ⟨0, 0⟩ .sparing).journal [.saveNow [], .wait 500 0]).map
      (·.clock) = [0] := by decide +kernel
  have hheeds : Autosave.heeds justSaved.autosave.config "flag-change" = true := by decide +kernel
  have hdone : (justSaved.attempt (.setFlag (.text "lamp") (.bool true))).1 = true := by
    decide +kernel
  have hless : (Number.double ((Time.seconds justSaved.ambient.clock).sub (Time.seconds 0))).less
      justSaved.autosave.config.throttle = true := by decide +kernel
  obtain ⟨s, hs, hzero⟩ := List.mem_map.mp (hlog ▸ List.mem_singleton_self (0 : Int))
  have hrecent : Recent justSaved.autosave.config.throttle justSaved.ambient.clock s.clock := by
    rw [hzero]
    exact hless
  have hthrottles : justSaved.Throttles _ := saves_throttled Story.hallway_made hmake hclock
  obtain ⟨seconds, hr, hshelf, _⟩ :=
    hthrottles.dropped (.setFlag (.text "lamp") (.bool true)) "flag-change" s rfl hdone hheeds hs
      hrecent
  exact ⟨seconds, hr, hshelf⟩

end Engine
end Storyline
