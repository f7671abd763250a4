import Storyline.Proofs.Crowding
import Storyline.Proofs.Escape

namespace Storyline

/-- Only flags and details of a checkpoint can be too long to be written. -/
theorem Checkpoint.fields_isShort (c : Checkpoint) : (Value.record c.fields).isShort =
    (Value.allFieldsShort c.state.flags && Value.allFieldsShort c.metadata) := by
  have htexts : ∀ ss : List String, (Value.texts ss).isShort = true := by
    intro ss
    induction ss with
    | nil => rfl
    | cons s rest ih => exact ih
  cases hn : c.name <;> cases hd : c.description <;>
    simp [Value.isShort, Value.allFieldsShort, fields, NarrativeState.payload, htexts, hn, hd]

theorem Autosave.throttled?_eq_some {s : Autosave} {a : Ambient} {fault : Fault}
    (h : s.throttled? a = some fault) : ∃ seconds, fault = .throttled seconds := by
  unfold throttled? at h
  split at h
  · cases h
  · split at h
    · cases h
      exact ⟨_, rfl⟩
    · cases h

namespace Engine
variable {e e' : Engine} {trigger : String} {metadata : Entries Value} {r : Autosave.Result}

/-- A checkpoint was made of a flag or detail that is too long to be written. It stays like any
other that is made, and crowds out others. -/
structure Orphaned (e : Engine) (c : Checkpoint) (shelf : Shelf) : Prop where
  state : c.state = e.state
  overlong : (Value.allFieldsShort c.state.flags && Value.allFieldsShort c.metadata) = false
  stays : c ∈ shelf.checkpoints ↔ ¬ e.shelf.Outdone e.shelf.strategy e.shelf.limit c
  others : ∀ d, c.id ≠ d.id →
    (d ∈ shelf.checkpoints ↔ d ∈ e.shelf.checkpoints ∧ ¬ e.shelf.CrowdsOut c d)

/-- How a save fails, and the shelf and the surroundings afterwards. -/
inductive Residue (e : Engine) (metadata : Entries Value) :
    Autosave.Fault → Shelf → Ambient → Prop
  | throttled {seconds : String} : Residue e metadata (.throttled seconds) e.shelf e.ambient
  | unnamed {f : Template.Fault} : Residue e metadata (.name f) e.shelf e.ambient
  | counted : Value.allFieldsCopyable metadata = false →
    Residue e metadata (.checkpoint .uncopyable) e.shelf.counting e.ambient
  | orphan {f : Json.WriteFault} {c : Checkpoint} {shelf : Shelf} : e.Orphaned c shelf →
    Residue e metadata (.size f) shelf e.ambient.issue

/-- What is left of a save that failed. -/
structure Failed (e e' : Engine) (trigger : String) (metadata : Entries Value)
    (r : Autosave.Result) : Prop where
  remembered : e'.autosave = { e.autosave with last := some r }
  frame : e' = { e with autosave := e'.autosave, shelf := e'.shelf, ambient := e'.ambient }
  residue : ∃ fault, r = ⟨trigger, .error fault⟩ ∧ e.Residue metadata fault e'.shelf e'.ambient
  spared : (∀ f, r.saved ≠ .error (.size f)) → e'.shelf.checkpoints = e.shelf.checkpoints

/-- What is on the shelf after a save whose checkpoint turns out to have no size. -/
theorem orphaned {name : String} {c : Checkpoint} {shelf : Shelf} {a : Ambient}
    {f : Json.WriteFault} (h : e.Sound) (ho : e.shelf.Orderly)
    (hcreate : e.shelf.create e.ambient (Autosave.draft e.autosave.config (e.job trigger metadata)
      e.state name) = (.ok c, shelf, a)) (hsize : Autosave.sizeOf c = .error f) :
    e.Orphaned c shelf ∧ a = e.ambient.issue := by
  obtain ⟨_, hc, ⟨count, hcleaned⟩, ha⟩ := Shelf.create_eq_ok hcreate
  have hsequence : c.sequence = e.shelf.sequence + 1 := (Shelf.checkpointFor_fields hc).2.2
  obtain ⟨strategy, hstrategy, hstays, _⟩ :=
    Shelf.put_stays _ ho hsequence (le_refl 0) hcleaned
  cases hstrategy
  refine ⟨⟨?_, ?_, hstays, fun d hd => Shelf.create_mem_iff ho rfl rfl hcreate hd⟩, ha⟩
  · exact Except.ok.inj ((Shelf.create_state hcreate).symm.trans h.clone)
  · rw [← Checkpoint.fields_isShort, ← Save.sizeOf_isOk]
    exact isOk_eq_false.mpr ⟨f, hsize⟩

/-- An attempt to save that fails. -/
theorem save_residue (h : e.Sound) (ho : e.shelf.Orderly) {a : Autosave.Attempt}
    (ha : e.autosave.save e.shelf e.ambient (e.job trigger metadata) = a)
    (hr : a.result = .ok r) (hf : r.success = false) :
    a.autosave = { e.autosave with last := some r } ∧
      ∃ fault, r = ⟨trigger, .error fault⟩ ∧ e.Residue metadata fault a.shelf a.ambient := by
  have hcaptured : (e.job trigger metadata).captured = .ok e.state := h.clone
  unfold Autosave.save at ha
  rw [hcaptured] at ha
  dsimp only at ha
  split at ha
  · split at ha
    · subst ha
      cases hr
    · subst ha
      cases hr
      exact ⟨rfl, _, rfl, .unnamed⟩
  · rename_i name _
    cases hcopy : Value.allFieldsCopyable
        (Autosave.draft e.autosave.config (e.job trigger metadata) e.state name).metadata with
    | false =>
      rw [Shelf.create_uncopyable hcopy] at ha
      subst ha
      cases hr
      refine ⟨rfl, _, rfl, .counted ?_⟩
      cases hm : Value.allFieldsCopyable metadata with
      | false => rfl
      | true => exact absurd ((Value.allFieldsCopyable_merge rfl hm).symm.trans hcopy) (by decide)
    | true =>
      obtain ⟨c, shelf, a', hcreate⟩ := Shelf.create_succeeds.mpr
        ⟨hcopy, isOk_eq_true.mpr ⟨_, h.clone⟩, rfl⟩
      rw [hcreate] at ha
      dsimp only at ha
      split at ha
      · rename_i f hsize
        obtain ⟨horphan, rfl⟩ := orphaned h ho hcreate hsize
        subst ha
        cases hr
        exact ⟨rfl, _, rfl, .orphan horphan⟩
      · subst ha
        cases hr
        cases hf

/-- Checkpoints are touched only if one was made. -/
theorem Residue.spared {fault : Autosave.Fault} {shelf : Shelf} {a : Ambient}
    (h : e.Residue metadata fault shelf a) (hf : ∀ f, fault ≠ .size f) :
    shelf.checkpoints = e.shelf.checkpoints := by
  cases h with
  | throttled | unnamed | counted _ => rfl
  | orphan _ => exact absurd rfl (hf _)

theorem attempted_failed {a : Autosave.Attempt} {fault : Autosave.Fault}
    (ha : a.autosave = { e.autosave with last := some r }) (hr : r = ⟨trigger, .error fault⟩)
    (hresidue : e.Residue metadata fault a.shelf a.ambient) :
    e.Failed (e.attempted a).2 trigger metadata r := by
  refine ⟨ha, rfl, ⟨fault, hr, hresidue⟩, fun hf => hresidue.spared fun f hfault => hf f ?_⟩
  rw [hr, hfault]

theorem triggerAutosave_failed (h : e.Sound) (ho : e.shelf.Orderly)
    (ht : e.triggerAutosave trigger metadata = (.ok (some r), e')) (hf : r.success = false) :
    e.Failed e' trigger metadata r := by
  unfold triggerAutosave at ht
  split at ht
  · cases ht
  · rename_i a ha
    obtain ⟨r', _, hattempt, ht⟩ := andThen_eq_ok.mp ht
    cases ht
    obtain ⟨hr, rfl⟩ := Prod.mk.injEq _ _ _ _ ▸ hattempt
    have hr : a.result = .ok r := mapError_eq_ok.mp hr
    unfold Autosave.trigger at ha
    split at ha
    · cases ha
    · split at ha
      · cases ha
        cases hr
        rename_i hthrottled
        obtain ⟨_, rfl⟩ := Autosave.throttled?_eq_some hthrottled
        exact attempted_failed rfl rfl .throttled
      · cases ha
        obtain ⟨hlast, fault, htold, hresidue⟩ := save_residue h ho rfl hr hf
        exact attempted_failed hlast htold hresidue

theorem saveNow_failed (h : e.Sound) (ho : e.shelf.Orderly)
    (hs : e.saveNow metadata = (.ok r, e')) (hf : r.success = false) :
    e.Failed e' Autosave.manualTrigger metadata r := by
  obtain ⟨hr, rfl⟩ := Prod.mk.injEq _ _ _ _ ▸ hs
  obtain ⟨hlast, fault, htold, hresidue⟩ := save_residue h ho rfl (mapError_eq_ok.mp hr) hf
  exact attempted_failed hlast htold hresidue

/-- A flag that is too long to be written makes each save fail after its checkpoint is made. -/
theorem saveNow_overlong {name : String} (h : e.Sound) (ho : e.shelf.Orderly)
    (hname : Autosave.nameFor e.autosave.config e.ambient e.state.node Autosave.manualTrigger =
      .ok name) (hm : Value.allFieldsCopyable metadata = true)
    (hlong : Value.allFieldsShort e.state.flags = false) :
    ∃ f c e', e.saveNow metadata = (.ok ⟨Autosave.manualTrigger, .error (.size f)⟩, e') ∧
      e.Orphaned c e'.shelf := by
  let j := e.job Autosave.manualTrigger metadata
  have hcaptured : j.captured = .ok e.state := h.clone
  have hname : Autosave.nameFor e.autosave.config e.ambient e.state.node j.trigger = .ok name :=
    hname
  obtain ⟨c, shelf, a, hcreate⟩ : ∃ c shelf a, e.shelf.create e.ambient
      (Autosave.draft e.autosave.config j e.state name) = (.ok c, shelf, a) :=
    Shelf.create_succeeds.mpr
      ⟨Value.allFieldsCopyable_merge rfl hm, isOk_eq_true.mpr ⟨_, h.clone⟩, rfl⟩
  have hstate : c.state = e.state := Except.ok.inj ((Shelf.create_state hcreate).symm.trans h.clone)
  obtain ⟨f, hsize⟩ : ∃ f, Autosave.sizeOf c = .error f := by
    apply isOk_eq_false.mp
    have hisOk : (Autosave.sizeOf c).isOk = (Value.record c.fields).isShort := Save.sizeOf_isOk _
    rw [hisOk, Checkpoint.fields_isShort, hstate, hlong, Bool.false_and]
  have hsave : e.autosave.save e.shelf e.ambient j =
      e.autosave.failed shelf a j.trigger (.size f) := by
    rw [Autosave.save, hcaptured]
    simp only [hname, hcreate, hsize]
  refine ⟨f, c, (e.attempted (e.autosave.failed shelf a j.trigger (.size f))).2, ?_,
    (orphaned h ho hcreate hsize).1⟩
  rw [saveNow, hsave]
  rfl

/-- What happens is a save that may be set off. -/
theorem happened_snd (h : e.Sound) (t : Autosave.Trigger) (metadata : Entries Value) :
    (e.happened t metadata).2 = (e.triggerAutosave t.name metadata).2 := by
  unfold happened
  rw [h.settled.still, if_neg Bool.false_ne_true, andThen_returns]

/-- A save that fails, by hand or by a trigger, leaves the saves that are kept and the time of the
latest success as they were, and is remembered. On the shelf it leaves a count, if its details
refuse to be copied, and a checkpoint, if a flag or detail is too long to be written. -/
theorem failed_save_residue (h : e.Reachable) :
    (∀ trigger metadata r e', e.triggerAutosave trigger metadata = (.ok (some r), e') →
      r.success = false → e.Failed e' trigger metadata r) ∧
    (∀ metadata r e', e.saveNow metadata = (.ok r, e') → r.success = false →
      e.Failed e' Autosave.manualTrigger metadata r) ∧
    (∀ op t, op.trigger? = some t → (e.silent.attempt op).1 = true → ∃ metadata,
      (e.attempt op).2 = ((e.beforeSave op).triggerAutosave t.name metadata).2 ∧
      ∀ r e', (e.beforeSave op).triggerAutosave t.name metadata = (.ok (some r), e') →
        r.success = false → (e.beforeSave op).Failed e' t.name metadata r) ∧
    (∀ name metadata, Autosave.nameFor e.autosave.config e.ambient e.state.node
        Autosave.manualTrigger = .ok name → Value.allFieldsCopyable metadata = true →
      Value.allFieldsShort e.state.flags = false → ∃ f c e',
        e.saveNow metadata = (.ok ⟨Autosave.manualTrigger, .error (.size f)⟩, e') ∧
        e.Orphaned c e'.shelf) := by
  have ho := h.collected.orderly
  refine ⟨fun _ _ _ _ => triggerAutosave_failed h.sound ho, fun _ _ _ => saveNow_failed h.sound ho,
    ?_, fun _ _ => saveNow_overlong h.sound ho⟩
  intro op t hop hq
  obtain ⟨metadata, hattempt⟩ := attempt_concludes hop hq
  have hshelf : Shelf.Collected (e.silent.attempt op).2.story (e.silent.attempt op).2.shelf :=
    (attempt_steps e.silent op).keeps (I := fun e => Shelf.Collected e.story e.shelf)
      step_collected h.collected
  have hsound := h.sound.beforeSave op
  refine ⟨metadata, ?_, fun _ _ => triggerAutosave_failed hsound hshelf.orderly⟩
  rw [hattempt]
  exact happened_snd hsound t metadata

def overlong : Nat := Nat.pow 10 maxIntegerDigits

theorem length_toDigits_pow {k : Nat} (hk : 0 < k) :
    ¬ (Nat.toDigits 10 (Nat.pow 10 k)).length ≤ k := by
  rw [Nat.length_toDigits_le_iff (by decide) hk]
  exact Nat.lt_irrefl _

theorem overlong_not_short : (Value.int overlong).isShort = false := by
  simp only [Value.int, Value.isShort, Number.isShort, Int.natAbs_natCast,
    decide_eq_false_iff_not]
  unfold overlong
  exact length_toDigits_pow (k := maxIntegerDigits) (by decide)

/-- An engine at the gate with a flag that is too long to be written. -/
def laden : Engine := (atGate.attempt (.setFlag (.text "total") (.int overlong))).2

/-- A save whose size cannot be told fails, and its checkpoint stays on the shelf. -/
theorem failed_save_residue_laden : ∃ r e', laden.saveNow [] = (.ok r, e') ∧ r.success = false ∧
    e'.autosave.ids = [] ∧ e'.autosave.savedAt = none ∧ ∃ c, c ∈ e'.shelf.checkpoints := by
  have hladen : laden.Reachable := .next _ atGate_reachable
  obtain ⟨_, hnow, _, hlong⟩ := failed_save_residue hladen
  have hflags : Value.allFieldsShort laden.state.flags = false := by
    have hstate : laden.state.flags = [("total", .int overlong)] := rfl
    rw [hstate, Value.allFieldsShort, overlong_not_short, Bool.false_and]
  obtain ⟨f, c, e', hsave, horphan⟩ := hlong "" [] rfl rfl hflags
  have hfailed := hnow [] _ e' hsave rfl
  have hroom : ¬ laden.shelf.Outdone laden.shelf.strategy laden.shelf.limit c := by
    rintro ⟨_, hfull⟩
    have hempty : laden.shelf.checkpoints = [] := rfl
    have hlimit : laden.shelf.limit = 50 := rfl
    simp [Shelf.delete, hempty, hlimit] at hfull
  refine ⟨_, e', hsave, rfl, ?_, ?_, c, horphan.stays.mpr hroom⟩
  · rw [hfailed.remembered]
    rfl
  · rw [hfailed.remembered]
    rfl

end Engine
end Storyline
