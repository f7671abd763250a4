import Storyline.Proofs.Document
import Storyline.Proofs.Refusal
import Storyline.Proofs.Sound

namespace Storyline

namespace Save
open Schema
variable {story : Story} {o : LoadOptions} {data : Value} {raw : Entries Value} {e : Envelope}
  {ws : List Warning}

/-- What is presented as a save is a record, and the record a save of the story as far as its
structure, version and compression go. -/
structure Recognised (story : Story) (o : LoadOptions) (data : Value) (raw : Entries Value)
    (e : Envelope) (ws : List Warning) : Prop where
  document : document data = .ok raw
  envelope : recognise story o raw = .ok (e, ws)

/-- How a load without migration fails to come to a verdict, for texts without lone surrogates and
values that fit on the stack. -/
inductive Breaks (story : Story) (o : LoadOptions) (data : Value) : Prop
  | longNumber {s : String} {f : NumberFault} :
    data = .text s → Json.read s = .error (.number f) → Breaks story o data
  | checksum {raw : Entries Value} {e : Envelope} {ws : List Warning} :
    Recognised story o data raw e ws → o.verifyChecksum = true →
    e.metadata.checksum.getD "" ≠ "" → (Value.record (withoutChecksum raw)).isShort = false →
    Breaks story o data
  | blankNode {raw : Entries Value} {e : Envelope} {ws : List Warning} :
    Recognised story o data raw e ws → verify o raw e.metadata ws = .ok () →
    Text.isAllBlank e.state.node = true → Breaks story o data
  | size {raw : Entries Value} {e : Envelope} {ws : List Warning} :
    Recognised story o data raw e ws → verify o raw e.metadata ws = .ok () →
    Text.isAllBlank e.state.node = false → story.has e.state.node = true →
    (Value.record raw).isShort = false → Breaks story o data

/-- What a save has to be for a load without migration to accept it. -/
def Accepts (story : Story) (o : LoadOptions) (data : Value) : Prop :=
  ∃ raw e ws, Recognised story o data raw e ws ∧ verify o raw e.metadata ws = .ok () ∧
    story.has e.state.node = true

theorem document_plain (hp : data.isPlain = true) (h : document data = .ok raw) :
    Value.allFieldsPlain raw = true := by
  cases data with
  | text s =>
    simp only [document] at h
    split at h
    · rename_i hr
      cases h
      exact Json.read_plain hr
    · cases h
    · cases h
    · cases h
  | record fields =>
    cases h
    exact hp
  | _ => cases h

theorem copied_of_document (hp : data.isPlain = true) (h : document data = .ok raw) :
    copied data = .ok raw :=
  copied_eq_ok.mpr ⟨h, Value.allFieldsCopyable_of_plain (document_plain hp h)⟩

/-- Documents are copied, or refused, or have an integer that is too long to be read. -/
theorem copied_eq_broken (hp : data.isPlain = true) {f : LoadFault} :
    copied data = .error (.broken f) ↔
      ∃ s g, data = .text s ∧ Json.read s = .error (.number g) ∧ f = .number g := by
  constructor
  · intro h
    rcases bind_eq_error.mp h with h | ⟨raw, hd, h⟩
    · cases data with
      | text s =>
        simp only [document] at h
        split at h
        · cases h
        · cases h
        · rename_i hr
          cases h
          exact ⟨s, _, rfl, hr, rfl⟩
        · cases h
      | record _ => cases h
      | _ => cases h
    · rw [Value.allFieldsCopyable_of_plain (document_plain hp hd)] at h
      cases h
  · rintro ⟨s, g, rfl, hr, rfl⟩
    simp [copied, document, hr]

theorem recognise_not_broken {f : LoadFault} : recognise story o raw ≠ .error (.broken f) := by
  intro h
  rcases bind_eq_error.mp h with h | ⟨e, _, h⟩
  · obtain ⟨_, _, h⟩ := mapError_eq_error.mp h
    cases h
  rcases bind_eq_error.mp h with h | ⟨noted, _, h⟩
  · obtain ⟨_, _, h⟩ := mapError_eq_error.mp h
    cases h
  rcases bind_eq_error.mp h with h | ⟨ws, _, h⟩
  · unfold withVersion at h
    split at h
    · cases h
    · split at h <;> cases h
  rcases bind_eq_error.mp h with h | ⟨_, _, h⟩
  · obtain ⟨_, _, h⟩ := mapError_eq_error.mp h
    cases h
  · cases h

theorem withoutChecksum_plain (h : Value.allFieldsPlain raw = true) :
    Value.allFieldsPlain (withoutChecksum raw) = true := by
  unfold withoutChecksum
  split
  · rename_i metadata hm
    have hall := Value.allFieldsPlain_iff.mp h
    have hmeta : Value.allFieldsPlain metadata = true := hall _ (Entries.mem_of_get? hm)
    apply Value.allFieldsPlain_iff.mpr
    intro d hd
    rcases Entries.mem_put hd with hd | rfl
    · exact hall d hd
    · apply Value.allFieldsPlain_iff.mpr
      intro d hd
      exact Value.allFieldsPlain_iff.mp hmeta d (List.mem_filter.mp hd).1
  · exact h

theorem checksum_isOk (h : Value.allFieldsPlain raw = true) :
    (checksum raw).isOk = (Value.record (withoutChecksum raw)).isShort := by
  have hw := Json.writeCanonical_isOk (.record (withoutChecksum raw))
  have hp : (Value.record (withoutChecksum raw)).isPlain = true := withoutChecksum_plain h
  rw [hp, Bool.true_and] at hw
  rw [← hw, checksum, isOk_map]

theorem verify_breaks (h : Value.allFieldsPlain raw = true) {m : Metadata} :
    (∃ f, verify o raw m ws = .error (.broken f)) ↔
      o.verifyChecksum = true ∧ m.checksum.getD "" ≠ "" ∧
        (Value.record (withoutChecksum raw)).isShort = false := by
  rw [← checksum_isOk h, isOk_eq_false]
  unfold verify checkSum
  split
  · rename_i hv
    dsimp only
    split
    · rename_i hempty
      simp [hv, String.isEmpty_iff.mp hempty]
    · rename_i hempty
      have hne : m.checksum.getD "" ≠ "" := fun h => hempty (by simp [h])
      split
      · rename_i fault hc
        simp [hv, hne, hc]
      · rename_i found hc
        split <;> simp [hc]
  · rename_i hv
    simp [hv]

theorem sizeOf_isOk (v : Value) : (sizeOf v).isOk = v.isShort := by
  have hl : Json.Layout.measuring.showHosts = true := rfl
  rw [sizeOf, isOk_map, Json.write, Json.writeAt_isOk, hl, Bool.true_or, Bool.true_and]

theorem getD_null_plain (h : Value.allFieldsPlain raw = true) (key : String) :
    ((raw.get? key).getD .null).isPlain = true := by
  cases hv : raw.get? key with
  | none => rfl
  | some v => exact Value.allFieldsPlain_iff.mp h _ (Entries.mem_of_get? hv)

/-- The flags of a document can be copied, so that only its node may be no state. -/
theorem read_flags_copyable (h : Value.allFieldsPlain raw = true)
    (he : Envelope.read (.record raw) = .ok e) : Value.allFieldsCopyable e.state.flags = true := by
  obtain ⟨_, hr, hs, _⟩ := Envelope.read_eq_ok.mp he
  cases hr
  obtain ⟨name, _, hs⟩ := required_eq_ok.mp hs
  obtain ⟨fields, hf, _, hflags, _⟩ := StateRecord.read_eq_ok.mp hs
  have hplain : Value.allFieldsPlain fields = true := by
    have hp := getD_null_plain h name
    rw [hf] at hp
    exact hp
  rw [field_eq_ok] at hflags
  split at hflags
  · rename_i key _
    have hp := getD_null_plain hplain key
    cases hv : (Entries.get? fields key).getD .null with
    | record flags =>
      rw [hv] at hflags hp
      cases hflags
      exact Value.allFieldsCopyable_of_plain hp
    | _ =>
      rw [hv] at hflags
      cases hflags
  · rw [← hflags]
    rfl

/-- Whether the node of a record shows something decides whether it is a state. -/
theorem state_of_record {r : StateRecord} (h : Value.allFieldsCopyable r.flags = true) :
    r.state = if Text.isAllBlank r.node then .error (.state .blankNode)
      else .ok ⟨r.node, r.flags, if r.history.isEmpty then [r.node] else r.history⟩ := by
  simp only [StateRecord.state, h, if_true, NarrativeState.make]
  split <;> rfl

theorem stateIn_breaks (h : Value.allFieldsCopyable e.state.flags = true) :
    (∃ f, stateIn story e ws = .error (.broken f)) ↔ Text.isAllBlank e.state.node = true := by
  simp only [stateIn, state_of_record h]
  split
  · rename_i hb
    simp [hb]
  · rename_i hb
    simp only [mapError_ok, ok_bind]
    split <;> simp [hb]

theorem stateIn_shown (h : Value.allFieldsCopyable e.state.flags = true)
    (hb : Text.isAllBlank e.state.node = false) :
    (∃ s, stateIn story e ws = .ok s) ↔ story.has e.state.node = true := by
  simp [stateIn_eq_ok, state_of_record h, hb]

theorem Recognised.plain (h : Recognised story o data raw e ws) (hp : data.isPlain = true) :
    Value.allFieldsPlain raw = true :=
  document_plain hp h.document

theorem Recognised.flags_copyable (h : Recognised story o data raw e ws)
    (hp : data.isPlain = true) : Value.allFieldsCopyable e.state.flags = true :=
  read_flags_copyable (h.plain hp) (recognise_eq_ok.mp h.envelope).1

/-- What is left to check of a recognised record. -/
theorem check_recognised (hp : data.isPlain = true) (hm : o.migration = none)
    (h : Recognised story o data raw e ws) : check story o data = (do
      verify o raw e.metadata ws
      let s ← stateIn story e ws
      let n ← (sizeOf (.record raw)).mapError fun f => LoadStop.broken (.write f)
      return ⟨s, e, n, ws⟩) := by
  simp only [check, copied_of_document hp h.document, h.envelope, brought, hm, ok_bind]

/-- There is no other way for the checks to break, as long as texts have no lone surrogates and
values fit on the stack. -/
theorem breaks_of_check (hp : data.isPlain = true) (hm : o.migration = none) {f : LoadFault}
    (h : check story o data = .error (.broken f)) : Breaks story o data := by
  rcases bind_eq_error.mp h with hc | ⟨raw, hc, hr⟩
  · obtain ⟨s, g, hs, hr, _⟩ := (copied_eq_broken hp).mp hc
    exact .longNumber hs hr
  rcases bind_eq_error.mp hr with hr | ⟨⟨e, ws⟩, hr, _⟩
  · exact absurd hr recognise_not_broken
  have hrec : Recognised story o data raw e ws := ⟨(copied_eq_ok.mp hc).1, hr⟩
  have hcopy := hrec.flags_copyable hp
  rw [check_recognised hp hm hrec] at h
  rcases bind_eq_error.mp h with h | ⟨_, hv, h⟩
  · obtain ⟨hv, hne, hs⟩ := (verify_breaks (hrec.plain hp)).mp ⟨f, h⟩
    exact .checksum hrec hv hne hs
  rcases bind_eq_error.mp h with h | ⟨s, hs, h⟩
  · exact .blankNode hrec hv ((stateIn_breaks hcopy).mp ⟨f, h⟩)
  have hb : Text.isAllBlank e.state.node = false := by
    rw [← Bool.not_eq_true, ← stateIn_breaks hcopy, hs]
    simp
  rcases bind_eq_error.mp h with h | ⟨n, _, h⟩
  · obtain ⟨g, hn, _⟩ := mapError_eq_error.mp h
    refine .size hrec hv hb ((stateIn_shown hcopy hb).mp ⟨s, hs⟩) ?_
    rw [← sizeOf_isOk]
    exact isOk_eq_false.mpr ⟨g, hn⟩
  · cases h

theorem check_of_breaks (hp : data.isPlain = true) (hm : o.migration = none)
    (h : Breaks story o data) : ∃ f, check story o data = .error (.broken f) := by
  cases h with
  | longNumber hs hr =>
    have hc := (copied_eq_broken hp).mpr ⟨_, _, hs, hr, rfl⟩
    exact ⟨_, by rw [check, hc]; rfl⟩
  | @checksum raw e ws hrec hv hne hs =>
    obtain ⟨f, hf⟩ : ∃ f, verify o raw e.metadata ws = .error (.broken f) :=
      (verify_breaks (hrec.plain hp)).mpr ⟨hv, hne, hs⟩
    exact ⟨f, by rw [check_recognised hp hm hrec, hf]; rfl⟩
  | @blankNode raw e ws hrec hv hb =>
    obtain ⟨f, hf⟩ : ∃ f, stateIn story e ws = .error (.broken f) :=
      (stateIn_breaks (hrec.flags_copyable hp)).mpr hb
    exact ⟨f, by rw [check_recognised hp hm hrec, hv, hf]; rfl⟩
  | @size raw e ws hrec hv hb hk hs =>
    obtain ⟨s, hst⟩ : ∃ s, stateIn story e ws = .ok s :=
      (stateIn_shown (hrec.flags_copyable hp) hb).mpr hk
    rw [← sizeOf_isOk] at hs
    obtain ⟨g, hg⟩ := isOk_eq_false.mp hs
    exact ⟨.write g, by rw [check_recognised hp hm hrec, hv, hst, hg]; rfl⟩

/-- The checks break in these ways and in no other. -/
theorem check_breaks (hp : data.isPlain = true) (hm : o.migration = none) :
    (∃ f, check story o data = .error (.broken f)) ↔ Breaks story o data :=
  ⟨fun ⟨_, h⟩ => breaks_of_check hp hm h, check_of_breaks hp hm⟩

/-- A save that does not break the checks passes them if it is what it has to be. -/
theorem check_accepts (hp : data.isPlain = true) (hm : o.migration = none)
    (hb : ¬ Breaks story o data) : (∃ l, check story o data = .ok l) ↔ Accepts story o data := by
  constructor
  · rintro ⟨l, hl⟩
    obtain ⟨raw, e, hc, hr, hv, hbr, hs, _⟩ := check_eq_ok.mp hl
    simp only [brought, hm, Except.ok.injEq] at hbr
    obtain ⟨hst, hk⟩ := stateIn_eq_ok.mp hs
    refine ⟨raw, e, _, ⟨(copied_eq_ok.mp hc).1, hr⟩, hv, ?_⟩
    rw [hbr, ← (StateRecord.state_eq_ok hst).1]
    exact hk
  · rintro ⟨raw, e, ws, hrec, hv, hk⟩
    have hcopy := hrec.flags_copyable hp
    have hshown : Text.isAllBlank e.state.node = false := by
      cases hblank : Text.isAllBlank e.state.node with
      | false => rfl
      | true => exact absurd (.blankNode hrec hv hblank) hb
    have hshort : (Value.record raw).isShort = true := by
      cases hs : (Value.record raw).isShort with
      | true => rfl
      | false => exact absurd (.size hrec hv hshown hk hs) hb
    obtain ⟨s, hs⟩ : ∃ s, stateIn story e ws = .ok s := (stateIn_shown hcopy hshown).mpr hk
    rw [← sizeOf_isOk] at hshort
    obtain ⟨n, hn⟩ := isOk_eq_true.mp hshort
    exact ⟨⟨s, e, n, ws⟩, by rw [check_recognised hp hm hrec, hv, hs, hn]; rfl⟩

end Save

namespace Autosave
variable {s : Autosave} {shelf : Shelf} {a : Ambient} {j : Job}

/-- A trigger sets off an automatic save whose name cannot even be tried. -/
def Escapes (s : Autosave) (a : Ambient) (node trigger : String) : Prop :=
  heeds s.config trigger = true ∧ s.throttled? a = none ∧
    ∃ f, nameFor s.config a node trigger = .error f ∧ escapes f = true

theorem save_breaks {state : NarrativeState} (hj : j.captured = .ok state) :
    (∃ f, (s.save shelf a j).result = .error f) ↔
      ∃ f, nameFor s.config a state.node j.trigger = .error f ∧ escapes f = true := by
  unfold save
  rw [hj]
  dsimp only
  cases hn : nameFor s.config a state.node j.trigger with
  | error f =>
    by_cases hf : escapes f = true <;> simp [hf, failed]
  | ok name =>
    simp only [reduceCtorEq, false_and, exists_false, iff_false]
    rintro ⟨f, h⟩
    split at h
    · cases h
    · split at h <;> cases h

/-- Only the clock of the surroundings matters. -/
theorem escapes_congr {b : Ambient} (h : a.clock = b.clock) (node trigger : String) :
    s.Escapes a node trigger ↔ s.Escapes b node trigger := by
  obtain ⟨clock, issued⟩ := a
  obtain ⟨clock', issued'⟩ := b
  cases h
  rfl

end Autosave

namespace Engine
variable {e e' : Engine} {o : Save.LoadOptions} {data : Value}

theorem attempted_breaks (a : Autosave.Attempt) :
    (∃ f, (andThen (e.attempted a) fun r e => (.ok (some r), e)).1 = .error f) ↔
      ∃ f, a.result = .error f := by
  cases hr : a.result <;> simp [attempted, andThen, hr]

theorem triggerAutosave_breaks (h : e.Sound) (trigger : String) (metadata : Entries Value) :
    (∃ f, (e.triggerAutosave trigger metadata).1 = .error f) ↔
      e.autosave.Escapes e.ambient e.state.node trigger := by
  have hsave : (∃ f, (e.autosave.save e.shelf e.ambient (e.job trigger metadata)).result =
      .error f) ↔ _ := Autosave.save_breaks h.clone
  unfold triggerAutosave Autosave.trigger Autosave.Escapes
  by_cases hh : Autosave.heeds e.autosave.config trigger = true
  · cases ht : e.autosave.throttled? e.ambient with
    | some fault => simp [job, hh, attempted_breaks, Autosave.failed]
    | none => simpa [job, hh, attempted_breaks] using hsave
  · simp [job, hh]

/-- What happens brings the engine down only by an automatic save. -/
theorem happened_breaks (h : e.Sound) (trigger : Autosave.Trigger) (metadata : Entries Value) :
    (∃ f, (e.happened trigger metadata).1 = .error f) ↔
      e.autosave.Escapes e.ambient e.state.node trigger.name := by
  rw [← triggerAutosave_breaks h trigger.name metadata]
  unfold happened
  rw [h.settled.still]
  rcases e.triggerAutosave trigger.name metadata with ⟨f | r, e'⟩ <;> simp [andThen]

/-- A sound engine can always be tracked, if the metadata can be kept. -/
theorem track_ok (h : e.Sound) (action : Action) {metadata : Entries Value}
    (hm : Value.allFieldsCopyable metadata = true) :
    ∃ timeline ambient, e.track action metadata = (.ok (), { e with timeline, ambient }) ∧
      ambient.clock = e.ambient.clock := by
  obtain ⟨x, t, a, hr, ha⟩ := Timeline.record_ok e.timeline e.ambient action h.clone hm
  exact ⟨t, a, by simp [track, hr], ha⟩

/-- A load comes to no verdict: the checks break, or the automatic save behind them does. -/
def LoadBreaks (e : Engine) (o : Save.LoadOptions) (data : Value) : Prop :=
  Save.Breaks e.story o data ∨ ∃ l, Save.check e.story o data = .ok l ∧
    e.autosave.Escapes e.ambient l.state.node Autosave.Trigger.stateLoad.name

/-- What follows when all checks are passed. -/
theorem load_checked (h : e.Sound) {l : Save.Loaded} (hl : Save.check e.story o data = .ok l) :
    ∃ e₁ : Engine, e₁.Sound ∧ e₁.state = l.state ∧
      e₁.events = (if o.restoreEvents then l.envelope.events.map (·.event) else e.events) ∧
      e₁.autosave = e.autosave ∧ e₁.ambient.clock = e.ambient.clock ∧ e.load o data =
        andThen (e₁.happened .stateLoad [("nodeId", .text l.state.node)]) fun _ e =>
          (.ok l.result, e) := by
  have hm : Value.allFieldsCopyable [("nodeId", .text e.state.node)] = true := rfl
  obtain ⟨t, a, ht, ha⟩ := track_ok h .stateLoad hm
  have hs : ({ e with timeline := t, ambient := a } : Engine).Sound := by
    have hs := h.track .stateLoad [("nodeId", .text e.state.node)]
    rw [ht] at hs
    exact hs
  refine ⟨({ e with timeline := t, ambient := a } : Engine).restored o l, hs.restored hl, rfl,
    rfl, rfl, ha, ?_⟩
  simp [load, Save.load, hl, ht, andThen]

theorem load_broken {f : Save.LoadFault} (h : Save.check e.story o data = .error (.broken f)) :
    e.load o data = (.error (.load f), e) := by
  simp [load, Save.load, h]

theorem load_refused {r : Save.Refusal} {ws : List Save.Warning}
    (h : Save.check e.story o data = .error (.refused r ws)) :
    e.load o data = (.ok (.failure r.message (ws.map Save.Warning.message)), e) := by
  simp [load, Save.load, h]

/-- After all checks, only the automatic save can fail. -/
theorem load_checked_breaks (h : e.Sound) {l : Save.Loaded}
    (hl : Save.check e.story o data = .ok l) :
    (∃ f e', e.load o data = (.error f, e')) ∧
        e.autosave.Escapes e.ambient l.state.node Autosave.Trigger.stateLoad.name ∨
      (∃ e', e.load o data = (.ok l.result, e')) ∧
        ¬ e.autosave.Escapes e.ambient l.state.node Autosave.Trigger.stateLoad.name := by
  obtain ⟨e₁, hs, hst, _, hauto, hclock, hload⟩ := load_checked h hl
  have hescapes := happened_breaks hs .stateLoad [("nodeId", .text l.state.node)]
  rw [hst, hauto, Autosave.escapes_congr hclock] at hescapes
  rw [hload, ← hescapes]
  rcases e₁.happened .stateLoad [("nodeId", .text l.state.node)] with ⟨f | r, e₂⟩
  · exact .inl ⟨⟨f, e₂, rfl⟩, f, rfl⟩
  · exact .inr ⟨⟨e₂, rfl⟩, by simp⟩

/-- When loading a document without a migration comes to a verdict, and what the verdict is. Texts
with lone surrogates and values beyond the stack are left aside. -/
theorem load_breaks_iff (h : e.Reachable) (hm : o.migration = none) (hp : data.isPlain = true) :
    ((∃ f e', e.load o data = (.error f, e')) ↔ e.LoadBreaks o data) ∧
      (¬ e.LoadBreaks o data →
        ∃ r e', e.load o data = (.ok r, e') ∧
          (r.success = true ↔ Save.Accepts e.story o data)) := by
  have hbreaks : (∃ f, Save.check e.story o data = .error (.broken f)) ↔ _ :=
    Save.check_breaks hp hm
  have haccepts : ¬ Save.Breaks e.story o data → _ := Save.check_accepts hp hm
  cases hc : Save.check e.story o data with
  | error stop =>
    have hno : ∀ l, Save.check e.story o data ≠ .ok l := by simp [hc]
    cases stop with
    | broken f =>
      have hb : e.LoadBreaks o data := .inl (hbreaks.mp ⟨f, hc⟩)
      exact ⟨⟨fun _ => hb, fun _ => ⟨_, _, load_broken hc⟩⟩, fun hnot => absurd hb hnot⟩
    | refused r ws =>
      have hb : ¬ Save.Breaks e.story o data := fun hb => by
        obtain ⟨f, hf⟩ := hbreaks.mpr hb
        simp [hc] at hf
      have hnot : ¬ e.LoadBreaks o data := by
        rintro (hb' | ⟨l, hl, _⟩)
        · exact hb hb'
        · exact hno l hl
      have hload := load_refused hc
      refine ⟨⟨by simp [hload], fun hb' => absurd hb' hnot⟩, fun _ => ⟨_, _, hload, ?_⟩⟩
      rw [← haccepts hb]
      simp [Save.Result.success, Save.Result.failure, hc]
  | ok l =>
    have hb : ¬ Save.Breaks e.story o data := fun hb => by
      obtain ⟨f, hf⟩ := hbreaks.mpr hb
      simp [hc] at hf
    have hiff : e.LoadBreaks o data ↔
        e.autosave.Escapes e.ambient l.state.node Autosave.Trigger.stateLoad.name := by
      simp [LoadBreaks, hb, hc]
    rw [hiff]
    rcases load_checked_breaks h.sound hc with ⟨hf, hesc⟩ | ⟨⟨e', hload⟩, hesc⟩
    · exact ⟨⟨fun _ => hesc, fun _ => hf⟩, fun hnot => absurd hesc hnot⟩
    · refine ⟨⟨by simp [hload], fun hb' => absurd hb' hesc⟩, fun _ => ⟨l.result, e', hload, ?_⟩⟩
      rw [← haccepts hb]
      simp [Save.Loaded.result, Save.Result.ok, Save.Result.success, hc]

/-- A save whose node is a single blank, which is a text but no state. -/
def blankSave : Value :=
  .record [("state", .record [("currentNodeId", .text " ")]),
    ("metadata", .record [("engineVersion", .text "1.0.0"), ("timestamp", .text "")])]

theorem not_recognised_empty {story : Story} {o : Save.LoadOptions} {raw : Entries Value}
    {envelope : Save.Envelope} {ws : List Save.Warning} :
    ¬ Save.Recognised story o (.record []) raw envelope ws := by
  rintro ⟨hd, hr⟩
  cases hd
  cases (Save.recognise_eq_ok.mp hr).1

/-- A save whose node is blank breaks a load. One without a node is refused. -/
theorem load_breaks_blank :
    (∃ f e', atGate.load {} blankSave = (.error f, e')) ∧
      ∃ r e', atGate.load {} (.record []) = (.ok r, e') ∧ r.success = false := by
  constructor
  · exact (load_breaks_iff atGate_reachable rfl rfl).1.mpr (.inl (.blankNode ⟨rfl, rfl⟩ rfl rfl))
  · have hno : ¬ atGate.LoadBreaks {} (.record []) := by
      rintro (hb | ⟨l, hl, _⟩)
      · cases hb with
        | longNumber h => cases h
        | checksum h | blankNode h | size h => exact not_recognised_empty h
      · cases hl
    obtain ⟨r, e', hl, hr⟩ := (load_breaks_iff atGate_reachable rfl rfl).2 hno
    refine ⟨r, e', hl, ?_⟩
    cases hs : r.success with
    | false => rfl
    | true =>
      obtain ⟨_, _, _, h, _⟩ := hr.mp hs
      exact absurd h not_recognised_empty

end Engine
end Storyline
