import Storyline.Proofs.Breakage
import Storyline.Proofs.Mutation
import Storyline.Proofs.Stored
import Storyline.Proofs.Template
import Storyline.Proofs.Written

namespace Storyline

theorem Digest.hex_ne_empty (text : String) : hex text ≠ "" := by
  intro h
  have hl := congrArg (fun s => s.toList.length) h
  simp [hex, Words.toList, Text.hexDigits] at hl

namespace Save
variable {story : Story} {a : Ambient} {s : NarrativeState} {o : SaveOptions} {p : Parts}
  {storyId : String} {envelope : Entries Value}

def signed (storyId : String) (a : Ambient) (o : SaveOptions) (digest : Option String) :
    Entries Value :=
  metadataOf storyId a o ++ (digest.map fun d => ("checksum", Value.text d)).toList

/-- A save is built of its state, its events and its metadata, and its checksum is the one that is
found in it. -/
theorem build_eq_ok (h : build storyId a s o p = .ok envelope) :
    ∃ digest, digest.isSome = o.checksum ∧
      (∀ d, digest = some d → d ≠ "" ∧ checksum envelope = .ok d) ∧
      envelope = [("state", s.payload),
        ("flowEvents", .list (if o.events then p.events.map .record else [])),
        ("metadata", .record (signed storyId a o digest))] ++ partsOf o p := by
  unfold build at h
  split at h
  · obtain ⟨_, _, h⟩ := bind_eq_ok.mp h
    split at h
    · unfold finished at h
      split at h
      · rename_i hc
        obtain ⟨d, hd, rfl⟩ := map_eq_ok.mp (mapError_eq_ok.mp h)
        refine ⟨some d, hc.symm, ?_, rfl⟩
        rintro _ ⟨⟩
        obtain ⟨text, _, rfl⟩ := map_eq_ok.mp hd
        exact ⟨Digest.hex_ne_empty text, hd⟩
      · rename_i hc
        cases h
        exact ⟨none, by simpa using hc, nofun, by rw [signed, plain]; simp⟩
    · cases h
  · cases h

/-- Only the record that is presented counts, not how it is presented. -/
theorem check_congr {lo : LoadOptions} {data data' : Value} (h : document data = document data') :
    check story lo data = check story lo data' := by
  simp only [check, copied, h]

/-- A record is recognised if it is of this story and this version, and not compressed. -/
theorem recognise_current {lo : LoadOptions} {x : Envelope}
    (hread : Envelope.read (.record envelope) = .ok x)
    (hstory : x.metadata.storyId = some story.identity)
    (hversion : x.metadata.engineVersion = Version.currentText)
    (hcompression : x.metadata.compression = .none) :
    recognise story lo envelope = .ok (x, []) := by
  refine recognise_eq_ok.mpr ⟨hread, [], ?_, ?_, hcompression⟩
  · simp [checkStory, hstory]
  · unfold withVersion
    rw [hversion]
    split
    · rfl
    · rfl

/-- A checksum that is right passes the verification. -/
theorem verify_signed {lo : LoadOptions} {m : Metadata}
    (hthere : lo.verifyChecksum = true → m.checksum.isSome = true)
    (hsum : ∀ d, m.checksum = some d → d ≠ "" ∧ checksum envelope = .ok d) (ws : List Warning) :
    verify lo envelope m ws = .ok () := by
  unfold verify
  split
  · rename_i hwanted
    obtain ⟨d, hd⟩ := Option.isSome_iff_exists.mp (hthere hwanted)
    obtain ⟨hne, hc⟩ := hsum d hd
    simp [checkSum, hd, hne, hc]
  · rfl

end Save

namespace Engine
open Schema
variable {e e₁ e' saver : Engine} {o : Save.SaveOptions} {lo : Save.LoadOptions}
  {envelope : Entries Value}

/-- What an engine saves passes all checks for its story, and has the state and the trail of the
engine in it. -/
theorem check_save (hs : saver.Sound) (h : saver.save o = .ok envelope)
    (hp : (Value.record envelope).isPlain = true) (hshort : (Value.record envelope).isShort = true)
    (hm : lo.migration = none) (hv : lo.verifyChecksum = true → o.checksum = true) :
    ∃ l, Save.check saver.story lo (.record envelope) = .ok l ∧ l.state = saver.state ∧
      (o.events = true → l.envelope.events.map (·.event) = saver.events) := by
  obtain ⟨digest, hdigest, hsum, henv⟩ := Save.build_eq_ok (mapError_eq_ok.mp h)
  have hshown := hs.story.shown_of_has hs.live.known
  obtain ⟨m, hm', hversion, hstory, hchecksum, hcompression⟩ :=
    Save.Metadata.read_metadataOf saver.story.identity saver.ambient o digest
  have hevents : list Save.EventRecord.read
      (.list (if o.events then saver.parts.events.map .record else [])) =
        .ok (if o.events then saver.events.map fun x => ⟨x, []⟩ else []) := by
    split
    · exact Save.EventRecord.list_fields hs.timed
    · rfl
  obtain ⟨x, hx, hxs, hxe, hxm⟩ := Save.Envelope.read_parts (Save.StateRecord.read_payload hshown)
    hevents hm' o saver.parts.events saver.performance saver.branching saver.ruleRecord
  have hread : Save.Envelope.read (.record envelope) = .ok x := by
    rw [henv]
    exact hx
  have hrec : Save.recognise saver.story lo envelope = .ok (x, []) := by
    rw [← hxm] at hstory hversion hcompression
    exact Save.recognise_current hread hstory hversion hcompression
  have hverify : Save.verify lo envelope x.metadata [] = .ok () := by
    rw [← hxm] at hchecksum
    rw [← hchecksum] at hdigest hsum
    exact Save.verify_signed (fun hwanted => hdigest.trans (hv hwanted)) hsum []
  obtain ⟨n, hn⟩ := isOk_eq_true.mp ((Save.sizeOf_isOk (.record envelope)).trans hshort)
  have hstate : Save.stateIn saver.story x [] = .ok saver.state := by
    refine Save.stateIn_eq_ok.mpr ⟨?_, hs.live.known⟩
    rw [hxs]
    exact Save.StateRecord.state_of_fits hs.live hs.story []
  refine ⟨⟨saver.state, x, n, []⟩, ?_, rfl, ?_⟩
  · rw [Save.check_recognised hp hm ⟨rfl, hrec⟩, hverify, hstate, hn]
    rfl
  · intro ho
    simp [hxe, ho, Function.comp_def]

/-- One engine has the state of another, and of its other parts those that the save has and the load
restores. -/
structure Reproduces (o : Save.SaveOptions) (lo : Save.LoadOptions) (saver e : Engine) : Prop where
  state : e.state = saver.state
  events : o.events = true → lo.restoreEvents = true → e.events = saver.events

/-- Loading a save that passes all checks succeeds, unless an automatic save gets in the way. -/
theorem load_accepted {data : Value} {l : Save.Loaded} (he : e.Sound)
    (hpattern : Template.usesOnly Autosave.placeholders e.autosave.config.pattern = true)
    (hl : Save.check e.story lo data = .ok l) :
    ∃ e', e.load lo data = (.ok l.result, e') ∧ e'.state = l.state ∧
      (lo.restoreEvents = true → e'.events = l.envelope.events.map (·.event)) := by
  obtain ⟨e₁, hs, hst, hev, hauto, _, hload⟩ := load_checked he hl
  have hno : ¬ e₁.autosave.Escapes e₁.ambient e₁.state.node Autosave.Trigger.stateLoad.name := by
    rintro ⟨_, _, f, hf, hesc⟩
    rw [Autosave.nameFor_documented (by rw [hauto]; exact hpattern) hf] at hesc
    cases hesc
  rw [← happened_breaks hs .stateLoad [("nodeId", .text l.state.node)]] at hno
  rcases hh : e₁.happened .stateLoad [("nodeId", .text l.state.node)] with ⟨f | r, e'⟩
  · exact absurd ⟨f, by rw [hh]⟩ hno
  · have halike := happened_alike hh
    refine ⟨e', by rw [hload, hh]; rfl, halike.state.trans hst, ?_⟩
    intro ho
    rw [halike.events, hev, if_pos ho]

theorem load_document {data : Value} (he : e.Sound) (hs : saver.Sound)
    (hstory : e.story = saver.story)
    (hpattern : Template.usesOnly Autosave.placeholders e.autosave.config.pattern = true)
    (h : saver.save o = .ok envelope) (hp : (Value.record envelope).isPlain = true)
    (hshort : (Value.record envelope).isShort = true) (hm : lo.migration = none)
    (hv : lo.verifyChecksum = true → o.checksum = true)
    (hd : Save.document data = .ok envelope) :
    ∃ r e', e.load lo data = (.ok r, e') ∧ r.success = true ∧ Reproduces o lo saver e' := by
  obtain ⟨l, hl, hst, hev⟩ := check_save hs h hp hshort hm hv
  have hl' : Save.check e.story lo data = .ok l := by
    have hsame : Save.document data = Save.document (.record envelope) := hd
    rw [hstory, Save.check_congr hsame]
    exact hl
  obtain ⟨e', hload, hst', hev'⟩ := load_accepted he hpattern hl'
  exact ⟨l.result, e', hload, rfl, hst'.trans hst, fun ho hr => (hev' hr).trans (hev ho)⟩

/-- What one engine saves, every other engine of the story loads: as a record, from each of its JSON
texts, and from a store under the key it was saved under. -/
theorem load_save_reproduces (hsaver : saver.Reachable) (he : e.Reachable)
    (hstory : e.story = saver.story)
    (hpattern : Template.usesOnly Autosave.placeholders e.autosave.config.pattern = true)
    (h : saver.save o = .ok envelope) (hp : (Value.record envelope).isPlain = true)
    (hshort : (Value.record envelope).isShort = true)
    (hproper : (Value.record envelope).isProper = true) (hm : lo.migration = none)
    (hv : lo.verifyChecksum = true → o.checksum = true) :
    (∃ r e', e.load lo (.record envelope) = (.ok r, e') ∧ r.success = true ∧
      Reproduces o lo saver e') ∧
    (∀ l : Json.Layout, l.Legible → ∃ text r e', Json.write l (.record envelope) = .ok text ∧
      e.load lo (.text text) = (.ok r, e') ∧ r.success = true ∧ Reproduces o lo saver e') ∧
    ∀ key r saved, saver.saveTo key o = (.ok r, saved) → r.success = true →
      e.storage = saved.storage →
      ∃ r e', e.loadFrom key lo = (.ok r, e') ∧ r.success = true ∧ Reproduces o lo saver e' := by
  have hload : ∀ {data : Value}, Save.document data = .ok envelope →
      ∃ r e', e.load lo data = (.ok r, e') ∧ r.success = true ∧ Reproduces o lo saver e' :=
    load_document he.sound hsaver.sound hstory hpattern h hp hshort hm hv
  refine ⟨hload rfl, ?_, ?_⟩
  · intro l hl
    have hwrite : (Json.write l (.record envelope)).isOk = true := by
      simp [Json.write, Json.writeAt_isOk, hp, hshort]
    obtain ⟨text, htext⟩ := isOk_eq_true.mp hwrite
    have hread := Json.read_write hl hp hproper htext
    have hdocument : Save.document (.text text) = .ok envelope := by simp [Save.document, hread]
    obtain ⟨r, e', hr⟩ := hload hdocument
    exact ⟨text, r, e', htext, hr⟩
  · intro key r saved hsave hr hstorage
    have hfetch : Save.fetchFrom e.storage key = .ok (.record envelope) := by
      simp only [saveTo, h, Prod.mk.injEq] at hsave
      obtain ⟨hres, rfl⟩ := hsave
      rw [hstorage]
      exact Save.fetchFrom_saved hp hproper (Prod.ext (mapError_eq_ok.mp hres) rfl) hr
    unfold loadFrom
    rw [hfetch]
    exact hload rfl

/-- An engine in the hall with a flag that was set at the gate, and a store. -/
def inHall : Engine :=
  atGate.after [.setFlag (.text "lit") (.bool true), .choose (.int 0) none,
    .replaceStore (some (.memory []))]

theorem inHall_reachable : inHall.Reachable := .next _ (.next _ (.next _ atGate_reachable))

/-- State and trail are the same after a load from the document, from its text and from the
store. -/
theorem load_save_hallway :
    let lo : Save.LoadOptions := { restoreEvents := true }
    let saved := (inHall.saveTo (.text "slot") { events := true }).2
    let other := (atGate.attempt (.replaceStore saved.storage)).2
    let hall : NarrativeState := ⟨"hall", [("lit", .bool true)], ["gate", "hall"]⟩
    ∃ envelope, inHall.save { events := true } = .ok envelope ∧
      (∃ r e', other.load lo (.record envelope) = (.ok r, e') ∧ r.success = true ∧
        e'.state = hall ∧ e'.events = inHall.events) ∧
      (∃ text r e', Json.write .oneLine (.record envelope) = .ok text ∧
        other.load lo (.text text) = (.ok r, e') ∧ r.success = true ∧ e'.state = hall) ∧
      ∃ r e', other.loadFrom (.text "slot") lo = (.ok r, e') ∧ r.success = true ∧
        e'.state = hall := by
  intro lo saved other hall
  have hsave : inHall.save { events := true } = .ok _ := rfl
  have hsaved : inHall.saveTo (.text "slot") { events := true } = (.ok _, saved) := rfl
  have hother : other.Reachable := .next _ atGate_reachable
  have hverify : lo.verifyChecksum = true →
      ({ events := true } : Save.SaveOptions).checksum = true := nofun
  obtain ⟨⟨r₁, e₁, hload₁, hr₁, h₁⟩, htext, hstore⟩ := load_save_reproduces inHall_reachable hother
    rfl rfl hsave rfl rfl rfl (rfl : lo.migration = none) hverify
  obtain ⟨text, r₂, e₂, hwrite, hload₂, hr₂, h₂⟩ := htext .oneLine Json.Layout.oneLine_legible
  obtain ⟨r₃, e₃, hload₃, hr₃, h₃⟩ := hstore (.text "slot") _ saved hsaved rfl rfl
  exact ⟨_, hsave, ⟨r₁, e₁, hload₁, hr₁, h₁.state, h₁.events rfl rfl⟩,
    ⟨text, r₂, e₂, hwrite, hload₂, hr₂, h₂.state⟩, r₃, e₃, hload₃, hr₃, h₃.state⟩

end Engine
end Storyline
