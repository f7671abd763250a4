import Storyline.Proofs.Json.Canonical
import Storyline.Proofs.RoundTrip

namespace Storyline

namespace Save
open Schema Value
variable {story : Story} {o : LoadOptions} {data : Value}
  {raw raw' metadata metadata' : Entries Value}

/-- The checksum that a save carries. -/
def carried? (raw : Entries Value) : Option Value := do
  let metadata ← raw.record? "metadata"
  metadata.get? "checksum"

/-- The digests of the canonical texts of two saves do not collide. -/
def NoCollision (raw raw' : Entries Value) : Prop :=
  ∀ text text', Json.writeCanonical (.record (withoutChecksum raw)) = .ok text →
    Json.writeCanonical (.record (withoutChecksum raw')) = .ok text' →
    Digest.hex text = Digest.hex text' → text = text'

/-- The verification stops a load that has got so far: the save carries no checksum, or another than
it should, or none can be taken of it. -/
def Unverified (story : Story) (o : LoadOptions) (data : Value) : Prop :=
  ∃ raw envelope warnings stop, copied data = .ok raw ∧
    recognise story o raw = .ok (envelope, warnings) ∧
    verify o raw envelope.metadata warnings = .error stop

theorem carried?_eq_some {v : Value} : carried? raw = some v ↔
    ∃ metadata, raw.get? "metadata" = some (.record metadata) ∧
      Entries.get? metadata "checksum" = some v := by
  simp only [carried?, Entries.record?, Option.bind_eq_bind, Option.bind_eq_some_iff]
  constructor
  · rintro ⟨metadata, ⟨w, hw, hr⟩, hv⟩
    cases w <;> cases hr
    exact ⟨metadata, hw, hv⟩
  · rintro ⟨metadata, hm, hv⟩
    exact ⟨metadata, ⟨_, hm, rfl⟩, hv⟩

/-- The checksum that is carried is the one that is read. -/
theorem read_carried {envelope : Envelope} {digest : String}
    (h : Envelope.read (.record raw) = .ok envelope) (hc : carried? raw = some (.text digest)) :
    envelope.metadata.checksum = some digest := by
  obtain ⟨metadata, hm, hd⟩ := carried?_eq_some.mp hc
  obtain ⟨_, hf, _, _, hread, _⟩ := Envelope.read_eq_ok.mp h
  cases hf
  obtain ⟨name, hn, hread⟩ := required_eq_ok.mp hread
  rw [nameIn?_metadata hn, hm] at hread
  obtain ⟨_, hf, _, _, _, hread, _⟩ := Metadata.read_eq_ok.mp hread
  cases hf
  have hname : nameIn? metadata "checksum" = some "checksum" := by
    have hw : wireName "checksum" = "checksum" := by decide
    simp [nameIn?, hw, Entries.has, hd]
  rw [field_eq_ok, hname] at hread
  simpa [hd, Schema.optional, Schema.text, eq_comm] using hread

section
variable (hm : raw.get? "metadata" = some (.record metadata))
include hm

theorem withoutChecksum_eq_put :
    withoutChecksum raw = raw.put "metadata" (.record (Entries.erase metadata "checksum")) := by
  simp [withoutChecksum, hm]

theorem withoutChecksum_metadata :
    (withoutChecksum raw).get? "metadata" = some (.record (Entries.erase metadata "checksum")) := by
  rw [withoutChecksum_eq_put hm, Entries.get?_put_self]

theorem withoutChecksum_get? {key : String} (h : key ≠ "metadata") :
    (withoutChecksum raw).get? key = raw.get? key := by
  rw [withoutChecksum_eq_put hm, Entries.get?_put_of_ne _ _ h]

theorem withoutChecksum_proper (h : (Value.record raw).isProper = true) :
    (Value.record (withoutChecksum raw)).isProper = true := by
  obtain ⟨hkeys, hfields⟩ := record_proper.mp h
  obtain ⟨hkeys', hfields'⟩ := record_proper.mp (proper_of_get? h hm)
  rw [withoutChecksum_eq_put hm]
  refine record_proper.mpr ⟨?_, ?_⟩
  · rw [Entries.keys_put_of_mem (List.mem_map_of_mem (Entries.mem_of_get? hm))]
    exact hkeys
  · intro e he
    rcases Entries.mem_put he with he | rfl
    · exact hfields e he
    · refine record_proper.mpr ⟨Entries.keys_erase_nodup hkeys' _, ?_⟩
      exact fun e he => hfields' e (List.mem_filter.mp he).1

end

/-- Records that agree in one field are the same but for the order inside if they are so without
it. -/
theorem reordered_erase {fields others : Entries Value} {key : String}
    (hf : (Entries.keys fields).Nodup) (ho : (Entries.keys others).Nodup)
    (h : Option.Rel Reordered (Entries.get? fields key) (Entries.get? others key)) :
    Reordered (.record (Entries.erase fields key)) (.record (Entries.erase others key)) ↔
      Reordered (.record fields) (.record others) := by
  rw [reordered_record_iff hf ho, reordered_record_iff (Entries.keys_erase_nodup hf key)
    (Entries.keys_erase_nodup ho key)]
  refine forall_congr' fun other => ?_
  by_cases hk : other = key
  · subst hk
    simp only [Entries.get?_erase_self, h, iff_true]
    exact .none
  · rw [Entries.get?_erase_of_ne _ hk, Entries.get?_erase_of_ne _ hk]

/-- Saves that carry one checksum are the same but for the order inside if they are so without
it. -/
theorem reordered_withoutChecksum (hp : (Value.record raw).isProper = true)
    (hp' : (Value.record raw').isProper = true) {v : Value} (hc : carried? raw = some v)
    (hc' : carried? raw' = some v) (hv : Reordered v v) :
    Reordered (.record (withoutChecksum raw)) (.record (withoutChecksum raw')) ↔
      Reordered (.record raw) (.record raw') := by
  obtain ⟨metadata, hm, hd⟩ := carried?_eq_some.mp hc
  obtain ⟨metadata', hm', hd'⟩ := carried?_eq_some.mp hc'
  have hproper : ∀ {raw metadata : Entries Value}, (Value.record raw).isProper = true →
      raw.get? "metadata" = some (.record metadata) → (Entries.keys metadata).Nodup :=
    fun hp hm => (record_proper.mp (proper_of_get? hp hm)).1
  have hsame : Option.Rel Reordered (Entries.get? metadata "checksum")
      (Entries.get? metadata' "checksum") := by
    rw [hd, hd']
    exact .some hv
  have hmetadata : Option.Rel Reordered ((withoutChecksum raw).get? "metadata")
      ((withoutChecksum raw').get? "metadata") ↔
        Option.Rel Reordered (raw.get? "metadata") (raw'.get? "metadata") := by
    rw [withoutChecksum_metadata hm, withoutChecksum_metadata hm', hm, hm', Option.rel_some_some,
      Option.rel_some_some]
    exact reordered_erase (hproper hp hm) (hproper hp' hm') hsame
  rw [reordered_record_iff (record_proper.mp hp).1 (record_proper.mp hp').1,
    reordered_record_iff (record_proper.mp (withoutChecksum_proper hm hp)).1
      (record_proper.mp (withoutChecksum_proper hm' hp')).1]
  refine forall_congr' fun key => ?_
  by_cases hk : key = "metadata"
  · rw [hk]
    exact hmetadata
  · rw [withoutChecksum_get? hm hk, withoutChecksum_get? hm' hk]

/-- A checksum that is verified is that of the save. -/
theorem verified_checksum {m : Metadata} {warnings : List Warning} {digest : String}
    (hv : o.verifyChecksum = true) (hd : m.checksum = some digest)
    (h : verify o raw m warnings = .ok ()) : checksum raw = .ok digest := by
  rw [verify, if_pos hv, checkSum, hd] at h
  dsimp only [Option.getD_some] at h
  split at h
  · cases h
  · split at h
    · cases h
    · rename_i found hfound
      split at h
      · rename_i heq
        rw [hfound, heq]
      · cases h

/-- Saves of one checksum are the same but for the order inside, if their digests do not
collide. -/
theorem reordered_of_checksum (hp : (Value.record raw).isProper = true)
    (hp' : (Value.record raw').isProper = true) (hn : NoCollision raw raw') {digest : String}
    (hc : carried? raw = some (.text digest)) (hc' : carried? raw' = some (.text digest))
    (hd : checksum raw = .ok digest) (hd' : checksum raw' = .ok digest) :
    Reordered (.record raw) (.record raw') := by
  obtain ⟨text, ht, hdt⟩ := map_eq_ok.mp hd
  obtain ⟨text', ht', hdt'⟩ := map_eq_ok.mp hd'
  have htext : text = text' := hn text text' ht ht' (hdt.trans hdt'.symm)
  subst htext
  obtain ⟨metadata, hm, _⟩ := carried?_eq_some.mp hc
  obtain ⟨metadata', hm', _⟩ := carried?_eq_some.mp hc'
  rw [← reordered_withoutChecksum hp hp' hc hc' rfl]
  exact Json.reordered_of_canonical (withoutChecksum_proper hm hp) (withoutChecksum_proper hm' hp')
    ht ht'

/-- Where two saves are the same but for the order inside, their texts are the same anyway. -/
theorem noCollision_of_reordered (hp : (Value.record raw).isProper = true)
    (hp' : (Value.record raw').isProper = true) {v : Value} (hc : carried? raw = some v)
    (hc' : carried? raw' = some v) (hv : Reordered v v)
    (h : Reordered (.record raw) (.record raw')) : NoCollision raw raw' := by
  obtain ⟨metadata, hm, _⟩ := carried?_eq_some.mp hc
  rw [← reordered_withoutChecksum hp hp' hc hc' hv] at h
  intro text text' ht ht' _
  rw [Json.canonical_of_reordered (withoutChecksum_proper hm hp) h, ht'] at ht
  exact (Except.ok.inj ht).symm

/-- The checksum does not depend on the order of fields. -/
theorem checksum_of_reordered (hp : (Value.record raw).isProper = true)
    (hp' : (Value.record raw').isProper = true) {digest : String}
    (hc : carried? raw = some (.text digest)) (hc' : carried? raw' = some (.text digest))
    (h : Reordered (.record raw) (.record raw')) : checksum raw' = checksum raw := by
  obtain ⟨metadata, hm, _⟩ := carried?_eq_some.mp hc
  rw [← reordered_withoutChecksum hp hp' hc hc' rfl] at h
  rw [checksum, checksum, Json.canonical_of_reordered (withoutChecksum_proper hm hp) h]

/-- The checksum that is carried does not depend on the order of fields either. -/
theorem carried_of_reordered (hp : (Value.record raw).isProper = true)
    (hp' : (Value.record raw').isProper = true) {digest : String}
    (hc : carried? raw = some (.text digest)) (h : Reordered (.record raw) (.record raw')) :
    carried? raw' = some (.text digest) := by
  obtain ⟨metadata, hm, hd⟩ := carried?_eq_some.mp hc
  have hmetadata := (reordered_record_iff (record_proper.mp hp).1 (record_proper.mp hp').1).mp h
    "metadata"
  rw [hm] at hmetadata
  generalize hm' : raw'.get? "metadata" = found at hmetadata
  cases hmetadata with
  | @some _ v hv =>
    cases v <;> simp only [Reordered, reduceCtorEq] at hv
    rename_i metadata'
    have hkeys := (record_proper.mp (proper_of_get? hp hm)).1
    have hkeys' := (record_proper.mp (proper_of_get? hp' hm')).1
    have hdigest := (reordered_record_iff hkeys hkeys').mp hv "checksum"
    rw [hd] at hdigest
    generalize hd' : Entries.get? metadata' "checksum" = found at hdigest
    cases hdigest with
    | some hv =>
      cases hv
      exact carried?_eq_some.mpr ⟨metadata', hm', hd'⟩

/-- A save with its checksum carries the right one. -/
theorem build_carries {storyId : String} {a : Ambient} {s : NarrativeState} {so : SaveOptions}
    {p : Parts} (h : build storyId a s so p = .ok raw) (ho : so.checksum = true) :
    ∃ digest, carried? raw = some (.text digest) ∧ digest ≠ "" ∧ checksum raw = .ok digest := by
  obtain ⟨digest, hsome, hsum, rfl⟩ := build_eq_ok h
  obtain ⟨d, rfl⟩ := Option.isSome_iff_exists.mp (hsome.trans ho)
  obtain ⟨hne, hd⟩ := hsum d rfl
  exact ⟨d, carried?_eq_some.mpr ⟨signed storyId a so (some d), rfl, rfl⟩, hne, hd⟩

/-- A record of this story that the verification lets through passes all checks. -/
theorem check_unstopped {x : Envelope} {warnings : List Warning} (hp : data.isPlain = true)
    (hm : o.migration = none) (h : Recognised story o data raw x warnings)
    (hv : ¬ Unverified story o data) (hb : Text.isAllBlank x.state.node = false)
    (hk : story.has x.state.node = true) (hs : (Value.record raw).isShort = true) :
    ∃ l, check story o data = .ok l := by
  have hverify : verify o raw x.metadata warnings = .ok () := by
    rcases hstop : verify o raw x.metadata warnings with stop | ⟨⟩
    · exact absurd ⟨raw, x, _, stop, copied_of_document hp h.document, h.envelope, hstop⟩ hv
    · rfl
  obtain ⟨s, hstate⟩ : ∃ s, stateIn story x warnings = .ok s :=
    (stateIn_shown (h.flags_copyable hp) hb).mpr hk
  obtain ⟨n, hn⟩ := isOk_eq_true.mp ((sizeOf_isOk (.record raw)).trans hs)
  rw [check_recognised hp hm h, hverify, hstate, hn]
  exact ⟨_, rfl⟩

end Save

namespace Engine
open Save Value
variable {saver : Engine} {so : SaveOptions} {envelope : Entries Value}

/-- A load that the verification stops changes nothing. -/
theorem load_unverified {e : Engine} {o : LoadOptions} {data : Value}
    (h : Unverified e.story o data) : e.attempt (.load o data) = (false, e) := by
  obtain ⟨raw, x, ws, stop, hc, hr, hv⟩ := h
  have hcheck : check e.story o data = .error stop := by
    simp [check, hc, hr, hv]
  show succeeded (e.load o data) = (false, e)
  cases stop with
  | refused r ws => rw [load_refused hcheck]; rfl
  | broken f => rw [load_broken hcheck]; rfl

theorem loaded_checks {e : Engine} {o : LoadOptions} {data : Value}
    (h : (e.attempt (.load o data)).1 = true) : ∃ l, check e.story o data = .ok l := by
  change (succeeded (e.load o data)).1 = true at h
  rcases hl : e.load o data with ⟨r | r, e'⟩
  · rw [hl] at h
    cases h
  · rw [hl] at h
    rcases load_eq_ok hl with ⟨hr, _⟩ | ⟨l, _, hc, _⟩
    · exact absurd h (Bool.eq_false_iff.mp hr)
    · exact ⟨l, hc⟩

/-- What the checksum of a save detects. If no digests collide, a document that carries it and is
loaded with verification is the save itself, up to the order of fields; a document that differs in
that order only has the same checksum, and the verification never stops it; and where the
verification stops a document, nothing changes. -/
theorem checksum_detects (h : saver.save so = .ok envelope) (ho : so.checksum = true)
    (hp : (Value.record envelope).isProper = true) :
    (∀ raw, (Value.record raw).isProper = true → carried? raw = carried? envelope →
      NoCollision envelope raw → ∀ (e : Engine) o data, document data = .ok raw →
      o.verifyChecksum = true → (e.attempt (.load o data)).1 = true →
        Reordered (.record envelope) (.record raw)) ∧
    (∀ raw, (Value.record raw).isProper = true → Reordered (.record envelope) (.record raw) →
      checksum raw = checksum envelope ∧
        ∀ story o data, document data = .ok raw → ¬ Unverified story o data) ∧
    ∀ (e : Engine) o data, Unverified e.story o data → e.attempt (.load o data) = (false, e) := by
  obtain ⟨digest, hcarried, hne, hd⟩ := build_carries (mapError_eq_ok.mp h) ho
  refine ⟨?_, ?_, fun _ _ _ => load_unverified⟩
  · intro raw hp' hc hn e o data hdoc hv hload
    rw [hcarried] at hc
    obtain ⟨l, hcheck⟩ := loaded_checks hload
    obtain ⟨raw', x, hcopied, hr, hverify, _⟩ := check_eq_ok.mp hcheck
    have heq := (copied_eq_ok.mp hcopied).1
    rw [hdoc] at heq
    cases heq
    have hread := read_carried (recognise_eq_ok.mp hr).1 hc
    exact reordered_of_checksum hp hp' hn hcarried hc hd (verified_checksum hv hread hverify)
  · intro raw hp' hreordered
    have hc := carried_of_reordered hp hp' hcarried hreordered
    have hsame := checksum_of_reordered hp hp' hcarried hc hreordered
    refine ⟨hsame, ?_⟩
    rintro story o data hdoc ⟨raw', x, ws, stop, hcopied, hr, hverify⟩
    have heq := (copied_eq_ok.mp hcopied).1
    rw [hdoc] at heq
    cases heq
    have hread := read_carried (recognise_eq_ok.mp hr).1 hc
    have hok : verify o raw x.metadata ws = .ok () := by
      refine verify_signed (fun _ => by rw [hread]; rfl) ?_ ws
      intro d hd'
      rw [hread] at hd'
      cases hd'
      exact ⟨hne, hsame.trans hd⟩
    rw [hok] at hverify
    cases hverify

/-- A verified load accepts a save with its fields in reverse order, and refuses it without its
checksum. -/
theorem checksum_detects_gate :
    let o : LoadOptions := { verifyChecksum := true }
    ∃ envelope, atGate.save { checksum := true } = .ok envelope ∧
      (atGate.attempt (.load o (.record envelope.reverse))).1 = true ∧
      Reordered (.record envelope) (.record envelope.reverse) ∧
      checksum envelope.reverse = checksum envelope ∧
      atGate.attempt (.load o (.record (withoutChecksum envelope))) = (false, atGate) := by
  intro o
  let bare := plain atGate.story.identity atGate.ambient atGate.state {} atGate.parts
  have hsigned : (checksum bare).isOk = true := (checksum_isOk rfl).trans rfl
  obtain ⟨digest, hdigest⟩ := isOk_eq_true.mp hsigned
  let envelope := stamped bare digest
  let reversed := envelope.reverse
  have hsave : atGate.save { checksum := true } = .ok envelope := by
    have hfinished : atGate.save { checksum := true } =
      (((checksum bare).map (stamped bare)).mapError BuildFault.write).mapError _ := rfl
    rw [hfinished, hdigest]
    rfl
  have hproper : (Value.record envelope).isProper = true := rfl
  have hproper' : (Value.record reversed).isProper = true := rfl
  have hsame : Reordered (.record envelope) (.record reversed) :=
    reordered_of_perm (List.reverse_perm envelope)
  obtain ⟨hdetects, hspares, hkeeps⟩ := checksum_detects hsave rfl hproper
  obtain ⟨hsum, hverified⟩ := hspares reversed hproper' hsame
  have hload : (atGate.attempt (.load o (.record reversed))).1 = true := by
    have hread : Envelope.read (.record reversed) = .ok _ := rfl
    have hrecognised : Recognised atGate.story o (.record reversed) reversed _ [] :=
      ⟨rfl, recognise_current hread rfl rfl rfl⟩
    have hsound := atGate_reachable.sound
    have hknown := hsound.live.known
    obtain ⟨l, hl⟩ := check_unstopped rfl rfl hrecognised (hverified _ _ _ rfl)
      (hsound.story.shown_of_has hknown) hknown rfl
    obtain ⟨e', hloaded, _⟩ := load_accepted hsound rfl hl
    show (succeeded (atGate.load o _)).1 = true
    rw [hloaded]
    rfl
  have hnot : NoCollision envelope reversed :=
    noCollision_of_reordered hproper hproper' rfl rfl rfl hsame
  refine ⟨envelope, hsave, hload, ?_, hsum, ?_⟩
  · exact hdetects reversed hproper' rfl hnot atGate o _ rfl rfl hload
  · apply hkeeps
    have hread : Envelope.read (.record (withoutChecksum envelope)) = .ok _ := rfl
    exact ⟨_, _, _, _, rfl, recognise_current hread rfl rfl rfl, rfl⟩

end Engine
end Storyline
