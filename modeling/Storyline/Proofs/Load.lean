import Storyline.Proofs.Envelope
import Storyline.Proofs.State
import Storyline.Save.Load

namespace Storyline.Save
variable {story : Story} {o : LoadOptions} {data : Value} {l : Loaded}

theorem copied_eq_ok {raw : Entries Value} :
    copied data = .ok raw ↔ document data = .ok raw ∧ Value.allFieldsCopyable raw = true := by
  unfold copied
  rw [bind_eq_ok]
  constructor
  · rintro ⟨raw', hd, h⟩
    split at h
    · rename_i hc
      cases h
      exact ⟨hd, hc⟩
    · cases h
  · rintro ⟨hd, hc⟩
    exact ⟨raw, hd, by simp [hc]⟩

theorem recognise_eq_ok {raw : Entries Value} {envelope : Envelope} {warnings : List Warning} :
    recognise story o raw = .ok (envelope, warnings) ↔
      Envelope.read (.record raw) = .ok envelope ∧
        ∃ noted, checkStory story envelope.metadata = .ok noted ∧
          withVersion o envelope.metadata noted = .ok warnings ∧
          envelope.metadata.compression = .none := by
  simp only [recognise, bind_eq_ok, mapError_eq_ok, pure_eq_ok, checkCompression]
  constructor
  · rintro ⟨e, he, noted, hs, ws, hv, _, hc, h⟩
    cases h
    split at hc
    · exact ⟨he, noted, hs, hv, by assumption⟩
    · cases hc
  · rintro ⟨he, noted, hs, hv, hc⟩
    exact ⟨envelope, he, noted, hs, warnings, hv, (), by simp [hc], rfl⟩

theorem stateIn_eq_ok {e : Envelope} {warnings : List Warning} {s : NarrativeState} :
    stateIn story e warnings = .ok s ↔ e.state.state = .ok s ∧ story.has s.node = true := by
  simp only [stateIn, bind_eq_ok, mapError_eq_ok]
  constructor
  · rintro ⟨t, ht, h⟩
    split at h
    · rename_i hk
      cases h
      exact ⟨ht, hk⟩
    · cases h
  · rintro ⟨hs, hk⟩
    exact ⟨s, hs, by simp [hk]⟩

/-- A save is accepted if it passes all checks in turn. -/
theorem check_eq_ok :
    check story o data = .ok l ↔ ∃ raw envelope, copied data = .ok raw ∧
      recognise story o raw = .ok (envelope, l.warnings) ∧
      verify o raw envelope.metadata l.warnings = .ok () ∧
      brought o raw envelope l.warnings = .ok l.envelope ∧
      stateIn story l.envelope l.warnings = .ok l.state ∧
      sizeOf (.record raw) = .ok l.size := by
  cases l
  simp only [check, bind_eq_ok, mapError_eq_ok, pure_eq_ok, Prod.exists]
  constructor
  · rintro ⟨raw, hr, envelope, ws, hv, _, hsum, e', hb, s, hs, n, hn, h⟩
    cases h
    exact ⟨raw, envelope, hr, hv, hsum, hb, hs, hn⟩
  · rintro ⟨raw, envelope, hr, hv, hsum, hb, hs, hn⟩
    exact ⟨raw, hr, envelope, _, hv, (), hsum, _, hb, _, hs, _, hn, rfl⟩

/-- The state of a save that passes all checks belongs to the story. -/
theorem check_fits (h : check story o data = .ok l) : l.state.Fits story := by
  obtain ⟨_, _, _, _, _, _, hs, _⟩ := check_eq_ok.mp h
  obtain ⟨ht, hk⟩ := stateIn_eq_ok.mp hs
  obtain ⟨_, _, _, hb, hc⟩ := StateRecord.state_eq_ok ht
  exact ⟨hk, hb, hc⟩

theorem brought_read {raw : Entries Value} {e e' : Envelope} {warnings : List Warning}
    (h : brought o raw e warnings = .ok e') (he : Envelope.read (.record raw) = .ok e) :
    ∃ v, Envelope.read v = .ok e' := by
  unfold brought at h
  split at h
  · cases h
    exact ⟨_, he⟩
  · rename_i migration _
    replace h := mapError_eq_ok.mp h
    unfold migrate at h
    split at h
    · cases h
    · exact ⟨_, mapError_eq_ok.mp h⟩

theorem check_timed (h : check story o data = .ok l) :
    ∀ r ∈ l.envelope.events, ∃ d, r.event.timestamp = .double d := by
  obtain ⟨_, _, _, hr, _, hb, _⟩ := check_eq_ok.mp h
  obtain ⟨v, hv⟩ := brought_read hb (recognise_eq_ok.mp hr).1
  exact Envelope.read_timed hv

end Storyline.Save
