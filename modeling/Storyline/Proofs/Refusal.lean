import Storyline.Proofs.Load
import Storyline.Proofs.Operation

namespace Storyline

namespace Save
open Schema
variable {story : Story} {o : LoadOptions} {data : Value}

/-- The story that the metadata of a save names, under the name on the wire or else plainly. -/
def namedStory? (raw : Entries Value) : Option String := do
  let metadata ← raw.record? "metadata"
  let name ← nameIn? metadata "story_id"
  metadata.text? name

theorem nameIn?_metadata {raw : Entries Value} {name : String}
    (h : nameIn? raw "metadata" = some name) : name = "metadata" := by
  have hw : wireName "metadata" = "metadata" := by decide
  simp only [nameIn?, hw] at h
  split at h <;> simp_all

theorem read_namesStory {raw : Entries Value} {envelope : Envelope} {id : String}
    (h : Envelope.read (.record raw) = .ok envelope) (hid : namedStory? raw = some id) :
    envelope.metadata.storyId = some id := by
  obtain ⟨_, hf, _, _, hm, _⟩ := Envelope.read_eq_ok.mp h
  cases hf
  obtain ⟨name, hn, hm⟩ := required_eq_ok.mp hm
  obtain ⟨metadata, hv, _, _, hs, _⟩ := Metadata.read_eq_ok.mp hm
  simp only [namedStory?, Entries.record?, Option.bind_eq_bind, Option.bind_eq_some_iff] at hid
  obtain ⟨metadata', ⟨v, hv', hr⟩, key, hk, ht⟩ := hid
  rw [nameIn?_metadata hn, hv'] at hv
  cases hv
  cases hr
  rw [field_eq_ok, hk] at hs
  obtain ⟨w, hw, ht⟩ := Option.bind_eq_some_iff.mp ht
  cases w <;> cases ht
  simpa [hw, Schema.optional, Schema.text, eq_comm] using hs

/-- Whatever is skipped, the story never is. -/
theorem check_named {raw : Entries Value} {l : Loaded} {id : String}
    (h : check story o data = .ok l) (hd : document data = .ok raw)
    (hid : namedStory? raw = some id) : id = story.identity := by
  obtain ⟨raw', envelope, hc, hr, _⟩ := check_eq_ok.mp h
  have heq := (copied_eq_ok.mp hc).1
  rw [hd] at heq
  cases heq
  obtain ⟨he, noted, hs, _⟩ := recognise_eq_ok.mp hr
  rw [checkStory, read_namesStory he hid] at hs
  simp only at hs
  split at hs
  · simp_all
  · cases hs

end Save

namespace Engine
variable {e e' : Engine} {o : Save.LoadOptions} {data : Value} {r : Save.Result}

/-- A load that comes to a verdict changes nothing, or puts the state of a save that passed all
checks in place, with a record of the state before and the automatic save that it sets off. -/
theorem load_eq_ok (h : e.load o data = (.ok r, e')) :
    r.success = false ∧ e' = e ∨
      ∃ l e₁, Save.check e.story o data = .ok l ∧ r = l.result ∧
        e.track .stateLoad [("nodeId", .text e.state.node)] = (.ok (), e₁) ∧
        (e₁.restored o l).happened .stateLoad [("nodeId", .text l.state.node)] = (.ok (), e') := by
  unfold load Save.load at h
  split at h
  · cases h
  · rename_i result hl
    split at hl <;> cases hl
    cases h
    exact .inl ⟨rfl, rfl⟩
  · rename_i result l hl
    split at hl <;> cases hl
    rename_i hc
    obtain ⟨_, e₁, ht, h⟩ := andThen_eq_ok.mp h
    obtain ⟨_, e₂, hh, h⟩ := andThen_eq_ok.mp h
    cases h
    exact .inr ⟨l, e₁, hc, rfl, ht, hh⟩

/-- A load without success leaves the engine as it was, and no options make a save load whose
metadata names another story. -/
theorem refused_load (e : Engine) (o : Save.LoadOptions) (data : Value) :
    (∀ r e', e.load o data = (.ok r, e') → r.success = false → e' = e) ∧
      ∀ raw id, Save.document data = .ok raw → Save.namedStory? raw = some id →
        id ≠ e.story.identity → (e.attempt (.load o data)).1 = false := by
  constructor
  · intro r e' h hr
    rcases load_eq_ok h with ⟨_, he⟩ | ⟨l, _, _, rfl, _⟩
    · exact he
    · cases hr
  · intro raw id hd hid hne
    show (succeeded (e.load o data)).1 = false
    rcases hl : e.load o data with ⟨r | r, e'⟩
    · rfl
    · rcases load_eq_ok hl with ⟨hr, _⟩ | ⟨l, _, hc, _⟩
      · exact hr
      · exact absurd (Save.check_named hc hd hid) hne

theorem identity_ne {story : Story} {id : String} (h : id.toList.head? ≠ some 's') :
    id ≠ story.identity := by
  rintro rfl
  simp [Story.identity] at h

def saveOfInn : Entries Value :=
  [("state", .record [("currentNodeId", .text "gate")]),
    ("metadata", .record [("engineVersion", .text "1.0.0"), ("timestamp", .text ""),
      ("storyId", .text "inn")])]

/-- A number is refused, and so is the save of another story with every check skipped and a
migration. -/
theorem refused_load_hallway :
    (atGate.load {} (.int 4)).2 = atGate ∧
      (atGate.attempt (.load { skipVersion := true, migration := some fun _ => .ok [] }
        (.record saveOfInn))).1 = false := by
  constructor
  · exact (refused_load atGate {} (.int 4)).1 (.failure Save.Refusal.notRecord.message []) _ rfl rfl
  · exact (refused_load atGate _ (.record saveOfInn)).2 saveOfInn "inn" rfl rfl
      (identity_ne (by decide))

end Engine
end Storyline
