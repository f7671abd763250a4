import Storyline.Autosave
import Storyline.Proofs.Outcome

namespace Storyline

namespace Template

def Field.isBare (names : List String) (f : Field) : Bool :=
  names.contains (String.ofList f.name) && f.conversion.isNone && f.spec.isEmpty

/-- A well-formed template whose fields only name values of some names. -/
def usesOnly (names : List String) (template : String) : Bool :=
  let (ps, fault) := pieces template.toList
  fault.isNone && ps.all fun p => (p.field.map (Field.isBare names)).getD true

theorem mapM_eq_error {α β ε : Type} {f : α → Except ε β} {xs : List α} {fault : ε}
    (h : xs.mapM f = .error fault) : ∃ x ∈ xs, f x = .error fault := by
  induction xs with
  | nil => cases h
  | cons x rest ih =>
    rw [List.mapM_cons] at h
    rcases bind_eq_error.mp h with h | ⟨y, _, h⟩
    · exact ⟨x, List.mem_cons_self, h⟩
    · rcases bind_eq_error.mp h with h | ⟨ys, _, h⟩
      · obtain ⟨w, hw, hf⟩ := ih h
        exact ⟨w, List.mem_cons_of_mem _ hw, hf⟩
      · cases h

end Template

namespace Autosave
open Template

def placeholders : List String := ["timestamp", "node_id", "trigger"]

abbrev details (ms : Int) (node trigger : String) : Names :=
  [("timestamp", .number ms), ("node_id", .text node), ("trigger", .text trigger)]

theorem lookUp_placeholder {name : List Char} (ms : Int) (node trigger : String)
    (h : String.ofList name ∈ placeholders) :
    lookUp (details ms node trigger) name = .ok (.number ms) ∨
      ∃ s, lookUp (details ms node trigger) name = .ok (.text s) := by
  have hname : name = (String.ofList name).toList := by simp
  simp only [placeholders, List.mem_cons, List.not_mem_nil, or_false] at h
  rcases h with h | h | h <;> rw [hname, h]
  · exact .inl rfl
  · exact .inr ⟨node, rfl⟩
  · exact .inr ⟨trigger, rfl⟩

theorem plain_number {n : Int} {f : Template.Fault} (h : (Datum.number n).plain = .error f) :
    escapes f = false := by
  obtain ⟨g, hg, rfl⟩ := mapError_eq_error.mp h
  unfold integerText at hg
  dsimp only at hg
  split at hg
  · cases hg
    rfl
  · cases hg

theorem fillPiece_documented {ms : Int} {node trigger : String} {p : Piece}
    {fillSpec : List Char → Except Template.Fault (List Char)} {f : Template.Fault}
    (hp : (p.field.map (Field.isBare placeholders)).getD true = true)
    (h : fillPiece fillSpec (details ms node trigger) p = .error f) : escapes f = false := by
  obtain ⟨literal, field⟩ := p
  cases field with
  | none => cases h
  | some field =>
    obtain ⟨name, conversion, spec⟩ := field
    simp only [Option.map_some, Option.getD_some, Field.isBare, Bool.and_eq_true,
      List.contains_iff_mem, Option.isNone_iff_eq_none, List.isEmpty_iff] at hp
    obtain ⟨⟨hname, rfl⟩, rfl⟩ := hp
    rcases lookUp_placeholder ms node trigger hname with hd | ⟨s, hd⟩
    · cases hw : (Datum.number ms).plain with
      | error g =>
        simp [fillPiece, hd, Datum.convert, Datum.write, hw] at h
        exact h ▸ plain_number hw
      | ok s =>
        simp [fillPiece, hd, Datum.convert, Datum.write, hw] at h
    · simp [fillPiece, hd, Datum.convert, Datum.write, Datum.plain] at h

/-- A template with bare placeholders only gives a name, or a fault that is told. -/
theorem nameFor_documented {c : Config} {a : Ambient} {node trigger : String} {f : Template.Fault}
    (hc : usesOnly placeholders c.pattern = true) (h : nameFor c a node trigger = .error f) :
    escapes f = false := by
  rcases hps : pieces c.pattern.toList with ⟨ps, fault⟩
  simp only [usesOnly, hps, Bool.and_eq_true, Option.isNone_iff_eq_none, List.all_eq_true] at hc
  obtain ⟨rfl, hall⟩ := hc
  simp only [nameFor, fill] at h
  cases hw : fillWithin (details ((a.milliseconds.truncate?).getD 0) node trigger) 2
      c.pattern.toList with
  | ok cs =>
    rw [hw] at h
    cases h
  | error g =>
    rw [hw] at h
    cases h
    simp only [fillWithin, hps] at hw
    rcases bind_eq_error.mp hw with hw | ⟨parts, _, hw⟩
    · obtain ⟨p, hp, hf⟩ := mapM_eq_error hw
      exact fillPiece_documented (hall p hp) hf
    · cases hw

end Autosave
end Storyline
