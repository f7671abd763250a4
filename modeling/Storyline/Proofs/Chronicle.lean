import Storyline.Proofs.Mutation

namespace Storyline

/-- All states in their order, and the place of the live one. -/
structure Chronicle where
  states : List NarrativeState
  cursor : Nat

namespace Chronicle

/-- A change gives up what comes after the live state, and goes on from there. -/
def append (c : Chronicle) (s : NarrativeState) : Chronicle :=
  ⟨c.states.take (c.cursor + 1) ++ [s], c.cursor + 1⟩

def back (c : Chronicle) : Chronicle := { c with cursor := c.cursor - 1 }

def forth (c : Chronicle) : Chronicle := { c with cursor := c.cursor + 1 }

end Chronicle

namespace Engine

def undoable (e : Engine) : List NarrativeState := e.timeline.past.map TimelineEntry.state

def redoable (e : Engine) : List NarrativeState := e.timeline.future.map TimelineEntry.state

def chronicle (e : Engine) : Chronicle :=
  ⟨e.undoable.reverse ++ e.state :: e.redoable, e.undoable.length⟩

/-- The live state is under the cursor, what can be undone is a run that ends just before it, and
what can be redone one that starts just behind it. -/
structure Follows (e : Engine) (c : Chronicle) : Prop where
  live : c.states[c.cursor]? = some e.state
  past : e.undoable.reverse <:+ c.states.take c.cursor
  future : e.redoable <+: c.states.drop (c.cursor + 1)

variable {e e' e₀ : Engine} {c : Chronicle}

/-- The chronicle splits at its cursor. -/
theorem follows_iff : e.Follows c ↔ ∃ earlier later, c.states = earlier ++ e.state :: later ∧
    c.cursor = earlier.length ∧ e.undoable.reverse <:+ earlier ∧ e.redoable <+: later := by
  constructor
  · intro h
    obtain ⟨hc, hl⟩ := List.getElem?_eq_some_iff.mp h.live
    refine ⟨c.states.take c.cursor, c.states.drop (c.cursor + 1), ?_, ?_, h.past, h.future⟩
    · rw [← hl, ← List.drop_eq_getElem_cons hc, List.take_append_drop]
    · rw [List.length_take]
      omega
  · rintro ⟨earlier, later, hs, hc, hp, hf⟩
    refine ⟨by simp [hs, hc], by simpa [hs, hc] using hp, ?_⟩
    rw [hs, hc, List.drop_append, List.drop_of_length_le (Nat.le_succ _)]
    simpa using hf

theorem follows_chronicle (e : Engine) : e.Follows e.chronicle :=
  follows_iff.mpr ⟨_, _, rfl, by simp [chronicle], List.suffix_refl _, List.prefix_refl _⟩

theorem Recorded.stacks (h : e.Recorded e') :
    e'.undoable = (e.state :: e.undoable).take e.timeline.config.maxUndo ∧ e'.redoable = [] ∧
      e'.timeline.config = e.timeline.config := by
  obtain ⟨entry, he, ht⟩ := h
  simp [undoable, redoable, ht, List.map_take, he]

/-- A step that succeeds takes the nearest entry and leaves the live state on the other stack. -/
theorem travel_takes {d : Timeline.Direction} (hs : e.Sound) (h : (e.travel d).1.success = true) :
    ∃ entry rest left, e.timeline.ahead d = entry :: rest ∧ left.state = e.state ∧
      (e.travel d).2.state = entry.state ∧
      (e.travel d).2.timeline = match d with
        | .undo =>
          { e.timeline with
            past := rest
            future := (left :: e.timeline.future).take e.timeline.config.maxRedo
            restoring := false }
        | .redo =>
          { e.timeline with
            future := rest
            past := (left :: e.timeline.past).take e.timeline.config.maxUndo
            restoring := false } := by
  rcases Timeline.travel_cases e.timeline e.ambient d e.state.clone with
    ⟨hf, _⟩ | ⟨entry, rest, current, left, ha, hc, hl, _, hst, ht⟩
  · simp [travel, travelFrom, hf] at h
  · rw [hs.clone] at hc
    cases hc
    refine ⟨entry, rest, left, ha, hl, by simp [travel, travelFrom, hst], ?_⟩
    cases d <;> exact ht

/-- What a successful undo does to the state and the stacks. -/
theorem undo_success (hs : e.Sound) (h : (e.travel .undo).1.success = true) :
    ∃ s rest, e.undoable = s :: rest ∧ (e.travel .undo).2.state = s ∧
      (e.travel .undo).2.undoable = rest ∧
      (e.travel .undo).2.redoable = (e.state :: e.redoable).take e.timeline.config.maxRedo ∧
      (e.travel .undo).2.timeline.config = e.timeline.config := by
  obtain ⟨entry, rest, left, ha, hl, hst, ht⟩ := travel_takes hs h
  have hp : e.timeline.past = entry :: rest := ha
  refine ⟨entry.state, rest.map TimelineEntry.state, by simp [undoable, hp], hst, ?_⟩
  simp [undoable, redoable, ht, hl, List.map_take]

/-- What a successful redo does to the state and the stacks. -/
theorem redo_success (hs : e.Sound) (h : (e.travel .redo).1.success = true) :
    ∃ s rest, e.redoable = s :: rest ∧ (e.travel .redo).2.state = s ∧
      (e.travel .redo).2.redoable = rest ∧
      (e.travel .redo).2.undoable = (e.state :: e.undoable).take e.timeline.config.maxUndo ∧
      (e.travel .redo).2.timeline.config = e.timeline.config := by
  obtain ⟨entry, rest, left, ha, hl, hst, ht⟩ := travel_takes hs h
  have hp : e.timeline.future = entry :: rest := ha
  refine ⟨entry.state, rest.map TimelineEntry.state, by simp [redoable, hp], hst, ?_⟩
  simp [undoable, redoable, ht, hl, List.map_take]

/-- There is a step as long as there is an entry to go to. -/
theorem travel_succeeds {d : Timeline.Direction} (hs : e.Sound)
    (he : e.timeline.config.enabled = true) (h : e.timeline.ahead d ≠ []) :
    (e.travel d).1.success = true := by
  obtain ⟨entry, rest, ha⟩ := List.exists_cons_of_ne_nil h
  simp only [travel, travelFrom, hs.clone]
  exact Timeline.travel_success _ _ he ha

theorem Follows.recorded (h : e.Follows c) (hr : e.Recorded e') :
    e'.Follows (c.append e'.state) := by
  obtain ⟨earlier, later, hs, hc, hp, _⟩ := follows_iff.mp h
  obtain ⟨hundo, hredo, _⟩ := hr.stacks
  refine follows_iff.mpr ⟨earlier ++ [e.state], [], ?_, by simp [Chronicle.append, hc], ?_, ?_⟩
  · simp [Chronicle.append, hs, hc, List.take_append, List.take_of_length_le]
  · -- the new entry comes last, and what is cut off comes first
    rw [hundo]
    refine (List.reverse_suffix.mpr (List.take_prefix _ _)).trans ?_
    rw [List.reverse_cons]
    obtain ⟨given, rfl⟩ := hp
    exact ⟨given, by simp⟩
  · exact hredo ▸ List.nil_prefix

theorem Follows.undone (h : e.Follows c) (hs : e.Sound)
    (hu : (e.travel .undo).1.success = true) : (e.travel .undo).2.Follows c.back := by
  obtain ⟨s, rest, hund, hst, hundo, hredo, _⟩ := undo_success hs hu
  obtain ⟨earlier, later, hsplit, hc, hp, hf⟩ := follows_iff.mp h
  obtain ⟨given, rfl⟩ := hp
  refine follows_iff.mpr ⟨given ++ rest.reverse, e.state :: later, ?_, ?_, ?_, ?_⟩
  · simp [Chronicle.back, hsplit, hund, hst]
  · simp [Chronicle.back, hc, hund]
  · rw [hundo]
    exact List.suffix_append _ _
  · rw [hredo]
    exact (List.take_prefix _ _).trans ((List.prefix_cons_inj _).mpr hf)

theorem Follows.redone (h : e.Follows c) (hs : e.Sound)
    (hr : (e.travel .redo).1.success = true) : (e.travel .redo).2.Follows c.forth := by
  obtain ⟨s, rest, hred, hst, hredo, hundo, _⟩ := redo_success hs hr
  obtain ⟨earlier, later, hsplit, hc, hp, hf⟩ := follows_iff.mp h
  obtain ⟨given, rfl⟩ := hf
  refine follows_iff.mpr ⟨earlier ++ [e.state], rest ++ given, ?_, ?_, ?_, ?_⟩
  · simp [Chronicle.forth, hsplit, hred, hst]
  · simp [Chronicle.forth, hc]
  · rw [hundo]
    refine (List.reverse_suffix.mpr (List.take_prefix _ _)).trans ?_
    rw [List.reverse_cons]
    obtain ⟨given, rfl⟩ := hp
    exact ⟨given, by simp⟩
  · rw [hredo]
    exact List.prefix_append _ _

/-- What comes of an engine, and of a chronicle beside it: changes that are tracked, undoing and
redoing in any order, all with success, and operations that leave the state and the timeline
alone. -/
inductive Run (e₀ : Engine) : Engine → Chronicle → Prop
  | start : Run e₀ e₀ e₀.chronicle
  | changed {e : Engine} {c : Chronicle} (op : Operation) :
    Run e₀ e c → op.mutates = true → (e.attempt op).1 = true →
    Run e₀ (e.attempt op).2 (c.append (e.attempt op).2.state)
  | undone {e : Engine} {c : Chronicle} :
    Run e₀ e c → (e.attempt (.travel .undo)).1 = true → Run e₀ (e.attempt (.travel .undo)).2 c.back
  | redone {e : Engine} {c : Chronicle} :
    Run e₀ e c → (e.attempt (.travel .redo)).1 = true → Run e₀ (e.attempt (.travel .redo)).2 c.forth
  | beside {e : Engine} {c : Chronicle} (op : Operation) :
    Run e₀ e c → (e.attempt op).2.state = e.state → (e.attempt op).2.timeline = e.timeline →
    Run e₀ (e.attempt op).2 c

theorem Tracking.of_config (h : e.Tracking) (hc : e'.timeline.config = e.timeline.config) :
    e'.Tracking :=
  ⟨hc ▸ h.enabled, hc ▸ h.actions⟩

/-- All that is kept along a run. -/
theorem Run.keeps (h : Run e₀ e c) (hs : e₀.Sound) (ht : e₀.Tracking) :
    e.Sound ∧ e.Tracking ∧ e.Follows c := by
  induction h with
  | start => exact ⟨hs, ht, follows_chronicle e₀⟩
  | changed op _ hm hop ih =>
    obtain ⟨hs, ht, hf⟩ := ih
    have hr := attempt_recorded hs ht hm hop
    exact ⟨hs.attempt op, ht.of_config hr.stacks.2.2, hf.recorded hr⟩
  | undone _ hu ih =>
    obtain ⟨hs, ht, hf⟩ := ih
    obtain ⟨_, _, _, _, _, _, hc⟩ := undo_success hs hu
    exact ⟨hs.attempt (.travel .undo), ht.of_config hc, hf.undone hs hu⟩
  | redone _ hr ih =>
    obtain ⟨hs, ht, hf⟩ := ih
    obtain ⟨_, _, _, _, _, _, hc⟩ := redo_success hs hr
    exact ⟨hs.attempt (.travel .redo), ht.of_config hc, hf.redone hs hr⟩
  | beside op _ hst htl ih =>
    obtain ⟨hs, ht, hf⟩ := ih
    refine ⟨hs.attempt op, ht.of_config (by rw [htl]), ?_⟩
    obtain ⟨hl, hp, hf⟩ := hf
    exact ⟨hst ▸ hl, by simpa [undoable, htl] using hp, by simpa [redoable, htl] using hf⟩

/-- So many steps one way, if they all succeed. -/
def travelled? (d : Timeline.Direction) : Nat → Engine → Option Engine
  | 0, e => some e
  | n + 1, e => if (e.travel d).1.success then travelled? d n (e.travel d).2 else none

theorem travelled?_add (d : Timeline.Direction) (m n : Nat) (e : Engine) :
    travelled? d (m + n) e = (travelled? d m e).bind (travelled? d n) := by
  induction m generalizing e with
  | zero => simp [travelled?]
  | succ m ih =>
    rw [Nat.add_right_comm]
    simp only [travelled?]
    split
    · exact ih _
    · rfl

/-- Going back and forth again loses nothing but what could be redone before and is now too far
ahead. The induction is on the steps; that the last redo succeeds follows from what is left to
redo. -/
theorem back_and_forth (n : Nat) (hs : e.Sound) (ht : e.Tracking) (hn : n ≤ e.undoable.length)
    (hr : n ≤ e.timeline.config.maxRedo) :
    ∃ e₁ e₂, travelled? .undo n e = some e₁ ∧ travelled? .redo n e₁ = some e₂ ∧ e₂.Sound ∧
      e₂.state = e.state ∧ e₂.undoable = e.undoable ∧
      e₂.redoable = e.redoable.take (e.timeline.config.maxRedo - n) ∧
      e₂.timeline.config = e.timeline.config := by
  induction n generalizing e with
  | zero =>
    refine ⟨e, e, rfl, rfl, hs, rfl, rfl, ?_, rfl⟩
    exact (List.take_of_length_le (by simpa [redoable] using hs.settled.future)).symm
  | succ n ih =>
    have hpast : e.timeline.past ≠ [] := by
      intro hnil
      simp [undoable, hnil] at hn
    have hu : (e.travel .undo).1.success = true := travel_succeeds hs ht.enabled hpast
    obtain ⟨s, rest, hund, hst, hundo, hredo, hc⟩ := undo_success hs hu
    obtain ⟨e₁, e₂, h₁, h₂, hs₂, hst₂, hund₂, hred₂, hc₂⟩ := ih (e := (e.travel .undo).2)
      (hs.attempt (.travel .undo)) (ht.of_config hc) (by simpa [hundo, hund] using hn)
      (by rw [hc]; omega)
    have hahead : e₂.redoable =
        e.state :: e.redoable.take (e.timeline.config.maxRedo - (n + 1)) := by
      rw [hred₂, hc, hredo, List.take_take, Nat.min_eq_left (Nat.sub_le _ _),
        show e.timeline.config.maxRedo - n = e.timeline.config.maxRedo - (n + 1) + 1 by omega,
        List.take_succ_cons]
    have hfuture : e₂.timeline.future ≠ [] := by
      intro hnil
      simp [redoable, hnil] at hahead
    have hr₂ : (e₂.travel .redo).1.success = true :=
      travel_succeeds hs₂ (by rw [hc₂, hc]; exact ht.enabled) hfuture
    obtain ⟨s', rest', hred', hst', hredo', hundo', hc'⟩ := redo_success hs₂ hr₂
    rw [hahead] at hred'
    obtain ⟨rfl, rfl⟩ := List.cons.inj hred'
    refine ⟨e₁, (e₂.travel .redo).2, by simp [travelled?, hu, h₁], ?_,
      hs₂.attempt (.travel .redo), hst', ?_, hredo', by rw [hc', hc₂, hc]⟩
    · rw [travelled?_add, h₂]
      simp [travelled?, hr₂]
    · rw [hundo', hst₂, hund₂, hst, hundo, ← hund, hc₂, hc]
      exact List.take_of_length_le (by simpa [undoable] using hs.settled.past)

/-- The stacks follow the chronicle along every run. As many steps back as there are, and as may be
redone, are taken forth again, and a new change leaves nothing to redo. -/
theorem run_follows_chronicle (h : e₀.Reachable) (ht : e₀.Tracking) (hr : Run e₀ e c) :
    e.Follows c ∧
      (∀ n, n ≤ e.timeline.sizes.undo → n ≤ e.timeline.config.maxRedo →
        ∃ e₁ e₂, travelled? .undo n e = some e₁ ∧ travelled? .redo n e₁ = some e₂ ∧
          e₂.state = e.state ∧ e₂.undoable = e.undoable) ∧
      ∀ op : Operation, op.mutates = true → (e.attempt op).1 = true →
        (e.attempt op).2.timeline.canRedo = false := by
  obtain ⟨hs, ht, hf⟩ := hr.keeps h.sound ht
  refine ⟨hf, ?_, ?_⟩
  · intro n hn hm
    obtain ⟨e₁, e₂, h₁, h₂, _, hst, hund, _⟩ :=
      back_and_forth n hs ht (by simpa [undoable, Timeline.sizes] using hn) hm
    exact ⟨e₁, e₂, h₁, h₂, hst, hund⟩
  · intro op hm hop
    obtain ⟨entry, _, htl⟩ := attempt_recorded hs ht hm hop
    simp [Timeline.canRedo, htl]

theorem atGate_tracking : atGate.Tracking := ⟨rfl, List.Subset.refl _⟩

/-- A change after an undo drops the states that could be redone from the chronicle as well. -/
theorem run_follows_hallway :
    let ops : List Operation :=
      [.goTo "hall", .travel .undo, .setFlag (.text "lit") (.bool true), .goTo "hall"]
    let gate : NarrativeState := ⟨"gate", [], ["gate"]⟩
    let lit : NarrativeState := ⟨"gate", [("lit", .bool true)], ["gate"]⟩
    (atGate.after ops).Follows ⟨[gate, lit, ⟨"hall", lit.flags, ["gate", "hall"]⟩], 2⟩ ∧
      (∃ e₁ e₂, travelled? .undo 2 (atGate.after ops) = some e₁ ∧ travelled? .redo 2 e₁ = some e₂ ∧
        e₂.state = (atGate.after ops).state ∧ e₂.undoable = [lit, gate]) ∧
      ((atGate.after ops).attempt .reset).2.timeline.canRedo = false := by
  have h₁ : Run atGate _ _ := .changed (.goTo "hall") .start rfl rfl
  have h₂ : Run atGate _ _ := .undone h₁ rfl
  have h₃ : Run atGate _ _ := .changed (.setFlag (.text "lit") (.bool true)) h₂ rfl rfl
  have h₄ : Run atGate _ _ := .changed (.goTo "hall") h₃ rfl rfl
  obtain ⟨hf, hback, hnew⟩ := run_follows_chronicle atGate_reachable atGate_tracking h₄
  exact ⟨hf, hback 2 (by decide) (by decide), hnew .reset rfl rfl⟩

end Engine
end Storyline
