import Storyline.Proofs.Choosing
import Storyline.Proofs.Chronicle
import Storyline.Proofs.Newest
import Storyline.Proofs.Renaming
import Storyline.Proofs.Service.Session

namespace Storyline

namespace Shelf
variable {s : Shelf} {a : Ambient} {c d : Checkpoint}

/-- A checkpoint that comes onto a shelf when one is made has the latest id. -/
theorem mem_create_id {draft : Draft} (h : c ∈ (s.create a draft).2.1.checkpoints) :
    c ∈ s.checkpoints ∨
      (s.create a draft).2.2.issued = a.issued + 1 ∧ c.id = checkpointId (a.issued + 1) := by
  have hmade : ∀ {made : Checkpoint}, s.counting.checkpointFor a.issue draft = .ok made →
      c ∈ (s.counting.put made).checkpoints →
      c ∈ s.checkpoints ∨ c.id = checkpointId (a.issued + 1) := by
    intro made hmade hc
    refine (mem_put hc).imp_right ?_
    rintro rfl
    rw [(checkpointFor_fields hmade).1, checkpointId_issue]
  rcases create_cases s a draft with
    ⟨f, a', hr, _⟩ | ⟨made, _, hm, ⟨f, _, hr⟩ | ⟨count, s', hs, hr⟩⟩ <;> rw [hr] at h ⊢
  · exact .inl h
  · exact (hmade hm h).imp_right fun hid => ⟨rfl, hid⟩
  · exact (hmade hm (mem_cleanup hs h)).imp_right fun hid => ⟨rfl, hid⟩

end Shelf

/-- An automatic save brings a checkpoint with the latest id. -/
theorem Autosave.mem_save_id {s : Autosave} {shelf : Shelf} {a : Ambient} {j : Job} {c : Checkpoint}
    (h : c ∈ (s.save shelf a j).shelf.checkpoints) : c ∈ shelf.checkpoints ∨
      (s.save shelf a j).ambient.issued = a.issued + 1 ∧ c.id = checkpointId (a.issued + 1) := by
  cases hcaptured : j.captured with
  | error fault =>
    rw [save, hcaptured] at h
    exact .inl h
  | ok state =>
    cases hname : nameFor s.config a state.node j.trigger with
    | error fault =>
      simp only [save, hcaptured, hname] at h
      split at h <;> exact .inl h
    | ok name =>
      have hcreated := @Shelf.mem_create_id shelf a c (draft s.config j state name)
      rcases hcreate : shelf.create a (draft s.config j state name) with ⟨r, shelf', a'⟩
      rw [hcreate] at hcreated
      cases r with
      | error fault =>
        simp only [save, hcaptured, hname, hcreate] at h ⊢
        exact hcreated h
      | ok made =>
        simp only [save, hcaptured, hname, hcreate] at h ⊢
        split at h
        · exact hcreated h
        · exact hcreated (mem_retain h)

namespace Engine
open Timeline
variable {e₀ e e' e'' : Engine} {id : String} {ops : List Operation}

def Operation.Imports (op : Operation) (e : Engine) (id : String) : Prop :=
  ∃ data c shelf, op = .importCheckpoint data ∧
    e.shelf.importFrom e.story data = .ok (c, shelf) ∧ c.id = id

/-- No checkpoint comes in under an id from outside while operations are done. -/
def Unimported (id : String) : Engine → List Operation → Prop
  | _, [] => True
  | e, op :: later => ¬ op.Imports e id ∧ Unimported id (e.attempt op).2 later

/-- Whatever lies under an id was there before, or the id was given out since. -/
structure Since (id : String) (e e' : Engine) : Prop where
  issued : e.ambient.issued ≤ e'.ambient.issued
  shelved : ∀ c ∈ e'.shelf.checkpoints, c.id = id → c ∈ e.shelf.checkpoints ∨
    ∃ n, e.ambient.issued < n ∧ n ≤ e'.ambient.issued ∧ id = checkpointId n

theorem Since.of_subset (hissued : e.ambient.issued ≤ e'.ambient.issued)
    (hshelf : e'.shelf.checkpoints ⊆ e.shelf.checkpoints) : Since id e e' :=
  ⟨hissued, fun _ hc _ => .inl (hshelf hc)⟩

theorem Since.refl (e : Engine) : Since id e e :=
  .of_subset (Nat.le_refl _) (List.Subset.refl _)

theorem Since.trans (h : Since id e e') (h' : Since id e' e'') : Since id e e'' where
  issued := Nat.le_trans h.issued h'.issued
  shelved := by
    intro c hc hid
    rcases h'.shelved c hc hid with hc | ⟨n, hlt, hle, hn⟩
    · refine (h.shelved c hc hid).imp_right ?_
      rintro ⟨n, hlt, hle, hn⟩
      exact ⟨n, hlt, Nat.le_trans hle h'.issued, hn⟩
    · exact .inr ⟨n, Nat.lt_of_le_of_lt h.issued hlt, hle, hn⟩

/-- The id of a checkpoint that was just made was just given out. -/
theorem Since.of_made (hissued : e.ambient.issued ≤ e'.ambient.issued)
    (h : ∀ c ∈ e'.shelf.checkpoints, c ∈ e.shelf.checkpoints ∨
      e'.ambient.issued = e.ambient.issued + 1 ∧ c.id = checkpointId (e.ambient.issued + 1)) :
    Since id e e' where
  issued := hissued
  shelved := by
    intro c hc hid
    refine (h c hc).imp_right ?_
    rintro ⟨hlast, hnew⟩
    exact ⟨_, Nat.lt_succ_self _, hlast.ge, hid.symm.trans hnew⟩

theorem since_step (hs : Step (fun _ => False) e e') : Since id e e' := by
  cases hs with
  | learnt _ | ruled _ | stored _ | followed _ _ | moved _ | flagged _ | restarted | recalled _ _
  | cleared | rebounded _ | throttled _ _ => exact .of_subset (Nat.le_refl _) (List.Subset.refl _)
  | placed hb _ | loaded _ hb | imported _ hb => exact hb.elim
  | waited clock issued => exact .of_subset (Nat.le_add_right _ _) (List.Subset.refl _)
  | tracked action metadata => exact .of_subset (record_steady _ _ _ _ _).2 (List.Subset.refl _)
  | travelled d => exact .of_subset (travel_steady _ _ _ _).2 (List.Subset.refl _)
  | rescheduled c => exact .of_subset (Nat.le_refl _) fun _ => Autosave.mem_retain
  | autosaved trigger metadata =>
    exact .of_made (save_steady _ _ _ _).2.2 fun _ => Autosave.mem_save_id
  | kept hd => exact .of_made (create_steady _ _ _).2 fun _ => Shelf.mem_create_id
  | deleted id => exact .of_subset (Nat.le_refl _) fun _ => Shelf.mem_delete
  | cleaned hcl => exact .of_subset (Nat.le_refl _) fun _ => Shelf.mem_cleanup hcl

theorem since_steps (hs : Steps (fun _ => False) e e') : Since id e e' := by
  induction hs with
  | refl => exact .refl _
  | tail _ hs ih => exact ih.trans (since_step hs)

theorem since_replace (s : NarrativeState) (tracked : Bool) :
    Since id e (e.replace s tracked).2 := by
  unfold replace
  split
  · exact .refl e
  · split
    · exact .of_subset (Nat.le_refl _) (List.Subset.refl _)
    · refine andThen_keeps (I := Since id e) (since_step (.tracked _ _)) ?_
      intro _ e₁ _ h
      have hplaced : Since id e₁ { e₁ with state := s } :=
        .of_subset (Nat.le_refl _) (List.Subset.refl _)
      exact (h.trans hplaced).trans (since_steps (happened_steps _ _))

theorem since_load (o : Save.LoadOptions) (data : Value) : Since id e (e.load o data).2 := by
  unfold load
  split
  · exact .refl e
  · exact .refl e
  · rename_i result l _
    refine andThen_keeps (I := Since id e) (since_step (.tracked _ _)) ?_
    intro _ e₁ _ h
    have hrestored : Since id e₁ (e₁.restored o l) :=
      .of_subset (Nat.le_refl _) (List.Subset.refl _)
    refine andThen_keeps (I := Since id e) ?_ fun _ _ _ h => h
    exact (h.trans hrestored).trans (since_steps (happened_steps _ _))

theorem since_import {data : Value} (h : ¬ (Operation.importCheckpoint data).Imports e id) :
    Since id e (e.importCheckpoint data).2 := by
  unfold importCheckpoint
  split
  · exact .refl e
  · rename_i c shelf himport
    refine ⟨Nat.le_refl _, fun d hd hid => .inl ?_⟩
    refine ((Shelf.mem_imported himport).2 d hd).resolve_right ?_
    rintro rfl
    exact h ⟨data, d, shelf, rfl, himport, hid⟩

/-- Only an import brings in a checkpoint under an id that was not just given out. -/
theorem since_attempt {op : Operation} (h : ¬ op.Imports e id) : Since id e (e.attempt op).2 := by
  have hsteps := attempt_steps e op
  cases op with
  | importCheckpoint data => exact since_import h
  -- A state that is loaded comes from outside, and the steps do not tell it from an imported one.
  | loadState s tracked =>
    show Since id e (e.loadState s tracked).2
    unfold loadState
    split
    · exact .refl e
    · exact since_replace _ tracked
  | loadPayload payload tracked =>
    show Since id e (e.loadPayload payload tracked).2
    unfold loadPayload
    split
    · exact .refl e
    · exact since_replace _ tracked
  | load o data => exact since_load o data
  | loadFrom key o =>
    show Since id e (e.loadFrom key o).2
    unfold loadFrom
    split
    · exact .refl e
    · exact since_load o _
  | _ => exact since_steps hsteps

theorem since_after (h : Unimported id e ops) : Since id e (e.after ops) := by
  induction ops generalizing e with
  | nil => exact .refl e
  | cons op later ih => exact (since_attempt h.1).trans (ih h.2)

/-- A checkpoint that was made is the one under its id, as long as there is one and none came in
under this id from outside. -/
theorem made_after (h : e.Sound) {name : Option String} {o : CheckpointOptions}
    {tags : List String} {c : Checkpoint} (hc : e.createCheckpoint name o tags = (.ok c, e'))
    (hops : Unimported c.id e' ops) (hids : (e'.after ops).ambient.Unrepeated) :
    c.state = e.state ∧ ∀ d ∈ (e'.after ops).shelf.checkpoints, d.id = c.id → d = c := by
  obtain ⟨a, hcreate⟩ := keep_eq_ok hc
  obtain ⟨_, hmade, ⟨count, hclean⟩, ha⟩ := Shelf.create_eq_ok hcreate
  have hstate : e.state.clone = .ok c.state := Shelf.checkpointFor_state hmade
  have hid : c.id = checkpointId (e.ambient.issued + 1) := by
    rw [(Shelf.checkpointFor_fields hmade).1, checkpointId_issue]
  have hissued : e'.ambient.issued = e.ambient.issued + 1 := by
    have hkeep := hc.symm.trans (keep_of_create hcreate)
    rw [(Prod.mk.inj hkeep).2, ha]
    rfl
  have hsince : Since c.id e' (e'.after ops) := since_after hops
  refine ⟨Except.ok.inj (hstate.symm.trans h.clone), fun d hd hsame => ?_⟩
  rcases hsince.shelved d hd hsame with hd | ⟨n, hlt, hle, hn⟩
  -- The new checkpoint took the place of any other one with its id.
  · rcases List.mem_append.mp (Shelf.mem_cleanup hclean hd) with hd | hd
    · have hne := (List.mem_filter.mp hd).2
      simp [hsame] at hne
    · exact List.mem_singleton.mp hd
  · have hlast := checkpointId_inj hids hle (hissued ▸ hsince.issued) (hn.symm.trans hid)
    omega

theorem track_config {action : Action} {metadata : Entries Value} {r : Except EngineFault Unit}
    (h : e.track action metadata = (r, e')) : e'.timeline.config = e.timeline.config := by
  cases h
  exact record_config _ _ _ _ _

/-- Putting back the state of a checkpoint is recorded like any other change. -/
theorem restore_noted (h : e.Reachable) {r : Save.Result} (hr : e.restore id = (.ok r, e'))
    (hsuccess : r.success = true) : e.timeline.Noted .stateLoad e.state e'.timeline ∧
      e'.timeline.config = e.timeline.config := by
  unfold restore at hr
  split at hr
  · cases hr
    cases hsuccess
  · split at hr
    · cases hr
      cases hsuccess
    · obtain ⟨_, e₁, htrack, hr⟩ := andThen_eq_ok.mp hr
      cases hr
      have hnoted : e.timeline.Noted .stateLoad e.state e₁.timeline :=
        track_noted h.sound h.idle htrack
      have hconfig : e₁.timeline.config = e.timeline.config := track_config htrack
      exact ⟨hnoted, hconfig⟩

/-- What was recorded last is undone first. -/
theorem undo_noted (h : e'.Sound) {action : Action} {s : NarrativeState}
    (hnoted : e.timeline.Noted action s e'.timeline)
    (hconfig : e'.timeline.config = e.timeline.config)
    (henabled : e.timeline.config.enabled = true)
    (htracked : action ∈ e.timeline.config.actions) :
    (e'.travel .undo).1.success = true ∧ (e'.travel .undo).2.state = s := by
  obtain ⟨entry, rfl, _, hpast⟩ := hnoted.pushed henabled htracked
  obtain ⟨bound, hbound⟩ := Nat.exists_eq_add_one.mpr e.timeline.config.undo_pos
  have hahead : e'.timeline.ahead .undo = entry :: e.timeline.past.take bound := by
    rw [ahead, hpast, hbound, List.take_succ_cons]
  have hsuccess : (e'.travel .undo).1.success = true := by
    rw [travel, h.clone]
    exact travel_success _ _ (hconfig ▸ henabled) hahead
  obtain ⟨taken, rest, _, ha, _, hstate, _⟩ := travel_takes h hsuccess
  cases hahead.symm.trans ha
  exact ⟨hsuccess, hstate⟩

/-- A state can be put back from under an id, and this can be undone if it is followed. -/
def Recalls (e : Engine) (id : String) (s : NarrativeState) : Prop :=
  ∃ r e', e.restore id = (.ok r, e') ∧ r.success = true ∧ e'.state = s ∧
    (e.timeline.config.enabled = true → Action.stateLoad ∈ e.timeline.config.actions →
      (e'.travel .undo).1.success = true ∧ (e'.travel .undo).2.state = e.state)

theorem after_reachable (h : e.Reachable) (ops : List Operation) : (e.after ops).Reachable := by
  induction ops generalizing e with
  | nil => exact h
  | cons op later ih => exact ih (h.next op)

/-- Whatever is done after a checkpoint was made: if there is one under its id, and none was
imported under this id, the state that it was made of can be put back. -/
theorem checkpoint_lasts (h : e.Reachable) {name : Option String} {o : CheckpointOptions}
    {tags : List String} {c : Checkpoint} (hc : e.createCheckpoint name o tags = (.ok c, e'))
    (hops : Unimported c.id e' ops) (hthere : (e'.after ops).shelf.has c.id = true)
    (hids : (e'.after ops).ambient.Unrepeated) : (e'.after ops).Recalls c.id e.state := by
  have hreach : (e'.after ops).Reachable := by
    have hnext := h.next (.createCheckpoint name o tags)
    have hattempt : (e.attempt (.createCheckpoint name o tags)).2 = e' := congrArg Prod.snd hc
    rw [hattempt] at hnext
    exact after_reachable hnext ops
  obtain ⟨hstate, hsame⟩ := made_after h.sound hc hops hids
  obtain ⟨d, hd⟩ := Option.isSome_iff_exists.mp hthere
  have hmem : d ∈ (e'.after ops).shelf.checkpoints := List.mem_of_find?_eq_some hd
  have hid : d.id = c.id := by simpa using List.find?_some hd
  obtain rfl := hsame d hmem hid
  obtain ⟨r, e'', hrestore, hsuccess, hplaced⟩ := (available_of_mem hreach hmem).restored
  obtain ⟨hnoted, hconfig⟩ := restore_noted hreach hrestore hsuccess
  have hsound : e''.Sound := by
    have hnext := (hreach.next (.restore d.id)).sound
    have hattempt : ((e'.after ops).attempt (.restore d.id)).2 = e'' := congrArg Prod.snd hrestore
    rwa [hattempt] at hnext
  exact ⟨r, e'', hrestore, hsuccess, hplaced.trans hstate, undo_noted hsound hnoted hconfig⟩

/-- A way through the hall and back again, with a checkpoint and an undone step on it. -/
def wandering : List Operation :=
  [.choose (.int 0) none, .setFlag (.text "lamp") (.bool true), .travel .undo,
    .createCheckpoint none { strategy := "manual" } [], .reset, .travel .redo]

theorem checkpoint_lasts_hallway : ∃ c e',
    atGate.createCheckpoint none { strategy := "manual" } [] = (.ok c, e') ∧
      (e'.after wandering).Recalls c.id atGate.state := by
  let o : CheckpointOptions := { strategy := "manual" }
  obtain ⟨c, shelf, a, hmade⟩ := (Shelf.create_succeeds (s := atGate.shelf) (a := atGate.ambient)
    (d := { state := atGate.state, options := o, node := Story.hallway.find? "gate" })).mpr
    ⟨rfl, isOk_eq_true.mpr ⟨_, atGate_reachable.sound.clone⟩, rfl⟩
  have hcreate : atGate.createCheckpoint none o [] = (.ok c, { atGate with shelf, ambient := a }) :=
    keep_of_create hmade
  have hid : c.id = checkpointId 1 :=
    (Shelf.checkpointFor_fields (Shelf.create_eq_ok hmade).2.1).1
  have hend : ((atGate.createCheckpoint none o []).2.after wandering).shelf.has (checkpointId 1) =
      true ∧ ((atGate.createCheckpoint none o []).2.after wandering).ambient.issued < 16 ^ 12 := by
    decide +kernel
  rw [hcreate, ← hid] at hend
  obtain ⟨hthere, hissued⟩ := hend
  have hids := Ambient.unrepeated_of_lt hissued
  refine ⟨c, _, hcreate, checkpoint_lasts atGate_reachable hcreate ?_ hthere hids⟩
  simp [Unimported, wandering, Operation.Imports]

end Engine
end Storyline
