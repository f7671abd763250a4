import Storyline.Proofs.Mutation
import Storyline.Proofs.Newest

namespace Storyline

namespace Shelf
variable {s s' : Shelf} {c n : Checkpoint}

/-- A new checkpoint leaves no place for another one. -/
def CrowdsOut (s : Shelf) (n c : Checkpoint) : Prop :=
  Overtaken s.strategy s.limit (s.put n).checkpoints c

theorem mem_foldl_delete_iff {ids : List String} :
    c ∈ (ids.foldl delete s).checkpoints ↔ c ∈ s.checkpoints ∧ c.id ∉ ids := by
  induction ids generalizing s with
  | nil => simp
  | cons id rest ih =>
    rw [List.foldl_cons, ih, delete, List.mem_filter]
    simp only [bne_iff_ne, ne_eq, List.mem_cons, not_or]
    tauto

/-- What stays of the others when a checkpoint is made: those that it does not crowd out. -/
theorem create_mem_iff {a a' : Ambient} {d : Draft} (h : s.Orderly) (ho : d.options.limit = 0)
    (hs : d.options.strategy = "") (hcreate : s.create a d = (.ok n, s', a')) (hne : n.id ≠ c.id) :
    c ∈ s'.checkpoints ↔ c ∈ s.checkpoints ∧ ¬ s.CrowdsOut n c := by
  obtain ⟨_, hn, ⟨count, hcleaned⟩, _⟩ := create_eq_ok hcreate
  have hsequence : n.sequence = s.sequence + 1 := (checkpointFor_fields hn).2.2
  obtain ⟨strategy, hstrategy, hevicts⟩ := put_evicts _ h hsequence (by omega) hcleaned
  have hown : s.strategyFor d.options = .ok s.strategy := by simp [strategyFor, hs]
  have hlimit : s.limitFor d.options = s.limit := by simp [limitFor, ho]
  rw [hown] at hstrategy
  cases hstrategy
  rw [hlimit, ← put_checkpoints] at hevicts
  have hlisted : Listed (s.put n).checkpoints := h.listed.put (h.older hsequence)
  have hput : c ∈ (s.put n).checkpoints ↔ c ∈ s.checkpoints := by
    constructor
    · intro hc
      rcases mem_put hc with hc | rfl
      · exact hc
      · exact absurd rfl hne
    · intro hc
      exact List.mem_append_left _ (List.mem_filter.mpr ⟨hc, by simpa using hne.symm⟩)
  constructor
  · intro hc
    have hc' := hevicts.kept.subset hc
    exact ⟨hput.mp hc', (hevicts.mem_iff hlisted hc').mp hc⟩
  · rintro ⟨hc, hroom⟩
    exact (hevicts.mem_iff hlisted (hput.mpr hc)).mpr hroom

end Shelf

namespace Autosave
variable {s : Autosave} {shelf : Shelf} {a : Ambient} {j : Job} {c n : Checkpoint}

/-- The checkpoint that an attempt to save makes, if it gets so far. -/
def made? (s : Autosave) (shelf : Shelf) (a : Ambient) (j : Job) : Option Checkpoint :=
  match j.captured with
  | .error _ => none
  | .ok state =>
    match nameFor s.config a state.node j.trigger with
    | .error _ => none
    | .ok name => (shelf.create a (draft s.config j state name)).1.toOption

/-- Where the limit and the strategy are those of the shelf, it can always be cleaned up. -/
theorem create_unmade {d : Shelf.Draft} {shelf' : Shelf} {a' : Ambient} {f : CheckpointFault}
    (hs : d.options.strategy = "") (h : shelf.create a d = (.error f, shelf', a')) :
    shelf'.checkpoints = shelf.checkpoints := by
  rcases shelf.create_cases a d with ⟨_, _, hr, _⟩ | ⟨n, _, _, ⟨f', hf, _⟩ | ⟨_, _, _, hr⟩⟩
  · rw [hr] at h
    cases h
    rfl
  · have hno : (shelf.counting.put n |>.cleanup d.options).isOk = false :=
      isOk_eq_false.mpr ⟨f', hf⟩
    simp only [Shelf.cleanup_isOk, Shelf.strategyFor, hs] at hno
    cases hno
  · rw [hr] at h
    cases h

theorem retain_ids (s : Autosave) (shelf : Shelf) : (s.retain shelf).1.ids ⊆ s.ids := by
  intro id hid
  exact (List.mem_filter.mp (List.mem_of_mem_drop hid)).1

/-- Only saves of its own are deleted. -/
theorem mem_retain_iff (h : c.id ∉ s.ids) :
    c ∈ (s.retain shelf).2.checkpoints ↔ c ∈ shelf.checkpoints := by
  have hspared : ∀ count, c.id ∉ (s.forget shelf).ids.take count :=
    fun count hid => h (List.mem_filter.mp (List.mem_of_mem_take hid)).1
  unfold retain
  rw [Shelf.mem_foldl_delete_iff]
  exact and_iff_left (hspared _)

theorem made?_eq_some {state : NarrativeState} {name : String} {shelf' : Shelf} {a' : Ambient}
    (hj : j.captured = .ok state) (hname : nameFor s.config a state.node j.trigger = .ok name)
    (hcreate : shelf.create a (draft s.config j state name) = (.ok n, shelf', a')) :
    s.made? shelf a j = some n := by
  simp only [made?, hj, hname, hcreate]
  rfl

/-- What comes of an attempt to save: no checkpoint is made, or one is, and then it is kept among
the saves unless it has no size. -/
theorem save_cases (s : Autosave) (shelf : Shelf) (a : Ambient) (j : Job) :
    (s.made? shelf a j = none ∧ (s.save shelf a j).shelf.checkpoints = shelf.checkpoints ∧
      (s.save shelf a j).autosave.ids = s.ids) ∨
    ∃ n d shelf' a', s.made? shelf a j = some n ∧ d.options.limit = 0 ∧ d.options.strategy = "" ∧
      shelf.create a d = (.ok n, shelf', a') ∧
      ((s.save shelf a j).shelf = shelf' ∧ (s.save shelf a j).autosave.ids = s.ids ∨
        ∃ t : Autosave, t.ids = s.ids ++ [n.id] ∧ (s.save shelf a j).shelf = (t.retain shelf').2 ∧
          (s.save shelf a j).autosave.ids = (t.retain shelf').1.ids) := by
  cases hj : j.captured with
  | error f =>
    left
    simp only [made?, save, hj]
    exact ⟨trivial, rfl, rfl⟩
  | ok state =>
    cases hname : nameFor s.config a state.node j.trigger with
    | error f =>
      left
      simp only [made?, save, hj, hname]
      split <;> exact ⟨trivial, rfl, rfl⟩
    | ok name =>
      rcases hcreate : shelf.create a (draft s.config j state name) with ⟨f | n, shelf', a'⟩
      · left
        simp only [made?, save, hj, hname, hcreate]
        exact ⟨rfl, create_unmade rfl hcreate, rfl⟩
      · right
        have hmade := made?_eq_some hj hname hcreate
        refine ⟨n, draft s.config j state name, shelf', a', hmade, rfl, rfl, hcreate, ?_⟩
        simp only [save, hj, hname, hcreate]
        cases sizeOf n with
        | error f => exact .inl ⟨rfl, rfl⟩
        | ok size =>
          exact .inr ⟨{ s with savedAt := some a'.seconds, ids := s.ids ++ [n.id] }, rfl, rfl, rfl⟩

/-- What stays of the others when an attempt to save was made. -/
theorem save_mem_iff (h : shelf.Orderly) (hids : c.id ∉ s.ids)
    (hnew : ∀ n, s.made? shelf a j = some n → n.id ≠ c.id) :
    (c ∈ (s.save shelf a j).shelf.checkpoints ↔
      c ∈ shelf.checkpoints ∧ ∀ n, s.made? shelf a j = some n → ¬ shelf.CrowdsOut n c) ∧
    c.id ∉ (s.save shelf a j).autosave.ids := by
  rcases save_cases s shelf a j with ⟨hnone, hshelf, hkept⟩ |
    ⟨n, d, shelf', a', hmade, ho, hs, hcreate, hsaved⟩
  · rw [hnone, hshelf, hkept]
    exact ⟨by simp, hids⟩
  · have hne : n.id ≠ c.id := hnew n hmade
    have hcreated := Shelf.create_mem_iff h ho hs hcreate hne
    have hrest : (c ∈ shelf'.checkpoints ↔ c ∈ shelf.checkpoints ∧
        ∀ n, s.made? shelf a j = some n → ¬ shelf.CrowdsOut n c) := by
      simpa [hmade] using hcreated
    rcases hsaved with ⟨hshelf, hkept⟩ | ⟨t, ht, hshelf, hkept⟩
    · rw [hshelf, hkept]
      exact ⟨hrest, hids⟩
    · have hids' : c.id ∉ t.ids := by
        rw [ht, List.mem_append, List.mem_singleton, not_or]
        exact ⟨hids, hne.symm⟩
      rw [hshelf, hkept, mem_retain_iff hids']
      exact ⟨hrest, fun hid => hids' (retain_ids t shelf' hid)⟩

end Autosave

namespace Engine
variable {e₀ e e₁ e₂ : Engine} {made : List (Shelf × Checkpoint)} {c : Checkpoint}

/-- What happens to an engine whose checkpoints are left alone, and the checkpoints that are made
automatically meanwhile, each with the shelf that it was put on. -/
inductive Unattended : Engine → List (Shelf × Checkpoint) → Engine → Prop
  | start {e : Engine} : Unattended e [] e
  | other {e e₁ e₂ : Engine} {made : List (Shelf × Checkpoint)} : Unattended e made e₁ →
    e₂.shelf = e₁.shelf → e₂.autosave.ids = e₁.autosave.ids → Unattended e made e₂
  | configured {e e₁ : Engine} {made : List (Shelf × Checkpoint)} (c : Autosave.Config) :
    Unattended e made e₁ → Unattended e made { e₁ with
      autosave := (e₁.autosave.configure c e₁.shelf).1
      shelf := (e₁.autosave.configure c e₁.shelf).2 }
  | saved {e e₁ : Engine} {made : List (Shelf × Checkpoint)} (j : Autosave.Job) :
    Unattended e made e₁ → Unattended e
      (made ++ ((e₁.autosave.made? e₁.shelf e₁.ambient j).map (e₁.shelf, ·)).toList)
      (e₁.attempted (e₁.autosave.save e₁.shelf e₁.ambient j)).2

/-- A checkpoint that is no automatic save stays as long as it is not crowded out by one. -/
theorem unattended_mem_iff (h : e.Reachable) (hc : c ∈ e.shelf.checkpoints)
    (hids : c.id ∉ e.autosave.ids) (hu : e.Unattended made e₁)
    (hnew : ∀ p ∈ made, p.2.id ≠ c.id) :
    Shelf.Collected e.story e₁.shelf ∧ c.id ∉ e₁.autosave.ids ∧
      (c ∈ e₁.shelf.checkpoints ↔ ∀ p ∈ made, ¬ p.1.CrowdsOut p.2 c) := by
  induction hu with
  | start => exact ⟨h.collected, hids, by simp [hc]⟩
  | other _ hshelf hkept ih =>
    rw [hshelf, hkept]
    exact ih hnew
  | @configured e₁ _ config _ ih =>
    obtain ⟨hcollected, hids', hmem⟩ := ih hnew
    let a : Autosave := { e₁.autosave with config }
    refine ⟨retain_collected a hcollected, fun hid => hids' (a.retain_ids e₁.shelf hid), ?_⟩
    rw [← hmem]
    exact Autosave.mem_retain_iff (s := a) hids'
  | @saved e₁ made j _ ih =>
    have hbefore : ∀ p ∈ made, p.2.id ≠ c.id := fun p hp => hnew p (List.mem_append_left _ hp)
    obtain ⟨hcollected, hids', hmem⟩ := ih hbefore
    have hlast : ∀ n, e₁.autosave.made? e₁.shelf e₁.ambient j = some n → n.id ≠ c.id :=
      fun n hn => hnew (e₁.shelf, n) (List.mem_append_right _ (by simp [hn]))
    obtain ⟨hsaved, hids''⟩ := Autosave.save_mem_iff hcollected.orderly hids' hlast
    refine ⟨save_collected _ _ _ hcollected, hids'', ?_⟩
    have hpairs : (∀ p ∈ ((e₁.autosave.made? e₁.shelf e₁.ambient j).map (e₁.shelf, ·)).toList,
        ¬ p.1.CrowdsOut p.2 c) ↔
          ∀ n, e₁.autosave.made? e₁.shelf e₁.ambient j = some n → ¬ e₁.shelf.CrowdsOut n c := by
      simp
    rw [List.forall_mem_append, hpairs, ← hmem]
    exact hsaved

def LeftAlone (e₀ e : Engine) : Prop := ∃ made, Unattended e₀ made e

theorem LeftAlone.other (h : LeftAlone e₀ e₁) (hs : e₂.shelf = e₁.shelf)
    (ha : e₂.autosave.ids = e₁.autosave.ids) : LeftAlone e₀ e₂ := by
  obtain ⟨made, h⟩ := h
  exact ⟨made, h.other hs ha⟩

theorem LeftAlone.trigger (h : LeftAlone e₀ e) (trigger : String) (metadata : Entries Value) :
    LeftAlone e₀ (e.triggerAutosave trigger metadata).2 := by
  unfold triggerAutosave Autosave.trigger
  split
  · exact h
  · rename_i a ha
    refine andThen_keeps ?_ fun _ _ _ h => h
    split at ha
    · cases ha
    · split at ha <;> cases ha
      · exact h.other rfl rfl
      · obtain ⟨made, h⟩ := h
        exact ⟨_, h.saved (e.job trigger metadata)⟩

theorem LeftAlone.happened (h : LeftAlone e₀ e) (trigger : Autosave.Trigger)
    (metadata : Entries Value) : LeftAlone e₀ (e.happened trigger metadata).2 := by
  unfold Engine.happened
  split
  · exact h
  · exact andThen_keeps (h.trigger _ _) fun _ _ _ h => h

theorem LeftAlone.visible (h : LeftAlone e₀ e) (customData : Entries Value) :
    LeftAlone e₀ (e.visible customData).2 := by
  obtain ⟨evaluator, he⟩ := visible_keeps (e := e) customData
  rw [he]
  exact h.other rfl rfl

theorem LeftAlone.available (h : LeftAlone e₀ e) (time : Option Number)
    (customData : Entries Value) : LeftAlone e₀ (e.available time customData).2 :=
  andThen_keeps (h.visible customData) fun _ _ _ h => h

theorem LeftAlone.commit (h : LeftAlone e₀ e) (c : Choice) (offered : List Choice)
    (time : Option Number) : LeftAlone e₀ (e.commit c offered time).2 := by
  unfold Engine.commit
  split
  · exact h
  · split
    · exact h
    · split
      · exact h
      · rename_i target _
        refine andThen_keeps (I := LeftAlone e₀) (h.other rfl rfl) ?_
        intro _ e' _ h
        split
        · exact h
        · have hfollowed : LeftAlone e₀ (e'.follow c target) := h.other rfl rfl
          exact andThen_keeps (hfollowed.happened _ _) fun _ _ _ h => h

theorem LeftAlone.select (h : LeftAlone e₀ e) (c : Choice) (time : Option Number) :
    LeftAlone e₀ (e.select c time).2 :=
  andThen_keeps (h.available time []) fun offered _ _ h => h.commit c offered time

theorem LeftAlone.choose (h : LeftAlone e₀ e) (index : Value) (time : Option Number) :
    LeftAlone e₀ (e.choose index time).2 := by
  refine andThen_keeps (h.visible []) ?_
  intro seen e' _ h
  split
  · exact h
  · exact h.select _ time

theorem LeftAlone.goTo (h : LeftAlone e₀ e) (id : String) : LeftAlone e₀ (e.goTo id).2 := by
  unfold Engine.goTo
  split
  · exact h
  · exact andThen_keeps (I := LeftAlone e₀) (h.other rfl rfl) fun _ _ _ h => h.other rfl rfl

theorem LeftAlone.setFlag (h : LeftAlone e₀ e) (name value : Value) :
    LeftAlone e₀ (e.setFlag name value).2 := by
  unfold Engine.setFlag
  split
  · exact h
  · rename_i name _
    refine andThen_keeps (I := LeftAlone e₀) (h.other rfl rfl) ?_
    intro _ e' _ h
    dsimp only
    split
    · have hflagged : LeftAlone e₀ { e' with state := e'.state.withEffects [(name, value)] } :=
        h.other rfl rfl
      exact hflagged.happened _ _
    · exact h

theorem LeftAlone.replace (h : LeftAlone e₀ e) (s : NarrativeState) (tracked : Bool) :
    LeftAlone e₀ (e.replace s tracked).2 := by
  unfold Engine.replace
  split
  · exact h
  · split
    · exact h.other rfl rfl
    · refine andThen_keeps (I := LeftAlone e₀) (h.other rfl rfl) ?_
      intro _ e' _ h
      have hplaced : LeftAlone e₀ { e' with state := s } := h.other rfl rfl
      exact hplaced.happened _ _

theorem LeftAlone.load (h : LeftAlone e₀ e) (o : Save.LoadOptions) (data : Value) :
    LeftAlone e₀ (e.load o data).2 := by
  unfold Engine.load
  split
  · exact h
  · exact h
  · rename_i l _
    refine andThen_keeps (I := LeftAlone e₀) (h.other rfl rfl) ?_
    intro _ e' _ h
    have hrestored : LeftAlone e₀ (e'.restored o l) := h.other rfl rfl
    exact andThen_keeps (hrestored.happened _ _) fun _ _ _ h => h

theorem LeftAlone.restore (h : LeftAlone e₀ e) (id : String) : LeftAlone e₀ (e.restore id).2 := by
  unfold Engine.restore
  split
  · exact h
  · split
    · exact h
    · exact andThen_keeps (I := LeftAlone e₀) (h.other rfl rfl) fun _ _ _ h => h.other rfl rfl

/-- The operations by which checkpoints are made, imported and deleted by hand. -/
def Operation.ByHand : Operation → Prop
  | .createCheckpoint _ _ _ | .deleteCheckpoint _ | .cleanup _ | .importCheckpoint _ => True
  | _ => False

/-- All other operations leave the checkpoints alone. -/
theorem LeftAlone.attempt (h : LeftAlone e₀ e) {op : Operation} (hop : ¬ op.ByHand) :
    LeftAlone e₀ (e.attempt op).2 := by
  cases op with
  | createCheckpoint _ _ _ | deleteCheckpoint _ | cleanup _ | importCheckpoint _ =>
    exact absurd trivial hop
  | look customData => exact h.visible customData
  | offer time customData => exact h.available time customData
  | askComplete => exact andThen_keeps (h.available none []) fun _ _ _ h => h
  | consider c time => exact andThen_keeps (h.visible []) fun _ _ _ h => h
  | choose index time => exact h.choose index time
  | select c time => exact h.select c time
  | goTo id => exact h.goTo id
  | setFlag name value => exact h.setFlag name value
  | reset =>
    exact andThen_keeps (I := LeftAlone e₀) (h.other rfl rfl) fun _ _ _ h => h.other rfl rfl
  | loadState s tracked =>
    show LeftAlone e₀ (e.loadState s tracked).2
    unfold loadState
    split
    · exact h
    · exact h.replace _ tracked
  | loadPayload payload tracked =>
    show LeftAlone e₀ (e.loadPayload payload tracked).2
    unfold loadPayload
    split
    · exact h
    · exact h.replace _ tracked
  | load o data => exact h.load o data
  | saveTo key o =>
    show LeftAlone e₀ (e.saveTo key o).2
    unfold saveTo
    split
    · exact h
    · exact h.other rfl rfl
  | loadFrom key o =>
    show LeftAlone e₀ (e.loadFrom key o).2
    unfold loadFrom
    split
    · exact h
    · exact h.load o _
  | restore id => exact h.restore id
  | configureTimeline changes =>
    show LeftAlone e₀ (e.configureTimeline changes).2
    unfold configureTimeline
    split
    · exact h
    · exact h.other rfl rfl
  | configureAutosave changes =>
    show LeftAlone e₀ (e.configureAutosave changes).2
    unfold configureAutosave
    split
    · exact h
    · obtain ⟨made, h⟩ := h
      exact ⟨made, h.configured _⟩
  | triggerAutosave trigger metadata => exact h.trigger trigger metadata
  | saveNow metadata =>
    obtain ⟨made, h⟩ := h
    exact ⟨_, h.saved (e.job Autosave.manualTrigger metadata)⟩
  | setEvaluator _ | clearEvaluator | addRule _ | removeRule _ | travel _ | clearTimeline | wait _ _
  | replaceStore _ => exact h.other rfl rfl

theorem after_leftAlone {ops : List Operation} (h : LeftAlone e₀ e)
    (hops : ∀ op ∈ ops, ¬ op.ByHand) : LeftAlone e₀ (e.after ops) := by
  induction ops generalizing e with
  | nil => exact h
  | cons op rest ih =>
    have hnext := h.attempt (hops op List.mem_cons_self)
    exact ih hnext fun op hop => hops op (List.mem_cons_of_mem _ hop)

/-- A checkpoint that is no automatic save stays, unless the shelf has no place for it behind one.
Automatic saves are all that happens to the checkpoints, unless they are changed by hand. -/
theorem autosaves_spare (h : e.Reachable) (hc : c ∈ e.shelf.checkpoints)
    (hids : c.id ∉ e.autosave.ids) :
    (∀ made e', e.Unattended made e' → (∀ p ∈ made, p.2.id ≠ c.id) →
      (c ∈ e'.shelf.checkpoints ↔ ∀ p ∈ made, ¬ p.1.CrowdsOut p.2 c)) ∧
    ∀ ops, (∀ op ∈ ops, ¬ op.ByHand) → ∃ made, e.Unattended made (e.after ops) := by
  constructor
  · intro made e' hu hnew
    exact (unattended_mem_iff h hc hids hu hnew).2.2
  · intro ops hops
    exact after_leftAlone ⟨[], .start⟩ hops

/-- An engine at the gate with a shelf for one checkpoint, and one that was made by hand on it. -/
def brimful : Engine :=
  let e : Engine := { atGate with shelf := ⟨1, .timestamp, [], 0, 0⟩ }
  (e.attempt (.createCheckpoint none { strategy := "manual" } [])).2

theorem brimful_reachable : brimful.Reachable := by
  have hmade : make .hallway ⟨0, 0⟩ { settings := { maxCheckpoints := 1 }
                                      timeline := some .standard, autosave := some .off } =
      .ok { atGate with shelf := ⟨1, .timestamp, [], 0, 0⟩ } := rfl
  exact .next _ (.made Story.hallway_made hmade)

def byHand : Checkpoint :=
  ⟨"cp-000000000001", .start "gate", Time.stamp 0, some "Checkpoint 1", none, [], [], 1⟩

/-- An automatic save on a full shelf evicts a checkpoint that is none of its own. -/
theorem autosaves_spare_not : byHand ∈ brimful.shelf.checkpoints ∧
    byHand.id ∉ brimful.autosave.ids ∧
    byHand ∉ (brimful.attempt (.saveNow [])).2.shelf.checkpoints := by
  have hmem : byHand ∈ brimful.shelf.checkpoints := List.mem_singleton_self _
  have hids : byHand.id ∉ brimful.autosave.ids := List.not_mem_nil
  let j := brimful.job Autosave.manualTrigger []
  have hclone : brimful.state.clone = .ok brimful.state := brimful_reachable.sound.clone
  obtain ⟨n, shelf, a, hcreate⟩ := (Shelf.create_succeeds (s := brimful.shelf)
    (a := brimful.ambient) (d := Autosave.draft brimful.autosave.config j brimful.state "")).mpr
    ⟨rfl, isOk_eq_true.mpr ⟨_, hclone⟩, rfl⟩
  obtain ⟨hid, hstamp, hsequence⟩ := Shelf.checkpointFor_fields (Shelf.create_eq_ok hcreate).2.1
  have hsaved : brimful.Unattended _ (brimful.attempt (.saveNow [])).2 := .saved j .start
  rw [Autosave.made?_eq_some hclone rfl hcreate] at hsaved
  have hrank : Shelf.rank .timestamp byHand < Shelf.rank .timestamp n := by
    have hlater : byHand.sequence < n.sequence := by
      rw [hsequence]
      decide
    have hsame : Time.readStamp byHand.timestamp = Time.readStamp n.timestamp := by
      rw [hstamp]
      rfl
    exact Prod.Lex.toLex_lt_toLex.mpr (.inr ⟨hsame, hlater⟩)
  have hcrowded : brimful.shelf.CrowdsOut n byHand := by
    have hput : n ∈ (brimful.shelf.put n).checkpoints := List.mem_append_right _ List.mem_cons_self
    have hsome : 0 < (brimful.shelf.put n).checkpoints.countP fun d =>
        Shelf.rank .timestamp byHand < Shelf.rank .timestamp d :=
      List.countP_pos_iff.mpr ⟨n, hput, decide_eq_true hrank⟩
    refine ⟨by decide, ?_⟩
    show (1 : Int) ≤ _
    exact_mod_cast hsome
  refine ⟨hmem, hids, ?_⟩
  intro hstays
  have hspared := (autosaves_spare brimful_reachable hmem hids).1 _ _ hsaved ?_
  · exact hspared.mp hstays (brimful.shelf, n) (by simp) hcrowded
  · intro p hp
    simp only [List.nil_append, Option.map_some, Option.toList_some, List.mem_singleton] at hp
    rw [hp, hid]
    decide

end Engine
end Storyline
