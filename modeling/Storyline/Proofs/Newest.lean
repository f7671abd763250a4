import Storyline.Proofs.Breakage
import Storyline.Proofs.Eviction

namespace Storyline

namespace Shelf
variable {s s' : Shelf} {c : Checkpoint} {o : CheckpointOptions} {strategy : Strategy} {limit : Int}
  {count : Nat}

/-- There is no place for a new checkpoint: timestamps count, and as many others as may stay have
later ones. -/
def Outdone (s : Shelf) (strategy : Strategy) (limit : Int) (c : Checkpoint) : Prop :=
  (strategy = .timestamp ∨ strategy = .lru) ∧
    limit ≤ (s.delete c.id).checkpoints.countP fun d =>
      Time.readStamp c.timestamp < Time.readStamp d.timestamp

/-- Only a later timestamp is of a higher rank than the newest checkpoint. -/
theorem overtaken_newest (hnew : ∀ d ∈ s.checkpoints, d.sequence < c.sequence) (hn : 0 < limit) :
    Overtaken strategy limit (s.put c).checkpoints c ↔ s.Outdone strategy limit c := by
  have holder : ∀ d ∈ (s.delete c.id).checkpoints, ¬ c.sequence < d.sequence :=
    fun d hd => Nat.not_lt_of_lt (hnew d (mem_delete hd))
  have hself : [c].countP (fun d => rank strategy c < rank strategy d) = 0 := by simp
  rw [Overtaken, Outdone, put_checkpoints, List.countP_append, hself, Nat.add_zero]
  change _ ∧ limit ≤ (s.delete c.id).checkpoints.countP _ ↔ _
  cases strategy with
  | manual => simp
  | fifo =>
    have hnone : (s.delete c.id).checkpoints.countP
        (fun d => rank .fifo c < rank .fifo d) = 0 := by
      apply List.countP_eq_zero.mpr
      intro d hd
      simpa [rank, Prod.Lex.toLex_lt_toLex] using holder d hd
    simp [hnone, hn]
  | timestamp | lru =>
    have hlater : ∀ {later}, (∀ d, rank later c < rank later d ↔
        Time.readStamp c.timestamp < Time.readStamp d.timestamp ∨
          Time.readStamp c.timestamp = Time.readStamp d.timestamp ∧ c.sequence < d.sequence) →
        ((s.delete c.id).checkpoints.countP fun d => rank later c < rank later d) =
          (s.delete c.id).checkpoints.countP fun d =>
            Time.readStamp c.timestamp < Time.readStamp d.timestamp := by
      intro later hrank
      apply List.countP_congr
      intro d hd
      simp [hrank, holder d hd]
    rw [hlater fun d => Prod.Lex.toLex_lt_toLex]
    simp

/-- Whether a checkpoint stays that was put on a shelf as the newest, when it is cleaned up. -/
theorem put_stays (created : Nat) (h : s.Orderly) (hc : c.sequence = s.sequence + 1)
    (ho : 0 ≤ o.limit)
    (hs : ({ s with sequence := s.sequence + 1, created }.put c : Shelf).cleanup o =
      .ok (count, s')) :
    ∃ strategy, s.strategyFor o = .ok strategy ∧
      (c ∈ s'.checkpoints ↔ ¬ s.Outdone strategy (s.limitFor o) c) ∧
      ∀ d ∈ s'.checkpoints, d.id = c.id → d = c := by
  obtain ⟨strategy, hstrategy, hevicts⟩ := put_evicts created h hc ho hs
  have hnew := h.older hc
  refine ⟨strategy, hstrategy, ?_, ?_⟩
  · rw [hevicts.mem_iff (h.listed.put hnew) (List.mem_append_right _ (List.mem_singleton_self c)),
      ← put_checkpoints, overtaken_newest hnew (limitFor_pos h ho)]
  · intro d hd hid
    rcases List.mem_append.mp (hevicts.kept.subset hd) with hd | hd
    · have hne := (List.mem_filter.mp hd).2
      simp [hid] at hne
    · exact List.mem_singleton.mp hd

end Shelf

namespace Engine
variable {e e' : Engine} {c : Checkpoint} {story : Story} {shelf : Shelf}

theorem retain_collected (s : Autosave) (h : Shelf.Collected story shelf) :
    Shelf.Collected story (s.retain shelf).2 := by
  unfold Autosave.retain
  dsimp only
  generalize (s.forget shelf).ids.take _ = gone
  induction gone generalizing shelf with
  | nil => exact h
  | cons id rest ih => exact ih (.deleted id h)

theorem save_collected (s : Autosave) (a : Ambient) (j : Autosave.Job)
    (h : Shelf.Collected story shelf) : Shelf.Collected story (s.save shelf a j).shelf := by
  unfold Autosave.save
  split
  · exact h
  · rename_i state _
    split
    · split <;> exact h
    · rename_i name _
      have hcreated := Shelf.Collected.created a (Autosave.draft s.config j state name) h
      split
      · rename_i hcr
        rw [hcr] at hcreated
        exact hcreated
      · rename_i hcr
        rw [hcr] at hcreated
        split
        · exact hcreated
        · exact retain_collected _ hcreated

/-- No step does more to a shelf than can be done to it. -/
theorem step_collected {brought : NarrativeState → Prop} (hs : Step brought e e')
    (h : Shelf.Collected e.story e.shelf) : Shelf.Collected e'.story e'.shelf := by
  cases hs with
  | learnt _ | ruled _ | stored _ | waited _ _ | throttled _ _ | followed _ _ | moved _ | flagged _
  | restarted | placed _ _ | loaded _ _ | recalled _ _ | cleared | rebounded _ | tracked _ _
  | travelled _ => exact h
  | rescheduled c => exact retain_collected _ h
  | autosaved trigger metadata => exact save_collected _ _ _ h
  | kept _ => exact .created _ _ h
  | deleted id => exact .deleted id h
  | cleaned hcl => exact .cleaned h hcl
  | imported hi _ => exact .imported h hi

/-- The shelf of an engine comes about like all shelves. -/
theorem Reachable.collected (h : e.Reachable) : Shelf.Collected e.story e.shelf := by
  refine h.keeps (I := fun e => Shelf.Collected e.story e.shelf) ?_ step_collected
  intro story ambient setup e _ hm
  obtain ⟨state, _, hm⟩ := bind_eq_ok.mp hm
  obtain ⟨ev, _, hm⟩ := bind_eq_ok.mp hm
  obtain ⟨shelf, hsh, hm⟩ := bind_eq_ok.mp hm
  obtain ⟨tc, _, hm⟩ := bind_eq_ok.mp hm
  obtain ⟨ac, _, hm⟩ := bind_eq_ok.mp hm
  cases hm
  exact .made (mapError_eq_ok.mp hsh)

/-- A checkpoint is found under its id, and can be put back. -/
structure Available (e : Engine) (c : Checkpoint) : Prop where
  found : e.shelf.find? c.id = some c
  restored : ∃ r e', e.restore c.id = (.ok r, e') ∧ r.success = true ∧ e'.state = c.state

/-- Nothing is found under the id of a checkpoint, and nothing can be put back. -/
structure Missing (e : Engine) (c : Checkpoint) : Prop where
  absent : e.shelf.find? c.id = none
  unrestored : ∃ r, e.restore c.id = (.ok r, e) ∧ r.success = false

theorem available_of_mem (h : e.Reachable) (hc : c ∈ e.shelf.checkpoints) : e.Available c := by
  have hfound : e.shelf.find? c.id = some c := Shelf.find?_of_mem h.collected.orderly.listed hc
  have hknown : e.story.has c.state.node = true := (h.sound.shelved c hc).known
  have hmetadata : Value.allFieldsCopyable
      [("nodeId", .text e.state.node), ("checkpointId", .text c.id)] = true := rfl
  obtain ⟨t, a, htrack, _⟩ := track_ok h.sound .stateLoad hmetadata
  refine ⟨hfound, ?_⟩
  unfold restore Shelf.stateOf?
  rw [hfound]
  simp only [Option.map_some, hknown, Bool.not_true, if_false, Bool.false_eq_true]
  rw [htrack]
  exact ⟨_, _, rfl, rfl, rfl⟩

theorem missing_of_unlike (h : ∀ d ∈ e.shelf.checkpoints, d.id ≠ c.id) : e.Missing c := by
  have habsent : e.shelf.find? c.id = none :=
    List.find?_eq_none.mpr fun d hd => by simpa using h d hd
  refine ⟨habsent, ?_⟩
  unfold restore Shelf.stateOf?
  rw [habsent]
  exact ⟨_, rfl, rfl⟩

theorem keep_eq_ok {d : Shelf.Draft} (h : e.keep d = (.ok c, e')) :
    ∃ a, e.shelf.create e.ambient d = (.ok c, e'.shelf, a) := by
  unfold keep at h
  rcases hcr : e.shelf.create e.ambient d with ⟨r, shelf, a⟩
  rw [hcr] at h
  obtain ⟨hr, rfl⟩ := Prod.mk.injEq _ _ _ _ ▸ h
  rw [mapError_eq_ok.mp hr]
  exact ⟨a, rfl⟩

theorem keep_of_create {d : Shelf.Draft} {a : Ambient}
    (h : e.shelf.create e.ambient d = (.ok c, shelf, a)) :
    e.keep d = (.ok c, { e with shelf, ambient := a }) := by
  rw [keep, h]
  rfl

theorem importCheckpoint_eq_ok {data : Value} (h : e.importCheckpoint data = (.ok c, e')) :
    e.shelf.importFrom e.story data = .ok (c, e'.shelf) := by
  unfold importCheckpoint at h
  split at h
  · cases h
  · cases h
    assumption

/-- What a cleanup decides about the checkpoint that it comes behind. -/
theorem stays_or_missing {gone : Prop} (h : e.Reachable)
    (hmem : c ∈ e.shelf.checkpoints ↔ ¬ gone)
    (hunlike : ∀ d ∈ e.shelf.checkpoints, d.id = c.id → d = c) :
    (¬ gone → e.Available c) ∧ (gone → e.Missing c) := by
  constructor
  · intro hstays
    exact available_of_mem h (hmem.mpr hstays)
  · intro hgone
    apply missing_of_unlike
    intro d hd hid
    rw [hunlike d hd hid] at hd
    exact hmem.mp hd hgone

/-- A checkpoint that was just made or imported is there, unless timestamps count and as many others
as may stay have later ones. Then it is lost. -/
theorem newest_stays (h : e.Reachable) :
    (∀ name o tags c e', 0 ≤ o.limit → e.createCheckpoint name o tags = (.ok c, e') →
      ∃ strategy, e.shelf.strategyFor o = .ok strategy ∧
        (¬ e.shelf.Outdone strategy (e.shelf.limitFor o) c → e'.Available c) ∧
        (e.shelf.Outdone strategy (e.shelf.limitFor o) c → e'.Missing c)) ∧
    ∀ data c e', e.importCheckpoint data = (.ok c, e') →
      (¬ e.shelf.Outdone e.shelf.strategy e.shelf.limit c → e'.Available c) ∧
      (e.shelf.Outdone e.shelf.strategy e.shelf.limit c → e'.Missing c) := by
  have horderly := h.collected.orderly
  constructor
  · intro name o tags c e' ho hcreate
    have hnext : (e.createCheckpoint name o tags).2.Reachable :=
      h.next (.createCheckpoint name o tags)
    rw [hcreate] at hnext
    obtain ⟨a, hkept⟩ := keep_eq_ok hcreate
    obtain ⟨_, hc, ⟨count, hs⟩, _⟩ := Shelf.create_eq_ok hkept
    obtain ⟨strategy, hstrategy, hmem, hunlike⟩ :=
      Shelf.put_stays _ horderly (Shelf.checkpointFor_fields hc).2.2 ho hs
    exact ⟨strategy, hstrategy, stays_or_missing hnext hmem hunlike⟩
  · intro data c e' himport
    have hnext : (e.importCheckpoint data).2.Reachable := h.next (.importCheckpoint data)
    rw [himport] at hnext
    obtain ⟨hc, count, hs⟩ := Shelf.importFrom_eq_ok.mp (importCheckpoint_eq_ok himport)
    obtain ⟨strategy, hstrategy, hmem, hunlike⟩ :=
      Shelf.put_stays e.shelf.created horderly (Shelf.ofDocument_sequence hc) (le_refl 0) hs
    cases hstrategy
    exact stays_or_missing hnext hmem hunlike

/-- A checkpoint of the gate with a timestamp far in the future, as a document. -/
def farAhead : Value :=
  .record [("id", .text "cp-later"), ("state", .record [("currentNodeId", .text "gate")]),
    ("timestamp", .text "2099-01-01T00:00:00.000Z")]

/-- On a shelf for one, a new checkpoint is evicted at once if an imported one has a later
timestamp. -/
theorem newest_stays_not :
    ∃ later e₁ c e₂, atGate.importCheckpoint farAhead = (.ok later, e₁) ∧ e₁.Available later ∧
      e₁.createCheckpoint none { limit := 1, strategy := "timestamp" } [] = (.ok c, e₂) ∧
      e₂.Missing c := by
  let o : CheckpointOptions := { limit := 1, strategy := "timestamp" }
  obtain ⟨later, shelf, himport⟩ : ∃ c shelf,
      atGate.shelf.importFrom atGate.story farAhead = .ok (c, shelf) :=
    Shelf.importFrom_succeeds.mpr rfl
  have hlater : later.timestamp = "2099-01-01T00:00:00.000Z" ∧ later.id = "cp-later" := by
    have hdocument := (Shelf.importFrom_eq_ok.mp himport).1
    cases hdocument
    exact ⟨rfl, rfl⟩
  let e₁ : Engine := { atGate with shelf }
  have himported : atGate.importCheckpoint farAhead = (.ok later, e₁) := by
    simp only [importCheckpoint, himport]
    rfl
  have hreach : (atGate.importCheckpoint farAhead).2.Reachable :=
    atGate_reachable.next (.importCheckpoint farAhead)
  rw [himported] at hreach
  have havailable : e₁.Available later := by
    apply ((newest_stays atGate_reachable).2 farAhead later e₁ himported).1
    intro houtdone
    have hmany : (50 : Int) ≤ 0 := houtdone.2
    omega
  obtain ⟨c, shelf', a, hmade⟩ := (Shelf.create_succeeds (s := shelf) (a := atGate.ambient)
    (d := { state := atGate.state, options := o, node := Story.hallway.find? "gate" })).mpr
    ⟨rfl, isOk_eq_true.mpr ⟨_, atGate_reachable.sound.clone⟩, rfl⟩
  let e₂ : Engine := { e₁ with shelf := shelf', ambient := a }
  have hcreate : e₁.createCheckpoint none o [] = (.ok c, e₂) := keep_of_create hmade
  refine ⟨later, e₁, c, e₂, himported, havailable, hcreate, ?_⟩
  obtain ⟨strategy, hstrategy, _, hlost⟩ :=
    (newest_stays hreach).1 none o [] c e₂ (by decide) hcreate
  cases hstrategy
  apply hlost
  obtain ⟨hid, hstamp, _⟩ := Shelf.checkpointFor_fields (Shelf.create_eq_ok hmade).2.1
  have hother : later ∈ (shelf.delete c.id).checkpoints := by
    refine List.mem_filter.mpr ⟨List.mem_of_find?_eq_some havailable.found, ?_⟩
    rw [hlater.2, hid]
    decide
  have hahead : Time.readStamp c.timestamp < Time.readStamp later.timestamp := by
    rw [hstamp, hlater.1]
    decide +kernel
  have hsome : 0 < (shelf.delete c.id).checkpoints.countP fun d =>
      Time.readStamp c.timestamp < Time.readStamp d.timestamp :=
    List.countP_pos_iff.mpr ⟨later, hother, decide_eq_true hahead⟩
  refine ⟨.inl rfl, ?_⟩
  show (1 : Int) ≤ _
  exact_mod_cast hsome

end Engine
end Storyline
