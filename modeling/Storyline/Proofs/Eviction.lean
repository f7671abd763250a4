import Mathlib.Data.List.Nodup
import Mathlib.Data.List.Perm.Subperm
import Mathlib.Data.Prod.Lex
import Storyline.Proofs.Operation
import Storyline.Proofs.Shelf

namespace Storyline.Shelf
variable {s s' : Shelf} {c : Checkpoint} {cs before after : List Checkpoint} {o : CheckpointOptions}
  {strategy : Strategy} {limit : Int} {count : Nat}

/-- What a strategy goes by. The checkpoints of the lowest ranks go first. -/
def rank (strategy : Strategy) (c : Checkpoint) : Int ×ₗ Nat :=
  match strategy with
  | .fifo | .manual => toLex (0, c.sequence)
  | .timestamp | .lru => toLex (Time.readStamp c.timestamp, c.sequence)

/-- Checkpoints under distinct ids, in the order of their creation. -/
structure Listed (cs : List Checkpoint) : Prop where
  distinct : (cs.map Checkpoint.id).Nodup
  rising : cs.Pairwise (·.sequence < ·.sequence)

/-- What a cleanup leaves of some checkpoints, and how many of them go: none too few, none too many,
and each of a lower rank than all that stay. -/
structure Evicts (strategy : Strategy) (limit : Int) (before : List Checkpoint) (count : Nat)
    (after : List Checkpoint) : Prop where
  kept : after.Sublist before
  counted : before.length = after.length + count
  bounded : strategy ≠ .manual → after.length ≤ limit
  exact : count = if strategy = .manual then 0 else (before.length - limit).toNat
  first : ∀ a ∈ before, a ∉ after → ∀ b ∈ after, rank strategy a < rank strategy b

theorem Listed.sublist (h : Listed before) (hs : after.Sublist before) : Listed after :=
  ⟨h.distinct.sublist (hs.map _), h.rising.sublist hs⟩

theorem Listed.nodup (h : Listed cs) : cs.Nodup := h.distinct.of_map

theorem evictionOrder_perm (strategy : Strategy) (cs : List Checkpoint) :
    (evictionOrder strategy cs).Perm cs := by
  cases strategy with
  | fifo | manual => exact .refl _
  | timestamp | lru => exact List.mergeSort_perm _ _

def noLater (a b : Checkpoint) : Bool := Time.readStamp a.timestamp ≤ Time.readStamp b.timestamp

theorem noLater_trans (a b c : Checkpoint) (hab : noLater a b = true) (hbc : noLater b c = true) :
    noLater a c = true := by
  simp only [noLater, decide_eq_true_eq] at hab hbc ⊢
  exact Int.le_trans hab hbc

theorem noLater_total (a b : Checkpoint) : (noLater a b || noLater b a) = true := by
  simp only [noLater, Bool.or_eq_true, decide_eq_true_eq]
  exact Int.le_total _ _

/-- Sorting by timestamp keeps the order of those with one timestamp. -/
theorem filter_mergeSort (cs : List Checkpoint) (moment : Time.Moment) :
    (cs.mergeSort noLater).filter (Time.readStamp ·.timestamp = moment) =
      cs.filter (Time.readStamp ·.timestamp = moment) := by
  have hequal : (cs.filter (Time.readStamp ·.timestamp = moment)).Pairwise
      (fun a b => noLater a b = true) := by
    apply List.pairwise_of_forall_mem_list
    intro a ha b hb
    have hstamp := of_decide_eq_true (List.mem_filter.mp ha).2
    have hstamp' := of_decide_eq_true (List.mem_filter.mp hb).2
    simp [noLater, hstamp, hstamp']
  have hsub : (cs.filter (Time.readStamp ·.timestamp = moment)).Sublist (cs.mergeSort noLater) :=
    List.sublist_mergeSort noLater_trans noLater_total hequal List.filter_sublist
  have hfiltered := hsub.filter (Time.readStamp ·.timestamp = moment)
  simp only [List.filter_filter, Bool.and_self] at hfiltered
  exact (hfiltered.eq_of_length ((List.mergeSort_perm cs noLater).filter _).length_eq.symm).symm

/-- Checkpoints go in the order of their ranks. -/
theorem evictionOrder_rises (h : Listed cs) (strategy : Strategy) :
    (evictionOrder strategy cs).Pairwise (rank strategy · < rank strategy ·) := by
  have hlater : ∀ {a b : Checkpoint} {moment : Int}, a.sequence < b.sequence →
      toLex (moment, a.sequence) < toLex (moment, b.sequence) :=
    fun h => Prod.Lex.toLex_lt_toLex.mpr (.inr ⟨rfl, h⟩)
  have hsorted : (cs.mergeSort noLater).Pairwise fun a b =>
      toLex (Time.readStamp a.timestamp, a.sequence) <
        toLex (Time.readStamp b.timestamp, b.sequence) := by
    apply List.pairwise_iff_forall_sublist.mpr
    intro a b hab
    have hle := List.pairwise_iff_forall_sublist.mp
      (List.pairwise_mergeSort noLater_trans noLater_total cs) hab
    rcases Int.lt_or_eq_of_le (of_decide_eq_true hle) with hlt | heq
    · exact Prod.Lex.toLex_lt_toLex.mpr (.inl hlt)
    -- Of two with one timestamp, the one that was there first is still first.
    · have hsub := hab.filter (Time.readStamp ·.timestamp = Time.readStamp b.timestamp)
      rw [filter_mergeSort] at hsub
      simp only [heq, decide_true, List.filter_cons_of_pos, List.filter_nil] at hsub
      have hrises := List.pairwise_iff_forall_sublist.mp h.rising (hsub.trans List.filter_sublist)
      rw [heq]
      exact hlater hrises
  cases strategy with
  | fifo | manual => exact h.rising.imp hlater
  | timestamp | lru => exact hsorted

/-- Taking the first by their ids leaves just the others. -/
theorem filter_append_left {gone rest : List Checkpoint}
    (h : ((gone ++ rest).map Checkpoint.id).Nodup) :
    (gone ++ rest).filter (fun c => !(gone.map Checkpoint.id).contains c.id) = rest := by
  rw [List.map_append, List.nodup_append] at h
  rw [List.filter_append, List.filter_eq_nil_iff.mpr, List.filter_eq_self.mpr, List.nil_append]
  · intro c hc
    have hnew : c.id ∉ gone.map Checkpoint.id :=
      fun hgone => h.2.2 _ hgone _ (List.mem_map_of_mem hc) rfl
    simpa using hnew
  · intro c hc
    simpa using ⟨c, hc, rfl⟩

/-- Those that go first are evicted when they are as many as there are too many. -/
theorem evicts_front {gone rest : List Checkpoint} (h : (cs.map Checkpoint.id).Nodup)
    (hp : (gone ++ rest).Perm cs) (hm : strategy ≠ .manual)
    (hcount : gone.length = (cs.length - limit).toNat)
    (hranks : ∀ a ∈ gone, ∀ b ∈ rest, rank strategy a < rank strategy b) :
    Evicts strategy limit cs (gone.map Checkpoint.id).length
      (cs.filter fun c => !(gone.map Checkpoint.id).contains c.id) := by
  have hrest := hp.filter fun c => !(gone.map Checkpoint.id).contains c.id
  rw [filter_append_left ((hp.map _).nodup_iff.mpr h)] at hrest
  have hlength := hp.length_eq
  have hlength' := hrest.length_eq
  rw [List.length_append] at hlength
  refine ⟨List.filter_sublist, ?_, ?_, ?_, ?_⟩
  · rw [List.length_map]
    omega
  · intro _
    omega
  · rw [if_neg hm, List.length_map, hcount]
  · intro a ha hgone b hb
    rw [← hrest.mem_iff] at hgone hb
    rcases List.mem_append.mp (hp.mem_iff.mpr ha) with ha | ha
    · exact hranks a ha b hb
    · exact absurd ha hgone

/-- So many checkpoints are of a higher rank that there is no place for this one. -/
def Overtaken (strategy : Strategy) (limit : Int) (cs : List Checkpoint) (c : Checkpoint) : Prop :=
  strategy ≠ .manual ∧ limit ≤ cs.countP fun d => rank strategy c < rank strategy d

/-- Whether a checkpoint stays is decided by how many are of a higher rank. -/
theorem Evicts.mem_iff (h : Evicts strategy limit before count after) (hl : Listed before)
    (hc : c ∈ before) : c ∈ after ↔ ¬ Overtaken strategy limit before c := by
  let higher := before.filter fun d => rank strategy c < rank strategy d
  have hcounted := h.counted
  have hexact := h.exact
  rw [Overtaken, List.countP_eq_length_filter]
  change _ ↔ ¬ (_ ∧ limit ≤ higher.length)
  constructor
  · rintro hstays ⟨hm, hmany⟩
    have hsub : c :: higher ⊆ after := by
      intro d hd
      rcases List.mem_cons.mp hd with rfl | hd
      · exact hstays
      · obtain ⟨hd, hrank⟩ := List.mem_filter.mp hd
        by_contra hgone
        exact lt_asymm (h.first d hd hgone c hstays) (of_decide_eq_true hrank)
    have hnodup : (c :: higher).Nodup := by
      refine List.nodup_cons.mpr ⟨?_, hl.nodup.filter _⟩
      intro hmem
      exact lt_irrefl _ (of_decide_eq_true (List.mem_filter.mp hmem).2)
    have hlength := (List.subperm_of_subset hnodup hsub).length_le
    have hbounded := h.bounded hm
    rw [List.length_cons] at hlength
    omega
  · intro hfew
    by_contra hgone
    have hsub : after ⊆ higher := by
      intro d hd
      exact List.mem_filter.mpr ⟨h.kept.subset hd, decide_eq_true (h.first c hc hgone d hd)⟩
    have hlength := (List.subperm_of_subset (hl.nodup.sublist h.kept) hsub).length_le
    have hsome : count ≠ 0 := by
      intro hnone
      rw [hnone, Nat.add_zero] at hcounted
      exact hgone (h.kept.eq_of_length hcounted.symm ▸ hc)
    split at hexact
    · exact hsome hexact
    · rename_i hm
      exact hfew ⟨hm, by omega⟩

/-- A cleanup takes what is beyond the limit, if it may take anything. -/
theorem cleanup_evicts (h : Listed s.checkpoints) (hn : 0 ≤ s.limitFor o)
    (hs : s.strategyFor o = .ok strategy) : ∃ count s', s.cleanup o = .ok (count, s') ∧
      s' = { s with checkpoints := s'.checkpoints } ∧
      Evicts strategy (s.limitFor o) s.checkpoints count s'.checkpoints := by
  by_cases hm : strategy = .manual
  · refine ⟨0, s, by simp [cleanup, hs, hm], rfl, ?_⟩
    refine ⟨.refl _, rfl, fun h => absurd hm h, by rw [if_pos hm], ?_⟩
    exact fun a ha hgone => absurd ha hgone
  · let ordered := evictionOrder strategy s.checkpoints
    have hperm : ordered.Perm s.checkpoints := evictionOrder_perm strategy s.checkpoints
    have hrises : ordered.Pairwise (rank strategy · < rank strategy ·) :=
      evictionOrder_rises h strategy
    have hlength := hperm.length_eq
    rw [← List.take_append_drop ((ordered.length : Int) - s.limitFor o).toNat ordered]
      at hperm hrises
    refine ⟨_, _, by simp only [cleanup, hs, hm, ok_bind, if_false]; rfl, rfl, ?_⟩
    apply evicts_front h.distinct hperm hm
    · rw [List.length_take]
      omega
    · exact (List.pairwise_append.mp hrises).2.2

theorem cleanup_isOk : (s.cleanup o).isOk = (s.strategyFor o).isOk := by
  unfold cleanup
  cases s.strategyFor o with
  | error f => rfl
  | ok strategy =>
    simp only [ok_bind]
    split <;> rfl

structure Orderly (s : Shelf) : Prop where
  bounded : 0 < s.limit
  listed : Listed s.checkpoints
  numbered : ∀ c ∈ s.checkpoints, c.sequence ≤ s.sequence

theorem Orderly.sublist (h : s.Orderly) (hs : s' = { s with checkpoints := s'.checkpoints })
    (hsub : s'.checkpoints.Sublist s.checkpoints) : s'.Orderly := by
  rw [hs]
  exact ⟨h.bounded, h.listed.sublist hsub, fun c hc => h.numbered c (hsub.subset hc)⟩

theorem Orderly.delete (h : s.Orderly) (id : String) : (s.delete id).Orderly :=
  h.sublist rfl List.filter_sublist

theorem cleanup_keeps (h : s.cleanup o = .ok (count, s')) :
    s' = { s with checkpoints := s'.checkpoints } ∧ s'.checkpoints.Sublist s.checkpoints := by
  obtain ⟨strategy, _, h⟩ := bind_eq_ok.mp h
  split at h
  · cases h
    exact ⟨rfl, .refl _⟩
  · cases h
    exact ⟨rfl, List.filter_sublist⟩

theorem Orderly.cleanup (h : s.Orderly) (hc : s.cleanup o = .ok (count, s')) : s'.Orderly :=
  h.sublist (cleanup_keeps hc).1 (cleanup_keeps hc).2

/-- The checkpoints when one more is put on the shelf. -/
theorem put_checkpoints (s : Shelf) (c : Checkpoint) :
    (s.put c).checkpoints = s.checkpoints.filter (·.id != c.id) ++ [c] := rfl

theorem Listed.put (h : Listed cs) (hnew : ∀ d ∈ cs, d.sequence < c.sequence) :
    Listed (cs.filter (·.id != c.id) ++ [c]) := by
  have hothers : Listed (cs.filter (·.id != c.id)) := h.sublist List.filter_sublist
  constructor
  · rw [List.map_append]
    refine hothers.distinct.append (List.nodup_singleton _) ?_
    intro id hid hnew
    obtain ⟨d, hd, rfl⟩ := List.mem_map.mp hid
    have hne := (List.mem_filter.mp hd).2
    simp only [List.map_cons, List.map_nil, List.mem_singleton] at hnew
    simp [hnew] at hne
  · refine List.pairwise_append.mpr ⟨hothers.rising, List.pairwise_singleton _ _, ?_⟩
    intro d hd e he
    rw [List.mem_singleton.mp he]
    exact hnew d (List.mem_filter.mp hd).1

/-- The next that is put on a shelf is newer than all that are there. -/
theorem Orderly.older (h : s.Orderly) (hc : c.sequence = s.sequence + 1) :
    ∀ d ∈ s.checkpoints, d.sequence < c.sequence := by
  intro d hd
  have := h.numbered d hd
  omega

theorem Orderly.put (h : s.Orderly) (created : Nat) (hc : c.sequence = s.sequence + 1) :
    ({ s with sequence := s.sequence + 1, created }.put c : Shelf).Orderly := by
  refine ⟨h.bounded, h.listed.put (h.older hc), ?_⟩
  intro d hd
  rcases mem_put hd with hd | rfl
  · exact Nat.le_succ_of_le (h.numbered d hd)
  · exact Nat.le_of_eq hc

section
variable {a a' : Ambient} {d : Draft}

def counting (s : Shelf) : Shelf := { s with created := s.created + 1, sequence := s.sequence + 1 }

/-- What a new checkpoint is given out of its surroundings. -/
theorem checkpointFor_fields (h : s.checkpointFor a d = .ok c) :
    c.id = "cp-" ++ a.id ∧ c.timestamp = a.stamp ∧ c.sequence = s.sequence := by
  obtain ⟨state, _, h⟩ := bind_eq_ok.mp h
  cases h
  exact ⟨rfl, rfl, rfl⟩

theorem checkpointFor_isOk : (s.checkpointFor a d).isOk = d.state.clone.isOk := by
  unfold checkpointFor
  cases d.state.clone <;> rfl

/-- How far a checkpoint gets that is being made: not onto the shelf, onto it, or through the
cleanup behind it. -/
theorem create_cases (s : Shelf) (a : Ambient) (d : Draft) :
    (∃ f a', s.create a d = (.error f, s.counting, a') ∧
        (Value.allFieldsCopyable d.metadata = false ∨ d.state.clone.isOk = false)) ∨
      ∃ c, Value.allFieldsCopyable d.metadata = true ∧ s.counting.checkpointFor a.issue d = .ok c ∧
        ((∃ f, (s.counting.put c).cleanup d.options = .error f ∧
            s.create a d = (.error f, s.counting.put c, a.issue)) ∨
          ∃ count s', (s.counting.put c).cleanup d.options = .ok (count, s') ∧
            s.create a d = (.ok c, s', a.issue)) := by
  unfold create
  dsimp only
  split
  · rename_i hcopy
    exact .inl ⟨_, _, rfl, .inl (by simpa using hcopy)⟩
  · rename_i hcopy
    split
    · rename_i f hf
      refine .inl ⟨f, _, rfl, .inr ?_⟩
      rw [← checkpointFor_isOk]
      exact isOk_eq_false.mpr ⟨f, hf⟩
    · rename_i c hc
      refine .inr ⟨c, by simpa using hcopy, hc, ?_⟩
      split
      · rename_i f hf
        exact .inl ⟨f, hf, rfl⟩
      · rename_i count s' hs
        exact .inr ⟨count, s', hs, rfl⟩

theorem create_eq_ok (h : s.create a d = (.ok c, s', a')) :
    Value.allFieldsCopyable d.metadata = true ∧ s.counting.checkpointFor a.issue d = .ok c ∧
      (∃ count, (s.counting.put c).cleanup d.options = .ok (count, s')) ∧ a' = a.issue := by
  rcases create_cases s a d with ⟨_, _, hr, _⟩ | ⟨_, hcopy, hc, ⟨_, _, hr⟩ | ⟨count, _, hs, hr⟩⟩
  · rw [hr] at h
    cases h
  · rw [hr] at h
    cases h
  · rw [hr] at h
    cases h
    exact ⟨hcopy, hc, ⟨count, hs⟩, rfl⟩

/-- A checkpoint that is made keeps the state of its draft. -/
theorem create_state (h : s.create a d = (.ok c, s', a')) : d.state.clone = .ok c.state := by
  obtain ⟨state, hstate, hc⟩ := bind_eq_ok.mp (create_eq_ok h).2.1
  cases hc
  exact mapError_eq_ok.mp hstate

/-- Metadata that refuses to be copied is noticed when the checkpoint is already counted. -/
theorem create_uncopyable (h : Value.allFieldsCopyable d.metadata = false) :
    s.create a d = (.error .uncopyable, s.counting, a) := by
  simp [create, h, counting]

/-- Whether a checkpoint can be made of a draft. -/
theorem create_succeeds : (∃ c s' a', s.create a d = (.ok c, s', a')) ↔
    Value.allFieldsCopyable d.metadata = true ∧ d.state.clone.isOk = true ∧
      (s.strategyFor d.options).isOk = true := by
  constructor
  · rintro ⟨c, s', a', h⟩
    obtain ⟨hcopy, hc, ⟨count, hs⟩, _⟩ := create_eq_ok h
    refine ⟨hcopy, ?_, ?_⟩
    · rw [← checkpointFor_isOk]
      exact isOk_eq_true.mpr ⟨c, hc⟩
    · have hcleaned : ((s.counting.put c).cleanup d.options).isOk = true :=
        isOk_eq_true.mpr ⟨_, hs⟩
      rw [cleanup_isOk] at hcleaned
      exact hcleaned
  · rintro ⟨hcopy, hclone, hstrategy⟩
    rcases create_cases s a d with ⟨_, _, _, hno | hno⟩ | ⟨c, _, _, ⟨f, hf, _⟩ | ⟨_, s', _, hr⟩⟩
    · rw [hcopy] at hno
      cases hno
    · rw [hclone] at hno
      cases hno
    · have hno := isOk_eq_false.mpr ⟨f, hf⟩
      rw [cleanup_isOk] at hno
      exact absurd (hstrategy.symm.trans hno) (by decide)
    · exact ⟨c, s', _, hr⟩

theorem Orderly.create (h : s.Orderly) (a : Ambient) (d : Draft) : (s.create a d).2.1.Orderly := by
  have hcounting : s.counting.Orderly :=
    ⟨h.bounded, h.listed, fun c hc => Nat.le_succ_of_le (h.numbered c hc)⟩
  rcases create_cases s a d with ⟨_, _, hr, _⟩ | ⟨c, _, hc, hput⟩
  · rw [hr]
    exact hcounting
  · have hshelved : (s.counting.put c).Orderly := h.put _ (checkpointFor_fields hc).2.2
    rcases hput with ⟨_, _, hr⟩ | ⟨_, _, hs, hr⟩ <;> rw [hr]
    · exact hshelved
    · exact hshelved.cleanup hs

end

theorem importFrom_eq_ok {story : Story} {data : Value} :
    s.importFrom story data = .ok (c, s') ↔
      Checkpoint.ofDocument story (s.sequence + 1) data = .ok c ∧
        ∃ count, ({ s with sequence := s.sequence + 1 }.put c).cleanup {} = .ok (count, s') := by
  simp only [importFrom, bind_eq_ok, pure_eq_ok, Prod.mk.injEq]
  constructor
  · rintro ⟨_, hc, ⟨count, _⟩, hs, rfl, rfl⟩
    exact ⟨hc, count, hs⟩
  · rintro ⟨hc, count, hs⟩
    exact ⟨c, hc, (count, s'), hs, rfl, rfl⟩

/-- Whatever is a checkpoint of the story can be imported. -/
theorem importFrom_succeeds {story : Story} {data : Value} :
    (∃ c s', s.importFrom story data = .ok (c, s')) ↔
      (Checkpoint.ofDocument story (s.sequence + 1) data).isOk = true := by
  rw [isOk_eq_true]
  constructor
  · rintro ⟨c, s', h⟩
    exact ⟨c, (importFrom_eq_ok.mp h).1⟩
  · rintro ⟨c, hc⟩
    have hcleaned : (({ s with sequence := s.sequence + 1 }.put c).cleanup {}).isOk = true :=
      cleanup_isOk.trans rfl
    obtain ⟨⟨count, s'⟩, hs⟩ := isOk_eq_true.mp hcleaned
    exact ⟨c, s', importFrom_eq_ok.mpr ⟨hc, count, hs⟩⟩

theorem ofDocument_sequence {story : Story} {sequence : Nat} {data : Value}
    (h : Checkpoint.ofDocument story sequence data = .ok c) : c.sequence = sequence := by
  obtain ⟨_, _, h⟩ := bind_eq_ok.mp h
  obtain ⟨_, _, h⟩ := bind_eq_ok.mp h
  split at h
  · cases h
    rfl
  · cases h

theorem Orderly.imported {story : Story} {data : Value} (h : s.Orderly)
    (hi : s.importFrom story data = .ok (c, s')) : s'.Orderly := by
  obtain ⟨hc, count, hs⟩ := importFrom_eq_ok.mp hi
  exact (h.put s.created (ofDocument_sequence hc)).cleanup hs

/-- The shelves that come about from an empty one, whatever is made for them, successfully or not,
imported, deleted and cleaned up. -/
inductive Collected (story : Story) : Shelf → Prop
  | made {limit : Int} {strategy : String} {s : Shelf} :
    make limit strategy = .ok s → Collected story s
  | created {s : Shelf} (a : Ambient) (d : Draft) :
    Collected story s → Collected story (s.create a d).2.1
  | imported {s s' : Shelf} {data : Value} {c : Checkpoint} :
    Collected story s → s.importFrom story data = .ok (c, s') → Collected story s'
  | deleted {s : Shelf} (id : String) : Collected story s → Collected story (s.delete id)
  | cleaned {s s' : Shelf} {o : CheckpointOptions} {count : Nat} :
    Collected story s → s.cleanup o = .ok (count, s') → Collected story s'

theorem make_orderly {strategy : String} (h : make limit strategy = .ok s) : s.Orderly := by
  unfold make at h
  split at h
  · cases h
  · split at h
    · cases h
    · cases h
      refine ⟨?_, ⟨List.nodup_nil, .nil⟩, nofun⟩
      show 0 < limit.toNat
      omega

theorem Collected.orderly {story : Story} (h : Collected story s) : s.Orderly := by
  induction h with
  | made h => exact make_orderly h
  | created a d _ ih => exact ih.create a d
  | imported _ hi ih => exact ih.imported hi
  | deleted id _ ih => exact ih.delete id
  | cleaned _ hc ih => exact ih.cleanup hc

/-- A checkpoint is found under its own id. -/
theorem find?_of_mem (h : Listed s.checkpoints) (hc : c ∈ s.checkpoints) :
    s.find? c.id = some c := by
  have hsome : (s.find? c.id).isSome = true :=
    List.find?_isSome.mpr ⟨c, hc, by simp⟩
  obtain ⟨d, hd⟩ := Option.isSome_iff_exists.mp hsome
  have hid : d.id = c.id := by simpa using List.find?_some hd
  have hmem : d ∈ s.checkpoints := List.mem_of_find?_eq_some hd
  rw [hd, List.inj_on_of_nodup_map h.distinct hmem hc hid]

def Fresh (s : Shelf) (a : Ambient) : Prop := ∀ c ∈ s.checkpoints, c.id ≠ "cp-" ++ a.issue.id

/-- What can be relied on of a shelf: how its checkpoints are kept, when one can be made or
imported, and what goes then or when the shelf is cleaned up. -/
structure Bounded (story : Story) (s : Shelf) : Prop where
  listed : Listed s.checkpoints
  found : ∀ c ∈ s.checkpoints, s.find? c.id = some c
  creates : ∀ {a d}, (∃ c s' a', s.create a d = (.ok c, s', a')) ↔
    Value.allFieldsCopyable d.metadata = true ∧ d.state.clone.isOk = true ∧
      (s.strategyFor d.options).isOk = true
  imports : ∀ {data}, (∃ c s', s.importFrom story data = .ok (c, s')) ↔
    (Checkpoint.ofDocument story (s.sequence + 1) data).isOk = true
  cleaned : ∀ {o strategy}, 0 ≤ o.limit → s.strategyFor o = .ok strategy → ∃ count s',
    s.cleanup o = .ok (count, s') ∧
      Evicts strategy (s.limitFor o) s.checkpoints count s'.checkpoints
  created : ∀ {a d c s' a'}, 0 ≤ d.options.limit → s.Fresh a → s.create a d = (.ok c, s', a') →
    ∃ strategy count, s.strategyFor d.options = .ok strategy ∧
      Evicts strategy (s.limitFor d.options) (s.checkpoints ++ [c]) count s'.checkpoints
  imported : ∀ {data c s'}, s.importFrom story data = .ok (c, s') → ∃ count,
    Evicts s.strategy s.limit (s.checkpoints.filter (·.id != c.id) ++ [c]) count s'.checkpoints

theorem limitFor_pos (h : s.Orderly) (ho : 0 ≤ o.limit) : 0 < s.limitFor o := by
  have := h.bounded
  unfold limitFor
  split <;> omega

/-- The cleanup behind a checkpoint that was put on the shelf as the newest. -/
theorem put_evicts (created : Nat) (h : s.Orderly) (hc : c.sequence = s.sequence + 1)
    (ho : 0 ≤ o.limit)
    (hs : ({ s with sequence := s.sequence + 1, created }.put c : Shelf).cleanup o =
      .ok (count, s')) :
    ∃ strategy, s.strategyFor o = .ok strategy ∧ Evicts strategy (s.limitFor o)
      (s.checkpoints.filter (·.id != c.id) ++ [c]) count s'.checkpoints := by
  have hput := h.put created hc
  obtain ⟨strategy, hstrategy, _⟩ := bind_eq_ok.mp hs
  obtain ⟨_, _, hs', _, hevicts⟩ :=
    cleanup_evicts hput.listed (limitFor_pos hput ho).le hstrategy
  rw [hs] at hs'
  cases hs'
  exact ⟨strategy, hstrategy, hevicts⟩

/-- However a shelf comes about, each of its checkpoints is found under its own id, they are listed
in the order of creation, and each cleanup, be it asked for or behind a new checkpoint, evicts just
what is too much. -/
theorem collected_bounded {story : Story} (h : Collected story s) : s.Bounded story := by
  have ho := h.orderly
  refine ⟨ho.listed, fun c => find?_of_mem ho.listed, create_succeeds, importFrom_succeeds, ?_, ?_,
    ?_⟩
  · intro o strategy hlimit hstrategy
    obtain ⟨count, s', hs, _, hevicts⟩ :=
      cleanup_evicts ho.listed (limitFor_pos ho hlimit).le hstrategy
    exact ⟨count, s', hs, hevicts⟩
  · intro a d c s' a' hlimit hfresh hcreate
    obtain ⟨_, hc, ⟨count, hs⟩, _⟩ := create_eq_ok hcreate
    obtain ⟨hid, _, hsequence⟩ := checkpointFor_fields hc
    obtain ⟨strategy, hstrategy, hevicts⟩ := put_evicts _ ho hsequence hlimit hs
    have hothers : s.checkpoints.filter (·.id != c.id) = s.checkpoints := by
      apply List.filter_eq_self.mpr
      intro d hd
      simpa [hid] using hfresh d hd
    rw [hothers] at hevicts
    exact ⟨strategy, count, hstrategy, hevicts⟩
  · intro data c s' hi
    obtain ⟨hc, count, hs⟩ := importFrom_eq_ok.mp hi
    obtain ⟨strategy, hstrategy, hevicts⟩ :=
      put_evicts s.created ho (ofDocument_sequence hc) (le_refl 0) hs
    cases hstrategy
    exact ⟨count, hevicts⟩

/-- A shelf for two, on which three checkpoints of the gate were put. -/
def gates : Shelf :=
  let atGate : Draft := { state := .start "gate" }
  (((⟨2, .fifo, [], 0, 0⟩ : Shelf).create ⟨0, 0⟩ atGate).2.1.create ⟨1, 1⟩ atGate).2.1.create
    ⟨2, 2⟩ atGate |>.2.1

/-- Of three checkpoints on a shelf for two the first is evicted. A cleanup to one evicts one
more. -/
theorem collected_bounded_gates :
    gates.checkpoints.map Checkpoint.id = ["cp-000000000002", "cp-000000000003"] ∧
      ∃ s', gates.cleanup { limit := 1, strategy := "timestamp" } = .ok (1, s') ∧
        s'.checkpoints.length = 1 := by
  have hmade : make 2 "fifo" = .ok ⟨2, .fifo, [], 0, 0⟩ := rfl
  have hgates : Collected .hallway gates := .created _ _ (.created _ _ (.created _ _ (.made hmade)))
  let o : CheckpointOptions := { limit := 1, strategy := "timestamp" }
  obtain ⟨count, s', hs, hevicts⟩ := (collected_bounded hgates).cleaned (o := o) (by decide) rfl
  have hcount : count = 1 := hevicts.exact
  subst hcount
  have hcounted : 2 = s'.checkpoints.length + 1 := hevicts.counted
  exact ⟨rfl, s', hs, by omega⟩

end Storyline.Shelf
