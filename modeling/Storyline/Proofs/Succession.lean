import Storyline.Proofs.Renaming
import Storyline.Proofs.Time.Stamp

namespace Storyline

/-- Names of strategies that take the oldest, and the blank for that of the shelf. -/
def Strategy.evictingNames : List String := ["", lru.name, fifo.name, timestamp.name]

/-- The same wishes, but for which of the strategies they name that take the oldest. -/
structure CheckpointOptions.Akin (o o' : CheckpointOptions) : Prop where
  same : o' = { o with strategy := o'.strategy }
  strategy : o'.strategy = o.strategy ∨
    o.strategy ∈ Strategy.evictingNames ∧ o'.strategy ∈ Strategy.evictingNames

theorem CheckpointOptions.Akin.refl (o : CheckpointOptions) : o.Akin o := ⟨rfl, .inl rfl⟩

namespace Shelf

/-- What is asked of a shelf, and in which surroundings a checkpoint is to be made. -/
inductive Call where
  | create (a : Ambient) (d : Draft)
  | delete (id : String)
  | cleanup (o : CheckpointOptions)

inductive Answer where
  | created (result : Except CheckpointFault Checkpoint)
  | deleted (found : Bool)
  | cleaned (count : Except CheckpointFault Nat)

def perform (s : Shelf) : Call → Answer × Shelf
  | .create a d => (.created (s.create a d).1, (s.create a d).2.1)
  | .delete id => (.deleted (s.has id), s.delete id)
  | .cleanup o =>
    match s.cleanup o with
    | .error f => (.cleaned (.error f), s)
    | .ok (count, s) => (.cleaned (.ok count), s)

/-- The answers to calls one after the other, and what is on the shelf after each of them. -/
def course (s : Shelf) : List Call → List (Answer × List Checkpoint)
  | [] => []
  | call :: rest =>
    ((s.perform call).1, (s.perform call).2.checkpoints) :: (s.perform call).2.course rest

def clocks (calls : List Call) : List Int :=
  calls.filterMap fun
    | .create a _ => some a.clock
    | _ => none

/-- The clock never goes back, and stays in the years 1 to 9999. -/
structure Steady (calls : List Call) : Prop where
  rising : (clocks calls).Pairwise (· ≤ ·)
  inRange : ∀ t ∈ clocks calls, Time.beginning ≤ t * 1000 ∧ t * 1000 < Time.ending

/-- The same call, but for the strategy that it names. -/
inductive Call.Akin : Call → Call → Prop
  | create (a : Ambient) {d : Draft} {o : CheckpointOptions} :
    d.options.Akin o → Akin (.create a d) (.create a { d with options := o })
  | delete (id : String) : Akin (.delete id) (.delete id)
  | cleanup {o o' : CheckpointOptions} : o.Akin o' → Akin (.cleanup o) (.cleanup o')

/-- The same shelf, but for the strategy, which takes the oldest in both, and timestamps in the
order of creation. -/
structure Akin (s s' : Shelf) : Prop where
  same : s' = { s with strategy := s'.strategy }
  evicts : s.strategy ≠ .manual ∧ s'.strategy ≠ .manual
  rising : s.checkpoints.Pairwise fun a b => noLater a b = true

variable {s s' : Shelf} {o o' : CheckpointOptions} {cs : List Checkpoint} {strategy : Strategy}
  {calls calls' : List Call}

/-- Among timestamps in the order of creation, that order is the one in which checkpoints go. -/
theorem evictionOrder_rising (h : cs.Pairwise fun a b => noLater a b = true) :
    evictionOrder strategy cs = cs := by
  cases strategy with
  | fifo | manual => rfl
  | timestamp | lru => exact List.mergeSort_of_pairwise h

theorem Akin.sublist (h : s.Akin s') (hs : cs.Sublist s.checkpoints) :
    Akin { s with checkpoints := cs } { s' with checkpoints := cs } where
  same := by rw [h.same]
  evicts := h.evicts
  rising := h.rising.sublist hs

theorem strategyFor_evicting (hs : s.strategy ≠ .manual)
    (ho : o.strategy ∈ Strategy.evictingNames) :
    ∃ strategy, s.strategyFor o = .ok strategy ∧ strategy ≠ .manual := by
  simp only [Strategy.evictingNames, List.mem_cons, List.not_mem_nil, or_false] at ho
  rcases ho with h | h | h | h <;> rw [strategyFor, h]
  · exact ⟨_, rfl, hs⟩
  · exact ⟨.lru, rfl, by decide⟩
  · exact ⟨.fifo, rfl, by decide⟩
  · exact ⟨.timestamp, rfl, by decide⟩

/-- Wishes that are akin are refused alike, or else both take nothing or both take the oldest. -/
theorem Akin.strategyFor (h : s.Akin s') (ho : o.Akin o') :
    (∃ f, s.strategyFor o = .error f ∧ s'.strategyFor o' = .error f) ∨
      ∃ strategy strategy', s.strategyFor o = .ok strategy ∧ s'.strategyFor o' = .ok strategy' ∧
        (strategy' = .manual ↔ strategy = .manual) := by
  rcases ho.strategy with hname | ⟨hnames, hnames'⟩
  · unfold Shelf.strategyFor
    rw [hname]
    split
    · exact .inr ⟨_, _, rfl, rfl, iff_of_false h.evicts.2 h.evicts.1⟩
    · split
      · exact .inr ⟨_, _, rfl, rfl, Iff.rfl⟩
      · exact .inl ⟨_, rfl, rfl⟩
  · obtain ⟨strategy, hs, hne⟩ := strategyFor_evicting h.evicts.1 hnames
    obtain ⟨strategy', hs', hne'⟩ := strategyFor_evicting h.evicts.2 hnames'
    exact .inr ⟨strategy, strategy', hs, hs', iff_of_false hne' hne⟩

/-- A cleanup takes the same from both. -/
theorem Akin.cleanup (h : s.Akin s') (ho : o.Akin o') :
    (∃ f, s.cleanup o = .error f ∧ s'.cleanup o' = .error f) ∨
      ∃ count t t', s.cleanup o = .ok (count, t) ∧ s'.cleanup o' = .ok (count, t') ∧ t.Akin t' ∧
        t.checkpoints.Sublist s.checkpoints := by
  have hlimit : s'.limitFor o' = s.limitFor o := by
    rw [limitFor, limitFor, ho.same, h.same]
  have hcheckpoints : s'.checkpoints = s.checkpoints := by rw [h.same]
  rcases h.strategyFor ho with ⟨f, hf, hf'⟩ | ⟨strategy, strategy', hs, hs', hmanual⟩
  · exact .inl ⟨f, by rw [Shelf.cleanup, hf]; rfl, by rw [Shelf.cleanup, hf']; rfl⟩
  · right
    by_cases hm : strategy = .manual
    · have hm' := hmanual.mpr hm
      refine ⟨0, s, s', ?_, ?_, h, .refl _⟩
      · simp [Shelf.cleanup, hs, hm]
      · simp [Shelf.cleanup, hs', hm']
    · have hm' : strategy' ≠ .manual := fun hm' => hm (hmanual.mp hm')
      let gone := (excess (s.limitFor o) s.checkpoints).map Checkpoint.id
      have hsub : (s.checkpoints.filter fun c => !gone.contains c.id).Sublist s.checkpoints :=
        List.filter_sublist
      refine ⟨gone.length, _, _, ?_, ?_, h.sublist hsub, hsub⟩
      · simp only [Shelf.cleanup, hs, hm, ok_bind, if_false, evictionOrder_rising h.rising]
        rfl
      · simp only [Shelf.cleanup, hs', hm', ok_bind, if_false, hcheckpoints, hlimit,
          evictionOrder_rising h.rising]
        rfl

def Until (cs : List Checkpoint) (t : Int) : Prop :=
  ∀ c ∈ cs, Time.readStamp c.timestamp ≤ t * 1000

theorem readStamp_ambient {a : Ambient} (hfrom : Time.beginning ≤ a.clock * 1000)
    (hto : a.clock * 1000 < Time.ending) : Time.readStamp a.stamp = a.clock * 1000 := by
  rw [Ambient.stamp, Time.readStamp_stamp hfrom hto, Int.mul_ediv_cancel _ (by decide)]

theorem Akin.put {c : Checkpoint} {t : Int} (h : s.Akin s') (hbefore : Until s.checkpoints t)
    (hc : Time.readStamp c.timestamp = t * 1000) :
    (s.put c).Akin (s'.put c) ∧ Until (s.put c).checkpoints t := by
  have hcheckpoints : s'.checkpoints = s.checkpoints := by rw [h.same]
  refine ⟨⟨?_, h.evicts, ?_⟩, ?_⟩
  · rw [Shelf.put, Shelf.put, Shelf.delete, Shelf.delete, hcheckpoints]
    rw [h.same]
  · rw [put_checkpoints]
    refine List.pairwise_append.mpr ⟨h.rising.filter _, List.pairwise_singleton _ _, ?_⟩
    intro d hd e he
    rw [List.mem_singleton.mp he, noLater, decide_eq_true_eq, hc]
    exact hbefore d (List.mem_of_mem_filter hd)
  · intro d hd
    rcases mem_put hd with hd | rfl
    · exact hbefore d hd
    · exact Int.le_of_eq hc

/-- A checkpoint that is made comes onto both, and takes the place of the same ones. -/
theorem Akin.create {a : Ambient} {d : Draft} (h : s.Akin s') (ho : d.options.Akin o')
    (hfrom : Time.beginning ≤ a.clock * 1000) (hto : a.clock * 1000 < Time.ending)
    (hbefore : Until s.checkpoints a.clock) :
    (s'.create a { d with options := o' }).1 = (s.create a d).1 ∧
      (s.create a d).2.1.Akin (s'.create a { d with options := o' }).2.1 ∧
      Until (s.create a d).2.1.checkpoints a.clock := by
  have hcounting : s.counting.Akin s'.counting := ⟨by rw [h.same]; rfl, h.evicts, h.rising⟩
  cases hcopy : Value.allFieldsCopyable d.metadata with
  | false =>
    have hcopy' : Value.allFieldsCopyable ({ d with options := o' } : Draft).metadata = false := hcopy
    rw [create_uncopyable hcopy, create_uncopyable hcopy']
    exact ⟨rfl, hcounting, hbefore⟩
  | true =>
    have hcopy' : Value.allFieldsCopyable ({ d with options := o' } : Draft).metadata = true := hcopy
    have hmade : s'.counting.checkpointFor a.issue { d with options := o' } =
        s.counting.checkpointFor a.issue d := by
      rw [h.same, ho.same]
      rfl
    rw [create_place hcopy, create_place hcopy', hmade]
    cases hc : s.counting.checkpointFor a.issue d with
    | error f => exact ⟨rfl, hcounting, hbefore⟩
    | ok c =>
      have hstamp : Time.readStamp c.timestamp = a.clock * 1000 := by
        rw [(checkpointFor_fields hc).2.1]
        exact readStamp_ambient hfrom hto
      obtain ⟨hput, huntil⟩ := hcounting.put hbefore hstamp
      rcases hput.cleanup ho with ⟨f, hf, hf'⟩ | ⟨count, t, t', ht, ht', hakin, hsub⟩
      · simp only [place, hf, hf']
        exact ⟨trivial, hput, huntil⟩
      · simp only [place, ht, ht']
        exact ⟨trivial, hakin, fun e he => huntil e (hsub.subset he)⟩

/-- One call is answered alike and leaves the same. -/
theorem Akin.perform {call call' : Call} (h : s.Akin s') (hcall : call.Akin call')
    (hsteady : Steady (call :: calls)) (hbefore : ∀ t ∈ clocks (call :: calls), Until s.checkpoints t) :
    (s'.perform call').1 = (s.perform call).1 ∧ (s.perform call).2.Akin (s'.perform call').2 ∧
      ∀ t ∈ clocks calls, Until (s.perform call).2.checkpoints t := by
  have hcheckpoints : s'.checkpoints = s.checkpoints := by rw [h.same]
  cases hcall with
  | delete id =>
    refine ⟨?_, ⟨?_, h.evicts, h.rising.filter _⟩, ?_⟩
    · simp only [Shelf.perform, Shelf.has, Shelf.find?, hcheckpoints]
    · simp only [Shelf.perform, Shelf.delete, hcheckpoints]
      rw [h.same]
    · exact fun t ht c hc => hbefore t ht c (mem_delete hc)
  | cleanup ho =>
    rcases h.cleanup ho with ⟨f, hf, hf'⟩ | ⟨count, t, t', ht, ht', hakin, hsub⟩
    · simp only [Shelf.perform, hf, hf']
      exact ⟨trivial, h, hbefore⟩
    · simp only [Shelf.perform, ht, ht']
      exact ⟨trivial, hakin, fun u hu c hc => hbefore u hu c (hsub.subset hc)⟩
  | @create a d o' ho =>
    obtain ⟨hfrom, hto⟩ := hsteady.inRange a.clock (.head _)
    obtain ⟨hanswer, hakin, huntil⟩ := h.create ho hfrom hto (hbefore a.clock (.head _))
    refine ⟨congrArg Answer.created hanswer, hakin, ?_⟩
    intro t ht c hc
    have hle : a.clock ≤ t := (List.pairwise_cons.mp hsteady.rising).1 t ht
    exact Int.le_trans (huntil c hc) (by omega)

theorem Steady.tail {call : Call} (h : Steady (call :: calls)) : Steady calls := by
  have hsub : (clocks calls).Sublist (clocks (call :: calls)) :=
    List.Sublist.filterMap _ (List.sublist_cons_self call calls)
  exact ⟨h.rising.sublist hsub, fun t ht => h.inRange t (hsub.subset ht)⟩

theorem Akin.course (h : s.Akin s') (hcalls : List.Forall₂ Call.Akin calls calls')
    (hsteady : Steady calls) (hbefore : ∀ t ∈ clocks calls, Until s.checkpoints t) :
    s'.course calls' = s.course calls := by
  induction hcalls generalizing s s' with
  | nil => rfl
  | @cons call call' _ _ hcall _ ih =>
    obtain ⟨hanswer, hakin, hlater⟩ := h.perform hcall hsteady hbefore
    have hcheckpoints : (s'.perform call').2.checkpoints = (s.perform call).2.checkpoints := by
      rw [hakin.same]
    rw [Shelf.course, Shelf.course, hanswer, hcheckpoints, ih hakin hsteady.tail hlater]

theorem make_named {limit : Int} (h : make limit strategy.name = .ok s) :
    s = ⟨limit.toNat, strategy, [], 0, 0⟩ := by
  have hname : Strategy.ofName? strategy.name = some strategy := by cases strategy <;> rfl
  unfold make at h
  rw [hname] at h
  split at h
  · cases h
  · exact (Except.ok.inj h).symm

/-- Under a clock that never goes back, and as long as nothing is imported, it makes no difference
which of the strategies takes the oldest: all calls are answered alike, and after each of them the
same checkpoints are there. And what was written of a later moment is never read as an earlier
one. -/
theorem strategies_coincide {limit : Int} {strategy' : Strategy}
    (hs : make limit strategy.name = .ok s) (hs' : make limit strategy'.name = .ok s')
    (hevicts : strategy ≠ .manual) (hevicts' : strategy' ≠ .manual)
    (hcalls : List.Forall₂ Call.Akin calls calls') (hsteady : Steady calls) :
    s'.course calls' = s.course calls ∧
      ∀ m n : Int, Time.beginning ≤ m → m ≤ n → n < Time.ending →
        Time.readStamp (Time.stamp m) ≤ Time.readStamp (Time.stamp n) := by
  obtain rfl := make_named hs
  obtain rfl := make_named hs'
  have hakin : Akin ⟨limit.toNat, strategy, [], 0, 0⟩ ⟨limit.toNat, strategy', [], 0, 0⟩ :=
    ⟨rfl, ⟨hevicts, hevicts'⟩, .nil⟩
  exact ⟨hakin.course hcalls hsteady fun _ _ => nofun, fun _ _ => Time.readStamp_le⟩

/-- Two checkpoints where there is place for one, and a cleanup by the given strategy. -/
def visits (strategy : String) : List Call :=
  [.create ⟨0, 0⟩ { state := .start "gate", name := some "first" },
    .create ⟨1500, 1⟩ { state := .start "gate", name := some "second" },
    .cleanup { strategy }, .delete "cp-000000000001"]

theorem strategies_coincide_visits :
    ∃ s s', make 1 "timestamp" = .ok s ∧ make 1 "fifo" = .ok s' ∧
      s'.course (visits "fifo") = s.course (visits "lru") ∧
      (s.course (visits "lru")).map (fun x => x.2.map Checkpoint.name) =
        [[some "first"], [some "second"], [some "second"], [some "second"]] := by
  have hakin : List.Forall₂ Call.Akin (visits "lru") (visits "fifo") :=
    .cons (.create _ (.refl _)) (.cons (.create _ (.refl _))
      (.cons (.cleanup ⟨rfl, .inr ⟨by decide, by decide⟩⟩) (.cons (.delete _) .nil)))
  have hsteady : Steady (visits "lru") := ⟨by decide, by decide⟩
  have h := (strategies_coincide (rfl : make 1 Strategy.timestamp.name = .ok _)
    (rfl : make 1 Strategy.fifo.name = .ok _) (by decide) (by decide) hakin hsteady).1
  exact ⟨_, _, rfl, rfl, h, by rw [← h]; rfl⟩

end Shelf
end Storyline
