import Storyline.Proofs.Journal

namespace Storyline

theorem Shelf.has_iff {s : Shelf} {id : String} :
    s.has id = true ↔ ∃ c ∈ s.checkpoints, c.id = id := by
  simp [has, find?]

namespace Autosave
variable {s : Autosave} {shelf shelf' : Shelf} {saves : List String} {id : String}

/-- Of some saves, those that are still on the shelf are listed, in the same order. -/
def Lists (s : Autosave) (shelf : Shelf) (saves : List String) : Prop :=
  (s.forget shelf).ids = saves.filter shelf.has

theorem lists_iff : s.Lists shelf saves ↔ s.ids.filter shelf.has = saves.filter shelf.has := Iff.rfl

/-- Saves that are gone are forgotten. -/
theorem Lists.narrow (h : s.Lists shelf saves) (hknown : s.ids ⊆ saves)
    (hgone : ∀ id ∈ saves, shelf'.has id = true → shelf.has id = true) :
    s.Lists shelf' saves := by
  have htwice : ∀ ids ⊆ saves,
      ids.filter shelf'.has = (ids.filter shelf.has).filter shelf'.has := by
    intro ids hids
    rw [List.filter_filter]
    refine List.filter_congr fun id hid => ?_
    cases hnow : shelf'.has id with
    | false => rfl
    | true => rw [hgone id (hids hid) hnow]; rfl
  calc s.ids.filter shelf'.has = (s.ids.filter shelf.has).filter shelf'.has := htwice _ hknown
    _ = (saves.filter shelf.has).filter shelf'.has := congrArg (List.filter shelf'.has) h
    _ = saves.filter shelf'.has := (htwice _ (List.Subset.refl _)).symm

theorem filter_notMem_take {α : Type} [DecidableEq α] {l : List α} (h : l.Nodup) (k : Nat) :
    l.filter (· ∉ l.take k) = l.drop k := by
  have hparts : (l.take k ++ l.drop k).Nodup := by rwa [List.take_append_drop]
  calc l.filter (· ∉ l.take k) = (l.take k ++ l.drop k).filter (· ∉ l.take k) := by
        rw [List.take_append_drop]
    _ = [] ++ l.drop k := by
        rw [List.filter_append]
        congr 1
        · exact List.filter_eq_nil_iff.mpr fun x hx => by simpa using hx
        · refine List.filter_eq_self.mpr fun x hx => decide_eq_true fun htaken => ?_
          exact List.disjoint_of_nodup_append hparts htaken hx
    _ = l.drop k := List.nil_append _

theorem has_retain : (s.retain shelf).2.has id = true ↔ shelf.has id = true ∧
    id ∉ (s.forget shelf).ids.take ((s.forget shelf).ids.length - s.config.maxEntries) := by
  unfold retain
  simp only [Shelf.has_iff, Shelf.mem_foldl_delete_iff]
  constructor
  · rintro ⟨c, ⟨hc, hid⟩, rfl⟩
    exact ⟨⟨c, hc, rfl⟩, hid⟩
  · rintro ⟨⟨c, hc, rfl⟩, hid⟩
    exact ⟨c, ⟨hc, hid⟩, rfl⟩

/-- What is kept: exactly the newest saves, and so many of them that more would be too many. -/
structure Kept (s : Autosave) (shelf : Shelf) (saves : List String) (after : Autosave × Shelf) :
    Prop where
  listed : after.1.ids = saves.filter after.2.has
  bounded : after.1.ids.length ≤ s.config.maxEntries
  retired : ∀ id ∈ saves, shelf.has id = true → ¬ after.2.has id = true →
    ∃ newer, newer.length = s.config.maxEntries ∧ (id :: newer).Sublist saves ∧
      ∀ n ∈ newer, after.2.has n = true

theorem retain_kept (h : s.Lists shelf saves) (hnodup : saves.Nodup) :
    s.Kept shelf saves (s.retain shelf) := by
  have hforget : (s.forget shelf).ids = saves.filter shelf.has := h
  have hhas : ∀ id, (s.retain shelf).2.has id = true ↔ shelf.has id = true ∧
      id ∉ (s.forget shelf).ids.take ((s.forget shelf).ids.length - s.config.maxEntries) :=
    fun _ => has_retain
  have hdrop : (s.retain shelf).1.ids = (s.forget shelf).ids.drop
    ((s.forget shelf).ids.length - s.config.maxEntries) := rfl
  rw [hforget] at hhas hdrop
  generalize hk : (saves.filter shelf.has).length - s.config.maxEntries = k at hhas hdrop
  have hlisted : (s.retain shelf).1.ids = saves.filter (s.retain shelf).2.has := by
    rw [hdrop, ← filter_notMem_take (hnodup.filter _), List.filter_filter]
    refine List.filter_congr fun id _ => ?_
    rw [Bool.eq_iff_iff, hhas]
    simp [and_comm]
  refine ⟨hlisted, ?_, ?_⟩
  · rw [hdrop, List.length_drop]
    omega
  · intro id hid hbefore hgone
    have htaken : id ∈ (saves.filter shelf.has).take k := by
      by_contra hno
      exact hgone ((hhas id).mpr ⟨hbefore, hno⟩)
    have hpos : 0 < k := by
      rcases Nat.eq_zero_or_pos k with rfl | hpos
      · cases htaken
      · exact hpos
    refine ⟨(s.retain shelf).1.ids, ?_, ?_, ?_⟩
    · rw [hdrop, List.length_drop]
      omega
    · have hsub : ([id] ++ (saves.filter shelf.has).drop k).Sublist (saves.filter shelf.has) := by
        conv_rhs => rw [← List.take_append_drop k (saves.filter shelf.has)]
        exact (List.singleton_sublist.mpr htaken).append (List.Sublist.refl _)
      rw [hdrop]
      exact hsub.trans List.filter_sublist
    · intro n hn
      rw [hlisted] at hn
      exact (List.mem_filter.mp hn).2

end Autosave

namespace Engine
variable {e e₀ : Engine} {op : Operation} {saves : List String} {id : String}

/-- What is kept of the saves that were made. -/
structure Keeps (e : Engine) (saves : List String) : Prop where
  listed : e.autosave.Lists e.shelf saves
  known : e.autosave.ids ⊆ saves
  bounded : e.autosave.ids.length ≤ e.autosave.config.maxEntries
  issued : ∀ id ∈ saves, ∃ n ≤ e.ambient.issued, id = checkpointId n
  nodup : saves.Nodup

/-- No save comes back, unless it is imported. -/
theorem Keeps.gone (h : e.Keeps saves) (himports : ∀ id ∈ saves, ¬ op.Imports e id)
    (hids : (e.attempt op).2.ambient.Unrepeated) (hid : id ∈ saves)
    (hthere : (e.attempt op).2.shelf.has id = true) : e.shelf.has id = true := by
  have hsince : Since id e (e.attempt op).2 := since_attempt (himports id hid)
  obtain ⟨c, hc, hcid⟩ := Shelf.has_iff.mp hthere
  obtain ⟨m, hm, hname⟩ := h.issued id hid
  rcases hsince.shelved c hc hcid with hbefore | ⟨n, hlt, hle, hn⟩
  · exact Shelf.has_iff.mpr ⟨c, hbefore, hcid⟩
  · have hsame : n = m :=
      checkpointId_inj hids hle (hm.trans hsince.issued) (hn.symm.trans hname)
    omega

/-- Why a save is gone: it was deleted by hand, a new checkpoint left no place for it, or there are
as many newer saves as are kept. -/
inductive Gone (e : Engine) (op : Operation) (saves : List String) (id : String) : Prop
  | byHand : op.ByHand → Gone e op saves id
  | crowdedOut {c n : Checkpoint} : (e.saving? op).isSome = true →
    n.id = checkpointId (e.attempt op).2.ambient.issued → c ∈ e.shelf.checkpoints → c.id = id →
    e.shelf.CrowdsOut n c → Gone e op saves id
  | retired {newer : List String} :
    newer.length = (e.attempt op).2.autosave.config.maxEntries → (id :: newer).Sublist saves →
    (∀ n ∈ newer, (e.attempt op).2.shelf.has n = true) → Gone e op saves id

structure Advances (e : Engine) (op : Operation) (saves saves' : List String) : Prop where
  keeps : (e.attempt op).2.Keeps saves'
  gone : ∀ id ∈ saves, e.shelf.has id = true → ¬ (e.attempt op).2.shelf.has id = true →
    Gone e op saves' id

def savedIds (e : Engine) (ops : List Operation) : List String := (e.journal ops).map (·.id)

theorem Keeps.unchanged (h : e.Keeps saves) (himports : ∀ id ∈ saves, ¬ op.Imports e id)
    (hids : (e.attempt op).2.ambient.Unrepeated)
    (hissued : e.ambient.issued ≤ (e.attempt op).2.ambient.issued)
    (hconfig : (e.attempt op).2.autosave.config = e.autosave.config)
    (hsame : (e.attempt op).2.autosave.ids = e.autosave.ids) : (e.attempt op).2.Keeps saves where
  listed := by
    have hnarrow := h.listed.narrow h.known fun id hid => h.gone himports hids hid
    rwa [Autosave.lists_iff, hsame]
  known := hsame ▸ h.known
  bounded := by
    rw [hsame, hconfig]
    exact h.bounded
  issued := fun id hid => (h.issued id hid).imp fun n hn => ⟨hn.1.trans hissued, hn.2⟩
  nodup := h.nodup

/-- Where the oldest saves were just deleted, nothing is left to be forgotten. -/
theorem Keeps.of_kept {s : Autosave} {shelf : Shelf} {after : Autosave × Shelf}
    (h : s.Kept shelf saves after) (hids : e.autosave.ids = after.1.ids)
    (hconfig : e.autosave.config = s.config) (hshelf : e.shelf = after.2)
    (hissued : ∀ id ∈ saves, ∃ n ≤ e.ambient.issued, id = checkpointId n) (hnodup : saves.Nodup) :
    e.Keeps saves where
  listed := by
    rw [Autosave.lists_iff, hids, h.listed, hshelf, List.filter_filter]
    simp only [Bool.and_self]
  known := by
    rw [hids, h.listed]
    exact List.filter_subset_self _
  bounded := by
    rw [hids, hconfig]
    exact h.bounded
  issued := hissued
  nodup := hnodup

theorem create_ok {shelf shelf' : Shelf} {a a' : Ambient} {d : Shelf.Draft} {n : Checkpoint}
    (h : shelf.create a d = (.ok n, shelf', a')) :
    a' = a.issue ∧ n.id = checkpointId (a.issued + 1) ∧
      ∀ c ∈ shelf'.checkpoints, c ∈ shelf.checkpoints ∨ c.id = n.id := by
  obtain ⟨_, hmade, _, ha⟩ := Shelf.create_eq_ok h
  have hid : n.id = checkpointId (a.issued + 1) :=
    (Shelf.checkpointFor_fields hmade).1.trans (checkpointId_issue a)
  refine ⟨ha, hid, fun c hc => ?_⟩
  have hnew := @Shelf.mem_create_id shelf a c d
  rw [h] at hnew
  exact (hnew hc).imp_right fun hlast => hlast.2.trans hid.symm

/-- A save comes under an id that no other has. -/
theorem Keeps.fresh (h : e.Keeps saves) {a : Ambient} (hissued : e.ambient.issued ≤ a.issued)
    (hids : a.issue.Unrepeated) : checkpointId (a.issued + 1) ∉ saves := by
  intro hmem
  obtain ⟨m, hm, hname⟩ := h.issued _ hmem
  have hlast : a.issue.issued = a.issued + 1 := rfl
  have hsame := checkpointId_inj hids (n := a.issued + 1) (m := m) (by omega) (by omega) hname
  omega

/-- What is kept with a new save among the others. -/
theorem Keeps.saved (h : e.Keeps saves) {a a' : Ambient} {d : Shelf.Draft} {n : Checkpoint}
    {shelf' : Shelf} (hissued : e.ambient.issued ≤ a.issued)
    (hcreate : e.shelf.create a d = (.ok n, shelf', a')) (hids : a'.Unrepeated) {s : Autosave}
    (hs : s.ids = e.autosave.ids ++ [n.id]) :
    s.Kept shelf' (saves ++ [n.id]) (s.retain shelf') ∧ (saves ++ [n.id]).Nodup ∧
      ∀ id ∈ saves ++ [n.id], ∃ m ≤ a'.issued, id = checkpointId m := by
  obtain ⟨rfl, hid, hnew⟩ := create_ok hcreate
  have hfresh : n.id ∉ saves := hid ▸ h.fresh hissued hids
  have hnarrow : e.autosave.Lists shelf' saves := by
    refine h.listed.narrow h.known fun id hid hthere => ?_
    obtain ⟨c, hc, rfl⟩ := Shelf.has_iff.mp hthere
    rcases hnew c hc with hbefore | hsame
    · exact Shelf.has_iff.mpr ⟨c, hbefore, rfl⟩
    · exact absurd (hsame ▸ hid) hfresh
  have hlisted : s.Lists shelf' (saves ++ [n.id]) := by
    rw [Autosave.lists_iff, hs, List.filter_append, List.filter_append,
      Autosave.lists_iff.mp hnarrow]
  have hnodup : (saves ++ [n.id]).Nodup :=
    List.nodup_append.mpr ⟨h.nodup, List.nodup_singleton _, by
      rintro id hmem _ hn rfl
      exact hfresh (List.mem_singleton.mp hn ▸ hmem)⟩
  refine ⟨Autosave.retain_kept hlisted hnodup, hnodup, fun id hmem => ?_⟩
  rcases List.mem_append.mp hmem with hmem | hmem
  · obtain ⟨m, hm, hname⟩ := h.issued id hmem
    exact ⟨m, (hm.trans hissued).trans (Nat.le_succ _), hname⟩
  · exact ⟨a.issued + 1, Nat.le_refl _, (List.mem_singleton.mp hmem).trans hid⟩

theorem Gone.of_kept {s : Autosave} {shelf : Shelf} (h : s.Kept shelf saves (s.retain shelf))
    (hconfig : (e.attempt op).2.autosave.config = s.config)
    (hshelf : (e.attempt op).2.shelf = (s.retain shelf).2) (hid : id ∈ saves)
    (hbefore : shelf.has id = true) (hgone : ¬ (e.attempt op).2.shelf.has id = true) :
    e.Gone op saves id := by
  rw [hshelf] at hgone
  obtain ⟨newer, hlength, hsub, hthere⟩ := h.retired id hid hbefore hgone
  exact .retired (hlength.trans (congrArg _ hconfig.symm)) hsub fun n hn => hshelf ▸ hthere n hn

/-- A new checkpoint takes nothing from the shelf but what it leaves no place for. -/
theorem Gone.of_created {a a' : Ambient} {d : Shelf.Draft} {n : Checkpoint} {shelf' : Shelf}
    (horderly : e.shelf.Orderly) (hlimit : d.options.limit = 0)
    (hstrategy : d.options.strategy = "")
    (hcreate : e.shelf.create a d = (.ok n, shelf', a')) (hsaving : (e.saving? op).isSome = true)
    (hambient : (e.attempt op).2.ambient = a') (hfresh : n.id ≠ id)
    (hbefore : e.shelf.has id = true) : shelf'.has id = true ∨ e.Gone op saves id := by
  obtain ⟨c, hc, rfl⟩ := Shelf.has_iff.mp hbefore
  have hstays := Shelf.create_mem_iff horderly hlimit hstrategy hcreate hfresh
  by_cases hcrowds : e.shelf.CrowdsOut n c
  · obtain ⟨rfl, hid, _⟩ := create_ok hcreate
    exact .inr (.crowdedOut hsaving (hambient ▸ hid) hc rfl hcrowds)
  · exact .inl (Shelf.has_iff.mpr ⟨c, hstays.mpr ⟨hc, hcrowds⟩, rfl⟩)

theorem append_unsaved (h : ∀ r, e.saving? op = some r → r.success = false) :
    saves ++ ((e.saved? op).map (·.id)).toList = saves := by
  rw [saved?_eq_none h]
  exact List.append_nil _

/-- What an attempt to save makes of the saves that there are. -/
theorem Keeps.tried (h : e.Keeps saves) (hreach : e.Reachable)
    (himports : ∀ id ∈ saves, ¬ op.Imports e id) (hids : (e.attempt op).2.ambient.Unrepeated)
    (hissued : e.ambient.issued ≤ (e.attempt op).2.ambient.issued) {a : Ambient} {j : Autosave.Job}
    (ha : e.ambient.issued ≤ a.issued)
    (hsaving : e.saving? op = (e.autosave.save e.shelf a j).result.toOption)
    (hautosave : (e.attempt op).2.autosave = (e.autosave.save e.shelf a j).autosave)
    (hshelf : (e.attempt op).2.shelf = (e.autosave.save e.shelf a j).shelf)
    (hambient : (e.attempt op).2.ambient = (e.autosave.save e.shelf a j).ambient) :
    e.Advances op saves (saves ++ ((e.saved? op).map (·.id)).toList) := by
  have horderly := hreach.collected.orderly
  have hfresh : ∀ {d n shelf' a'}, e.shelf.create a d = (.ok n, shelf', a') → a'.Unrepeated →
      ∀ id ∈ saves, n.id ≠ id := by
    rintro d n shelf' a' hcreate hids' id hid rfl
    obtain ⟨rfl, hname, _⟩ := create_ok hcreate
    exact h.fresh ha hids' (hname ▸ hid)
  have htried := Autosave.save_tried e.autosave e.shelf a j
  generalize e.autosave.save e.shelf a j = t at htried hsaving hautosave hshelf hambient
  cases htried with
  | unmade hfailed hsame =>
    have hunsaved : ∀ r, e.saving? op = some r → r.success = false := by
      intro r hr
      obtain ⟨f, _, rfl⟩ := hfailed r (hsaving.symm.trans hr)
      rfl
    rw [append_unsaved hunsaved]
    refine ⟨h.unchanged himports hids hissued (congrArg (·.config) hautosave)
      (congrArg (·.ids) hautosave), fun id _ hbefore hgone => ?_⟩
    rw [Shelf.has_iff, hshelf, hsame, ← Shelf.has_iff] at hgone
    exact absurd hbefore hgone
  | @unsized _ _ _ _ a' hlimit hstrategy hcreate =>
    have hlast : (e.attempt op).2.ambient = a' := hambient
    have hunsaved : ∀ r, e.saving? op = some r → r.success = false := by
      intro r hr
      cases hsaving.symm.trans hr
      rfl
    rw [append_unsaved hunsaved]
    refine ⟨h.unchanged himports hids hissued (congrArg (·.config) hautosave)
      (congrArg (·.ids) hautosave), fun id hid hbefore hgone => ?_⟩
    rw [hshelf] at hgone
    exact (Gone.of_created horderly hlimit hstrategy hcreate (by rw [hsaving]; rfl) hlast
      (hfresh hcreate (hlast ▸ hids) id hid) hbefore).resolve_left hgone
  | @saved d n size shelf' a' hlimit hstrategy hcreate =>
    let s : Autosave :=
      { e.autosave with savedAt := some a'.seconds, ids := e.autosave.ids ++ [n.id] }
    have hlast : (e.attempt op).2.ambient = a' := hambient
    obtain ⟨hkept, hnodup, hnamed⟩ := h.saved ha hcreate (hlast ▸ hids) (rfl : s.ids = _)
    have hids' : saves ++ ((e.saved? op).map (·.id)).toList = saves ++ [n.id] := by
      rw [saved?_eq_some hsaving]
      rfl
    have hconfig : (e.attempt op).2.autosave.config = s.config := congrArg (·.config) hautosave
    rw [hids']
    refine ⟨.of_kept hkept (congrArg (·.ids) hautosave) hconfig hshelf ?_ hnodup, ?_⟩
    · rw [hlast]
      exact hnamed
    · intro id hid hbefore hgone
      have hcreated : shelf'.has id = true ∨ e.Gone op (saves ++ [n.id]) id :=
        Gone.of_created horderly hlimit hstrategy hcreate (by rw [hsaving]; rfl) hlast
          (hfresh hcreate (hlast ▸ hids) id hid) hbefore
      rcases hcreated with hthere | hgone'
      · exact .of_kept hkept hconfig hshelf (List.mem_append_left _ hid) hthere hgone
      · exact hgone'

/-- What one operation makes of the saves. -/
theorem Keeps.attempt (h : e.Keeps saves) (hreach : e.Reachable)
    (himports : ∀ id ∈ saves, ¬ op.Imports e id) (hids : (e.attempt op).2.ambient.Unrepeated)
    (hissued : e.ambient.issued ≤ (e.attempt op).2.ambient.issued) :
    e.Advances op saves (saves ++ ((e.saved? op).map (·.id)).toList) := by
  cases account hreach.sound.settled.still op with
  | quiet hsaving hautosave hshelf _ =>
    rw [append_unsaved (by rw [hsaving]; exact nofun)]
    refine ⟨h.unchanged himports hids hissued (congrArg (·.config) hautosave)
      (congrArg (·.ids) hautosave), fun id hid hbefore hgone => ?_⟩
    by_cases hhand : op.ByHand
    · exact .byHand hhand
    · rw [hshelf hhand] at hgone
      exact absurd hbefore hgone
  | configured c _ hsaving hconfigured =>
    rw [append_unsaved (by rw [hsaving]; exact nofun)]
    have hkept : ({ e.autosave with config := c } : Autosave).Kept e.shelf saves _ :=
      Autosave.retain_kept (s := { e.autosave with config := c }) h.listed h.nodup
    have hautosave := congrArg Prod.fst hconfigured
    have hshelf := congrArg Prod.snd hconfigured
    have hconfig := congrArg (·.config) hautosave
    refine ⟨.of_kept hkept (congrArg (·.ids) hautosave) hconfig hshelf ?_ h.nodup, ?_⟩
    · exact fun id hid => (h.issued id hid).imp fun n hn => ⟨hn.1.trans hissued, hn.2⟩
    · exact fun id hid hbefore hgone => .of_kept hkept hconfig hshelf hid hbefore hgone
  | throttled _ _ _ hsaving hautosave hshelf =>
    rw [append_unsaved (by rw [hsaving]; rintro _ ⟨⟩; rfl)]
    refine ⟨h.unchanged himports hids hissued (congrArg (·.config) hautosave)
      (congrArg (·.ids) hautosave), fun id _ hbefore hgone => ?_⟩
    rw [hshelf] at hgone
    exact absurd hbefore hgone
  | tried _ ha _ hsaving hautosave hshelf hambient =>
    exact h.tried hreach himports hids hissued ha hsaving hautosave hshelf hambient

theorem attempt_issued (e : Engine) (op : Operation) :
    e.ambient.issued ≤ (e.attempt op).2.ambient.issued := by
  have hsince : ¬ op.Imports e "" → e.ambient.issued ≤ (e.attempt op).2.ambient.issued :=
    fun h => (since_attempt h).issued
  cases op with
  | importCheckpoint data =>
    show _ ≤ (e.importCheckpoint data).2.ambient.issued
    unfold importCheckpoint
    split <;> exact Nat.le_refl _
  | _ =>
    refine hsince ?_
    rintro ⟨_, _, _, himport, _⟩
    cases himport

theorem after_issued (e : Engine) (ops : List Operation) :
    e.ambient.issued ≤ (e.after ops).ambient.issued := by
  induction ops generalizing e with
  | nil => exact Nat.le_refl _
  | cons op later ih => exact (attempt_issued e op).trans (ih _)

theorem after_append (e : Engine) (ops more : List Operation) :
    e.after (ops ++ more) = (e.after ops).after more := List.foldl_append

theorem savedIds_snoc (ops : List Operation) : e.savedIds (ops ++ [op]) =
    e.savedIds ops ++ (((e.after ops).saved? op).map (·.id)).toList := by
  rw [savedIds, journal_snoc, List.map_append]
  cases (e.after ops).saved? op <;> rfl

/-- No checkpoint is imported under the id of an earlier save. -/
def SparesSaves (e : Engine) (ops : List Operation) : Prop :=
  e.Throughout (fun e log op => ∀ s ∈ log, ¬ op.Imports e s.id) ops

variable {ops before later : List Operation}

theorem SparesSaves.unimported (h : e.SparesSaves ops) (hops : ops = before ++ later)
    {s : Autosave.Entry} (hs : s ∈ e.journal before) : Unimported s.id (e.after before) later := by
  induction later generalizing before with
  | nil => trivial
  | cons op later ih =>
    refine ⟨h before op later hops s hs, ?_⟩
    rw [← after_snoc]
    refine ih ?_ ?_
    · rw [hops, List.append_assoc]
      rfl
    · rw [journal_snoc]
      exact List.mem_append_left _ hs

theorem SparesSaves.earlier (h : e.SparesSaves (before ++ later)) : e.SparesSaves before := by
  rintro earlier op rest rfl
  exact h earlier op (rest ++ later) (List.append_assoc _ _ _)

/-- The saves of a run: their ids are distinct, those that are still on the shelf are listed, and no
more than the configuration allows. What lies under their ids is what was put there, and what is
gone is gone for a reason. -/
structure Retains (e : Engine) (ops : List Operation) : Prop where
  distinct : (e.savedIds ops).Nodup
  listed : ((e.after ops).autosave.forget (e.after ops).shelf).ids =
    (e.savedIds ops).filter (e.after ops).shelf.has
  bounded : ((e.savedIds ops).filter (e.after ops).shelf.has).length ≤
    (e.after ops).autosave.config.maxEntries
  original : ∀ before op later s c, ops = before ++ op :: later →
    (e.after before).saved? op = some s → c ∈ (e.after ops).shelf.checkpoints → c.id = s.id →
    c ∈ (e.after (before ++ [op])).shelf.checkpoints
  gone : e.Throughout (fun e log op => ∀ s ∈ log, e.shelf.has s.id = true →
    ¬ (e.attempt op).2.shelf.has s.id = true →
    e.Gone op ((log ++ (e.saved? op).toList).map (·.id)) s.id) ops

theorem keeps_after (h : e.Reachable) (hfirst : e.autosave.ids = []) (hspares : e.SparesSaves ops)
    (hids : (e.after ops).ambient.Unrepeated) :
    (e.after ops).Keeps (e.savedIds ops) ∧ e.Throughout (fun e log op => ∀ s ∈ log,
      e.shelf.has s.id = true → ¬ (e.attempt op).2.shelf.has s.id = true →
      e.Gone op ((log ++ (e.saved? op).toList).map (·.id)) s.id) ops := by
  induction ops using List.reverseRecOn with
  | nil =>
    refine ⟨⟨?_, ?_, ?_, nofun, List.nodup_nil⟩, throughout_nil⟩ <;>
      simp [after, savedIds, journal, Autosave.lists_iff, hfirst]
  | append_singleton ops op ih =>
    rw [after_snoc] at hids ⊢
    have hissued := attempt_issued (e.after ops) op
    obtain ⟨hkeeps, hgone⟩ := ih hspares.earlier (hids.earlier hissued)
    obtain ⟨_, himports⟩ := throughout_snoc.mp hspares
    have himports' : ∀ id ∈ e.savedIds ops, ¬ op.Imports (e.after ops) id := by
      intro id hid
      obtain ⟨s, hs, rfl⟩ := List.mem_map.mp hid
      exact himports s hs
    obtain ⟨hkeeps', hlost⟩ :=
      hkeeps.attempt (after_reachable h ops) himports' hids hissued
    rw [savedIds_snoc]
    refine ⟨hkeeps', throughout_snoc.mpr ⟨hgone, fun s hs hbefore hafter => ?_⟩⟩
    rw [← journal_snoc]
    have hids : e.savedIds (ops ++ [op]) = _ := savedIds_snoc ops
    unfold savedIds at hids
    rw [hids]
    exact hlost s.id (List.mem_map_of_mem hs) hbefore hafter

/-- Whatever is done with a new engine, as long as nothing is imported under the id of an earlier
save. -/
theorem saves_retained {story : Story} (hstory : story.Made) {ambient : Ambient} {setup : Setup}
    (hm : make story ambient setup = .ok e) (hspares : e.SparesSaves ops)
    (hids : (e.after ops).ambient.Unrepeated) : e.Retains ops := by
  have hreach : e.Reachable := .made hstory hm
  obtain ⟨c, hc⟩ := make_autosave hm
  have hfirst : e.autosave.ids = [] := by rw [hc]; rfl
  obtain ⟨hkeeps, hgone⟩ := keeps_after hreach hfirst hspares hids
  refine ⟨hkeeps.nodup, hkeeps.listed, ?_, ?_, hgone⟩
  · rw [← Autosave.lists_iff.mp hkeeps.listed]
    exact (List.length_filter_le _ _).trans hkeeps.bounded
  · rintro before op later s c rfl hsaved hc hid
    have hops : before ++ op :: later = (before ++ [op]) ++ later := by simp
    rw [hops] at hspares hids hc
    have hspares' := hspares.earlier
    have hsame : e.after (before ++ [op] ++ later) = (e.after (before ++ [op])).after later :=
      after_append _ _ _
    rw [hsame] at hids hc
    have hissued := after_issued (e.after (before ++ [op])) later
    have hmade : s ∈ e.journal (before ++ [op]) := by
      rw [journal_snoc, hsaved]
      simp
    obtain ⟨hkept, _⟩ := keeps_after hreach hfirst hspares' (hids.earlier hissued)
    obtain ⟨m, hm, hname⟩ := hkept.issued s.id (List.mem_map_of_mem hmade)
    rcases (since_after (hspares.unimported rfl hmade)).shelved c hc hid with
      hc | ⟨n, hlt, hle, hn⟩
    · exact hc
    · have hsame : n = m := checkpointId_inj hids hle (hm.trans hissued) (hn.symm.trans hname)
      omega

/-- An automatic save whose checkpoint was deleted by hand is no longer retained. -/
theorem saves_retained_gate :
    atGate.Retains [.saveNow [], .deleteCheckpoint (checkpointId 1)] ∧
      (atGate.savedIds [.saveNow [], .deleteCheckpoint (checkpointId 1)]).map
        (atGate.after [.saveNow [], .deleteCheckpoint (checkpointId 1)]).shelf.has = [false] := by
  have hmake : make .hallway ⟨0, 0⟩ { timeline := some .standard, autosave := some .off } =
      .ok atGate := rfl
  have hspares : atGate.SparesSaves [.saveNow [], .deleteCheckpoint (checkpointId 1)] := by
    rintro before op later hops _ _ ⟨data, _, _, rfl, _⟩
    have hmem : Operation.importCheckpoint data ∈ before ++ .importCheckpoint data :: later :=
      by simp
    rw [← hops] at hmem
    simp at hmem
  have hissued : (atGate.after [.saveNow [], .deleteCheckpoint (checkpointId 1)]).ambient.issued <
      16 ^ 12 := by decide +kernel
  exact ⟨saves_retained Story.hallway_made hmake hspares (Ambient.unrepeated_of_lt hissued),
    by decide +kernel⟩

end Engine
end Storyline
