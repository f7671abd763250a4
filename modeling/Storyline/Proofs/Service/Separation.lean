import Storyline.Proofs.Service.Offering
import Storyline.Proofs.Service.Twins

namespace Storyline

namespace Engine
variable {ρ : String → String} {e e' : Engine}

theorem Twins.configureAutosave (h : Twins ρ e e') (hρ : Function.Injective ρ)
    (changes : Entries Value) : Paired ρ e.ambient e'.ambient (e.configureAutosave changes)
      (e'.configureAutosave changes) := by
  unfold Engine.configureAutosave
  rw [h.autosave.config]
  cases Autosave.Config.make (e.autosave.config.wishes.changed changes) with
  | error f => exact h.refused _ _
  | ok c =>
    have hconfigured : Autosave.Renamed ρ { e.autosave with config := c }
        { e'.autosave with config := c } := { h.autosave with config := rfl }
    obtain ⟨hautosave, hshelf⟩ := hconfigured.retain hρ e.shelf
    rw [← h.shelf] at hautosave hshelf
    exact ⟨rfl, { h with shelf := hshelf, autosave := hautosave }, h.still.ambient⟩

def Matches (ρ : String → String) (x y : Option Engine) : Prop :=
  (x = none ∧ y = none) ∨ ∃ e e', x = some e ∧ y = some e' ∧ Twins ρ e e'

theorem Matches.same {x y : Option Engine} (h : Matches ρ x y) :
    y.map (fun e => (e.state, e.events)) = x.map (fun e => (e.state, e.events)) := by
  rcases h with ⟨rfl, rfl⟩ | ⟨e, e', rfl, rfl, h⟩
  · rfl
  · simp only [Option.map_some, h.state, h.events]

/-- The same engine is made with other ids and another store. -/
theorem make_twins (story : Story) (settings : Settings) (storage storage' : Option Storage)
    {a a' : Ambient} (hclock : a'.clock = a.clock) :
    Matches ρ (make story a { settings, storage }).toOption
      (make story a' { settings, storage := storage' }).toOption := by
  have hagain : make story a' { settings, storage := storage' } =
      (make story a { settings, storage }).map fun e =>
        { e with ambient := a', storage := storage' } := by
    simp only [make, firstState, timelineConfig, autosaveConfig, map_bind, ok_bind, pure_ok, map_ok]
  cases hmake : make story a { settings, storage } with
  | error f =>
    rw [hagain, hmake]
    exact .inl ⟨rfl, rfl⟩
  | ok e =>
    rw [hagain, hmake]
    obtain ⟨state, _, hmake⟩ := bind_eq_ok.mp hmake
    obtain ⟨ev, _, hmake⟩ := bind_eq_ok.mp hmake
    obtain ⟨shelf, hshelf, hmake⟩ := bind_eq_ok.mp hmake
    obtain ⟨tc, _, hmake⟩ := bind_eq_ok.mp hmake
    obtain ⟨ac, _, hmake⟩ := bind_eq_ok.mp hmake
    cases hmake
    have hempty : shelf = shelf.renamed ρ := by
      have hmade := mapError_eq_ok.mp hshelf
      unfold Shelf.make at hmade
      split at hmade
      · cases hmade
      · split at hmade <;> cases hmade
        rfl
    exact .inr ⟨_, _, rfl, rfl, rfl, rfl, rfl, rfl, rfl, hempty, .refl _, ⟨rfl, rfl, rfl⟩, hclock⟩

end Engine

namespace Service
open Engine
variable {ρ : String → String} {s t : Service} {id own other : String}

/-- Whether a request asks nothing, or something of this session. -/
def Request.concerns (r : Request) (id : String) : Bool :=
  match Ask.ofRequest r with
  | .ok (.of session _) => session == id
  | .ok _ => false
  | .error _ => true

theorem askSession_others (s : Service) (ask : SessionAsk) (h : other ≠ id) :
    (s.askSession id ask).2.sessions.get? other = s.sessions.get? other := by
  cases he : s.sessions.get? id with
  | none => rw [askSession, he]
  | some e =>
    have hput (e : Engine) : (s.sessions.put id e).get? other = s.sessions.get? other :=
      Entries.get?_put_of_ne _ _ h
    rw [askSession_open he]
    cases ask with
    | close => exact Entries.get?_erase_of_ne _ h
    | _ => exact hput _

theorem openSession_others (autosaves : Option Bool) (h : other ≠ sessionId s.ambient.issue) :
    (s.openSession autosaves).2.sessions.get? other = s.sessions.get? other := by
  cases he : s.newEngine s.ambient.issue autosaves with
  | none => rw [openSession_none he]
  | some e =>
    rw [openSession_new he]
    exact Entries.get?_put_of_ne _ _ h

/-- What comes of a session depends on its engine, on the time and the next id, and on the store. -/
theorem askSession_alike {s' : Service} (hsession : s'.sessions.get? id = s.sessions.get? id)
    (hambient : s'.ambient = s.ambient) (hstorage : s'.storage = s.storage) (ask : SessionAsk) :
    (s'.askSession id ask).1 = (s.askSession id ask).1 ∧
      (s'.askSession id ask).2.sessions.get? id = (s.askSession id ask).2.sessions.get? id ∧
      (s'.askSession id ask).2.ambient = (s.askSession id ask).2.ambient ∧
      (s'.askSession id ask).2.storage = (s.askSession id ask).2.storage := by
  cases he : s.sessions.get? id with
  | none =>
    rw [he] at hsession
    rw [askSession, askSession, he, hsession]
    exact ⟨rfl, by rw [he, hsession], hambient, hstorage⟩
  | some e =>
    rw [he] at hsession
    have hlent : s'.lend e = s.lend e := by rw [lend, lend, hambient, hstorage]
    rw [askSession_open he, askSession_open hsession, hlent]
    refine ⟨rfl, ?_⟩
    cases ask with
    | close =>
      exact ⟨(Entries.get?_erase_self _ _).trans (Entries.get?_erase_self _ _).symm, hambient,
        hstorage⟩
    | _ =>
      refine ⟨(Entries.get?_put_self _ _ _).trans (Entries.get?_put_self _ _ _).symm, rfl, ?_⟩
      simp only [takeBack, hstorage]

theorem handle_others {r : Request} (hr : r.concerns id) (s : Service) (h : other ≠ id) :
    (s.handle r).2.sessions.get? other = s.sessions.get? other := by
  unfold Request.concerns at hr
  unfold handle
  split at hr
  · rename_i session ask hask
    rw [hask]
    obtain rfl := eq_of_beq hr
    exact askSession_others s ask h
  · cases hr
  · rename_i reply hask
    rw [hask]

theorem handle_alike {r : Request} (hr : r.concerns id) {s' : Service}
    (hsession : s'.sessions.get? id = s.sessions.get? id) (hambient : s'.ambient = s.ambient)
    (hstorage : s'.storage = s.storage) : (s'.handle r).1 = (s.handle r).1 ∧
      (s'.handle r).2.sessions.get? id = (s.handle r).2.sessions.get? id ∧
      (s'.handle r).2.ambient = (s.handle r).2.ambient ∧
      (s'.handle r).2.storage = (s.handle r).2.storage := by
  unfold Request.concerns at hr
  unfold handle
  split at hr
  · rename_i session ask hask
    rw [hask]
    obtain rfl := eq_of_beq hr
    exact askSession_alike hsession hambient hstorage ask
  · cases hr
  · rename_i reply hask
    rw [hask]
    exact ⟨rfl, hsession, hambient, hstorage⟩

/-- A request, and the time at which it arrives. -/
structure Arrival where
  clock : Int
  request : Request

structure Turn where
  clock : Int
  ask : SessionAsk

def atTime (s : Service) (clock : Int) : Service := { s with ambient := { s.ambient with clock } }

def receive (s : Service) (x : Arrival) : Service := ((s.atTime x.clock).handle x.request).2

def receiveAll (s : Service) (xs : List Arrival) : Service := xs.foldl receive s

def turnOf? (id : String) (x : Arrival) : Option Turn :=
  match Ask.ofRequest x.request with
  | .ok (.of session ask) => if session = id then some ⟨x.clock, ask⟩ else none
  | _ => none

def turns (id : String) (xs : List Arrival) : List Turn := xs.filterMap (turnOf? id)

/-- The service after a session was asked the same at the same time, under other ids. -/
def take (ρ : String → String) (own : String) (s : Service) (t : Turn) : Service :=
  ((s.atTime t.clock).answer (.of own (t.ask.renamed ρ))).2

/-- The service after nothing but these turns. -/
def alone (ρ : String → String) (own : String) (s : Service) (ts : List Turn) : Service :=
  ts.foldl (take ρ own) s

/-- Numbers that are given out in a row, each with the one that takes its place. -/
def stretch (n m count : Nat) : List (Nat × Nat) :=
  (List.range count).map fun i => (n + i + 1, m + i + 1)

/-- The numbers of the ids that are given out for a session among others, each with the number of
the one that takes its place if the session is alone. -/
def drawn (id : String) (s : Service) (issued : Nat) : List Arrival → List (Nat × Nat)
  | [] => []
  | x :: rest =>
    let s' := s.receive x
    match turnOf? id x with
    | none => drawn id s' issued rest
    | some _ =>
      let count := s'.ambient.issued - s.ambient.issued
      stretch s.ambient.issued issued count ++ drawn id s' (issued + count) rest

theorem sessionId_inj {a b c : Ambient} (h : a.Unrepeated) (hb : b.issued ≤ a.issued)
    (hc : c.issued ≤ a.issued) (hsame : sessionId b = sessionId c) : b.issued = c.issued := by
  have hid : b.id = c.id := by simpa [sessionId] using hsame
  exact h b.issued hb c.issued hc hid

theorem receive_turn {x : Arrival} {turn : Turn} (h : turnOf? id x = some turn) (s : Service) :
    s.receive x = ((s.atTime turn.clock).askSession id turn.ask).2 := by
  unfold turnOf? at h
  split at h
  · rename_i session ask hask
    split at h
    · rename_i hsession
      cases h
      simp only [receive, handle, hask, hsession, answer]
    · cases h
  · cases h

theorem askSession_issued (s : Service) (id : String) (ask : SessionAsk) :
    s.ambient.issued ≤ (s.askSession id ask).2.ambient.issued := by
  cases he : s.sessions.get? id with
  | none => rw [askSession, he]
  | some e =>
    rw [askSession_open he]
    have hissued := (run_serves id (s.lend e) ask).steady.issued
    cases ask with
    | close => exact Nat.le_refl _
    | _ => exact hissued

/-- Only its own id is given out for a new session. -/
theorem openSession_ambient (s : Service) (autosaves : Option Bool) :
    (s.openSession autosaves).2.ambient = s.ambient.issue := by
  cases he : s.newEngine s.ambient.issue autosaves with
  | none => rw [openSession_none he]
  | some e =>
    obtain ⟨ev, hlearnt, _⟩ := present_twins (.refl e) (sessionId s.ambient.issue) "" 201
    rw [openSession_new he, hlearnt]
    exact newEngine_ambient he

theorem receive_issued (s : Service) (x : Arrival) :
    s.ambient.issued ≤ (s.receive x).ambient.issued := by
  unfold receive
  refine handle_keeps (s := s.atTime x.clock) (I := fun s' => s.ambient.issued ≤ s'.ambient.issued)
    (Nat.le_refl _) (fun autosaves => ?_) (askSession_issued (s.atTime x.clock)) x.request
  rw [openSession_ambient]
  exact Nat.le_succ s.ambient.issued

theorem receiveAll_cons (s : Service) (x : Arrival) (xs : List Arrival) :
    s.receiveAll (x :: xs) = (s.receive x).receiveAll xs := rfl

theorem receiveAll_append (s : Service) (xs ys : List Arrival) :
    s.receiveAll (xs ++ ys) = (s.receiveAll xs).receiveAll ys := List.foldl_append

theorem receiveAll_issued (s : Service) (xs : List Arrival) :
    s.ambient.issued ≤ (s.receiveAll xs).ambient.issued := by
  induction xs generalizing s with
  | nil => exact Nat.le_refl _
  | cons x rest ih =>
    rw [receiveAll_cons]
    exact Nat.le_trans (receive_issued s x) (ih (s.receive x))

theorem receiveAll_stays (s : Service) (xs : List Arrival) :
    (s.receiveAll xs).story = s.story ∧ (s.receiveAll xs).settings = s.settings := by
  induction xs generalizing s with
  | nil => exact ⟨rfl, rfl⟩
  | cons x rest ih =>
    obtain ⟨hstory, hsettings⟩ := handle_stays (s.atTime x.clock) x.request
    rw [receiveAll_cons, (ih _).1, (ih _).2, receive, hstory, hsettings]
    exact ⟨rfl, rfl⟩

theorem receiveAll_named (h : s.Named) (xs : List Arrival) : (s.receiveAll xs).Named := by
  induction xs generalizing s with
  | nil => exact h
  | cons x rest ih =>
    have hnamed : (s.atTime x.clock).Named := h.later (Nat.le_refl _) (List.Subset.refl _)
    rw [receiveAll_cons]
    exact ih (handle_named hnamed x.request)

/-- A request that asks nothing of a session leaves it as it is. -/
theorem receive_others {a : Ambient} {x : Arrival} (ha : a.issued ≤ s.ambient.issued)
    (hlast : (s.receive x).ambient.Unrepeated) (hx : turnOf? (sessionId a) x = none) :
    (s.receive x).sessions.get? (sessionId a) = s.sessions.get? (sessionId a) := by
  unfold turnOf? at hx
  unfold receive handle at hlast ⊢
  split
  · rfl
  · rename_i ask hask
    rw [hask] at hx hlast
    cases ask with
    | openSession autosaves =>
      refine openSession_others (s := s.atTime x.clock) autosaves fun hsame => ?_
      have hnew : (s.atTime x.clock).ambient.issue.Unrepeated := by
        rw [← openSession_ambient _ autosaves]
        exact hlast
      have hnumbers := sessionId_inj hnew (Nat.le_succ_of_le ha) (Nat.le_refl _) hsame
      exact absurd ha (by rw [hnumbers]; exact Nat.not_succ_le_self _)
    | listSessions => rfl
    | of session ask =>
      have hne : sessionId a ≠ session := by
        rintro rfl
        simp at hx
      exact askSession_others (s.atTime x.clock) ask hne

theorem mem_stretch {n m count : Nat} {p : Nat × Nat} :
    p ∈ stretch n m count ↔ ∃ i < count, (n + i + 1, m + i + 1) = p := by
  simp [stretch]

theorem stretch_rises (n m count : Nat) :
    (stretch n m count).Pairwise fun p q => p.1 < q.1 ∧ p.2 < q.2 := by
  refine List.pairwise_map.mpr (List.pairwise_lt_range.imp fun hlt => ?_)
  exact ⟨by omega, by omega⟩

theorem inStep_of_stretch {n m count : Nat}
    (h : ∀ p ∈ stretch n m count, ρ (checkpointId p.1) = checkpointId p.2) :
    InStep ρ n m count :=
  fun i hi => h (n + i + 1, m + i + 1) (mem_stretch.mpr ⟨i, hi, rfl⟩)

/-- All numbers are new, and the ones in their places are no later. -/
theorem drawn_between {issued : Nat} {xs : List Arrival} (h : issued ≤ s.ambient.issued)
    {p : Nat × Nat} (hp : p ∈ drawn id s issued xs) :
    s.ambient.issued < p.1 ∧ p.1 ≤ (s.receiveAll xs).ambient.issued ∧ issued < p.2 ∧
      p.2 ≤ p.1 := by
  induction xs generalizing s issued with
  | nil => cases hp
  | cons x rest ih =>
    have hissued := receive_issued s x
    have hrest := receiveAll_issued (s.receive x) rest
    rw [receiveAll, List.foldl_cons]
    unfold drawn at hp
    dsimp only at hp
    split at hp
    · obtain ⟨hfirst, hlast, hsecond, hle⟩ := ih (Nat.le_trans h hissued) hp
      exact ⟨by omega, hlast, hsecond, hle⟩
    · rcases List.mem_append.mp hp with hp | hp
      · obtain ⟨i, hi, rfl⟩ := mem_stretch.mp hp
        refine ⟨by omega, ?_, by omega, by omega⟩
        exact Nat.le_trans (by omega) hrest
      · obtain ⟨hfirst, hlast, hsecond, hle⟩ := ih (by omega) hp
        exact ⟨by omega, hlast, by omega, hle⟩

/-- No number is given out twice, on either side. -/
theorem drawn_rises (id : String) (s : Service) {issued : Nat} (h : issued ≤ s.ambient.issued)
    (xs : List Arrival) :
    (drawn id s issued xs).Pairwise fun p q => p.1 < q.1 ∧ p.2 < q.2 := by
  induction xs generalizing s issued with
  | nil => exact .nil
  | cons x rest ih =>
    have hissued := receive_issued s x
    unfold drawn
    dsimp only
    split
    · exact ih (s.receive x) (Nat.le_trans h hissued)
    · refine List.pairwise_append.mpr ⟨stretch_rises _ _ _, ih (s.receive x) (by omega), ?_⟩
      intro p hp q hq
      obtain ⟨i, hi, rfl⟩ := mem_stretch.mp hp
      obtain ⟨hfirst, _, hsecond, _⟩ := drawn_between (by omega) hq
      exact ⟨by omega, by omega⟩

theorem drawn_append {issued : Nat} {xs : List Arrival} (ys : List Arrival) {p : Nat × Nat}
    (hp : p ∈ drawn id s issued xs) : p ∈ drawn id s issued (xs ++ ys) := by
  induction xs generalizing s issued with
  | nil => cases hp
  | cons x rest ih =>
    unfold drawn at hp
    rw [List.cons_append, drawn]
    dsimp only at hp ⊢
    split at hp
    · exact ih hp
    · rcases List.mem_append.mp hp with hp | hp
      · exact List.mem_append_left _ hp
      · exact List.mem_append_right _ (ih hp)

/-- The ids of a session can be exchanged with those that take their places when it is alone. -/
theorem drawn_renaming (id : String) {s : Service} {issued : Nat} (h : issued ≤ s.ambient.issued)
    {xs : List Arrival} (hlast : (s.receiveAll xs).ambient.Unrepeated) :
    ∃ ρ : Equiv.Perm String, (∀ x, (∀ n, x ≠ checkpointId n) → ρ x = x) ∧
      ∀ p ∈ drawn id s issued xs, ρ (checkpointId p.1) = checkpointId p.2 := by
  have hrises := drawn_rises id s h xs
  have hbound : ∀ p ∈ drawn id s issued xs, p.1 ≤ (s.receiveAll xs).ambient.issued ∧
      p.2 ≤ (s.receiveAll xs).ambient.issued := by
    intro p hp
    obtain ⟨_, hle, _, hle'⟩ := drawn_between h hp
    exact ⟨hle, Nat.le_trans hle' hle⟩
  let pairs := (drawn id s issued xs).map fun p => (checkpointId p.1, checkpointId p.2)
  have hfirst : (pairs.map Prod.fst).Nodup := by
    rw [List.map_map, List.Nodup, List.pairwise_map]
    refine hrises.imp_of_mem fun {p q} hp hq hlt hsame => ?_
    have hnumbers := checkpointId_inj hlast (hbound p hp).1 (hbound q hq).1 hsame
    omega
  have hsecond : (pairs.map Prod.snd).Nodup := by
    rw [List.map_map, List.Nodup, List.pairwise_map]
    refine hrises.imp_of_mem fun {p q} hp hq hlt hsame => ?_
    have hnumbers := checkpointId_inj hlast (hbound p hp).2 (hbound q hq).2 hsame
    omega
  obtain ⟨ρ, hρ, hothers⟩ := exists_renaming hfirst hsecond
  refine ⟨ρ, fun x hx => hothers x ?_ ?_, fun p hp => hρ _ (List.mem_map_of_mem hp)⟩
  · intro hmem
    simp only [pairs, List.map_map, List.mem_map] at hmem
    obtain ⟨p, _, rfl⟩ := hmem
    exact hx _ rfl
  · intro hmem
    simp only [pairs, List.map_map, List.mem_map] at hmem
    obtain ⟨p, _, rfl⟩ := hmem
    exact hx _ rfl

theorem newEngine_twins (hρ : Function.Injective ρ) (hstory : t.story = s.story)
    (hsettings : t.settings = s.settings) {a a' : Ambient} (hclock : a'.clock = a.clock)
    (autosaves : Option Bool) :
    Matches ρ (s.newEngine a autosaves) (t.newEngine a' autosaves) := by
  unfold newEngine
  rw [hstory, hsettings]
  have hmade : Matches ρ _ _ :=
    make_twins s.story s.settings (some s.storage) (some t.storage) hclock
  rcases hmade with ⟨hmake, hmake'⟩ | ⟨e, e', hmake, hmake', h⟩
  · rw [hmake, hmake']
    exact .inl ⟨rfl, rfl⟩
  · rw [hmake, hmake']
    cases autosaves with
    | none => exact .inr ⟨e, e', rfl, rfl, h⟩
    | some enabled =>
      obtain ⟨hvalue, halong⟩ := h.configureAutosave hρ [("enabled", .bool enabled)]
      simp only [Option.bind_eq_bind, Option.bind_some, Option.pure_def]
      rcases hc : e.configureAutosave [("enabled", .bool enabled)] with ⟨r, e₁⟩
      rcases hc' : e'.configureAutosave [("enabled", .bool enabled)] with ⟨r', e₁'⟩
      rw [hc, hc'] at hvalue halong
      cases r <;> cases r'
      · exact .inl ⟨rfl, rfl⟩
      · cases hvalue
      · cases hvalue
      · exact .inr ⟨e₁, e₁', rfl, rfl, halong.twins⟩

theorem openSession_twins (hρ : Function.Injective ρ) (hstory : t.story = s.story)
    (hsettings : t.settings = s.settings) (hclock : t.ambient.clock = s.ambient.clock)
    (hs : s.sessions.get? (sessionId s.ambient.issue) = none)
    (ht : t.sessions.get? (sessionId t.ambient.issue) = none) (autosaves : Option Bool) :
    Matches ρ ((s.openSession autosaves).2.sessions.get? (sessionId s.ambient.issue))
      ((t.openSession autosaves).2.sessions.get? (sessionId t.ambient.issue)) := by
  have hissue : t.ambient.issue.clock = s.ambient.issue.clock := hclock
  rcases newEngine_twins hρ hstory hsettings hissue autosaves with
    ⟨hnone, hnone'⟩ | ⟨e, e', he, he', h⟩
  · rw [openSession_none hnone, openSession_none hnone']
    exact .inl ⟨hs, ht⟩
  · obtain ⟨ev, hlearnt, hlearnt'⟩ :=
      present_twins h (sessionId s.ambient.issue) (sessionId t.ambient.issue) 201
    rw [openSession_new he, openSession_new he', hlearnt, hlearnt']
    exact .inr ⟨_, _, Entries.get?_put_self _ _ _, Entries.get?_put_self _ _ _, h.learnt ev⟩

theorem askSession_twins (hρ : Function.Injective ρ)
    (h : Matches ρ (s.sessions.get? id) (t.sessions.get? own))
    (hclock : t.ambient.clock = s.ambient.clock) {ask : SessionAsk} (hask : ask.storeless)
    (hids : InStep ρ s.ambient.issued t.ambient.issued
      ((s.askSession id ask).2.ambient.issued - s.ambient.issued)) :
    Matches ρ ((s.askSession id ask).2.sessions.get? id)
        ((t.askSession own (ask.renamed ρ)).2.sessions.get? own) ∧
      (t.askSession own (ask.renamed ρ)).2.ambient =
        t.ambient.along s.ambient (s.askSession id ask).2.ambient := by
  rcases h with ⟨hs, ht⟩ | ⟨e, e', hs, ht, h⟩
  · have hstays := (Ambient.along_self hclock).symm
    rw [askSession, askSession, hs, ht]
    exact ⟨.inl ⟨hs, ht⟩, hstays⟩
  · have hlent : Twins ρ (s.lend e) (t.lend e') := { h with clock := hclock }
    have hrun := run_twins hlent hρ id own hask
    have htaken : InStep ρ s.ambient.issued t.ambient.issued
        ((ask.run id (s.lend e)).2.ambient.issued - s.ambient.issued) →
          Matches ρ ((s.takeBack id (ask.run id (s.lend e)).2).sessions.get? id)
            ((t.takeBack own ((ask.renamed ρ).run own (t.lend e')).2).sessions.get? own) ∧
          ((ask.renamed ρ).run own (t.lend e')).2.ambient =
            t.ambient.along s.ambient (ask.run id (s.lend e)).2.ambient :=
      fun hids => ⟨.inr ⟨_, _, Entries.get?_put_self _ _ _, Entries.get?_put_self _ _ _,
        (hrun hids).twins⟩, (hrun hids).ambient⟩
    rw [askSession_open hs] at hids ⊢
    rw [askSession_open ht]
    cases ask with
    | close =>
      exact ⟨.inl ⟨Entries.get?_erase_self _ _, Entries.get?_erase_self _ _⟩,
        (Ambient.along_self hclock).symm⟩
    | _ => exact htaken hids

theorem turns_cons (id : String) (x : Arrival) (xs : List Arrival) :
    turns id (x :: xs) = (turnOf? id x).toList ++ turns id xs := by
  rw [turns, List.filterMap_cons, turns]
  cases turnOf? id x <;> rfl

/-- A session that has a twin at first has one at any time. -/
theorem receiveAll_twins (hρ : Function.Injective ρ) {a : Ambient} {xs : List Arrival}
    (h : Matches ρ (s.sessions.get? (sessionId a)) (t.sessions.get? own))
    (ha : a.issued ≤ s.ambient.issued) (hlast : (s.receiveAll xs).ambient.Unrepeated)
    (hask : ∀ turn ∈ turns (sessionId a) xs, turn.ask.storeless)
    (hids : ∀ p ∈ drawn (sessionId a) s t.ambient.issued xs,
      ρ (checkpointId p.1) = checkpointId p.2) :
    Matches ρ ((s.receiveAll xs).sessions.get? (sessionId a))
      ((t.alone ρ own (turns (sessionId a) xs)).sessions.get? own) := by
  induction xs generalizing s t with
  | nil => exact h
  | cons x rest ih =>
    have hissued := receive_issued s x
    rw [receiveAll_cons] at hlast ⊢
    have hsoon : (s.receive x).ambient.Unrepeated := hlast.earlier (receiveAll_issued _ rest)
    rw [drawn] at hids
    rw [turns_cons] at hask ⊢
    cases hturn : turnOf? (sessionId a) x with
    | none =>
      -- Somebody else is asked: the session stays where it is, and alone it does not notice.
      rw [hturn] at hids hask
      have hsame : (s.receive x).sessions.get? (sessionId a) = s.sessions.get? (sessionId a) :=
        receive_others ha hsoon hturn
      rw [← hsame] at h
      exact ih h (Nat.le_trans ha hissued) hlast hask hids
    | some turn =>
      rw [hturn] at hids hask
      obtain ⟨hstoreless, hask⟩ := List.forall_mem_cons.mp hask
      have hreceived := receive_turn hturn s
      have hstretch : InStep ρ s.ambient.issued t.ambient.issued
          ((s.receive x).ambient.issued - s.ambient.issued) :=
        inStep_of_stretch fun p hp => hids p (List.mem_append_left _ hp)
      rw [hreceived] at hstretch
      obtain ⟨hmatches, hambient⟩ := askSession_twins (s := s.atTime turn.clock)
        (t := t.atTime turn.clock) hρ h rfl hstoreless hstretch
      rw [← hreceived] at hmatches hambient
      -- Alone the session is given as many ids, so the rest of the numbers is drawn for the rest.
      have hnext : (take ρ own t turn).ambient.issued =
          t.ambient.issued + ((s.receive x).ambient.issued - s.ambient.issued) :=
        congrArg Ambient.issued hambient
      have hlater : ∀ p ∈ drawn (sessionId a) (s.receive x) (take ρ own t turn).ambient.issued rest,
          ρ (checkpointId p.1) = checkpointId p.2 := by
        intro p hp
        rw [hnext] at hp
        exact hids p (List.mem_append_right _ hp)
      exact ih hmatches (Nat.le_trans ha hissued) hlast hask hlater

/-- A session that is not opened yet is not there. -/
theorem Named.unopened (h : s.Named) (hnext : s.ambient.issue.Unrepeated) :
    s.sessions.get? (sessionId s.ambient.issue) = none := by
  cases he : s.sessions.get? (sessionId s.ambient.issue) with
  | none => rfl
  | some e =>
    obtain ⟨a, ha, hle⟩ := h _ (Entries.mem_of_get? he)
    have hnumbers := sessionId_inj hnext (Nat.le_refl _) (Nat.le_succ_of_le hle) ha
    exact absurd hle (by rw [← hnumbers]; exact Nat.not_succ_le_self _)

theorem receive_opening {x : Arrival} {autosaves : Option Bool}
    (h : Ask.ofRequest x.request = .ok (.openSession autosaves)) (s : Service) :
    s.receive x = ((s.atTime x.clock).openSession autosaves).2 := by
  rw [receive, handle, h]
  rfl

theorem turns_append (id : String) (xs ys : List Arrival) :
    turns id (xs ++ ys) = turns id xs ++ turns id ys := List.filterMap_append

/-- From its opening on a session goes through the same states among others and alone. -/
theorem opened_twins {opening : Arrival} {autosaves : Option Bool} {after : List Arrival}
    (hopening : Ask.ofRequest opening.request = .ok (.openSession autosaves))
    (hstory : t.story = s.story) (hsettings : t.settings = s.settings) (hnamed : s.Named)
    (hempty : t.sessions = []) (hissued : t.ambient.issued ≤ s.ambient.issued)
    (hask : ∀ turn ∈ turns (sessionId s.ambient.issue) after, turn.ask.storeless)
    (hlast : ((s.receive opening).receiveAll after).ambient.Unrepeated) :
    ∃ ρ : Equiv.Perm String, (∀ x, (∀ n, x ≠ checkpointId n) → ρ x = x) ∧
      ∀ seen, seen <+: after → Matches ρ
        (((s.receive opening).receiveAll seen).sessions.get? (sessionId s.ambient.issue))
        (((t.receive opening).alone ρ (sessionId t.ambient.issue)
          (turns (sessionId s.ambient.issue) seen)).sessions.get? (sessionId t.ambient.issue)) := by
  let s₁ := s.atTime opening.clock
  let t₁ := t.atTime opening.clock
  rw [receive_opening hopening] at hlast
  rw [receive_opening hopening, receive_opening hopening]
  have hambient := openSession_ambient s₁ autosaves
  have hle : (t₁.openSession autosaves).2.ambient.issued ≤
      (s₁.openSession autosaves).2.ambient.issued := by
    rw [hambient, openSession_ambient]
    exact Nat.succ_le_succ hissued
  have hnext : s₁.ambient.issue.Unrepeated := by
    rw [← hambient]
    exact hlast.earlier (receiveAll_issued _ after)
  have hnamed₁ : s₁.Named := hnamed.later (Nat.le_refl _) (List.Subset.refl _)
  have hunopened : t₁.sessions.get? (sessionId t₁.ambient.issue) = none := by
    have hsessions : t₁.sessions = [] := hempty
    rw [hsessions]
    rfl
  obtain ⟨ρ, hothers, hids⟩ := drawn_renaming (sessionId s₁.ambient.issue) hle hlast
  have hfirst := openSession_twins ρ.injective (s := s₁) (t := t₁) hstory hsettings rfl
    (hnamed₁.unopened hnext) hunopened autosaves
  refine ⟨ρ, hothers, ?_⟩
  rintro seen ⟨rest, rfl⟩
  rw [receiveAll_append] at hlast
  have hsoon := hlast.earlier (receiveAll_issued _ rest)
  rw [turns_append] at hask
  have hasked : ∀ turn ∈ turns (sessionId s₁.ambient.issue) seen, turn.ask.storeless :=
    fun turn hturn => hask turn (List.mem_append_left _ hturn)
  have hopen : s₁.ambient.issue.issued ≤ (s₁.openSession autosaves).2.ambient.issued := by
    rw [hambient]
  exact receiveAll_twins ρ.injective hfirst hopen hsoon hasked
    fun p hp => hids p (drawn_append rest hp)

/-- A request for one session leaves all others as they are, and neither its reply nor what becomes
of the session depends on them. However the requests of many come, each session goes through the
same states as when it is opened and asked alone at the same times, under other ids, as long as ids
do not repeat; only what is stored under names is shared. -/
theorem sessions_apart :
    (∀ (s : Service) (r : Request) (id : String), r.concerns id →
      (∀ other, other ≠ id → (s.handle r).2.sessions.get? other = s.sessions.get? other) ∧
      ∀ s' : Service, s'.sessions.get? id = s.sessions.get? id → s'.ambient = s.ambient →
        s'.storage = s.storage → (s'.handle r).1 = (s.handle r).1 ∧
          (s'.handle r).2.sessions.get? id = (s.handle r).2.sessions.get? id ∧
          (s'.handle r).2.ambient = (s.handle r).2.ambient ∧
          (s'.handle r).2.storage = (s.handle r).2.storage) ∧
    ∀ (s : Service) (before after : List Arrival) (opening : Arrival) (autosaves : Option Bool),
      s.sessions = [] → Ask.ofRequest opening.request = .ok (.openSession autosaves) →
      let id := sessionId (s.receiveAll before).ambient.issue
      let own := sessionId s.ambient.issue
      (∀ turn ∈ turns id after, turn.ask.storeless) →
      (s.receiveAll (before ++ opening :: after)).ambient.Unrepeated →
      ∃ ρ : Equiv.Perm String, (∀ x, (∀ n, x ≠ checkpointId n) → ρ x = x) ∧
        ∀ seen, seen <+: after →
          (((s.receive opening).alone ρ own (turns id seen)).sessions.get? own).map
              (fun e => (e.state, e.events)) =
            ((s.receiveAll (before ++ opening :: seen)).sessions.get? id).map
              (fun e => (e.state, e.events)) := by
  constructor
  · intro s r id hr
    exact ⟨fun other h => handle_others hr s h, fun s' h ha hs => handle_alike hr h ha hs⟩
  · intro s before after opening autosaves hempty hopening id own hask hlast
    have hnone : s.Named := by
      intro entry hentry
      rw [hempty] at hentry
      cases hentry
    obtain ⟨hstory, hsettings⟩ := receiveAll_stays s before
    rw [receiveAll_append, receiveAll_cons] at hlast
    obtain ⟨ρ, hothers, htwins⟩ := opened_twins hopening hstory.symm hsettings.symm
      (receiveAll_named hnone before) hempty (receiveAll_issued s before) hask hlast
    refine ⟨ρ, hothers, fun seen hseen => ?_⟩
    rw [receiveAll_append, receiveAll_cons]
    exact (htwins seen hseen).same

def openGate : Service := ⟨gateWith [openWay], {}, .memory [], ⟨0, 0⟩, []⟩

def coming : Arrival := ⟨1000, ⟨"POST", "/api/sessions", ""⟩⟩

def keeping (id : String) : Arrival :=
  ⟨2000, ⟨"POST", "/api/sessions/" ++ id ++ "/checkpoints", "\x7b\x7d"⟩⟩

def firstReader : String := sessionId openGate.ambient.issue

def secondReader : String := sessionId (openGate.receiveAll [coming]).ambient.issue

def bothKeep : List Arrival := [keeping firstReader, keeping secondReader]

/-- The second session is at the node where it would be as the only one, up to the ids that are
given out. Closing it leaves the first session as it is. -/
theorem sessions_apart_gate :
    (∃ ρ : Equiv.Perm String, (((openGate.receive coming).alone ρ firstReader
        (turns secondReader bothKeep)).sessions.get? firstReader).map (·.state.node) =
          some "gate") ∧
      let s := openGate.receiveAll ([coming] ++ coming :: bothKeep)
      (s.handle ⟨"DELETE", "/api/sessions/" ++ secondReader, ""⟩).2.sessions.get? firstReader =
        s.sessions.get? firstReader := by
  obtain ⟨hone, hmany⟩ := sessions_apart
  constructor
  · have hcoming : Ask.ofRequest coming.request = .ok (.openSession none) := by
      have hoffers : offersAt "/api/sessions" = offers ["api", "sessions"] :=
        offersAt_of_steps (by decide +kernel) (List.cons_ne_nil _ _)
      simp only [coming, Ask.ofRequest, hoffers]
      rfl
    obtain ⟨ρ, _, hsame⟩ := hmany openGate [coming] bothKeep coming none rfl hcoming
      (by decide +kernel) (Ambient.unrepeated_of_lt (by decide +kernel))
    have hthere : ((openGate.receiveAll ([coming] ++ coming :: bothKeep)).sessions.get?
        secondReader).map (·.state.node) = some "gate" := by decide +kernel
    have hnodes := congrArg (Option.map fun p => p.1.node) (hsame bothKeep List.prefix_rfl)
    simp only [Option.map_map] at hnodes
    exact ⟨ρ, hnodes.trans hthere⟩
  · exact (hone _ _ secondReader (by decide +kernel)).1 firstReader (by decide +kernel)

end Service
end Storyline
