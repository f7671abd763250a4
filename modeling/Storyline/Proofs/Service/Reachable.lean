import Storyline.Proofs.Sight
import Storyline.Proofs.Service.Session
import Storyline.Proofs.Template

namespace Storyline

theorem Autosave.Config.make_pattern {w : Wishes} {c : Config} (h : make w = .ok c) :
    c.pattern = w.pattern := by
  unfold make at h
  dsimp only at h
  split at h
  · cases h
  · split at h
    · split at h <;> cases h
      rfl
    · cases h

/-- What an engine starts with that is told how to do anything but to save automatically. -/
theorem Engine.make_furnished {story : Story} {ambient : Ambient} {setup : Setup} {e : Engine}
    (h : make story ambient setup = .ok e) (hautosave : setup.autosave = none) :
    e.story = story ∧ e.rules = setup.rules ∧ e.evaluator.custom = none ∧
      e.autosave.config.pattern = ({} : Autosave.Wishes).pattern ∧ e.ambient = ambient := by
  obtain ⟨state, _, h⟩ := bind_eq_ok.mp h
  obtain ⟨ev, hev, h⟩ := bind_eq_ok.mp h
  obtain ⟨shelf, _, h⟩ := bind_eq_ok.mp h
  obtain ⟨tc, _, h⟩ := bind_eq_ok.mp h
  obtain ⟨ac, hac, h⟩ := bind_eq_ok.mp h
  cases h
  have hcustom : ev.custom = none := by
    have hmade := mapError_eq_ok.mp hev
    unfold Condition.Evaluator.make at hmade
    split at hmade <;> cases hmade
    rfl
  have hpattern : ac.pattern = ({} : Autosave.Wishes).pattern := by
    rw [autosaveConfig, hautosave] at hac
    exact (Autosave.Config.make_pattern (mapError_eq_ok.mp hac)).trans rfl
  exact ⟨rfl, rfl, hcustom, hpattern, rfl⟩

namespace Service
open Engine

/-- The services that come about: one is started with a story, and anything is requested of it.
Meanwhile time passes, and others write to the store. -/
inductive Reachable : Service → Prop
  | started {source : StorySource} {settings : Settings} {storage : Storage} {ambient : Ambient}
    {s : Service} : start source settings storage ambient = .ok s → s.story.Made → Reachable s
  | asked {s : Service} (r : Request) : Reachable s → Reachable (s.handle r).2
  | waited {s : Service} (clock : Int) (storage : Storage) : Reachable s →
    Reachable { s with ambient := { s.ambient with clock }, storage }

structure Furnished (s : Service) (e : Engine) : Prop where
  reachable : e.Reachable
  story : e.story = s.story
  rules : e.rules = .standard
  custom : e.evaluator.custom = none
  pattern : Template.usesOnly Autosave.placeholders e.autosave.config.pattern = true
  issued : e.ambient.issued ≤ s.ambient.issued

def Orderly (s : Service) : Prop := ∀ entry ∈ s.sessions, s.Furnished entry.2

def Named (s : Service) : Prop :=
  ∀ entry ∈ s.sessions, ∃ a : Ambient, entry.1 = sessionId a ∧ a.issued ≤ s.ambient.issued

variable {s s' : Service} {e e' : Engine} {id : String}

/-- What comes later does not change how an engine is furnished. -/
theorem Furnished.later (h : s.Furnished e) (hstory : s'.story = s.story)
    (hissued : s.ambient.issued ≤ s'.ambient.issued) : s'.Furnished e :=
  { h with story := h.story.trans hstory.symm, issued := Nat.le_trans h.issued hissued }

theorem Furnished.lent (h : s.Furnished e) : s.Furnished (s.lend e) := by
  have hids : e.ambient.issued + (s.ambient.issued - e.ambient.issued) = s.ambient.issued := by
    have hle := h.issued
    omega
  have hwaited := h.reachable.next (.wait s.ambient.clock (s.ambient.issued - e.ambient.issued))
  have hlent := hwaited.next (.replaceStore (some s.storage))
  rw [attempt, attempt, hids] at hlent
  exact { h with reachable := hlent, issued := Nat.le_refl _ }

theorem Furnished.served (h : s.Furnished e) (hs : Serves e e')
    (hissued : e'.ambient.issued ≤ s'.ambient.issued) (hstory : s'.story = s.story) :
    s'.Furnished e' where
  reachable := hs.reachable h.reachable
  story := hs.steady.story.trans (h.story.trans hstory.symm)
  rules := hs.steady.rules.trans h.rules
  custom := hs.steady.custom.trans h.custom
  pattern := by
    rw [hs.steady.config]
    exact h.pattern
  issued := hissued

/-- A session is added or changed among others. -/
theorem Orderly.put (h : s.Orderly) (he : s'.Furnished e) (hstory : s'.story = s.story)
    (hissued : s.ambient.issued ≤ s'.ambient.issued)
    (hsessions : s'.sessions = s.sessions.put id e) : s'.Orderly := by
  intro entry hentry
  rw [hsessions] at hentry
  rcases Entries.mem_put hentry with hold | rfl
  · exact (h entry hold).later hstory hissued
  · exact he

theorem Named.later (h : s.Named) (hissued : s.ambient.issued ≤ s'.ambient.issued)
    (hsessions : s'.sessions ⊆ s.sessions) : s'.Named := by
  intro entry hentry
  obtain ⟨a, ha, hle⟩ := h entry (hsessions hentry)
  exact ⟨a, ha, Nat.le_trans hle hissued⟩

theorem Named.put (h : s.Named) (hissued : s.ambient.issued ≤ s'.ambient.issued)
    (hid : ∃ a : Ambient, id = sessionId a ∧ a.issued ≤ s'.ambient.issued)
    (hsessions : s'.sessions = s.sessions.put id e) : s'.Named := by
  intro entry hentry
  rw [hsessions] at hentry
  rcases Entries.mem_put hentry with hold | rfl
  · obtain ⟨a, ha, hle⟩ := h entry hold
    exact ⟨a, ha, Nat.le_trans hle hissued⟩
  · exact hid

/-- What a session is asked, its engine does with what the service lends it. -/
theorem askSession_open (he : s.sessions.get? id = some e) (ask : SessionAsk) :
    s.askSession id ask = ((ask.run id (s.lend e)).1, match ask with
      | .close => { s with sessions := s.sessions.erase id }
      | ask => s.takeBack id (ask.run id (s.lend e)).2) := by
  unfold askSession
  rw [he]
  cases ask <;> rfl

/-- A new engine is made with what the service has, and then told whether to save automatically. -/
theorem newEngine_cases {a : Ambient} {autosaves : Option Bool}
    (he : s.newEngine a autosaves = some e) : ∃ e₀,
      Engine.make s.story a { settings := s.settings, storage := some s.storage } = .ok e₀ ∧
        (e = e₀ ∨ ∃ enabled c,
          Autosave.Config.make (e₀.autosave.config.wishes.changed [("enabled", .bool enabled)]) =
            .ok c ∧ e = { e₀ with
              autosave := (e₀.autosave.configure c e₀.shelf).1
              shelf := (e₀.autosave.configure c e₀.shelf).2 }) := by
  obtain ⟨e₀, hmake, he⟩ := Option.bind_eq_some_iff.mp he
  replace hmake : Engine.make s.story a { settings := s.settings, storage := some s.storage } =
      .ok e₀ := by
    unfold Except.toOption at hmake
    split at hmake <;> cases hmake
    assumption
  refine ⟨e₀, hmake, ?_⟩
  cases autosaves with
  | none =>
    cases he
    exact .inl rfl
  | some enabled =>
    dsimp only at he
    rw [configureAutosave] at he
    cases hc : Autosave.Config.make
        (e₀.autosave.config.wishes.changed [("enabled", .bool enabled)]) with
    | error f =>
      rw [hc] at he
      cases he
    | ok c =>
      rw [hc] at he
      cases he
      exact .inr ⟨_, c, hc, rfl⟩

theorem newEngine_furnished {a : Ambient} {autosaves : Option Bool} (hstory : s.story.Made)
    (he : s.newEngine a autosaves = some e) : ({ s with ambient := a } : Service).Furnished e := by
  obtain ⟨e₀, hmake, hcases⟩ := newEngine_cases he
  obtain ⟨hsame, hrules, hcustom, hpattern, hambient⟩ := make_furnished hmake rfl
  have hmade : ({ s with ambient := a } : Service).Furnished e₀ :=
    ⟨.made hstory hmake, hsame, hrules, hcustom, by rw [hpattern]; rfl, by rw [hambient]⟩
  rcases hcases with rfl | ⟨enabled, c, hc, rfl⟩
  · exact hmade
  · have hswitched := hmade.reachable.next (.configureAutosave [("enabled", .bool enabled)])
    rw [attempt, returned, configureAutosave, hc] at hswitched
    have hkept : c.pattern = e₀.autosave.config.pattern := Autosave.Config.make_pattern hc
    refine { hmade with reachable := hswitched, pattern := ?_ }
    show Template.usesOnly Autosave.placeholders c.pattern = true
    rw [hkept]
    exact hmade.pattern

theorem newEngine_ambient {a : Ambient} {autosaves : Option Bool}
    (he : s.newEngine a autosaves = some e) : e.ambient = a := by
  obtain ⟨e₀, hmake, hcases⟩ := newEngine_cases he
  have hambient := (make_furnished hmake rfl).2.2.2.2
  rcases hcases with rfl | ⟨enabled, c, hc, rfl⟩
  · exact hambient
  · exact hambient

/-- A new session is put among the others. -/
theorem openSession_new {autosaves : Option Bool}
    (he : s.newEngine s.ambient.issue autosaves = some e) :
    (s.openSession autosaves).2 = { s with
      ambient := (present (sessionId s.ambient.issue) 201 e).2.ambient
      sessions := s.sessions.put (sessionId s.ambient.issue)
        (present (sessionId s.ambient.issue) 201 e).2 } := by
  rw [openSession, he]

theorem openSession_none {autosaves : Option Bool}
    (he : s.newEngine s.ambient.issue autosaves = none) :
    (s.openSession autosaves).2 = { s with ambient := s.ambient.issue } := by
  rw [openSession, he]

theorem new_issued {autosaves : Option Bool} (he : s.newEngine s.ambient.issue autosaves = some e)
    (id : String) : s.ambient.issue.issued ≤ (present id 201 e).2.ambient.issued := by
  have hlater := (present_serves (.refl e) id 201).steady.issued
  rwa [newEngine_ambient he] at hlater

theorem openSession_orderly (h : s.Orderly) (hstory : s.story.Made) (autosaves : Option Bool) :
    (s.openSession autosaves).2.Orderly := by
  have hissued : s.ambient.issued ≤ s.ambient.issue.issued := Nat.le_succ _
  cases he : s.newEngine s.ambient.issue autosaves with
  | none =>
    rw [openSession_none he]
    exact fun entry hentry => (h entry hentry).later rfl hissued
  | some e =>
    rw [openSession_new he]
    have hserves := present_serves (.refl e) (sessionId s.ambient.issue) 201
    exact h.put ((newEngine_furnished hstory he).served hserves (Nat.le_refl _) rfl) rfl
      (Nat.le_trans hissued (new_issued he _)) rfl

theorem openSession_named (h : s.Named) (autosaves : Option Bool) :
    (s.openSession autosaves).2.Named := by
  have hissued : s.ambient.issued ≤ s.ambient.issue.issued := Nat.le_succ _
  cases he : s.newEngine s.ambient.issue autosaves with
  | none =>
    rw [openSession_none he]
    exact h.later hissued (List.Subset.refl _)
  | some e =>
    rw [openSession_new he]
    exact h.put (Nat.le_trans hissued (new_issued he _)) ⟨_, rfl, new_issued he _⟩ rfl

theorem askSession_orderly (h : s.Orderly) (id : String) (ask : SessionAsk) :
    (s.askSession id ask).2.Orderly := by
  cases he : s.sessions.get? id with
  | none =>
    rw [askSession, he]
    exact h
  | some e =>
    rw [askSession_open he]
    have hfurnished := h (id, e) (Entries.mem_of_get? he)
    have hserves := run_serves id (s.lend e) ask
    have htaken : (s.takeBack id (ask.run id (s.lend e)).2).Orderly :=
      h.put (hfurnished.lent.served hserves (Nat.le_refl _) rfl) rfl hserves.steady.issued rfl
    cases ask with
    | close =>
      exact fun entry hentry =>
        (h entry (List.mem_of_mem_filter hentry)).later rfl (Nat.le_refl _)
    | _ => exact htaken

theorem askSession_named (h : s.Named) (id : String) (ask : SessionAsk) :
    (s.askSession id ask).2.Named := by
  cases he : s.sessions.get? id with
  | none =>
    rw [askSession, he]
    exact h
  | some e =>
    rw [askSession_open he]
    obtain ⟨a, ha, hle⟩ := h (id, e) (Entries.mem_of_get? he)
    have hissued := (run_serves id (s.lend e) ask).steady.issued
    have htaken : (s.takeBack id (ask.run id (s.lend e)).2).Named :=
      h.put hissued ⟨a, ha, Nat.le_trans hle hissued⟩ rfl
    cases ask with
    | close => exact h.later (Nat.le_refl _) List.filter_sublist.subset
    | _ => exact htaken

/-- What is kept where a session is opened, and where one is asked, every request keeps. -/
theorem handle_keeps {I : Service → Prop} (h : I s)
    (opens : ∀ autosaves, I (s.openSession autosaves).2)
    (asks : ∀ id ask, I (s.askSession id ask).2) (r : Request) : I (s.handle r).2 := by
  unfold handle
  split
  · exact h
  · rename_i ask _
    cases ask with
    | openSession autosaves => exact opens autosaves
    | listSessions => exact h
    | of session ask => exact asks session ask

/-- The story and the settings of a service stay. -/
theorem handle_stays (s : Service) (r : Request) :
    (s.handle r).2.story = s.story ∧ (s.handle r).2.settings = s.settings := by
  refine handle_keeps (I := fun s' => s'.story = s.story ∧ s'.settings = s.settings) ⟨rfl, rfl⟩
    (fun autosaves => ?_) (fun id ask => ?_) r
  · unfold openSession
    dsimp only
    split <;> exact ⟨rfl, rfl⟩
  · unfold askSession
    split
    · exact ⟨rfl, rfl⟩
    · cases ask <;> exact ⟨rfl, rfl⟩

theorem handle_story (s : Service) (r : Request) : (s.handle r).2.story = s.story :=
  (handle_stays s r).1

theorem handle_orderly (h : s.Orderly) (hstory : s.story.Made) (r : Request) :
    (s.handle r).2.Orderly :=
  handle_keeps h (openSession_orderly h hstory) (askSession_orderly h) r

theorem handle_named (h : s.Named) (r : Request) : (s.handle r).2.Named :=
  handle_keeps h (openSession_named h) (askSession_named h) r

theorem Reachable.orderly (h : s.Reachable) : s.story.Made ∧ s.Orderly ∧ s.Named := by
  induction h with
  | started hstart hstory =>
    obtain ⟨story, _, hstart⟩ := bind_eq_ok.mp hstart
    obtain ⟨_, _, hstart⟩ := bind_eq_ok.mp hstart
    cases hstart
    exact ⟨hstory, List.forall_mem_nil _, List.forall_mem_nil _⟩
  | @asked s r _ ih =>
    obtain ⟨hstory, horderly, hnamed⟩ := ih
    exact ⟨handle_story s r ▸ hstory, handle_orderly horderly hstory r, handle_named hnamed r⟩
  | waited clock storage _ ih =>
    obtain ⟨hstory, horderly, hnamed⟩ := ih
    exact ⟨hstory, fun entry hentry => (horderly entry hentry).later rfl (Nat.le_refl _), hnamed⟩

/-- Every session of a service that came about is furnished, and the service gave it its id. -/
theorem Reachable.furnished (h : s.Reachable) (he : s.sessions.get? id = some e) :
    s.Furnished e ∧ ∃ a : Ambient, id = sessionId a := by
  obtain ⟨_, horderly, hnamed⟩ := h.orderly
  obtain ⟨a, ha, _⟩ := hnamed (id, e) (Entries.mem_of_get? he)
  exact ⟨horderly (id, e) (Entries.mem_of_get? he), a, ha⟩

end Service
end Storyline
