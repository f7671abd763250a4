import Storyline.Proofs.Taking

namespace Storyline

namespace Autosave
variable {s : Autosave} {shelf : Shelf} {a : Ambient} {j : Job} {f : Template.Fault}

/-- An automatic save that fails with a fault has done nothing, and the fault is one that
escapes. -/
theorem save_eq_error (h : (s.save shelf a j).result = .error f) :
    s.save shelf a j = ⟨.error f, s, shelf, a⟩ ∧ escapes f = true := by
  unfold save at h ⊢
  split at h
  · cases h
  · split at h
    · split at h
      · cases h
        simp_all
      · cases h
    · split at h
      · cases h
      · split at h <;> cases h

theorem trigger_eq_error {r : Attempt} (h : s.trigger shelf a j = some r)
    (hr : r.result = .error f) : r = ⟨.error f, s, shelf, a⟩ ∧ escapes f = true := by
  unfold trigger at h
  split at h
  · cases h
  · split at h
    · cases h
      cases hr
    · cases h
      exact save_eq_error hr

end Autosave

def EngineFault.Early (f : EngineFault) : Prop := f ≠ .uncopyable ∧ ∀ g, f ≠ .template g

/-- A fault of looking at choices and judging them, which is the earliest of all. -/
inductive EngineFault.OfLooking : EngineFault → Prop
  | navigation (g : NavigationFault) : OfLooking (.navigation g)
  | number (g : NumberFault) : OfLooking (.number g)
  | rule (g : RuleFault) : OfLooking (.rule g)

theorem EngineFault.OfLooking.early {f : EngineFault} (h : f.OfLooking) : f.Early := by
  cases h <;> exact ⟨nofun, nofun⟩

namespace Engine
variable {e e' : Engine} {f : EngineFault} {α : Type}

/-- The engine without automatic saves. -/
def silent (e : Engine) : Engine :=
  { e with autosave := { e.autosave with config := { e.autosave.config with enabled := false } } }

@[simp] theorem silent_story : e.silent.story = e.story := rfl

@[simp] theorem silent_state : e.silent.state = e.state := rfl

@[simp] theorem silent_node : e.silent.node = e.node := rfl

@[simp] theorem silent_storage : e.silent.storage = e.storage := rfl

@[simp] theorem silent_finalVerdict (c : Choice) (offered : List Choice) (time : Option Number) :
    e.silent.finalVerdict c offered time = e.finalVerdict c offered time := rfl

@[simp] theorem silent_follow (c : Choice) (target : Node) :
    e.silent.follow c target = (e.follow c target).silent := rfl

/-- Nothing that happens sets off an automatic save there. -/
theorem silent_happened (trigger : Autosave.Trigger) (metadata : Entries Value) :
    e.silent.happened trigger metadata = (.ok (), e.silent) := by
  unfold happened
  split
  · rfl
  · simp [triggerAutosave, Autosave.trigger, Autosave.heeds, silent, andThen]

theorem silent_placed (e : Engine) (s : NarrativeState) (trigger : Autosave.Trigger)
    (metadata : Entries Value) : ({ e.silent with state := s } : Engine).happened trigger metadata =
      (.ok (), ({ e with state := s } : Engine).silent) :=
  silent_happened (e := { e with state := s }) trigger metadata

/-- What happens fails only with a template that escapes, and then nothing is changed by it. -/
theorem happened_eq_error {trigger : Autosave.Trigger} {metadata : Entries Value}
    (h : e.happened trigger metadata = (.error f, e')) :
    e' = e ∧ ∃ g, f = .template g ∧ Autosave.escapes g = true := by
  unfold happened triggerAutosave at h
  split at h
  · cases h
  · split at h
    · cases h
    · rename_i a ha
      cases hr : a.result with
      | ok r => simp [attempted, andThen, hr] at h
      | error g =>
        obtain ⟨rfl, hescapes⟩ := Autosave.trigger_eq_error ha hr
        cases h
        exact ⟨rfl, g, rfl, hescapes⟩

/-- State, trail, timeline and checkpoints are as they were. -/
structure Untouched (e e' : Engine) : Prop extends Alike e e' where
  shelf : e'.shelf = e.shelf

/-- The change is on the timeline, but was not made. -/
structure Halfway (e e' : Engine) : Prop where
  state : e'.state = e.state
  events : e'.events = e.events
  shelf : e'.shelf = e.shelf
  timeline : ∃ action metadata, e'.timeline = (e.track action metadata).2.timeline
  recorded : e.Tracking → e.Recorded e'

/-- The engine after a fault, by the kind of fault, where values fit on the stack and host values
compare. Beside it stands what comes of the same change without automatic saves. -/
inductive Aftermath (e : Engine) (quiet : Bool × Engine) : EngineFault → Engine → Prop
  | refused {fault : EngineFault} {after : Engine} : fault.Early →
    e.Untouched after → Aftermath e quiet fault after
  | halfway {after : Engine} : e.Halfway after → Aftermath e quiet .uncopyable after
  | unnamed {g : Template.Fault} : quiet.1 = true →
    Aftermath e quiet (.template g) { quiet.2 with autosave := e.autosave }

theorem Untouched.refl (e : Engine) : e.Untouched e := ⟨⟨rfl, rfl, rfl⟩, rfl⟩

/-- Learning conditions does not count as a change. -/
theorem Aftermath.of_learnt {evaluator : Condition.Evaluator} {quiet : Bool × Engine}
    (h : ({ e with evaluator } : Engine).Aftermath quiet f e') : e.Aftermath quiet f e' := by
  cases h with
  | refused hf hu => exact .refused hf ⟨⟨hu.state, hu.timeline, hu.events⟩, hu.shelf⟩
  | halfway hh =>
    exact .halfway ⟨hh.state, hh.events, hh.shelf, hh.timeline,
      fun ht => hh.recorded ⟨ht.enabled, ht.actions⟩⟩
  | unnamed hq => exact .unnamed hq

/-- Automatic saves have no part in what is recorded. -/
theorem silent_track {e₁ : Engine} {action : Action} {metadata : Entries Value}
    {r : Except EngineFault Unit} (h : e.track action metadata = (r, e₁)) :
    e.silent.track action metadata = (r, e₁.silent) := by
  have hs : e.silent.track action metadata =
      ((e.track action metadata).1, (e.track action metadata).2.silent) := rfl
  rw [hs, h]

theorem track_halfway {e₁ : Engine} {action : Action} {metadata : Entries Value} (h : e.Sound)
    (ha : action ∈ Action.trackable) (ht : e.track action metadata = (.ok (), e₁)) :
    e.Halfway e₁ := by
  have hrec : e.Tracking → e.Recorded e₁ := fun htr => track_recorded h htr ha ht
  obtain rfl : (e.track action metadata).2 = e₁ := congrArg Prod.snd ht
  exact ⟨rfl, rfl, rfl, ⟨action, metadata, rfl⟩, hrec⟩

/-- If an automatic save brings a change down, the change itself was made. -/
theorem happened_aftermath {e₁ : Engine} {trigger : Autosave.Trigger} {metadata : Entries Value}
    (ha : e₁.autosave = e.autosave) (hf : e₁.happened trigger metadata = (.error f, e')) :
    e.Aftermath (true, e₁.silent) f e' ∧ f ≠ .uncopyable := by
  obtain ⟨rfl, g, rfl, _⟩ := happened_eq_error hf
  have hback : e' = { e'.silent with autosave := e.autosave } := by
    rw [← ha]
    rfl
  rw [hback]
  exact ⟨.unnamed rfl, nofun⟩

theorem silent_take {e₁ : Engine} {c : Choice} {target : Node}
    (ht : e.track .choice (e.takeMetadata c) = (.ok (), e₁))
    (hc : Value.allFieldsCopyable c.effects = true) :
    e.silent.take c target = (.ok target, (e₁.follow c target).silent) := by
  have ht' : e.silent.track .choice (e.silent.takeMetadata c) = (.ok (), e₁.silent) :=
    silent_track ht
  unfold take
  dsimp only
  rw [ht']
  simp only [andThen_ok, hc, silent_follow, silent_happened, Bool.not_true, Bool.false_eq_true, if_false]

theorem Sound.tracks (h : e.Sound) (action : Action) {metadata : Entries Value}
    (hm : Value.allFieldsCopyable metadata = true) :
    ∃ e₁, e.track action metadata = (.ok (), e₁) ∧ e₁.autosave = e.autosave := by
  obtain ⟨t, a, ht, _⟩ := track_ok h action hm
  exact ⟨_, ht, rfl⟩

theorem take_aftermath {c : Choice} {target : Node} (h : e.Sound)
    (hf : e.take c target = (.error f, e')) :
    e.Aftermath (returned (e.silent.take c target)) f e' ∧
      (f = .uncopyable → Value.allFieldsCopyable c.effects = false) := by
  obtain ⟨e₁, ht, hauto⟩ := h.tracks .choice (e.takeMetadata_copyable c)
  rcases andThen_eq_error.mp hf with h₁ | ⟨_, e₁, h₁, hf⟩
  · cases ht.symm.trans h₁
  · cases ht.symm.trans h₁
    cases hc : Value.allFieldsCopyable c.effects with
    | false =>
      rw [hc] at hf
      cases hf
      exact ⟨.halfway (track_halfway h (by decide) ht), fun _ => rfl⟩
    | true =>
      rw [hc] at hf
      rcases andThen_eq_error.mp hf with hf | ⟨_, _, _, hf⟩
      · have hauto : (e₁.follow c target).autosave = e.autosave := hauto
        obtain ⟨ha, hne⟩ := happened_aftermath hauto hf
        rw [silent_take ht hc]
        exact ⟨ha, fun hu => absurd hu hne⟩
      · cases hf

/-- A choice that is taken fails too late for the fault to be an early one. -/
theorem take_late {c : Choice} {target : Node} (h : e.Sound)
    (hf : e.take c target = (.error f, e')) : ¬ f.Early := by
  obtain ⟨e₁, ht, _⟩ := h.tracks .choice (e.takeMetadata_copyable c)
  rcases andThen_eq_error.mp hf with h₁ | ⟨_, e₁, h₁, hf⟩
  · cases ht.symm.trans h₁
  · split at hf
    · cases hf
      exact fun hearly => hearly.1 rfl
    · rcases andThen_eq_error.mp hf with hf | ⟨_, _, _, hf⟩
      · obtain ⟨_, g, rfl, _⟩ := happened_eq_error hf
        exact fun hearly => hearly.2 g rfl
      · cases hf

theorem node_looking (h : e.node = .error f) : f.OfLooking := by
  unfold node at h
  split at h
  · cases h
  · cases h
    exact .navigation _

theorem ruleContext_looking {offered : List Choice} {time : Option Number}
    (h : e.ruleContext offered time = .error f) : f.OfLooking := by
  unfold ruleContext at h
  cases hn : e.node with
  | ok node =>
    rw [hn] at h
    cases h
  | error g =>
    rw [hn] at h
    cases h
    exact node_looking hn

theorem finalVerdict_looking {c : Choice} {offered : List Choice} {time : Option Number}
    (h : e.finalVerdict c offered time = .error f) : f.OfLooking := by
  rcases bind_eq_error.mp h with h | ⟨v, _, h⟩
  · rcases bind_eq_error.mp h with h | ⟨x, _, h⟩
    · exact ruleContext_looking h
    · obtain ⟨_, _, rfl⟩ := mapError_eq_error.mp h
      exact .rule _
  · dsimp only at h
    split at h <;> cases h

theorem visible_looking {customData : Entries Value} (h : e.visible customData = (.error f, e')) :
    f.OfLooking := by
  unfold visible at h
  split at h
  · rename_i hn
    cases h
    exact node_looking hn
  · obtain ⟨_, _, rfl⟩ := mapError_eq_error.mp (congrArg Prod.fst h)
    exact .number _

theorem available_looking {time : Option Number} {customData : Entries Value}
    (h : e.available time customData = (.error f, e')) : f.OfLooking := by
  rcases andThen_eq_error.mp h with h | ⟨seen, e₁, _, h⟩
  · exact visible_looking h
  · rcases bind_eq_error.mp (congrArg Prod.fst h) with h | ⟨x, _, h⟩
    · exact ruleContext_looking h
    · obtain ⟨_, _, rfl⟩ := mapError_eq_error.mp h
      exact .rule _

theorem badIndex_looking (index : Value) (count : Nat) :
    (e.badIndex index count).OfLooking := by
  unfold badIndex
  split
  · exact .navigation _
  · exact .number _

theorem commit_aftermath {c : Choice} {offered : List Choice} {time : Option Number} (h : e.Sound)
    (hf : e.commit c offered time = (.error f, e')) :
    e.Aftermath (returned (e.silent.commit c offered time)) f e' ∧
      (f = .uncopyable → Value.allFieldsCopyable c.effects = false) := by
  have hearly : ∀ {quiet}, f.Early → e' = e → e.Aftermath quiet f e' ∧
      (f = .uncopyable → Value.allFieldsCopyable c.effects = false) :=
    fun hf he => ⟨.refused hf (he ▸ .refl e'), fun hu => absurd hu hf.1⟩
  unfold commit at hf
  split at hf
  · rename_i hv
    cases hf
    exact hearly (finalVerdict_looking hv).early rfl
  · rename_i v hv
    split at hf
    · cases hf
      exact hearly ⟨nofun, nofun⟩ rfl
    · rename_i hvalid
      split at hf
      · cases hf
        exact hearly ⟨nofun, nofun⟩ rfl
      · rename_i target htarget
        have hv' : e.silent.finalVerdict c offered time = .ok v := hv
        have ht' : e.silent.story.find? c.target = some target := htarget
        have hquiet : e.silent.commit c offered time = e.silent.take c target := by
          simp only [commit, hv', ht', hvalid]
          rfl
        rw [hquiet]
        exact take_aftermath h hf

/-- Automatic saves have no part in what is seen. -/
theorem silent_visible {customData : Entries Value} {r : Except EngineFault (List Choice)}
    {e₁ : Engine} (h : e.visible customData = (r, e₁)) :
    e.silent.visible customData = (r, e₁.silent) := by
  unfold visible at h ⊢
  rw [silent_node]
  split at h <;> cases h <;> rfl

theorem silent_available {time : Option Number} {customData : Entries Value}
    {r : Except EngineFault (List Choice)} {e₁ : Engine}
    (h : e.available time customData = (r, e₁)) :
    e.silent.available time customData = (r, e₁.silent) := by
  unfold available at h ⊢
  rcases hv : e.visible customData with ⟨f | seen, e₂⟩
  · rw [hv] at h
    rw [silent_visible hv]
    cases h
    rfl
  · rw [hv] at h
    rw [silent_visible hv]
    cases h
    rfl

theorem Aftermath.of_early {evaluator : Condition.Evaluator} {quiet : Bool × Engine}
    (h : f.Early) : e.Aftermath quiet f { e with evaluator } :=
  .refused h ⟨⟨rfl, rfl, rfl⟩, rfl⟩

theorem select_aftermath {c : Choice} {time : Option Number} (h : e.Sound)
    (hf : e.select c time = (.error f, e')) :
    e.Aftermath (returned (e.silent.select c time)) f e' ∧
      (f = .uncopyable → Value.allFieldsCopyable c.effects = false) := by
  rcases andThen_eq_error.mp hf with ha | ⟨offered, e₁, ha, hf⟩
  · have hearly := (available_looking ha).early
    obtain ⟨ev, rfl⟩ := available_keeps ha
    exact ⟨.of_early hearly, fun hu => absurd hu hearly.1⟩
  · have hquiet : e.silent.select c time = e₁.silent.commit c offered time := by
      rw [select, silent_available ha]
      rfl
    obtain ⟨ev, rfl⟩ := available_keeps ha
    obtain ⟨hafter, hu⟩ := commit_aftermath (h.withEvaluator ev) hf
    rw [hquiet]
    exact ⟨hafter.of_learnt, hu⟩

theorem choose_aftermath {index : Value} {time : Option Number} (h : e.Sound)
    (hf : e.choose index time = (.error f, e')) :
    e.Aftermath (returned (e.silent.choose index time)) f e' ∧
      (f = .uncopyable → ∃ node, e.node = .ok node ∧
        ∃ c ∈ node.choices, Value.allFieldsCopyable c.effects = false) := by
  rcases andThen_eq_error.mp hf with hv | ⟨seen, e₁, hv, hf⟩
  · have hearly := (visible_looking hv).early
    obtain ⟨ev, hev⟩ := visible_keeps (e := e) []
    rw [hv] at hev
    cases hev
    exact ⟨.of_early hearly, fun hu => absurd hu hearly.1⟩
  · have hseen : (e.visible []).1 = .ok seen := by rw [hv]
    obtain ⟨node, ev, hn, hshown, hev⟩ := visible_eq_ok hseen
    rw [hv] at hev
    cases hev
    split at hf
    · cases hf
      have hearly := (badIndex_looking (e := { e with evaluator := ev }) index seen.length).early
      exact ⟨.of_early hearly, fun hu => absurd hu hearly.1⟩
    · rename_i c hc
      have hquiet : e.silent.choose index time =
          ({ e with evaluator := ev } : Engine).silent.select c time := by
        rw [choose, silent_visible hv]
        simp only [andThen, hc]
      obtain ⟨hafter, hu⟩ := select_aftermath (h.withEvaluator ev) hf
      have hmem : c ∈ seen := by
        unfold choiceAt? at hc
        split at hc
        · split at hc
          · cases hc
          · exact List.mem_of_getElem? hc
        · cases hc
      rw [hquiet]
      exact ⟨hafter.of_learnt, fun hun => ⟨node, hn, c, shown_subset hshown hmem, hu hun⟩⟩

theorem goTo_aftermath {id : String} {quiet : Bool × Engine} (h : e.Sound)
    (hf : e.goTo id = (.error f, e')) : e.Aftermath quiet f e' ∧ f ≠ .uncopyable := by
  unfold goTo at hf
  split at hf
  · cases hf
    exact ⟨.refused ⟨nofun, nofun⟩ (.refl e), nofun⟩
  · have hm : Value.allFieldsCopyable
        [("nodeId", .text e.state.node), ("targetNodeId", .text id)] = true := rfl
    obtain ⟨e₁, ht, _⟩ := h.tracks .navigation hm
    rcases andThen_eq_error.mp hf with h₁ | ⟨_, _, _, hf⟩
    · cases ht.symm.trans h₁
    · cases hf

theorem setFlag_aftermath {name value : Value} (h : e.Sound)
    (hf : e.setFlag name value = (.error f, e')) :
    e.Aftermath (returned (e.silent.setFlag name value)) f e' ∧
      (f = .uncopyable → value.copyable = false) := by
  unfold setFlag at hf ⊢
  split at hf
  · cases hf
    exact ⟨.refused ⟨nofun, nofun⟩ (.refl e), nofun⟩
  · rename_i name hname
    have hm : Value.allFieldsCopyable
        [("nodeId", .text e.state.node), ("flagsChanged", .texts [name])] = true := by
      simp [Value.allFieldsCopyable, Value.copyable, texts_copyable]
    obtain ⟨e₁, ht, hauto⟩ := h.tracks .flagChange hm
    rcases andThen_eq_error.mp hf with h₁ | ⟨_, e₁, h₁, hf⟩
    · cases ht.symm.trans h₁
    · cases ht.symm.trans h₁
      have hquiet : e.silent.track .flagChange
          [("nodeId", .text e.silent.state.node), ("flagsChanged", .texts [name])] =
            (.ok (), e₁.silent) := silent_track ht
      cases hc : value.copyable with
      | false =>
        rw [hc] at hf
        cases hf
        exact ⟨.halfway (track_halfway h (by decide) ht), fun _ => rfl⟩
      | true =>
        simp only [hc, if_true] at hf
        have hauto : ({ e₁ with state := e₁.state.withEffects [(name, value)] } :
          Engine).autosave = e.autosave := hauto
        obtain ⟨ha, hne⟩ := happened_aftermath hauto hf
        simp only [hquiet, andThen, if_true, silent_placed]
        exact ⟨ha, fun hu => absurd hu hne⟩

theorem replace_aftermath {s : NarrativeState} {tracked : Bool} (h : e.Sound)
    (hf : e.replace s tracked = (.error f, e')) :
    e.Aftermath (returned (e.silent.replace s tracked)) f e' ∧ f ≠ .uncopyable := by
  unfold replace at hf ⊢
  split at hf
  · cases hf
    exact ⟨.refused ⟨nofun, nofun⟩ (.refl e), nofun⟩
  · rename_i hk
    split at hf
    · cases hf
    · rename_i htracked
      have hm : Value.allFieldsCopyable [("nodeId", .text e.state.node)] = true := rfl
      obtain ⟨e₁, ht, hauto⟩ := h.tracks .stateLoad hm
      rcases andThen_eq_error.mp hf with h₁ | ⟨_, e₁, h₁, hf⟩
      · cases ht.symm.trans h₁
      · cases ht.symm.trans h₁
        have hquiet : e.silent.track .stateLoad [("nodeId", .text e.silent.state.node)] =
            (.ok (), e₁.silent) := silent_track ht
        have hauto : ({ e₁ with state := s } : Engine).autosave = e.autosave := hauto
        have hk' : ¬ (!e.silent.story.has s.node) = true := hk
        rw [if_neg hk', if_neg htracked, hquiet]
        simp only [andThen, silent_placed]
        exact happened_aftermath hauto hf

theorem loadState_aftermath {s : NarrativeState} {tracked : Bool} (h : e.Sound)
    (hf : e.loadState s tracked = (.error f, e')) :
    e.Aftermath (returned (e.silent.loadState s tracked)) f e' ∧ f ≠ .uncopyable := by
  unfold loadState at hf ⊢
  split at hf
  · cases hf
    exact ⟨.refused ⟨nofun, nofun⟩ (.refl e), nofun⟩
  · exact replace_aftermath h hf

theorem loadPayload_aftermath {payload : Value} {tracked : Bool} (h : e.Sound)
    (hf : e.loadPayload payload tracked = (.error f, e')) :
    e.Aftermath (returned (e.silent.loadPayload payload tracked)) f e' ∧ f ≠ .uncopyable := by
  unfold loadPayload at hf ⊢
  split at hf
  · cases hf
    exact ⟨.refused ⟨nofun, nofun⟩ (.refl e), nofun⟩
  · exact replace_aftermath h hf

def failure? (o : Outcome α) : Option EngineFault :=
  match o.1 with
  | .ok _ => none
  | .error f => some f

theorem failure?_eq_some {o : Outcome α} (h : failure? o = some f) : o = (.error f, o.2) := by
  obtain ⟨_ | _, e'⟩ := o <;> cases h
  rfl

/-- The fault that taking a choice, going to a node, setting a flag or putting a state in place ends
in. -/
def fault? (e : Engine) : Operation → Option EngineFault
  | .choose index time => failure? (e.choose index time)
  | .select c time => failure? (e.select c time)
  | .goTo id => failure? (e.goTo id)
  | .setFlag name value => failure? (e.setFlag name value)
  | .loadState s tracked => failure? (e.loadState s tracked)
  | .loadPayload payload tracked => failure? (e.loadPayload payload tracked)
  | _ => none

/-- A change would set a flag to a value that refuses to be copied. -/
def Uncopyable (e : Engine) : Operation → Prop
  | .choose _ _ => ∃ node, e.node = .ok node ∧
      ∃ c ∈ node.choices, Value.allFieldsCopyable c.effects = false
  | .select c _ => Value.allFieldsCopyable c.effects = false
  | .setFlag _ value => value.copyable = false
  | _ => False

/-- A change that ends in a fault leaves state, trail, timeline and checkpoints alone, with two
exceptions, as long as values fit on the stack and host values compare. If a flag refuses to be
copied, the change is on the timeline, without being made. If an automatic save cannot be named, the
change is made, just as if nothing were saved automatically. -/
theorem fault_aftermath (h : e.Reachable) {op : Operation} (hf : e.fault? op = some f) :
    e.Aftermath (e.silent.attempt op) f (e.attempt op).2 ∧ (f = .uncopyable → e.Uncopyable op) := by
  cases op with
  | choose index time => exact choose_aftermath h.sound (failure?_eq_some hf)
  | select c time => exact select_aftermath h.sound (failure?_eq_some hf)
  | goTo id =>
    obtain ⟨ha, hne⟩ := goTo_aftermath h.sound (failure?_eq_some hf)
    exact ⟨ha, fun hu => absurd hu hne⟩
  | setFlag name value => exact setFlag_aftermath h.sound (failure?_eq_some hf)
  | loadState s tracked =>
    obtain ⟨ha, hne⟩ := loadState_aftermath h.sound (failure?_eq_some hf)
    exact ⟨ha, fun hu => absurd hu hne⟩
  | loadPayload payload tracked =>
    obtain ⟨ha, hne⟩ := loadPayload_aftermath h.sound (failure?_eq_some hf)
    exact ⟨ha, fun hu => absurd hu hne⟩
  | _ => cases hf

def unlit : Engine := atGate.after [.setFlag (.text "lit") (.bool true), .travel .undo]

theorem unlit_reachable : unlit.Reachable := .next _ (.next _ atGate_reachable)

/-- Each flag sets off an automatic save, named for something that no node has. -/
def branded : Autosave.Config :=
  { Autosave.Config.off with
    enabled := true, triggers := [.flagChange], pattern := "\x7bnode_id.brass\x7d" }

/-- A fault of navigation leaves the engine untouched. A flag value that cannot be copied is
recorded but not set, which clears what could be redone. With an automatic save that cannot be
named, the flag is set. -/
theorem fault_aftermath_gate :
    let lamp := (unlit.attempt (.setFlag (.text "lamp") (.host false))).2
    unlit.Untouched (unlit.attempt (.goTo "attic")).2 ∧
      lamp.state = unlit.state ∧ unlit.timeline.sizes = ⟨0, 1⟩ ∧ lamp.timeline.sizes = ⟨1, 0⟩ ∧
      ((fresh .hallway ⟨0, 0⟩ branded).attempt (.setFlag (.text "lamp") (.bool true))).2.state =
        ⟨"gate", [("lamp", .bool true)], ["gate"]⟩ := by
  intro lamp
  have hlost : unlit.fault? (.goTo "attic") = some (.navigation (.unknownNode "attic")) := rfl
  have hlamp : unlit.fault? (.setFlag (.text "lamp") (.host false)) = some .uncopyable := rfl
  have hbrand : (fresh .hallway ⟨0, 0⟩ branded).fault? (.setFlag (.text "lamp") (.bool true)) =
    some (.template (.noAttribute "str" "brass")) := rfl
  obtain ⟨hlost, _⟩ := fault_aftermath unlit_reachable hlost
  obtain ⟨hlamp, _⟩ := fault_aftermath unlit_reachable hlamp
  obtain ⟨hbrand, _⟩ := fault_aftermath (fresh_reachable Story.hallway_made _ _) hbrand
  refine ⟨?_, ?_, rfl, rfl, ?_⟩
  · cases hlost with
    | refused _ hu => exact hu
  · cases hlamp with
    | refused hf _ => exact absurd rfl hf.1
    | halfway hh => exact hh.state
  · generalize ((fresh .hallway ⟨0, 0⟩ branded).attempt
      (.setFlag (.text "lamp") (.bool true))).2 = e' at hbrand
    cases hbrand with
    | refused hf _ => exact absurd rfl (hf.2 _)
    | unnamed _ => rfl

end Engine
end Storyline
