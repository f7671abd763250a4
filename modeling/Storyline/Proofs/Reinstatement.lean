import Storyline.Proofs.Identity
import Storyline.Proofs.Registry
import Storyline.Proofs.RoundTrip
import Storyline.Proofs.Undecided

namespace Storyline

def Rule.standardNames : List String := standard.map name

theorem Rule.eq_of_name {a b : Rule} (ha : a ∈ standard) (hb : b ∈ standard)
    (h : a.name = b.name) : a = b :=
  List.inj_on_of_nodup_map (by decide : (standard.map name).Nodup) ha hb h

theorem Rule.eq_of_priority {a b : Rule} (ha : a ∈ standard) (hb : b ∈ standard)
    (h : a.priority = b.priority) : a = b :=
  List.inj_on_of_nodup_map (by decide : (standard.map priority).Nodup) ha hb h

namespace Registry
variable {r : Registry} {log : List Change}

theorem has_eq_true {name : String} : r.has name = true ↔ ∃ rule ∈ r.rules, rule.name = name := by
  simp [has]

theorem has_removeAll (names : List String) (r : Registry) (name : String) :
    (names.foldl remove r).has name = (r.has name && !names.contains name) := by
  induction names generalizing r with
  | nil => simp
  | cons first rest ih =>
    have hremove : (r.remove first).has name = (r.has name && name != first) := by
      rw [Bool.eq_iff_iff]
      simp only [has_eq_true, remove, List.mem_filter, Bool.and_eq_true, bne_iff_ne]
      constructor
      · rintro ⟨rule, ⟨hin, hne⟩, rfl⟩
        exact ⟨⟨rule, hin, rfl⟩, hne⟩
      · rintro ⟨⟨rule, hin, rfl⟩, hne⟩
        exact ⟨rule, ⟨hin, hne⟩, rfl⟩
    rw [List.foldl_cons, ih, hremove, List.contains_cons, Bool.and_assoc]
    congr 1
    cases h : name == first <;> simp [bne, h]

/-- Rules in running order, where those under the name of a standard rule are that rule. -/
structure Genuine (r : Registry) : Prop where
  distinct : (r.rules.map Rule.name).Nodup
  rising : Rises r.rules
  standard : ∀ rule ∈ r.rules, rule.name ∈ Rule.standardNames → rule ∈ Rule.standard

/-- Whatever is added and removed, the rules are genuine if no other rule is added under the name of
a standard one. -/
theorem Follows.genuine (h : r.Follows log)
    (hlog : ∀ rule, .add rule ∈ log → rule.name ∈ Rule.standardNames → rule ∈ Rule.standard) :
    r.Genuine := by
  refine ⟨h.distinct, h.rising, fun rule hin hname => hlog rule ?_ hname⟩
  obtain ⟨before, later, hsplit, _⟩ := (h.exact rule).mp hin
  simp [hsplit]

theorem Genuine.remove (h : r.Genuine) (name : String) : (r.remove name).Genuine where
  distinct := h.distinct.sublist (List.filter_sublist.map _)
  rising := h.rising.filter _
  standard := fun rule hin => h.standard rule (List.mem_of_mem_filter hin)

theorem Genuine.removeAll (h : r.Genuine) (names : List String) :
    (names.foldl Registry.remove r).Genuine := by
  induction names generalizing r with
  | nil => exact h
  | cons first rest ih => exact ih (h.remove first)

def onlyStandard (r : Registry) : Registry :=
  ⟨r.rules.filter fun rule => Rule.standardNames.contains rule.name⟩

/-- Which rules there are settles their order. -/
theorem Genuine.onlyStandard_eq (h : r.Genuine) :
    r.onlyStandard.rules = Rule.standard.filter fun rule => r.has rule.name := by
  have hgenuine : ∀ rule ∈ r.onlyStandard.rules, rule ∈ Rule.standard := by
    intro rule hin
    obtain ⟨hin, hname⟩ := List.mem_filter.mp hin
    exact h.standard rule hin (List.contains_iff_mem.mp hname)
  have hmem : ∀ rule, rule ∈ r.onlyStandard.rules ↔
      rule ∈ Rule.standard.filter fun rule => r.has rule.name := by
    intro rule
    rw [List.mem_filter, has_eq_true]
    constructor
    · intro hin
      exact ⟨hgenuine rule hin, rule, (List.mem_filter.mp hin).1, rfl⟩
    · rintro ⟨hstandard, other, hin, hname⟩
      have hnamed : other.name ∈ Rule.standardNames := hname ▸ List.mem_map_of_mem hstandard
      obtain rfl := Rule.eq_of_name (h.standard other hin hnamed) hstandard hname
      exact List.mem_filter.mpr ⟨hin, List.contains_iff_mem.mpr hnamed⟩
  have hdistinct : r.onlyStandard.rules.Nodup := h.distinct.of_map.filter _
  have hstandard : (Rule.standard.filter fun rule => r.has rule.name).Nodup :=
    (List.Nodup.of_map Rule.name (by decide)).filter _
  have hrises : Rises Rule.standard := by
    unfold Rises
    decide
  refine ((List.perm_ext_iff_of_nodup hdistinct hstandard).mpr hmem).eq_of_pairwise ?_
    (h.rising.filter _) (hrises.filter _)
  intro a b ha hb hab hba
  exact Rule.eq_of_priority (hgenuine a ha) (List.mem_of_mem_filter hb) (Int.le_antisymm hab hba)

end Registry

def Choice.clear : Choice := ⟨"Enter", "hall", [], [], none, [], none, none⟩

/-- A context at the gate without flags, at time zero. -/
def RuleContext.atGate (offered : List Choice) : RuleContext :=
  ⟨⟨"gate", "A gate.", offered⟩, .start "gate", offered, .int 0⟩

namespace Rule

theorem forall_standard {P : Rule → Prop} : (∀ rule ∈ standard, P rule) ↔
    P choiceExists ∧ P flagConditions ∧ P choiceEnabled ∧ P timeConditions ∧
      P inventoryConditions := by
  simp [standard]

/-- A rule refuses something that all other standard rules let pass. -/
def SinglesOut (rule : Rule) (c : Choice) (x : RuleContext) : Prop :=
  (∃ v, rule.check c x = .ok v ∧ v.valid = false) ∧
    ∀ other ∈ standard, other.name ≠ rule.name → other.Passes c x

/-- None of the standard rules follows from the others. -/
theorem singled_out : ∀ rule ∈ standard, ∃ c x, rule.SinglesOut c x := by
  let unlit : Choice := { Choice.clear with requirements := [("lit", .bool true)] }
  let closed : Choice := { Choice.clear with enabled := some false }
  let later : Choice := { Choice.clear with window := some ⟨none, none, some (.int 1), none⟩ }
  let dear : Choice := { Choice.clear with inventory := [("gold", .int 1)] }
  have hself : ∀ {rule : Rule} {P : Prop}, rule.name ≠ rule.name → P := fun h => absurd rfl h
  refine forall_standard.mpr ⟨⟨.clear, .atGate [], ⟨_, rfl, rfl⟩, ?_⟩,
    ⟨unlit, .atGate [unlit], ⟨_, rfl, rfl⟩, ?_⟩, ⟨closed, .atGate [closed], ⟨_, rfl, rfl⟩, ?_⟩,
    ⟨later, .atGate [later], ⟨_, rfl, rfl⟩, ?_⟩, ⟨dear, .atGate [dear], ⟨_, rfl, rfl⟩, ?_⟩⟩
  all_goals
    refine forall_standard.mpr ⟨?_, ?_, ?_, ?_, ?_⟩ <;>
      first
        | exact fun _ => ⟨_, rfl, rfl⟩
        | exact hself

end Rule

namespace Registry
variable {r s : Registry}

/-- Standard rules in force, of which one singles something out, refuse that. -/
theorem Genuine.refuses (h : r.Genuine) {rule : Rule} {c : Choice} {x : RuleContext}
    (hrule : rule ∈ Rule.standard) (hin : r.has rule.name = true) (hout : rule.SinglesOut c x) :
    ∃ v, r.onlyStandard.validate c x = .ok v ∧ v.valid = false := by
  obtain ⟨⟨v, hv, hrefused⟩, hothers⟩ := hout
  have hnodup : (r.onlyStandard.rules.map Rule.name).Nodup :=
    h.distinct.sublist (List.filter_sublist.map _)
  have hmem : rule ∈ r.onlyStandard.rules := by
    rw [h.onlyStandard_eq]
    exact List.mem_filter.mpr ⟨hrule, hin⟩
  obtain ⟨passed, rest, hsplit⟩ := List.append_of_mem hmem
  have hfirst : FirstFailed c x r.onlyStandard.rules passed rule v := by
    refine ⟨⟨rest, hsplit⟩, fun earlier hearlier => hothers earlier ?_ ?_, hv, hrefused⟩
    · have hall : earlier ∈ r.onlyStandard.rules := by simp [hsplit, hearlier]
      rw [h.onlyStandard_eq] at hall
      exact List.mem_of_mem_filter hall
    · rw [hsplit, List.map_append, List.nodup_append] at hnodup
      exact hnodup.2.2 _ (List.mem_map_of_mem hearlier) _ (List.mem_map_of_mem (.head _))
  exact ⟨_, hfirst.validate, hrefused⟩

/-- Standard rules in force let pass what only another one refuses. -/
theorem Genuine.accepts (h : r.Genuine) {rule : Rule} {c : Choice} {x : RuleContext}
    (hnot : r.has rule.name = false) (hout : rule.SinglesOut c x) :
    ∃ v, r.onlyStandard.validate c x = .ok v ∧ v.valid = true := by
  refine validate_valid.mpr fun other hother => ?_
  rw [h.onlyStandard_eq] at hother
  obtain ⟨hstandard, hin⟩ := List.mem_filter.mp hother
  refine hout.2 other hstandard fun hname => ?_
  rw [← hname, hin] at hnot
  cases hnot

/-- Genuine rules say the same of everything exactly if the same standard rules are in force. -/
theorem Genuine.verdicts_iff (hr : r.Genuine) (hs : s.Genuine) :
    (∀ c x, r.onlyStandard.validate c x = s.onlyStandard.validate c x) ↔
      ∀ rule ∈ Rule.standard, r.has rule.name = s.has rule.name := by
  constructor
  · intro hsame rule hrule
    obtain ⟨c, x, hout⟩ := Rule.singled_out rule hrule
    have hsame := hsame c x
    -- whoever has the rule refuses what it singles out, and whoever does not lets it pass
    cases hrin : r.has rule.name <;> cases hsin : s.has rule.name <;> try rfl
    · obtain ⟨v, hv, hvalid⟩ := hr.accepts hrin hout
      obtain ⟨w, hw, hrefused⟩ := hs.refuses hrule hsin hout
      cases hv.symm.trans (hsame.trans hw)
      cases hvalid.symm.trans hrefused
    · obtain ⟨v, hv, hrefused⟩ := hr.refuses hrule hrin hout
      obtain ⟨w, hw, hvalid⟩ := hs.accepts hsin hout
      cases hv.symm.trans (hsame.trans hw)
      cases hvalid.symm.trans hrefused
  · intro hsame c x
    have hrules : r.onlyStandard.rules = s.onlyStandard.rules := by
      rw [hr.onlyStandard_eq, hs.onlyStandard_eq]
      exact List.filter_congr hsame
    rw [validate, validate, hrules]

end Registry

namespace Save
open Schema
variable {o : SaveOptions} {storyId : String} {a : Ambient} {s : NarrativeState} {p : Parts}
  {envelope : Entries Value}

/-- The rules that a save is asked to contain are read back from it. -/
theorem Envelope.read_rules {x : Envelope} {rules : RuleRecord}
    (h : build storyId a s o p = .ok envelope) (ho : o.rules = true)
    (hp : p.rules = some rules.fields) (hread : Envelope.read (.record envelope) = .ok x) :
    ∃ found, x.rules = some found ∧ found.disabled = rules.disabled := by
  obtain ⟨digest, _, _, henv⟩ := build_eq_ok h
  obtain ⟨fields, hfields, _, _, _, _, _, hrules, _⟩ := Envelope.read_eq_ok.mp hread
  cases hfields
  have hname : nameIn? envelope "validation_state" = some "validationState" := by
    rw [henv]
    simp only [partsOf, part, ho, hp]
    cases o.performance <;> cases p.performance <;> cases o.branching <;> cases p.branching <;> rfl
  have hvalue : envelope.get? "validationState" = some (.record rules.fields) := by
    rw [henv]
    simp only [partsOf, part, ho, hp]
    cases o.performance <;> cases p.performance <;> cases o.branching <;> cases p.branching <;> rfl
  rw [field_eq_ok, hname] at hrules
  simp only [hvalue, Option.getD_some, Schema.optional] at hrules
  obtain ⟨found, hfound, hx⟩ := map_eq_ok.mp hrules
  obtain ⟨_, hread⟩ := rules.read_fields
  obtain rfl := Except.ok.inj (hread.symm.trans hfound)
  exact ⟨_, hx.symm, rfl⟩

end Save

namespace Engine
variable {e e' saver : Engine} {o : Save.SaveOptions} {lo : Save.LoadOptions}
  {envelope : Entries Value} {data : Value} {r : Save.Result} {name : String}

theorem mem_disabled : name ∈ e.ruleRecord.disabled ↔
    name ∈ Rule.standardNames ∧ e.rules.has name = false := by
  simp [ruleRecord, (Text.inOrder_perm _).mem_iff, Rule.standardNames]

/-- What a save says to be out of force depends on nothing but what is out of force. -/
theorem disabled_eq_iff : e'.ruleRecord.disabled = e.ruleRecord.disabled ↔
    ∀ rule ∈ Rule.standard, e'.rules.has rule.name = e.rules.has rule.name := by
  constructor
  · intro h rule hrule
    have hname : rule.name ∈ Rule.standardNames := List.mem_map_of_mem hrule
    have hmem : rule.name ∈ e'.ruleRecord.disabled ↔ rule.name ∈ e.ruleRecord.disabled := by rw [h]
    rw [mem_disabled, mem_disabled] at hmem
    simp only [hname, true_and] at hmem
    cases he : e'.rules.has rule.name <;> cases he' : e.rules.has rule.name <;> simp_all
  · intro h
    have hsame : Rule.standardNames.filter (fun name => !e'.rules.has name) =
        Rule.standardNames.filter fun name => !e.rules.has name := by
      refine List.filter_congr fun name hname => ?_
      obtain ⟨rule, hrule, rfl⟩ := List.mem_map.mp hname
      rw [h rule hrule]
    exact congrArg Text.inOrder hsame

theorem happened_rules {trigger : Autosave.Trigger} {metadata : Entries Value}
    {x : Except EngineFault Unit} (h : e.happened trigger metadata = (x, e')) :
    e'.rules = e.rules := by
  obtain rfl : (e.happened trigger metadata).2 = e' := congrArg Prod.snd h
  unfold happened
  split
  · rfl
  · refine andThen_keeps (I := fun e₁ => e₁.rules = e.rules) ?_ fun _ _ _ => id
    unfold triggerAutosave
    split
    · rfl
    · exact andThen_keeps (I := fun e₁ => e₁.rules = e.rules) rfl fun _ _ _ => id

/-- A load that restores the rules takes out of force what the save lists as disabled. -/
theorem load_rules (h : saver.save o = .ok envelope) (ho : o.rules = true)
    (hd : Save.document data = .ok envelope) (hm : lo.migration = none)
    (hlo : lo.restoreRules = true) (hl : e.load lo data = (.ok r, e')) (hr : r.success = true) :
    e'.rules = saver.ruleRecord.disabled.foldl Registry.remove e.rules := by
  rcases load_eq_ok hl with ⟨hfailed, _⟩ | ⟨l, e₁, hcheck, _, htrack, hhappened⟩
  · cases hr.symm.trans hfailed
  · obtain ⟨raw, x, hc, hrec, _, hb, _⟩ := Save.check_eq_ok.mp hcheck
    obtain rfl : raw = envelope := Except.ok.inj ((Save.copied_eq_ok.mp hc).1.symm.trans hd)
    have hx : x = l.envelope := by simpa [Save.brought, hm] using hb
    obtain ⟨found, hfound, hdisabled⟩ := Save.Envelope.read_rules (mapError_eq_ok.mp h) ho rfl
      (Save.recognise_eq_ok.mp hrec).1
    have htracked : e₁.rules = e.rules := (congrArg (·.2.rules) htrack).symm
    rw [happened_rules hhappened, restored, if_pos hlo, ← hx, hfound, htracked]
    exact congrArg (List.foldl _ _) hdisabled

/-- What becomes of the standard rules of an engine that takes over the saved ones of another. -/
structure Reinstates (saver e e' : Engine) : Prop where
  /-- What is out of force is what was out of force in either. -/
  exact : ∀ name, name ∈ e'.ruleRecord.disabled ↔
    name ∈ e.ruleRecord.disabled ∨ name ∈ saver.ruleRecord.disabled
  record : e'.ruleRecord.disabled = saver.ruleRecord.disabled ↔
    ∀ name ∈ e.ruleRecord.disabled, name ∈ saver.ruleRecord.disabled
  verdicts : saver.rules.Genuine → e.rules.Genuine →
    ((∀ c x, e'.rules.onlyStandard.validate c x = saver.rules.onlyStandard.validate c x) ↔
      ∀ name ∈ e.ruleRecord.disabled, name ∈ saver.ruleRecord.disabled)

/-- An engine that takes over saved rules has the standard rules that the saver had in force, of
those that were in force before. So it has the same ones out of force as the saver, and says the
same of every choice, exactly if it had nothing out of force that the saver had in force. -/
theorem load_reinstates (h : saver.save o = .ok envelope) (ho : o.rules = true)
    (hd : Save.document data = .ok envelope) (hm : lo.migration = none)
    (hlo : lo.restoreRules = true) (hl : e.load lo data = (.ok r, e')) (hr : r.success = true) :
    Reinstates saver e e' := by
  have hrules := load_rules h ho hd hm hlo hl hr
  have hhas : ∀ name ∈ Rule.standardNames,
      e'.rules.has name = (e.rules.has name && saver.rules.has name) := by
    intro name hname
    rw [hrules, Registry.has_removeAll]
    congr 1
    rw [Bool.eq_iff_iff, Bool.not_eq_true', ← Bool.not_eq_true, List.contains_iff_mem, mem_disabled]
    simp [hname]
  have hexact : ∀ name, name ∈ e'.ruleRecord.disabled ↔
      name ∈ e.ruleRecord.disabled ∨ name ∈ saver.ruleRecord.disabled := by
    intro name
    simp only [mem_disabled]
    by_cases hname : name ∈ Rule.standardNames
    · simp only [hname, hhas name hname, Bool.and_eq_false_iff, true_and]
    · simp [hname]
  have hrecord : e'.ruleRecord.disabled = saver.ruleRecord.disabled ↔
      ∀ name ∈ e.ruleRecord.disabled, name ∈ saver.ruleRecord.disabled := by
    refine ⟨fun hsame name hname => hsame ▸ (hexact name).mpr (.inl hname), fun hsub => ?_⟩
    refine disabled_eq_iff.mpr fun rule hrule => ?_
    have hname : rule.name ∈ Rule.standardNames := List.mem_map_of_mem hrule
    rw [hhas _ hname]
    cases hout : e.rules.has rule.name with
    | true => rfl
    | false => exact (mem_disabled.mp (hsub _ (mem_disabled.mpr ⟨hname, hout⟩))).2.symm
  refine ⟨hexact, hrecord, fun hsaver he => ?_⟩
  have he' : e'.rules.Genuine := hrules ▸ he.removeAll _
  rw [he'.verdicts_iff hsaver, ← hrecord, disabled_eq_iff]

/-- An engine at the gate without the rule against disabled choices. -/
def unguarded : Engine := atGate.after [.removeRule "choice-enabled"]

theorem atGate_genuine : atGate.rules.Genuine := by
  refine (Registry.follows_ofList Rule.standard).genuine fun rule hin _ => ?_
  simpa using hin

/-- A load with the rules restored leaves a rule out of force that was in force when the save was
made. -/
theorem load_reinstates_unguarded :
    let o : Save.SaveOptions := { rules := true }
    let lo : Save.LoadOptions := { restoreRules := true }
    ∃ envelope r e', atGate.save o = .ok envelope ∧
      unguarded.load lo (.record envelope) = (.ok r, e') ∧ r.success = true ∧
      atGate.ruleRecord.disabled = [] ∧ e'.ruleRecord.disabled ≠ [] ∧
      ∃ c x, e'.rules.onlyStandard.validate c x ≠ atGate.rules.onlyStandard.validate c x := by
  intro o lo
  have hrecord : atGate.ruleRecord = ⟨[], [], [], []⟩ := by
    have hnone : Text.inOrder [] = [] := Text.inOrder_eq_self .nil
    exact congrArg (Save.RuleRecord.mk · [] [] []) hnone
  obtain ⟨envelope, hsave, hp, hshort⟩ : ∃ envelope, atGate.save o = .ok envelope ∧
      (Value.record envelope).isPlain = true ∧ (Value.record envelope).isShort = true := by
    rw [save, parts, hrecord]
    exact ⟨_, rfl, rfl, rfl⟩
  have hsound : unguarded.Sound := (Reachable.next _ atGate_reachable).sound
  obtain ⟨r, e', hload, hr, _⟩ : ∃ r e', unguarded.load lo (.record envelope) = (.ok r, e') ∧
      r.success = true ∧ Reproduces o lo atGate e' :=
    load_document hsound atGate_reachable.sound rfl rfl hsave hp hshort rfl nofun rfl
  have h : Reinstates atGate unguarded e' := load_reinstates hsave rfl rfl rfl rfl hload hr
  have hnone : atGate.ruleRecord.disabled = [] := congrArg (·.disabled) hrecord
  have hdisabled : "choice-enabled" ∈ unguarded.ruleRecord.disabled :=
    mem_disabled.mpr ⟨by decide, rfl⟩
  have hmore : ¬ ∀ name ∈ unguarded.ruleRecord.disabled, name ∈ atGate.ruleRecord.disabled := by
    intro hsub
    simpa [hnone] using hsub _ hdisabled
  refine ⟨envelope, r, e', hsave, hload, hr, hnone, ?_, ?_⟩
  · rw [← hnone]
    exact fun hsame => hmore (h.record.mp hsame)
  · by_contra hall
    push Not at hall
    exact hmore ((h.verdicts atGate_genuine (atGate_genuine.remove _)).mp hall)

end Engine
end Storyline
