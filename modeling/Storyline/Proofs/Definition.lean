import Mathlib.Data.List.Nodup
import Storyline.Proofs.Story

namespace Storyline

namespace Text

/-- A text that shows something and has no blanks at its ends. -/
structure Neat (s : String) : Prop where
  trimmed : trim s = s
  shown : isAllBlank s = false

theorem trim_neat {s : String} (h : isAllBlank s = false) : Neat (trim s) :=
  ⟨trim_trim s, trim_not_all_blank h⟩

end Text

open Text

variable {field : String} {id : String}

/-- An identifier is the trimmed text of its field. -/
theorem identifier_neat {v : Value} (h : identifier field v = .ok id) : Neat id := by
  have hshown := identifier_shown h
  cases v <;> simp only [identifier, reduceCtorEq] at h
  case text s =>
    split at h
    · cases h
    · cases h
      exact ⟨trim_trim s, hshown⟩

theorem text_of_identifier {v : Value} (h : identifier field v = .ok id) : ∃ s, v = .text s := by
  cases v <;> simp only [identifier, reduceCtorEq] at h
  exact ⟨_, rfl⟩

theorem identifier_of_neat (h : Neat id) : identifier field (.text id) = .ok id := by
  have hne : id.isEmpty = false := by
    cases he : id.isEmpty with
    | false => rfl
    | true =>
      have hshown := h.shown
      rw [String.isEmpty_iff.mp he] at hshown
      cases hshown
  simp [identifier, h.trimmed, hne]

def Value.Countable (v : Value) : Prop := v = .null ∨ ∃ n, v = .number n

namespace Choice

theorem make_eq_ok {p : ChoiceParts} {c : Choice} {condition : Option String}
    (hc : p.condition = Value.ofText? condition) : make p = .ok c ↔
      identifier "choice text" p.text = .ok c.text ∧
      identifier "nextNodeId" p.target = .ok c.target ∧
      recordOf "flagEffects" p.effects = .ok c.effects ∧
      recordOf "flagRequirements" p.requirements = .ok c.requirements ∧
      recordOf "inventoryRequirements" p.inventory = .ok c.inventory ∧
      c.condition = condition ∧ c.window = p.window ∧ c.enabled = p.enabled := by
  have hmake : make p = .ok c ↔ ∃ text, identifier "choice text" p.text = .ok text ∧
      ∃ target, identifier "nextNodeId" p.target = .ok target ∧
      ∃ effects, recordOf "flagEffects" p.effects = .ok effects ∧
      ∃ requirements, recordOf "flagRequirements" p.requirements = .ok requirements ∧
      ∃ inventory, recordOf "inventoryRequirements" p.inventory = .ok inventory ∧
        Choice.mk text target effects requirements p.window inventory p.enabled condition = c := by
    simp only [make, bind_eq_ok, hc]
    cases condition <;> simp only [Value.ofText?, bind_eq_ok, pure_eq_ok, exists_eq_left']
  rw [hmake]
  constructor
  · rintro ⟨_, ht, _, hn, _, he, _, hr, _, hi, rfl⟩
    exact ⟨ht, hn, he, hr, hi, rfl, rfl, rfl⟩
  · rintro ⟨ht, hn, he, hr, hi, hcond, hw, hen⟩
    exact ⟨_, ht, _, hn, _, he, _, hr, _, hi, by rw [← hcond, ← hw, ← hen]⟩

/-- What is true of all choices that are read from definitions. -/
structure Neat (c : Choice) : Prop where
  text : Text.Neat c.text
  target : Text.Neat c.target
  counted : ∀ q ∈ c.inventory.values, q.Countable

end Choice

namespace Story

namespace ChoiceReader
variable {r : ChoiceReader} {key : String}

theorem number?_eq_ok {v : Value} {n : Option Number} :
    r.number? key v = .ok n ↔ v = (n.map Value.number).getD .null := by
  cases v <;> cases n <;> simp [number?, wrong]

theorem number?_isOk (r : ChoiceReader) (key : String) {v : Value} :
    (∃ n, r.number? key v = .ok n) ↔ v.Countable := by
  simp only [number?_eq_ok, Value.Countable]
  constructor
  · rintro ⟨_ | n, rfl⟩
    · exact .inl rfl
    · exact .inr ⟨n, rfl⟩
  · rintro (rfl | ⟨n, rfl⟩)
    · exact ⟨none, rfl⟩
    · exact ⟨some n, rfl⟩

/-- Every quantity is looked at, in the order of the items. -/
theorem quantities_eq_ok {items : Entries Value} :
    (forIn items PUnit.unit fun e _ => do
        let _ ← r.number? ("inventoryRequirements." ++ e.1) e.2
        pure (ForInStep.yield PUnit.unit) : Except StoryFault PUnit) = .ok PUnit.unit ↔
      ∀ q ∈ items.values, q.Countable := by
  induction items with
  | nil => simp [Entries.values]
  | cons e rest ih =>
    obtain ⟨item, q⟩ := e
    simp only [List.forIn_cons, bind_eq_ok, pure_eq_ok, Entries.values, List.map_cons,
      List.forall_mem_cons] at ih ⊢
    rw [← ih, ← number?_isOk r ("inventoryRequirements." ++ item)]
    constructor
    · rintro ⟨_, ⟨n, hn, rfl⟩, hrest⟩
      exact ⟨⟨n, hn⟩, hrest⟩
    · rintro ⟨⟨n, hn⟩, hrest⟩
      exact ⟨_, ⟨n, hn, rfl⟩, hrest⟩

theorem inventory?_eq_ok {inventory : Option (Entries Value)} :
    r.inventory? = .ok inventory ↔ r.record? "inventoryRequirements" = .ok inventory ∧
      ∀ q ∈ (inventory.getD []).values, q.Countable := by
  simp only [inventory?, bind_eq_ok, pure_eq_ok]
  constructor
  · rintro ⟨_, hr, ⟨⟩, hq, rfl⟩
    exact ⟨hr, quantities_eq_ok.mp hq⟩
  · rintro ⟨hr, hq⟩
    exact ⟨_, hr, PUnit.unit, quantities_eq_ok.mpr hq, rfl⟩

theorem record?_eq_ok {fields : Option (Entries Value)} :
    r.record? key = .ok fields ↔ get r.fields key = ofOption fields := by
  unfold record? ofOption
  cases get r.fields key <;> cases fields <;> simp [wrong]

theorem recordOf_ofOption (fields : Option (Entries Value)) :
    recordOf field (ofOption fields) = .ok (fields.getD []) := by
  cases fields <;> rfl

theorem date?_eq_ok {v : Value} {s : Option String} :
    r.date? key v = .ok s ↔ v = Value.ofText? s := by
  cases v <;> cases s <;> simp [date?, wrong, Value.ofText?]

theorem enabled?_eq_ok {b : Option Bool} :
    r.enabled? = .ok b ↔ get r.fields "enabled" = (b.map Value.bool).getD .null := by
  unfold enabled?
  cases get r.fields "enabled" <;> cases b <;> simp [wrong]

theorem condition?_eq_ok {s : Option String} :
    r.condition? = .ok s ↔ get r.fields "condition" = Value.ofText? s := by
  unfold condition?
  cases get r.fields "condition" <;> cases s <;> simp [wrong, Value.ofText?]

/-- A window is read from a record in which all bounds that there are have their kinds. -/
theorem window?_eq_ok {window : Option TimeWindow} :
    r.window? = .ok window ↔
      (get r.fields "timeRequirements" = .null ∧ window = none) ∨
      ∃ fields w, get r.fields "timeRequirements" = .record fields ∧ window = some w ∧
        get fields "availableAfter" = Value.ofText? w.availableAfter ∧
        get fields "availableBefore" = Value.ofText? w.availableBefore ∧
        get fields "minTime" = (w.minTime.map Value.number).getD .null ∧
        get fields "maxTime" = (w.maxTime.map Value.number).getD .null := by
  simp only [window?, bind_eq_ok, record?_eq_ok]
  constructor
  · rintro ⟨_ | fields, hr, h⟩
    · exact .inl ⟨hr, (pure_eq_ok.mp h).symm⟩
    · simp only [bind_eq_ok, date?_eq_ok, number?_eq_ok, pure_eq_ok] at h
      obtain ⟨after, ha, before, hb, min, hmin, max, hmax, rfl⟩ := h
      exact .inr ⟨fields, ⟨after, before, min, max⟩, hr, rfl, ha, hb, hmin, hmax⟩
  · rintro (⟨hr, rfl⟩ | ⟨fields, ⟨after, before, min, max⟩, hr, rfl, ha, hb, hmin, hmax⟩)
    · exact ⟨none, hr, rfl⟩
    · refine ⟨some fields, hr, ?_⟩
      simp only [bind_eq_ok, date?_eq_ok, number?_eq_ok, pure_eq_ok]
      exact ⟨after, ha, before, hb, min, hmin, max, hmax, rfl⟩

/-- Each field of a choice is read from its key. -/
structure Reads (r : ChoiceReader) (c : Choice) : Prop where
  text : identifier "choice text" (get r.fields "text") = .ok c.text
  target : identifier "nextNodeId" (get r.fields "nextNodeId") = .ok c.target
  effects : (r.record? "flagEffects").map (·.getD []) = .ok c.effects
  requirements : (r.record? "flagRequirements").map (·.getD []) = .ok c.requirements
  inventory : r.inventory?.map (·.getD []) = .ok c.inventory
  window : r.window? = .ok c.window
  enabled : r.enabled? = .ok c.enabled
  condition : r.condition? = .ok c.condition

theorem choice_eq_ok {c : Choice} : r.choice = .ok c ↔ r.Reads c := by
  unfold choice
  split
  · rename_i text target htext htarget
    simp only [bind_eq_ok, mapError_eq_ok]
    constructor
    · rintro ⟨enabled, hen, condition, hcond, inventory, hinv, effects, heff, requirements, hreq,
        window, hwin, h⟩
      obtain ⟨ht, hn, he, hr, hi, hcond', hwin', hen'⟩ := (Choice.make_eq_ok rfl).mp h
      simp only [recordOf_ofOption, Except.ok.injEq] at he hr hi
      exact {
        text := htext ▸ ht, target := htarget ▸ hn
        effects := map_eq_ok.mpr ⟨effects, heff, he⟩
        requirements := map_eq_ok.mpr ⟨requirements, hreq, hr⟩
        inventory := map_eq_ok.mpr ⟨inventory, hinv, hi⟩
        window := hwin' ▸ hwin, enabled := hen' ▸ hen, condition := hcond' ▸ hcond }
    · intro h
      obtain ⟨effects, heff, he⟩ := map_eq_ok.mp h.effects
      obtain ⟨requirements, hreq, hr⟩ := map_eq_ok.mp h.requirements
      obtain ⟨inventory, hinv, hi⟩ := map_eq_ok.mp h.inventory
      refine ⟨_, h.enabled, _, h.condition, _, hinv, _, heff, _, hreq, _, h.window, ?_⟩
      refine (Choice.make_eq_ok rfl).mpr
        ⟨htext ▸ h.text, htarget ▸ h.target, ?_, ?_, ?_, rfl, rfl, rfl⟩
      · rw [← he, recordOf_ofOption]
      · rw [← hr, recordOf_ofOption]
      · rw [← hi, recordOf_ofOption]
  · rename_i hno
    constructor
    · intro h
      cases h
    · intro h
      obtain ⟨text, htext⟩ := text_of_identifier h.text
      obtain ⟨target, htarget⟩ := text_of_identifier h.target
      exact absurd htarget (hno text target htext)

theorem choice_neat {c : Choice} (h : r.choice = .ok c) : c.Neat := by
  have hreads := choice_eq_ok.mp h
  refine ⟨identifier_neat hreads.text, identifier_neat hreads.target, ?_⟩
  obtain ⟨inventory, hinventory, hc⟩ := map_eq_ok.mp hreads.inventory
  rw [← hc]
  exact (inventory?_eq_ok.mp hinventory).2

end ChoiceReader

variable {node : String} {index : Nat} {v definition : Value} {vs : List Value} {strict : Bool}
  {c : Choice} {cs : List Choice} {n : Node} {ns : List Node} {s : Story}

def itemsOf (v : Value) (key : String) : List Value := ((v.field? key).bind Value.asList?).getD []

def quantitiesOf (choice : Value) : List Value :=
  ((choice.field? "inventoryRequirements").bind Value.asRecord?).getD [] |>.map Prod.snd

/-- All quantities that the definition of a story asks for. -/
def askedIn (definition : Value) : List Value :=
  (itemsOf definition "nodes").flatMap fun n => (itemsOf n "choices").flatMap quantitiesOf

def asked (s : Story) : List Value :=
  s.nodes.flatMap fun n => n.choices.flatMap fun c => c.inventory.values

theorem readChoice_eq_ok : readChoice node index v = .ok c ↔
    ∃ fields, v = .record fields ∧ ChoiceReader.choice ⟨node, index, fields⟩ = .ok c := by
  cases v <;> simp [readChoice]

theorem field?_record {fields : Entries Value} {key : String} :
    (Value.record fields).field? key = Entries.get? fields key := rfl

theorem readChoice_quantities (h : readChoice node index v = .ok c) :
    c.inventory.values = quantitiesOf v := by
  obtain ⟨fields, rfl, h⟩ := readChoice_eq_ok.mp h
  obtain ⟨inventory, hinventory, hc⟩ := map_eq_ok.mp (ChoiceReader.choice_eq_ok.mp h).inventory
  have hr := ChoiceReader.record?_eq_ok.mp (ChoiceReader.inventory?_eq_ok.mp hinventory).1
  have hasked : ((Value.record fields).field? "inventoryRequirements").bind Value.asRecord? =
      inventory := by
    rw [field?_record]
    simp only [Story.get] at hr
    cases hg : Entries.get? fields "inventoryRequirements" with
    | none =>
      rw [hg] at hr
      cases inventory with
      | none => rfl
      | some _ => cases hr
    | some q =>
      rw [hg] at hr
      cases inventory <;> cases hr <;> rfl
  rw [← hc, quantitiesOf, hasked]
  rfl

theorem readChoices_neat (h : readChoices node index vs = .ok cs) : ∀ c ∈ cs, c.Neat := by
  induction vs generalizing index cs with
  | nil => cases h; simp
  | cons v rest ih =>
    obtain ⟨c, hc, h⟩ := bind_eq_ok.mp h
    obtain ⟨more, hm, h⟩ := bind_eq_ok.mp h
    cases h
    obtain ⟨_, _, hc⟩ := readChoice_eq_ok.mp hc
    exact List.forall_mem_cons.mpr ⟨ChoiceReader.choice_neat hc, ih hm⟩

theorem readChoices_quantities (h : readChoices node index vs = .ok cs) :
    (cs.flatMap fun c => c.inventory.values) = vs.flatMap quantitiesOf := by
  induction vs generalizing index cs with
  | nil => cases h; rfl
  | cons v rest ih =>
    obtain ⟨c, hc, h⟩ := bind_eq_ok.mp h
    obtain ⟨more, hm, h⟩ := bind_eq_ok.mp h
    cases h
    rw [List.flatMap_cons, List.flatMap_cons, readChoice_quantities hc, ih hm]

/-- A node is read if it has an id and a text, and its choices are a list that is read. -/
theorem readNode_eq_ok : readNode index v = .ok n ↔
    ∃ fields id, v = .record fields ∧ get fields "id" = .text id ∧ isAllBlank id = false ∧
      get fields "text" = .text n.text ∧ n.id = trim id ∧
      ∃ vs, (Entries.get? fields "choices").getD (.list []) = .list vs ∧
        readChoices id 0 vs = .ok n.choices := by
  constructor
  · intro h
    cases v <;> simp only [readNode, reduceCtorEq] at h
    case record fields =>
      split at h
      · rename_i id hid
        split at h
        · cases h
        · rename_i hb
          have hb : isAllBlank id = false := by simpa using hb
          split at h
          · rename_i text htext
            split at h
            · rename_i hno
              cases h
              exact ⟨fields, id, rfl, hid, hb, htext, rfl, [], by rw [hno]; rfl, rfl⟩
            · rename_i vs hvs
              obtain ⟨choices, hcs, h⟩ := bind_eq_ok.mp h
              cases h
              exact ⟨fields, id, rfl, hid, hb, htext, rfl, vs, by rw [hvs]; rfl, hcs⟩
            · cases h
          · cases h
      · cases h
  · obtain ⟨nid, ntext, ncs⟩ := n
    rintro ⟨fields, id, rfl, hid, hb, htext, hn, vs, hvs, hcs⟩
    simp only at htext hn hcs
    subst hn
    simp only [readNode, hid, hb, htext]
    cases hf : Entries.get? fields "choices" with
    | none =>
      rw [hf] at hvs
      cases hvs
      cases hcs
      rfl
    | some w =>
      rw [hf] at hvs
      cases hvs
      exact bind_eq_ok.mpr ⟨ncs, hcs, rfl⟩

theorem readNode_neat (h : readNode index v = .ok n) :
    Text.Neat n.id ∧ ∀ c ∈ n.choices, c.Neat := by
  obtain ⟨_, _, _, _, hb, _, hid, _, _, hcs⟩ := readNode_eq_ok.mp h
  rw [hid]
  exact ⟨trim_neat hb, readChoices_neat hcs⟩

theorem readNode_quantities (h : readNode index v = .ok n) :
    (n.choices.flatMap fun c => c.inventory.values) =
      (itemsOf v "choices").flatMap quantitiesOf := by
  obtain ⟨fields, _, rfl, _, _, _, _, vs, hvs, hcs⟩ := readNode_eq_ok.mp h
  have hitems : itemsOf (.record fields) "choices" = vs := by
    rw [itemsOf, field?_record]
    cases hf : Entries.get? fields "choices" <;> rw [hf] at hvs <;> cases hvs <;> rfl
  rw [readChoices_quantities hcs, hitems]

theorem readNodes_neat (h : readNodes index vs = .ok ns) :
    ∀ n ∈ ns, Text.Neat n.id ∧ ∀ c ∈ n.choices, c.Neat := by
  induction vs generalizing index ns with
  | nil => cases h; simp
  | cons v rest ih =>
    obtain ⟨n, hn, h⟩ := bind_eq_ok.mp h
    obtain ⟨more, hm, h⟩ := bind_eq_ok.mp h
    cases h
    exact List.forall_mem_cons.mpr ⟨readNode_neat hn, ih hm⟩

theorem readNodes_quantities (h : readNodes index vs = .ok ns) :
    (ns.flatMap fun n => n.choices.flatMap fun c => c.inventory.values) =
      vs.flatMap fun n => (itemsOf n "choices").flatMap quantitiesOf := by
  induction vs generalizing index ns with
  | nil => cases h; rfl
  | cons v rest ih =>
    obtain ⟨n, hn, h⟩ := bind_eq_ok.mp h
    obtain ⟨more, hm, h⟩ := bind_eq_ok.mp h
    cases h
    rw [List.flatMap_cons, List.flatMap_cons, readNode_quantities hn, ih hm]

theorem make_eq {initial : String} (h : make initial ns = .ok s) : s = ⟨initial, ns⟩ := by
  unfold make at h
  split at h
  · cases h
  · split at h
    · cases h
      rfl
    · cases h

/-- A story is read from a first id and a list of nodes. Choices that lead nowhere are faults only
where targets are required. -/
theorem ofDefinition_eq_ok : ofDefinition strict definition = .ok s ↔
    ∃ fields initial vs, definition = .record fields ∧
      get fields "initialNodeId" = .text initial ∧ isAllBlank initial = false ∧
      get fields "nodes" = .list vs ∧ readNodes 0 vs = .ok s.nodes ∧
      make (trim initial) s.nodes = .ok s ∧ (strict = true → s.dangling = []) := by
  constructor
  · intro h
    cases definition <;> simp only [ofDefinition, reduceCtorEq] at h
    case record fields =>
      split at h
      · rename_i initial hinitial
        split at h
        · cases h
        · rename_i hb
          split at h
          · rename_i vs hvs
            obtain ⟨ns, hns, h⟩ := bind_eq_ok.mp h
            obtain ⟨story, hmake, h⟩ := bind_eq_ok.mp h
            split at h
            · cases h
            · rename_i hd
              cases h
              obtain rfl : s.nodes = ns := by rw [make_eq hmake]
              refine ⟨fields, initial, vs, rfl, hinitial, ?_, hvs, hns, hmake, ?_⟩
              · simpa using hb
              · rintro rfl
                simpa using hd
          · cases h
      · cases h
  · rintro ⟨fields, initial, vs, rfl, hinitial, hb, hvs, hns, hmake, hd⟩
    have hlead : (strict && !s.dangling.isEmpty) = false := by
      cases strict with
      | false => rfl
      | true => simp [hd rfl]
    simp only [ofDefinition, hinitial, hb, hvs, hns, ok_bind, hmake, hlead]
    rfl

theorem ofDefinition_leads (h : ofDefinition strict definition = .ok s) :
    strict = true → s.dangling = [] := by
  obtain ⟨_, _, _, _, _, _, _, _, _, hd⟩ := ofDefinition_eq_ok.mp h
  exact hd

/-- Choices lead to nodes of the story if none is found that does not. -/
theorem target_of_dangling (h : s.dangling = []) (hn : n ∈ s.nodes) (hc : c ∈ n.choices) :
    s.has c.target = true := by
  cases ht : s.has c.target with
  | true => rfl
  | false =>
    have hlost : c ∈ n.choices.filter fun c => !s.has c.target :=
      List.mem_filter.mpr ⟨hc, by simp [ht]⟩
    have hm : (n.id, c.target) ∈ s.dangling :=
      List.mem_flatMap.mpr ⟨n, hn, List.mem_map.mpr ⟨c, hlost, rfl⟩⟩
    rw [h] at hm
    cases hm

/-- What all stories that are read can be relied on for. -/
structure Wellformed (s : Story) : Prop where
  distinct : s.ids.Nodup
  begins : s.initial ∈ s.ids
  neat : ∀ id ∈ s.ids, Text.Neat id
  finds : ∀ id, s.has id = true ↔ id ∈ s.ids
  found : ∀ n, n ∈ s.nodes ↔ s.find? n.id = some n
  choices : ∀ n ∈ s.nodes, ∀ c ∈ n.choices, c.Neat

/-- With distinct ids, each node is the one that is found under its id. -/
theorem find?_of_distinct (h : s.ids.Nodup) : n ∈ s.nodes ↔ s.find? n.id = some n := by
  constructor
  · intro hn
    have hmap : (s.nodes.map Node.id).Nodup := h
    cases hf : s.find? n.id with
    | none => exact absurd (beq_self_eq_true n.id) (by simpa using List.find?_eq_none.mp hf n hn)
    | some m =>
      have hid : m.id = n.id := (has_eq_find? hf).2
      rw [List.inj_on_of_nodup_map hmap (List.mem_of_find?_eq_some hf) hn hid]
  · exact List.mem_of_find?_eq_some

theorem ofDefinition_wellformed (h : ofDefinition strict definition = .ok s) : s.Wellformed := by
  have hsound := ofDefinition_sound h
  obtain ⟨_, _, _, _, _, _, _, hns, _⟩ := ofDefinition_eq_ok.mp h
  have hneat := readNodes_neat hns
  refine ⟨hsound.distinct, has_iff_mem.mp hsound.begins, ?_, fun _ => has_iff_mem,
    fun _ => find?_of_distinct hsound.distinct, ?_⟩
  · intro id hid
    obtain ⟨n, hn, rfl⟩ := List.mem_map.mp hid
    exact (hneat n hn).1
  · intro n hn
    exact (hneat n hn).2

theorem ofDefinition_asked (h : ofDefinition strict definition = .ok s) :
    s.asked = askedIn definition := by
  obtain ⟨fields, _, vs, rfl, _, _, hvs, hns, _⟩ := ofDefinition_eq_ok.mp h
  have hitems : itemsOf (.record fields) "nodes" = vs := by
    rw [itemsOf, field?_record]
    rw [Story.get] at hvs
    cases hf : Entries.get? fields "nodes" <;> rw [hf] at hvs <;> cases hvs
    rfl
  rw [asked, askedIn, hitems, readNodes_quantities hns]

/-- Every value is read as a story that can be relied on, or refused with a fault of the story. The
quantities of a story are those that its definition asks for. Nothing passes as a quantity too, so
they are all numbers only if none of the definition's is null. -/
theorem ofDefinition_total (strict : Bool) (definition : Value) :
    (∃ f, ofDefinition strict definition = .error f ∧ f.report.name = "StoryDataError") ∨
    ∃ s, ofDefinition strict definition = .ok s ∧ s.Wellformed ∧
      (strict = true → ∀ n ∈ s.nodes, ∀ c ∈ n.choices, s.has c.target = true) ∧
      s.asked = askedIn definition ∧
      ((∀ q ∈ s.asked, ∃ n, q = .number n) ↔ ∀ q ∈ askedIn definition, q ≠ .null) := by
  cases h : ofDefinition strict definition with
  | error f => exact .inl ⟨f, rfl, rfl⟩
  | ok s =>
    have hwell := ofDefinition_wellformed h
    have hasked := ofDefinition_asked h
    have hleads := ofDefinition_leads h
    refine .inr ⟨s, rfl, hwell, fun hs n hn c hc => target_of_dangling (hleads hs) hn hc, hasked,
      ?_⟩
    rw [← hasked]
    refine forall₂_congr fun q hq => ?_
    obtain ⟨n, hn, hq⟩ := List.mem_flatMap.mp hq
    obtain ⟨c, hc, hq⟩ := List.mem_flatMap.mp hq
    rcases (hwell.choices n hn c hc).counted q hq with rfl | ⟨m, rfl⟩
    · simp
    · simp

def unpriced : Value :=
  .record [("initialNodeId", .text "gate"), ("nodes", .list [.record [("id", .text "gate"),
    ("text", .text "A gate."), ("choices", .list [.record [("text", .text "Enter"),
      ("nextNodeId", .text "gate"), ("inventoryRequirements", .record [("gold", .null)])]])]])]

example : (ofDefinition true unpriced).map asked = .ok [.null] := rfl

end Story
end Storyline
