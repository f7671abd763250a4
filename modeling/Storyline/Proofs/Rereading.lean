import Storyline.Proofs.Definition

namespace Storyline

theorem Value.ofText?_eq (s : Option String) : ofText? s = (s.map text).getD .null := by
  cases s <;> rfl

/-- A field that is written only if there is something. -/
theorem Entries.lookup_optional {α : Type} {key name : String} {o : Option α} {f : α → Value} :
    List.lookup key (o.map fun a => (name, f a)).toList =
      if key == name then o.map f else none := by
  cases o <;> cases h : key == name <;> simp [List.lookup_cons, h]

namespace Choice

def present (fields : Entries Value) : Option (Entries Value) :=
  if fields.isEmpty then none else some fields

theorem present_getD (fields : Entries Value) : (present fields).getD [] = fields := by
  cases fields <;> rfl

theorem lookup_recordField {key name : String} {fields : Entries Value} :
    List.lookup key (recordField name fields) =
      if key == name then (present fields).map Value.record else none := by
  unfold recordField present
  cases fields <;> cases h : key == name <;> simp [List.lookup_cons, h]

end Choice

namespace Story
open Choice

variable {node : String} {index : Nat} {c : Choice} {cs : List Choice} {n : Node} {ns : List Node}
  {s : Story} {strict : Bool} {definition : Value}

/-- What is found in the record of a window. -/
theorem window_fields (w : TimeWindow) : ∃ fields, w.payload = .record fields ∧
    get fields "availableAfter" = Value.ofText? w.availableAfter ∧
    get fields "availableBefore" = Value.ofText? w.availableBefore ∧
    get fields "minTime" = (w.minTime.map Value.number).getD .null ∧
    get fields "maxTime" = (w.maxTime.map Value.number).getD .null := by
  refine ⟨_, rfl, ?_, ?_, ?_, ?_⟩ <;>
    simp [get, Entries.get?, List.lookup_append, Entries.lookup_optional, Value.ofText?_eq]

/-- What is found in the record of a choice. -/
theorem choice_fields (c : Choice) : ∃ fields, c.payload = .record fields ∧
    get fields "text" = .text c.text ∧ get fields "nextNodeId" = .text c.target ∧
    get fields "flagEffects" = ChoiceReader.ofOption (present c.effects) ∧
    get fields "flagRequirements" = ChoiceReader.ofOption (present c.requirements) ∧
    get fields "timeRequirements" = (c.window.map TimeWindow.payload).getD .null ∧
    get fields "inventoryRequirements" = ChoiceReader.ofOption (present c.inventory) ∧
    get fields "enabled" = (c.enabled.map Value.bool).getD .null ∧
    get fields "condition" = Value.ofText? c.condition := by
  refine ⟨_, rfl, ?_, ?_, ?_, ?_, ?_, ?_, ?_, ?_⟩ <;>
    simp [get, Entries.get?, List.lookup_append, List.lookup_cons, Entries.lookup_optional,
      lookup_recordField, ChoiceReader.ofOption, Value.ofText?_eq]

theorem readChoice_payload (h : c.Neat) : readChoice node index c.payload = .ok c := by
  obtain ⟨fields, hp, htext, htarget, heff, hreq, hwin, hinv, hen, hcond⟩ := choice_fields c
  refine readChoice_eq_ok.mpr ⟨fields, hp, ChoiceReader.choice_eq_ok.mpr {
    text := htext ▸ identifier_of_neat h.text
    target := htarget ▸ identifier_of_neat h.target
    effects := map_eq_ok.mpr ⟨_, ChoiceReader.record?_eq_ok.mpr heff, present_getD _⟩
    requirements := map_eq_ok.mpr ⟨_, ChoiceReader.record?_eq_ok.mpr hreq, present_getD _⟩
    inventory := map_eq_ok.mpr ⟨_, ChoiceReader.inventory?_eq_ok.mpr
      ⟨ChoiceReader.record?_eq_ok.mpr hinv, ?_⟩, present_getD _⟩
    window := ChoiceReader.window?_eq_ok.mpr ?_
    enabled := ChoiceReader.enabled?_eq_ok.mpr hen
    condition := ChoiceReader.condition?_eq_ok.mpr hcond }⟩
  · rw [present_getD]
    exact h.counted
  · cases hw : c.window with
    | none =>
      rw [hw] at hwin
      exact .inl ⟨hwin, rfl⟩
    | some w =>
      obtain ⟨bounds, hp, ha, hb, hmin, hmax⟩ := window_fields w
      rw [hw] at hwin
      exact .inr ⟨bounds, w, hwin.trans hp, rfl, ha, hb, hmin, hmax⟩

theorem readChoices_payload (h : ∀ c ∈ cs, c.Neat) :
    readChoices node index (cs.map Choice.payload) = .ok cs := by
  induction cs generalizing index with
  | nil => rfl
  | cons c rest ih =>
    obtain ⟨hc, hrest⟩ := List.forall_mem_cons.mp h
    exact bind_eq_ok.mpr ⟨c, readChoice_payload hc, bind_eq_ok.mpr ⟨rest, ih hrest, rfl⟩⟩

theorem readNode_payload (hid : Text.Neat n.id) (h : ∀ c ∈ n.choices, c.Neat) :
    readNode index n.payload = .ok n :=
  readNode_eq_ok.mpr ⟨_, n.id, rfl, rfl, hid.shown, rfl, hid.trimmed.symm,
    n.choices.map Choice.payload, rfl, readChoices_payload h⟩

theorem readNodes_payload (h : ∀ n ∈ ns, Text.Neat n.id ∧ ∀ c ∈ n.choices, c.Neat) :
    readNodes index (ns.map Node.payload) = .ok ns := by
  induction ns generalizing index with
  | nil => rfl
  | cons n rest ih =>
    obtain ⟨⟨hid, hcs⟩, hrest⟩ := List.forall_mem_cons.mp h
    exact bind_eq_ok.mpr ⟨n, readNode_payload hid hcs, bind_eq_ok.mpr ⟨rest, ih hrest, rfl⟩⟩

theorem firstRepeated?_of_nodup {seen ids : List String} (h : ids.Nodup)
    (hs : ∀ id ∈ ids, id ∉ seen) : firstRepeated? seen ids = none := by
  induction ids generalizing seen with
  | nil => rfl
  | cons id rest ih =>
    obtain ⟨hid, hrest⟩ := List.nodup_cons.mp h
    obtain ⟨hid', hs⟩ := List.forall_mem_cons.mp hs
    have hnew : ∀ other ∈ rest, other ∉ id :: seen := by
      intro other hm ho
      rcases List.mem_cons.mp ho with rfl | ho
      · exact hid hm
      · exact hs other hm ho
    simp [firstRepeated?, hid', ih hrest hnew]

theorem Wellformed.made (h : s.Wellformed) : make s.initial s.nodes = .ok s := by
  have hr : firstRepeated? [] (s.nodes.map Node.id) = none :=
    firstRepeated?_of_nodup h.distinct (by simp)
  have hb : s.initial ∈ s.nodes.map Node.id := h.begins
  simp [make, hr, hb]

/-- A well-formed story is read from what it is written as. Choices that lead nowhere are faults
only where targets are required. -/
theorem Wellformed.reread (h : s.Wellformed) :
    ofDefinition strict s.payload = .ok s ↔ (strict = true → s.dangling = []) := by
  constructor
  · exact ofDefinition_leads
  · intro hd
    have hinitial := h.neat s.initial h.begins
    refine ofDefinition_eq_ok.mpr ⟨_, s.initial, s.nodes.map Node.payload, rfl, rfl,
      hinitial.shown, rfl, readNodes_payload fun n hn => ⟨?_, h.choices n hn⟩, ?_, hd⟩
    · exact h.neat n.id (List.mem_map_of_mem hn)
    · rw [hinitial.trimmed]
      exact h.made

/-- A story that was read is read again from what it is written as: the same story, under the same
identity and with the same choices that lead nowhere, which is written the same way again. -/
theorem retold (h : ofDefinition strict definition = .ok s) :
    ∃ t, ofDefinition strict s.payload = .ok t ∧ ofDefinition false s.payload = .ok t ∧
      (ofDefinition true s.payload = .ok t ↔ s.dangling = []) ∧
      t = s ∧ t.identity = s.identity ∧ t.dangling = s.dangling ∧ t.payload = s.payload := by
  have hwell := ofDefinition_wellformed h
  exact ⟨s, hwell.reread.mpr (ofDefinition_leads h), hwell.reread.mpr nofun,
    by simp [hwell.reread], rfl, rfl, rfl, rfl⟩

/-- A definition that says much of what it says in other ways than it is written. -/
def weathered : Value :=
  .record [("initialNodeId", .text " gate"), ("nodes", .list [
    .record [("text", .text ""), ("id", .text "gate\n"), ("choices", .list [
      .record [("text", .text " Enter "), ("nextNodeId", .text "cellar "),
        ("condition", .text " "), ("enabled", .bool false), ("flagEffects", .record []),
        ("flagRequirements", .null), ("inventoryRequirements", .record [("gold", .null)]),
        ("timeRequirements", .record [("minTime", .null), ("availableAfter", .text "")])]])],
    .record [("id", .text "hall"), ("text", .text "A hall."), ("theme", .null)]])]

def weatheredStory : Story where
  initial := "gate"
  nodes := [
    ⟨"gate", "", [⟨"Enter", "cellar", [], [], some ⟨some "", none, none, none⟩, [("gold", .null)],
      some false, some " "⟩]⟩,
    ⟨"hall", "A hall.", []⟩]

theorem retold_weathered : ofDefinition false weathered = .ok weatheredStory ∧
    ∃ t, ofDefinition false weatheredStory.payload = .ok t ∧
      ofDefinition false weatheredStory.payload = .ok t ∧
      (ofDefinition true weatheredStory.payload = .ok t ↔ weatheredStory.dangling = []) ∧
      t = weatheredStory ∧ t.identity = weatheredStory.identity ∧
      t.dangling = weatheredStory.dangling ∧ t.payload = weatheredStory.payload := by
  have hread : ofDefinition false weathered = .ok weatheredStory := rfl
  exact ⟨hread, retold hread⟩

end Story
end Storyline
