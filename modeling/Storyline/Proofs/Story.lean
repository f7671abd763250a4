import Mathlib.Data.List.DropRight
import Storyline.Proofs.Outcome
import Storyline.Story.Definition

namespace Storyline

namespace Text

theorem mem_dropWhile_of_not {p : Char → Bool} {c : Char} {cs : List Char} (hm : c ∈ cs)
    (hc : p c = false) : c ∈ cs.dropWhile p := by
  induction cs with
  | nil => cases hm
  | cons d rest ih =>
    rcases List.mem_cons.mp hm with rfl | hm
    · simp [hc]
    · cases hd : p d with
      | true => simpa [hd] using ih hm
      | false => simp [hd, hm]

/-- Trimming takes away blanks only. -/
theorem mem_trimChars {c : Char} {cs : List Char} (hm : c ∈ cs) (hc : isBlank c = false) :
    c ∈ trimChars cs := by
  have hs := mem_dropWhile_of_not hm hc
  exact List.mem_reverse.mpr (mem_dropWhile_of_not (List.mem_reverse.mpr hs) hc)

theorem trim_not_all_blank {s : String} (h : isAllBlank s = false) :
    isAllBlank (trim s) = false := by
  simp only [isAllBlank, List.all_eq_false] at h ⊢
  obtain ⟨c, hm, hc⟩ := h
  exact ⟨c, by simpa [trim] using mem_trimChars hm (by simpa using hc), hc⟩

theorem all_blank_trim {s : String} (h : isAllBlank s = true) : trim s = "" := by
  have hs : (s.toList ++ []).dropWhile isBlank = [] :=
    List.dropWhile_append_of_pos (by simpa [isAllBlank] using h)
  rw [List.append_nil] at hs
  simp [trim, trimChars, hs]

/-- What is trimmed stays as it is. -/
theorem trim_trim (s : String) : trim (trim s) = trim s := by
  have hagain : trimChars (trimChars s.toList) = trimChars s.toList := by
    have hfront : (trimChars s.toList).dropWhile isBlank = trimChars s.toList := by
      obtain ⟨back, hback⟩ : trimChars s.toList <+: s.toList.dropWhile isBlank :=
        List.rdropWhile_prefix isBlank _
      cases ht : trimChars s.toList with
      | nil => rfl
      | cons c rest =>
        have hc := List.head?_dropWhile_not isBlank s.toList
        rw [← hback, ht] at hc
        have hshown : isBlank c = false := hc
        rw [List.dropWhile_cons, if_neg (by simp [hshown])]
    calc trimChars (trimChars s.toList)
      _ = ((trimChars s.toList).dropWhile isBlank).rdropWhile isBlank := rfl
      _ = (trimChars s.toList).rdropWhile isBlank := by rw [hfront]
      _ = trimChars s.toList := List.rdropWhile_idempotent ..
  rw [trim, trim, String.toList_ofList, hagain]

end Text

theorem identifier_shown {field : String} {v : Value} {id : String}
    (h : identifier field v = .ok id) : Text.isAllBlank id = false := by
  cases v <;> simp only [identifier, reduceCtorEq] at h
  case text s =>
    split at h
    · cases h
    · rename_i hne
      cases h
      apply Text.trim_not_all_blank
      cases hb : Text.isAllBlank s with
      | false => rfl
      | true => exact absurd (Text.all_blank_trim hb) (by simpa using hne)

theorem Node.make_shown {id text : Value} {choices : List Choice} {n : Node}
    (h : Node.make id text choices = .ok n) : Text.isAllBlank n.id = false := by
  obtain ⟨id', hid, h⟩ := bind_eq_ok.mp h
  cases text <;> simp only [pure_eq_ok, reduceCtorEq] at h
  subst h
  exact identifier_shown hid

namespace Story

/-- What the parts of an engine may rely on in a story. -/
structure Sound (s : Story) : Prop where
  distinct : s.ids.Nodup
  begins : s.has s.initial = true
  shown : ∀ n ∈ s.nodes, Text.isAllBlank n.id = false

theorem has_iff_mem {s : Story} {id : String} : s.has id = true ↔ id ∈ s.ids := by
  simp [has, find?, ids, List.find?_isSome]

theorem has_eq_find? {s : Story} {id : String} {n : Node} (h : s.find? id = some n) :
    s.has id = true ∧ n.id = id :=
  ⟨by simp [has, h], by simpa using List.find?_some h⟩

/-- No node of a story has an id in which there is nothing to see. -/
theorem Sound.shown_of_has {s : Story} (h : s.Sound) {id : String} (hid : s.has id = true) :
    Text.isAllBlank id = false := by
  obtain ⟨n, hn, rfl⟩ := List.mem_map.mp (has_iff_mem.mp hid)
  exact h.shown n hn

theorem firstRepeated?_none {seen ids : List String} (h : firstRepeated? seen ids = none) :
    ids.Nodup ∧ ∀ id ∈ ids, id ∉ seen := by
  induction ids generalizing seen with
  | nil => simp
  | cons id rest ih =>
    simp only [firstRepeated?] at h
    split at h
    · cases h
    · rename_i hs
      obtain ⟨hd, hn⟩ := ih h
      have hs' : id ∉ seen := by simpa using hs
      refine ⟨List.nodup_cons.mpr ⟨fun hm => hn id hm (by simp), hd⟩, ?_⟩
      intro other hm
      rcases List.mem_cons.mp hm with rfl | hm
      · exact hs'
      · exact fun ho => hn other hm (by simp [ho])

theorem make_sound {initial : String} {nodes : List Node} {s : Story}
    (h : make initial nodes = .ok s) (hn : ∀ n ∈ nodes, Text.isAllBlank n.id = false) :
    s.Sound := by
  unfold make at h
  split at h
  · cases h
  · rename_i hr
    split at h
    · rename_i hi
      cases h
      exact ⟨(firstRepeated?_none hr).1, has_iff_mem.mpr (by simpa [ids] using hi), hn⟩
    · cases h

theorem readNode_shown {index : Nat} {v : Value} {n : Node} (h : readNode index v = .ok n) :
    Text.isAllBlank n.id = false := by
  cases v <;> simp only [readNode, reduceCtorEq] at h
  split at h
  · split at h
    · cases h
    · rename_i hb
      have hid := Text.trim_not_all_blank (by simpa using hb)
      split at h
      · split at h
        · cases h
          exact hid
        · obtain ⟨choices, _, h⟩ := bind_eq_ok.mp h
          cases h
          exact hid
        · cases h
      · cases h
  · cases h

theorem readNodes_shown {index : Nat} {vs : List Value} {ns : List Node}
    (h : readNodes index vs = .ok ns) : ∀ n ∈ ns, Text.isAllBlank n.id = false := by
  induction vs generalizing index ns with
  | nil => cases h; simp
  | cons v rest ih =>
    obtain ⟨n, hn, h⟩ := bind_eq_ok.mp h
    obtain ⟨more, hm, h⟩ := bind_eq_ok.mp h
    cases h
    intro m hmem
    rcases List.mem_cons.mp hmem with rfl | hmem
    · exact readNode_shown hn
    · exact ih hm m hmem

theorem ofDefinition_sound {requireTargets : Bool} {definition : Value} {s : Story}
    (h : ofDefinition requireTargets definition = .ok s) : s.Sound := by
  cases definition <;> simp only [ofDefinition, reduceCtorEq] at h
  split at h
  · split at h
    · cases h
    · split at h
      · obtain ⟨nodes, hn, h⟩ := bind_eq_ok.mp h
        obtain ⟨story, hm, h⟩ := bind_eq_ok.mp h
        have hs := make_sound hm (readNodes_shown hn)
        split at h
        · cases h
        · cases h
          exact hs
      · cases h
  · cases h

/-- How stories come about: they are read from definitions, or put together from nodes that were
made one by one. -/
inductive Made : Story → Prop
  | read {requireTargets : Bool} {definition : Value} {s : Story} :
    ofDefinition requireTargets definition = .ok s → Made s
  | built {initial : String} {nodes : List Node} {s : Story} :
    (∀ n ∈ nodes, ∃ id text choices, Node.make id text choices = .ok n) →
    make initial nodes = .ok s → Made s

theorem Made.sound {s : Story} (h : s.Made) : s.Sound := by
  cases h with
  | read h => exact ofDefinition_sound h
  | built hn h =>
    apply make_sound h
    intro n hm
    obtain ⟨_, _, _, hn⟩ := hn n hm
    exact Node.make_shown hn

end Story
end Storyline
