import Storyline.Proofs.Refusal

namespace Storyline

namespace Text

theorem inOrder_perm (ss : List String) : (inOrder ss).Perm ss := List.mergeSort_perm _ _

theorem inOrder_sorted (ss : List String) : (inOrder ss).Pairwise (· ≤ ·) := by
  have hsorted : (inOrder ss).Pairwise fun a b => decide (a ≤ b) = true := by
    apply List.pairwise_mergeSort
    · intro a b c hab hbc
      simp only [decide_eq_true_eq] at hab hbc ⊢
      exact String.le_trans hab hbc
    · intro a b
      simpa using String.le_total a b
  simpa using hsorted

/-- The order of texts does not show when they are put in order. -/
theorem inOrder_congr {ss ts : List String} (h : ss.Perm ts) : inOrder ss = inOrder ts := by
  have hperm : (inOrder ss).Perm (inOrder ts) :=
    ((inOrder_perm ss).trans h).trans (inOrder_perm ts).symm
  exact hperm.eq_of_pairwise (fun _ _ _ _ => String.le_antisymm) (inOrder_sorted ss)
    (inOrder_sorted ts)

theorem inOrder_eq_self {ss : List String} (h : ss.Pairwise (· ≤ ·)) : inOrder ss = ss :=
  (inOrder_perm ss).eq_of_pairwise (fun _ _ _ _ => String.le_antisymm) (inOrder_sorted ss) h

/-- Between texts that are joined stands a comma, beside those inside them. -/
theorem count_joined {ls : List (List Char)} (h : ls ≠ []) :
    ([','].intercalate ls).count ',' + 1 = ls.length + ls.flatten.count ',' := by
  induction ls with
  | nil => exact absurd rfl h
  | cons l rest ih =>
    cases rest with
    | nil => simp [List.intercalate, Nat.add_comm]
    | cons m rest =>
      have hrest := ih (List.cons_ne_nil m rest)
      rw [List.intercalate_cons_cons, List.flatten_cons]
      simp only [List.count_append, List.length_cons, List.count_singleton_self] at hrest ⊢
      omega

theorem count_flatten_eq_zero {ls : List (List Char)} :
    ls.flatten.count ',' = 0 ↔ ∀ l ∈ ls, ',' ∉ l := by
  simp [List.count_eq_zero]

/-- As many texts without commas can be read back from their joined form. -/
theorem joined_injective {ls ms : List (List Char)} (hne : ls ≠ []) (hlen : ls.length = ms.length)
    (hfree : ∀ l ∈ ls, ',' ∉ l) (h : [','].intercalate ls = [','].intercalate ms) : ls = ms := by
  have hne' : ms ≠ [] := by
    intro hnil
    rw [hnil] at hlen
    exact hne (List.length_eq_zero_iff.mp hlen)
  -- the second list has no commas to spare either
  have hfree' : ∀ m ∈ ms, ',' ∉ m := by
    have hnone : ls.flatten.count ',' = 0 := count_flatten_eq_zero.mpr hfree
    have hcount := count_joined hne
    have hcount' := count_joined hne'
    rw [← h] at hcount'
    apply count_flatten_eq_zero.mp
    omega
  rw [← List.splitOn_intercalate ',' hfree hne, h, List.splitOn_intercalate ',' hfree' hne']

end Text

def Digest.short (text : String) : List Char := (hex text).toList.take 16

namespace Story
variable {a b : Story}

/-- The ids of a story in order, joined by commas. -/
def joined (s : Story) : String := ",".intercalate (Text.inOrder s.ids)

theorem identity_toList (s : Story) : s.identity.toList =
    "story-".toList ++ (Nat.toDigits 10 s.nodes.length ++ '-' :: Digest.short s.joined) := by
  simp [identity, joined, Digest.short, Nat.repr]

/-- The number of nodes ends where its digits do. -/
theorem digits_before_dash {n m : Nat} {xs ys : List Char}
    (h : Nat.toDigits 10 n ++ '-' :: xs = Nat.toDigits 10 m ++ '-' :: ys) : n = m ∧ xs = ys := by
  have hdigits : ∀ k (zs : List Char),
      (Nat.toDigits 10 k ++ '-' :: zs).takeWhile Char.isDigit = Nat.toDigits 10 k := by
    intro k zs
    have hk : ∀ c ∈ Nat.toDigits 10 k, c.isDigit = true := by
      intro c hc
      exact Nat.isDigit_of_mem_toDigits (by decide) (by decide) hc
    rw [List.takeWhile_append_of_pos hk]
    simp
  have hsame : Nat.toDigits 10 n = Nat.toDigits 10 m := by
    rw [← hdigits n xs, h, hdigits]
  constructor
  · rw [← @Nat.ofDigitChars_ten_toDigits n, hsame, Nat.ofDigitChars_ten_toDigits]
  · rw [hsame] at h
    exact (List.cons.inj (List.append_cancel_left h)).2

/-- An identifier tells the number of nodes and a short digest. -/
theorem identity_eq_iff : a.identity = b.identity ↔
    a.nodes.length = b.nodes.length ∧ Digest.short a.joined = Digest.short b.joined := by
  rw [← String.toList_inj, identity_toList, identity_toList, List.append_cancel_left_eq]
  constructor
  · exact digits_before_dash
  · intro h
    rw [h.1, h.2]

/-- Two stories with the same set of ids. -/
def SameIds (a b : Story) : Prop := ∀ id, id ∈ a.ids ↔ id ∈ b.ids

/-- No id of the story has a comma in it. -/
def CommaFree (s : Story) : Prop := ∀ id ∈ s.ids, ',' ∉ id.toList

/-- Stories with the same ids have the same identifier. -/
theorem identity_of_ids (ha : a.Sound) (hb : b.Sound) (h : SameIds a b) :
    a.identity = b.identity := by
  have hperm : a.ids.Perm b.ids :=
    (List.perm_ext_iff_of_nodup ha.distinct hb.distinct).mpr h
  rw [identity_eq_iff, joined, joined, Text.inOrder_congr hperm]
  have hlength := hperm.length_eq
  simp only [ids, List.length_map] at hlength
  exact ⟨hlength, rfl⟩

/-- Where the ids of one story have no commas, the joined ids tell which they are. -/
theorem ids_of_joined (ha : a.Sound) (hfree : a.CommaFree)
    (hlength : a.nodes.length = b.nodes.length) (h : a.joined = b.joined) : SameIds a b := by
  have hsorted : ∀ s : Story, (Text.inOrder s.ids).length = s.nodes.length := by
    intro s
    rw [(Text.inOrder_perm s.ids).length_eq, ids, List.length_map]
  have hfree' : ∀ l ∈ (Text.inOrder a.ids).map String.toList, ',' ∉ l := by
    intro l hl
    obtain ⟨id, hid, rfl⟩ := List.mem_map.mp hl
    exact hfree id ((Text.inOrder_perm a.ids).mem_iff.mp hid)
  have hne : (Text.inOrder a.ids).map String.toList ≠ [] := by
    have hinitial : a.initial ∈ Text.inOrder a.ids :=
      (Text.inOrder_perm a.ids).mem_iff.mpr (has_iff_mem.mp ha.begins)
    exact List.ne_nil_of_mem (List.mem_map_of_mem hinitial)
  have hlists : (Text.inOrder a.ids).map String.toList = (Text.inOrder b.ids).map String.toList := by
    apply Text.joined_injective hne _ hfree'
    · have htexts := congrArg String.toList h
      simpa [joined, String.toList_intercalate] using htexts
    · simp [hsorted, hlength]
  have hsame : Text.inOrder a.ids = Text.inOrder b.ids :=
    (List.map_inj_right fun _ _ => String.toList_inj.mp).mp hlists
  intro id
  rw [← (Text.inOrder_perm a.ids).mem_iff, hsame, (Text.inOrder_perm b.ids).mem_iff]

end Story

/-- A save that names its story is loaded only where the story has that name. -/
theorem Engine.loaded_names {e : Engine} {o : Save.LoadOptions} {data : Value}
    {raw : Entries Value} {id : String} (h : (e.attempt (.load o data)).1 = true)
    (hd : Save.document data = .ok raw) (hid : Save.namedStory? raw = some id) :
    id = e.story.identity := by
  change (succeeded (e.load o data)).1 = true at h
  rcases hl : e.load o data with ⟨r | r, e'⟩
  · rw [hl] at h
    cases h
  · rw [hl] at h
    rcases load_eq_ok hl with ⟨hr, _⟩ | ⟨l, _, hc, _⟩
    · exact absurd h (Bool.eq_false_iff.mp hr)
    · exact Save.check_named hc hd hid

namespace Story

/-- What identifiers tell apart, as long as their digests do: stories with different numbers of
nodes, or different joined ids. Stories with the same ids always have the same identifier, and
stories with different ones never, if the ids of either have no commas; then no engine loads a save
that carries the identifier of another story. -/
theorem identity_separates {a b : Story} (ha : a.Made) (hb : b.Made)
    (hd : Digest.short a.joined = Digest.short b.joined → a.joined = b.joined) :
    (a.identity = b.identity ↔ a.nodes.length = b.nodes.length ∧ a.joined = b.joined) ∧
      (SameIds a b → a.identity = b.identity) ∧
      (a.CommaFree ∨ b.CommaFree → (a.identity = b.identity ↔ SameIds a b) ∧
        ∀ (e : Engine) o data raw, e.story = b → Save.document data = .ok raw →
          Save.namedStory? raw = some a.identity → (e.attempt (.load o data)).1 = true →
            SameIds a b) := by
  have hidentity : a.identity = b.identity ↔
      a.nodes.length = b.nodes.length ∧ a.joined = b.joined := by
    rw [identity_eq_iff]
    constructor
    · intro h
      exact ⟨h.1, hd h.2⟩
    · intro h
      rw [h.1, h.2]
      exact ⟨rfl, rfl⟩
  refine ⟨hidentity, identity_of_ids ha.sound hb.sound, ?_⟩
  intro hfree
  have hids : a.identity = b.identity → SameIds a b := by
    intro h
    obtain ⟨hlength, hjoined⟩ := hidentity.mp h
    cases hfree with
    | inl hfree => exact ids_of_joined ha.sound hfree hlength hjoined
    | inr hfree =>
      intro id
      exact (ids_of_joined hb.sound hfree hlength.symm hjoined.symm id).symm
  refine ⟨⟨hids, identity_of_ids ha.sound hb.sound⟩, ?_⟩
  intro e o data raw hstory hdoc hnamed hloaded
  have hname : a.identity = e.story.identity := Engine.loaded_names hloaded hdoc hnamed
  exact hids (hstory ▸ hname)

def threeRooms (first second third : String) : Story :=
  ⟨third, [⟨first, "", []⟩, ⟨second, "", []⟩, ⟨third, "", []⟩]⟩

theorem threeRooms_made {first second third : String}
    (h₁ : Node.make (.text first) (.text "") [] = .ok ⟨first, "", []⟩)
    (h₂ : Node.make (.text second) (.text "") [] = .ok ⟨second, "", []⟩)
    (h₃ : Node.make (.text third) (.text "") [] = .ok ⟨third, "", []⟩)
    (h : make third (threeRooms first second third).nodes = .ok (threeRooms first second third)) :
    (threeRooms first second third).Made := by
  refine .built ?_ h
  intro n hn
  simp only [threeRooms, List.mem_cons, List.not_mem_nil, or_false] at hn
  rcases hn with rfl | rfl | rfl
  · exact ⟨_, _, _, h₁⟩
  · exact ⟨_, _, _, h₂⟩
  · exact ⟨_, _, _, h₃⟩

/-- Ids that contain commas can give two stories with different ids one identifier. -/
theorem identity_separates_commas :
    (threeRooms "a,b" "c" "hall").identity = (threeRooms "a" "b,c" "hall").identity ∧
      ¬ SameIds (threeRooms "a,b" "c" "hall") (threeRooms "a" "b,c" "hall") := by
  have hfirst : (threeRooms "a,b" "c" "hall").Made := threeRooms_made rfl rfl rfl rfl
  have hsecond : (threeRooms "a" "b,c" "hall").Made := threeRooms_made rfl rfl rfl rfl
  have hjoined : (threeRooms "a,b" "c" "hall").joined = (threeRooms "a" "b,c" "hall").joined := by
    have hsorted : ["a,b", "c", "hall"].Pairwise (· ≤ ·) := by decide
    have hsorted' : ["a", "b,c", "hall"].Pairwise (· ≤ ·) := by decide
    have hids : (threeRooms "a,b" "c" "hall").ids = ["a,b", "c", "hall"] := rfl
    have hids' : (threeRooms "a" "b,c" "hall").ids = ["a", "b,c", "hall"] := rfl
    rw [joined, joined, hids, hids', Text.inOrder_eq_self hsorted, Text.inOrder_eq_self hsorted']
    decide
  constructor
  · exact (identity_separates hfirst hsecond fun _ => hjoined).1.mpr ⟨rfl, hjoined⟩
  · intro hsame
    have hmem : "c" ∈ (threeRooms "a" "b,c" "hall").ids := (hsame "c").mp (by decide)
    revert hmem
    decide

end Story
end Storyline
