import Storyline.Condition.Parser

namespace Storyline.Condition

def Sign.symbol : Sign → Symbol
  | not => .not
  | minus => .operator .subtract
  | plus => .operator .add

def Literal.lexeme : Literal → Lexeme
  | undefined => .name "undefined"
  | null => .name "null"
  | bool true => .name "true"
  | bool false => .name "false"
  | number n => .number n
  | text s => .text s

theorem Literal.lexeme_starts (l : Literal) :
    l.lexeme ≠ .symbol .closeParen ∧ signOf? l.lexeme = none := by
  rcases l with _ | _ | (_ | _) | _ | _ <;> exact ⟨nofun, rfl⟩

def signLevel : Nat := 6

def accessLevel : Nat := 7

def atomLevel : Nat := 8

def separated (arguments : List (List Lexeme)) : List Lexeme :=
  List.intercalate [.symbol .comma] arguments

theorem separated_singleton (ls : List Lexeme) : separated [ls] = ls := by
  simp [separated]

theorem separated_cons_cons (ls rs : List Lexeme) (rest : List (List Lexeme)) :
    separated (ls :: rs :: rest) = ls ++ .symbol .comma :: separated (rs :: rest) := by
  simp [separated, List.intercalate]

/-- The lexemes spell the expression where something of the level is wanted, with brackets and
signs nested no deeper than `depth`. Parentheses may stand where they are not needed. -/
inductive Phrase : (depth level : Nat) → Expression → List Lexeme → Prop
  | tighter {depth level : Nat} {e : Expression} {ls : List Lexeme} :
    Phrase depth (level + 1) e ls → Phrase depth level e ls
  | binary {depth : Nat} (o : Operator) {a b : Expression} {ls rs : List Lexeme} :
    Phrase depth o.level a ls → Phrase depth (o.level + 1) b rs →
    Phrase depth o.level (.binary o a b) (ls ++ .symbol (.operator o) :: rs)
  | sign {depth : Nat} (s : Sign) {e : Expression} {ls : List Lexeme} :
    Phrase depth signLevel e ls →
    Phrase (depth + 1) signLevel (.sign s e) (.symbol s.symbol :: ls)
  | dotted {depth : Nat} {e : Expression} {ls : List Lexeme} (name : String) :
    Phrase depth accessLevel e ls →
    Phrase depth accessLevel (.member e (.literal (.text name)))
      (ls ++ [.symbol .dot, .name name])
  | indexed {depth : Nat} {e key : Expression} {ls ks : List Lexeme} :
    Phrase (depth + bracketDepth) accessLevel e ls → Phrase depth 0 key ks →
    Phrase (depth + bracketDepth) accessLevel (.member e key)
      (ls ++ .symbol .openBracket :: (ks ++ [.symbol .closeBracket]))
  | called {depth : Nat} {e : Expression} {ls : List Lexeme}
      {arguments : List (Expression × List Lexeme)} :
    Phrase (depth + bracketDepth) accessLevel e ls →
    (∀ a ∈ arguments, Phrase depth 0 a.1 a.2) →
    Phrase (depth + bracketDepth) accessLevel (.includes e (arguments.map Prod.fst))
      (ls ++ .symbol .dot :: .name methodName :: .symbol .openParen ::
        (separated (arguments.map Prod.snd) ++ [.symbol .closeParen]))
  | literal {depth : Nat} (l : Literal) : Phrase depth atomLevel (.literal l) [l.lexeme]
  | name {depth : Nat} {s : String} : literalName? s = none →
    Phrase depth atomLevel (.name s) [.name s]
  | grouped {depth : Nat} {e : Expression} {ls : List Lexeme} :
    Phrase depth 0 e ls →
    Phrase (depth + bracketDepth) atomLevel e
      (.symbol .openParen :: (ls ++ [.symbol .closeParen]))

namespace Phrase
variable {depth level : Nat} {e : Expression} {ls : List Lexeme}

/-- What may be nested at all may be nested deeper. -/
theorem deeper (h : Phrase depth level e ls) {d : Nat} (hd : depth ≤ d) : Phrase d level e ls := by
  obtain ⟨k, rfl⟩ := Nat.exists_eq_add_of_le hd
  clear hd
  induction h with
  | tighter _ ih => exact .tighter ih
  | binary o _ _ iha ihb => exact .binary o iha ihb
  | sign s _ ih =>
    rw [Nat.add_right_comm]
    exact .sign s ih
  | dotted name _ ih => exact .dotted name ih
  | indexed _ _ ihe ihk =>
    rw [Nat.add_right_comm] at ihe ⊢
    exact .indexed ihe ihk
  | called _ _ ihe iha =>
    rw [Nat.add_right_comm] at ihe ⊢
    exact .called ihe iha
  | literal l => exact .literal l
  | name hs => exact .name hs
  | grouped _ ih =>
    rw [Nat.add_right_comm]
    exact .grouped ih

/-- What is tight enough for a level is tight enough for the levels below. -/
theorem loosen (h : Phrase depth level e ls) {l : Nat} (hl : l ≤ level) :
    Phrase depth l e ls := by
  obtain ⟨k, rfl⟩ := Nat.exists_eq_add_of_le hl
  clear hl
  induction k with
  | zero => exact h
  | succ k ih => exact ih (.tighter h)

/-- A phrase starts with what may start one, and above the signs with none of them. -/
theorem starts (h : Phrase depth level e ls) : ∃ l more, ls = l :: more ∧
    l ≠ .symbol .closeParen ∧ (accessLevel ≤ level → signOf? l = none) := by
  induction h with
  | tighter _ ih =>
    obtain ⟨l, more, rfl, hl, hs⟩ := ih
    exact ⟨l, more, rfl, hl, fun h => hs (Nat.le_succ_of_le h)⟩
  | binary o _ _ iha _ =>
    obtain ⟨l, more, rfl, hl, hs⟩ := iha
    exact ⟨l, _, rfl, hl, hs⟩
  | sign s _ _ =>
    refine ⟨_, _, rfl, ?_, fun h => absurd h (by decide)⟩
    cases s <;> simp [Sign.symbol]
  | dotted _ _ ih =>
    obtain ⟨l, more, rfl, hl, hs⟩ := ih
    exact ⟨l, _, rfl, hl, hs⟩
  | indexed _ _ ih _ =>
    obtain ⟨l, more, rfl, hl, hs⟩ := ih
    exact ⟨l, _, rfl, hl, hs⟩
  | called _ _ ih _ =>
    obtain ⟨l, more, rfl, hl, hs⟩ := ih
    exact ⟨l, _, rfl, hl, hs⟩
  | literal l => exact ⟨_, _, rfl, l.lexeme_starts.1, fun _ => l.lexeme_starts.2⟩
  | name _ => exact ⟨_, _, rfl, by simp, fun _ => rfl⟩
  | grouped _ _ => exact ⟨_, _, rfl, by simp, fun _ => rfl⟩

end Phrase

section Grouping

/-- A chain of operands after so many of the tightest levels of operators have been grouped. -/
def groupTightest : Nat → Expression × Tail → Expression × Tail
  | 0, chain => chain
  | n + 1, chain => groupLevel (5 - n) (groupTightest n chain).1 (groupTightest n chain).2

theorem group_eq (first : Expression) (tail : Tail) :
    group first tail = (groupTightest 6 (first, tail)).1 :=
  rfl

/-- The lexemes spell a tail: an operator before each operand. -/
inductive Tailed (operand : Expression → List Lexeme → Prop) : Tail → List Lexeme → Prop
  | nil : Tailed operand [] []
  | cons {o : Operator} {e : Expression} {tail : Tail} {ls rs : List Lexeme} :
    operand e ls → Tailed operand tail rs →
    Tailed operand ((o, e) :: tail) (.symbol (.operator o) :: (ls ++ rs))

theorem Tailed.append {operand : Expression → List Lexeme → Prop} {s t : Tail}
    {ls rs : List Lexeme} (h : Tailed operand s ls) (h' : Tailed operand t rs) :
    Tailed operand (s ++ t) (ls ++ rs) := by
  induction h with
  | nil => exact h'
  | cons he _ ih =>
    rw [List.cons_append, List.cons_append, List.append_assoc]
    exact .cons he ih

variable {depth level : Nat} {first e : Expression} {tail : Tail} {ls rs : List Lexeme}

/-- Grouping the operators of a level makes phrases of that level of phrases of the next. -/
theorem groupLevel_phrase (hf : Phrase depth level first ls)
    (ht : Tailed (Phrase depth (level + 1)) tail rs) : ∃ ls' rs', ls ++ rs = ls' ++ rs' ∧
      Phrase depth level (groupLevel level first tail).1 ls' ∧
      Tailed (Phrase depth level) (groupLevel level first tail).2 rs' := by
  induction ht generalizing first ls with
  | nil => exact ⟨ls, [], rfl, hf, .nil⟩
  | @cons o e tail es ts he _ ih =>
    rw [groupLevel]
    split
    · rename_i hl
      subst hl
      obtain ⟨ls', rs', heq, hf', ht'⟩ := ih (.binary o hf he)
      exact ⟨ls', rs', by rw [← heq]; simp, hf', ht'⟩
    · obtain ⟨es', ts', heq, he', ht'⟩ := ih (.tighter he)
      exact ⟨ls, .symbol (.operator o) :: (es' ++ ts'), by rw [heq], hf, .cons he' ht'⟩

/-- What is left of a chain has none of the operators that were grouped. -/
theorem groupLevel_rest (level : Nat) (first : Expression) (tail : Tail) :
    ∀ o ∈ (groupLevel level first tail).2.map Prod.fst,
      o ∈ tail.map Prod.fst ∧ o.level ≠ level := by
  induction tail generalizing first with
  | nil => simp [groupLevel]
  | cons x tail ih =>
    obtain ⟨o, e⟩ := x
    rw [groupLevel]
    split
    · intro p hp
      obtain ⟨hm, hne⟩ := ih _ p hp
      exact ⟨List.mem_cons_of_mem _ hm, hne⟩
    · rename_i hl
      intro p hp
      rcases List.mem_cons.mp hp with rfl | hp
      · exact ⟨List.mem_cons_self, hl⟩
      · obtain ⟨hm, hne⟩ := ih _ p hp
        exact ⟨List.mem_cons_of_mem _ hm, hne⟩

theorem Operator.level_lt (o : Operator) : o.level < signLevel := by
  cases o <;> decide

theorem groupTightest_phrase {n : Nat} (hn : n ≤ signLevel) (hf : Phrase depth signLevel first ls)
    (ht : Tailed (Phrase depth signLevel) tail rs) : ∃ ls' rs', ls ++ rs = ls' ++ rs' ∧
      Phrase depth (signLevel - n) (groupTightest n (first, tail)).1 ls' ∧
      Tailed (Phrase depth (signLevel - n)) (groupTightest n (first, tail)).2 rs' := by
  induction n with
  | zero => exact ⟨ls, rs, rfl, hf, ht⟩
  | succ n ih =>
    obtain ⟨ls', rs', heq, hf', ht'⟩ := ih (Nat.le_of_succ_le hn)
    have hlevel : signLevel - n = 5 - n + 1 := by
      unfold signLevel at hn ⊢
      omega
    rw [hlevel] at hf' ht'
    rw [heq, show signLevel - (n + 1) = 5 - n from Nat.succ_sub_succ_eq_sub 5 n]
    exact groupLevel_phrase (.tighter hf') ht'

theorem groupTightest_rest {n : Nat} (hn : n ≤ signLevel) (first : Expression) (tail : Tail) :
    ∀ o ∈ (groupTightest n (first, tail)).2.map Prod.fst, o.level < signLevel - n := by
  induction n with
  | zero => exact fun o _ => o.level_lt
  | succ n ih =>
    intro o ho
    obtain ⟨hm, hne⟩ := groupLevel_rest _ _ _ o ho
    have hlt := ih (Nat.le_of_succ_le hn) o hm
    unfold signLevel at hn hlt ⊢
    omega

/-- A chain that is read is grouped to a phrase. -/
theorem group_phrase (hf : Phrase depth signLevel first ls)
    (ht : Tailed (Phrase depth signLevel) tail rs) :
    Phrase depth 0 (group first tail) (ls ++ rs) := by
  obtain ⟨ls', rs', heq, hf', ht'⟩ := groupTightest_phrase (Nat.le_refl _) hf ht
  have hrest := groupTightest_rest (Nat.le_refl signLevel) first tail
  cases hr : (groupTightest signLevel (first, tail)).2 with
  | nil =>
    rw [hr] at ht'
    cases ht'
    rw [heq, List.append_nil]
    exact hf'
  | cons x more =>
    rw [hr] at hrest
    exact absurd (hrest x.1 List.mem_cons_self) (Nat.not_lt_zero _)

theorem groupLevel_append {o : Operator} (ho : o.level ≠ level) (s t : Tail) :
    groupLevel level first (s ++ (o, e) :: t) =
      ((groupLevel level first s).1,
        (groupLevel level first s).2 ++
          (o, (groupLevel level e t).1) :: (groupLevel level e t).2) := by
  induction s generalizing first with
  | nil => simp [groupLevel, ho]
  | cons x s ih =>
    obtain ⟨p, f⟩ := x
    rw [List.cons_append, groupLevel, groupLevel]
    split
    · exact ih
    · simp [ih]

/-- An operator that is looser than what is grouped keeps the two sides apart. -/
theorem groupTightest_append {n : Nat} {o : Operator} (ho : o.level < signLevel - n) (s t : Tail) :
    groupTightest n (first, s ++ (o, e) :: t) =
      ((groupTightest n (first, s)).1, (groupTightest n (first, s)).2 ++
        (o, (groupTightest n (e, t)).1) :: (groupTightest n (e, t)).2) := by
  induction n with
  | zero => rfl
  | succ n ih =>
    unfold signLevel at ho ih
    rw [groupTightest, ih (by omega)]
    exact groupLevel_append (by omega) _ _

/-- An operator of the level that is grouped takes what stands before it as its left side. -/
theorem groupLevel_snoc {o : Operator} {a b : Expression} {s : Tail}
    (h : groupLevel o.level first s = (a, [])) :
    groupLevel o.level first (s ++ [(o, b)]) = (.binary o a b, []) := by
  induction s generalizing first with
  | nil =>
    cases h
    simp [groupLevel]
  | cons x s ih =>
    obtain ⟨p, f⟩ := x
    rw [groupLevel] at h
    rw [List.cons_append, groupLevel]
    split at h
    · rename_i hp
      rw [if_pos hp]
      exact ih h
    · cases h

end Grouping
end Storyline.Condition
