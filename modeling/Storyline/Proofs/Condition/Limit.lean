import Storyline.Condition.Parser

namespace Storyline.Condition

/-- The first result is the second, unless the depth did not suffice for it. -/
def Limited {α : Type} (r r' : Except SyntaxFault α) : Prop := r = .error .tooDeep ∨ r = r'

section
variable {α β : Type} {r r' : Except SyntaxFault α}

theorem Limited.same (r : Except SyntaxFault α) : Limited r r := .inr rfl

theorem Limited.bind {next next' : α → Except SyntaxFault β} (h : Limited r r')
    (hn : ∀ a, Limited (next a) (next' a)) : Limited (r >>= next) (r' >>= next') := by
  rcases h with rfl | rfl
  · exact .inl rfl
  · cases r with
    | error f => exact .same _
    | ok a => exact hn a

/-- What takes some of the depth, where there is more of it. -/
theorem Limited.ite {cost d d' : Nat} (hd : d ≤ d') (h : Limited r r') :
    Limited (if d < cost then .error .tooDeep else r)
      (if d' < cost then .error .tooDeep else r') := by
  by_cases hc : d < cost
  · exact .inl (if_pos hc)
  · rw [if_neg hc, if_neg (by omega)]
    exact h

end

/-- With so much fuel, the parts of the parser are limited by the depth alone. -/
structure Limits (endAt fuel : Nat) : Prop where
  expression : ∀ {d d' : Nat} ts, d ≤ d' →
    Limited (parseExpression endAt fuel d ts) (parseExpression endAt fuel d' ts)
  tail : ∀ {d d' : Nat} ts, d ≤ d' →
    Limited (parseTail endAt fuel d ts) (parseTail endAt fuel d' ts)
  operand : ∀ {d d' : Nat} ts, d ≤ d' →
    Limited (parseOperand endAt fuel d ts) (parseOperand endAt fuel d' ts)
  primary : ∀ {d d' : Nat} ts, d ≤ d' →
    Limited (parsePrimary endAt fuel d ts) (parsePrimary endAt fuel d' ts)
  access : ∀ {d d' : Nat} target ts, d ≤ d' →
    Limited (parseAccess endAt fuel d target ts) (parseAccess endAt fuel d' target ts)
  arguments : ∀ {d d' : Nat} ts, d ≤ d' →
    Limited (parseArguments endAt fuel d ts) (parseArguments endAt fuel d' ts)
  argumentList : ∀ {d d' : Nat} ts, d ≤ d' →
    Limited (parseArgumentList endAt fuel d ts) (parseArgumentList endAt fuel d' ts)

variable {endAt fuel d d' : Nat} {ts : List Token}

theorem parseExpression_limited (h : Limits endAt fuel) (hd : d ≤ d') :
    Limited (parseExpression endAt (fuel + 1) d ts) (parseExpression endAt (fuel + 1) d' ts) := by
  rw [parseExpression, parseExpression]
  exact (h.operand ts hd).bind fun _ => (h.tail _ hd).bind fun _ => .same _

theorem parseTail_limited (h : Limits endAt fuel) (hd : d ≤ d') :
    Limited (parseTail endAt (fuel + 1) d ts) (parseTail endAt (fuel + 1) d' ts) := by
  cases ts with
  | nil =>
    simp only [parseTail]
    exact .same _
  | cons t rest =>
    rw [parseTail, parseTail]
    split
    · exact .same _
    · exact (h.operand rest hd).bind fun _ => (h.tail _ hd).bind fun _ => .same _

theorem parseOperand_limited (h : Limits endAt fuel) (hd : d ≤ d') :
    Limited (parseOperand endAt (fuel + 1) d ts) (parseOperand endAt (fuel + 1) d' ts) := by
  cases ts with
  | nil =>
    rw [parseOperand, parseOperand]
    exact .same _
  | cons t rest =>
    rw [parseOperand, parseOperand]
    dsimp only
    split
    · simp only [← Nat.lt_one_iff]
      exact Limited.ite hd ((h.operand rest (Nat.sub_le_sub_right hd 1)).bind fun _ => .same _)
    · exact (h.primary _ hd).bind fun _ => h.access _ _ hd

theorem parsePrimary_limited (h : Limits endAt fuel) (hd : d ≤ d') :
    Limited (parsePrimary endAt (fuel + 1) d ts) (parsePrimary endAt (fuel + 1) d' ts) := by
  unfold parsePrimary
  split
  · exact .same _
  · exact .same _
  · exact .same _
  · exact Limited.ite hd
      ((h.expression _ (Nat.sub_le_sub_right hd bracketDepth)).bind fun _ => .same _)
  · exact .same _

theorem parseAccess_limited {target : Expression} (h : Limits endAt fuel) (hd : d ≤ d') :
    Limited (parseAccess endAt (fuel + 1) d target ts)
      (parseAccess endAt (fuel + 1) d' target ts) := by
  unfold parseAccess
  split
  · split
    · exact .same _
    · split
      · exact .same _
      · exact Limited.ite hd
          ((h.arguments _ (Nat.sub_le_sub_right hd bracketDepth)).bind fun _ => h.access _ _ hd)
    · exact h.access _ _ hd
    · exact .same _
  · exact Limited.ite hd
      ((h.expression _ (Nat.sub_le_sub_right hd bracketDepth)).bind fun _ =>
        (Limited.same _).bind fun _ => h.access _ _ hd)
  · exact .same _
  · exact .same _

theorem parseArguments_limited (h : Limits endAt fuel) (hd : d ≤ d') :
    Limited (parseArguments endAt (fuel + 1) d ts) (parseArguments endAt (fuel + 1) d' ts) := by
  unfold parseArguments
  split
  · exact .same _
  · exact h.argumentList _ hd

theorem parseArgumentList_limited (h : Limits endAt fuel) (hd : d ≤ d') :
    Limited (parseArgumentList endAt (fuel + 1) d ts)
      (parseArgumentList endAt (fuel + 1) d' ts) := by
  rw [parseArgumentList, parseArgumentList]
  refine (h.expression ts hd).bind fun first => ?_
  dsimp only
  split
  · exact .same _
  · exact .same _
  · exact (h.argumentList _ hd).bind fun _ => .same _
  · exact .same _

theorem limits (endAt fuel : Nat) : Limits endAt fuel := by
  induction fuel with
  | zero =>
    constructor <;> intros <;> left <;>
      simp only [parseExpression, parseTail, parseOperand, parsePrimary, parseAccess,
        parseArguments, parseArgumentList]
  | succ fuel ih =>
    exact {
      expression := fun _ hd => parseExpression_limited ih hd
      tail := fun _ hd => parseTail_limited ih hd
      operand := fun _ hd => parseOperand_limited ih hd
      primary := fun _ hd => parsePrimary_limited ih hd
      access := fun _ _ hd => parseAccess_limited ih hd
      arguments := fun _ hd => parseArguments_limited ih hd
      argumentList := fun _ hd => parseArgumentList_limited ih hd }

end Storyline.Condition
