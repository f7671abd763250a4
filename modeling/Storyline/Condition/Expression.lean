import Storyline.Condition.Token

namespace Storyline.Condition

/-- The values that have a spelling of their own. -/
inductive Literal where
  | undefined
  | null
  | bool (b : Bool)
  | number (n : Number)
  | text (s : String)
  deriving DecidableEq

inductive Sign where
  | not
  | minus
  | plus
  deriving DecidableEq

inductive Expression where
  | literal (l : Literal)
  | name (s : String)
  | sign (s : Sign) (operand : Expression)
  | binary (o : Operator) (left right : Expression)
  | member (target key : Expression)
  | includes (target : Expression) (arguments : List Expression)

abbrev Tail := List (Operator × Expression)

/-- Groups the operators of one level from the left and leaves the looser ones. -/
def groupLevel (level : Nat) (first : Expression) : Tail → Expression × Tail
  | [] => (first, [])
  | (o, e) :: rest =>
    if o.level = level then groupLevel level (.binary o first e) rest
    else
      let (operand, tail) := groupLevel level e rest
      (first, (o, operand) :: tail)

/-- The tree of a chain of operands, with the tightest operators grouped first. -/
def group (first : Expression) (tail : Tail) : Expression :=
  ([5, 4, 3, 2, 1, 0].foldl (fun chain level => groupLevel level chain.1 chain.2) (first, tail)).1

end Storyline.Condition
