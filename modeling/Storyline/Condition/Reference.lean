import Storyline.Condition.Token

namespace Storyline.Condition
open Text

/-- A quote, blanks and a bracket close a quoted name; how many characters they take. -/
def closing? (quote : Char) : List Char → Option Nat
  | c :: rest =>
    let blanks := (rest.takeWhile isBlank).length
    if c == quote && (rest.drop blanks).head? == some ']' then some (blanks + 2) else none
  | [] => none

/-- The shortest quoted name on one line that is followed by its closing, and the length of both. -/
def quotedName? (quote : Char) : List Char → Option (List Char × Nat)
  | [] => none
  | c :: rest =>
    match closing? quote (c :: rest) with
    | some n => some ([], n)
    | none =>
      if c == '\n' then none
      else (quotedName? quote rest).map fun (name, n) => (c :: name, n + 1)

/-- The reference at the front of a text: the flag's name and the length of the reference. -/
def reference? (cs : List Char) : Option (String × Nat) :=
  if !("flags".toList.isPrefixOf cs) then none
  else match cs.drop 5 with
    | '.' :: c :: rest =>
      if isNameStart c then
        let name := c :: rest.takeWhile isNameCharacter
        some (String.ofList name, 6 + name.length)
      else none
    | '[' :: rest =>
      let blanks := (rest.takeWhile isBlank).length
      match rest.drop blanks with
      | quote :: body =>
        if quote == '"' || quote == '\'' then
          (quotedName? quote body).map fun (name, n) => (String.ofList name, 7 + blanks + n)
        else none
      | [] => none
    | _ => none

/-- The names of all references, where the next characters belong to the one before. -/
def references (skipped : Nat) : List Char → List String
  | [] => []
  | c :: rest =>
    match skipped with
    | skipped + 1 => references skipped rest
    | 0 =>
      match reference? (c :: rest) with
      | some (name, length) => name :: references (length - 1) rest
      | none => references 0 rest

/-- Each flag that a condition names, once, in the order of first mention. -/
def referencedFlags (expression : String) : List String :=
  (references 0 expression.toList).foldl
    (fun names name => if names.contains name then names else names ++ [name]) []

end Storyline.Condition
