import Storyline.Text.Pieces

namespace Storyline

/-- The slashes in front, and the names on the way. -/
structure Location where
  root : String
  names : List String
  deriving DecidableEq

namespace Location

def rootOf (cs : List Char) : String :=
  match (cs.takeWhile (· == '/')).length with
  | 0 => ""
  | 2 => "//"
  | _ => "/"

def ofText (s : String) : Location :=
  ⟨rootOf s.toList, ((Text.pieces '/' s.toList).map String.ofList).filter fun name =>
    name != "" && name != "."⟩

def text (l : Location) : String :=
  if l.root.isEmpty && l.names.isEmpty then "." else l.root ++ "/".intercalate l.names

/-- A leading tilde stands for the home folder. Of others only the home of root is known. -/
def expand? (l home : Location) : Option Location :=
  match l.root.isEmpty, l.names with
  | true, "~" :: rest => some { home with names := home.names ++ rest }
  | true, "~root" :: rest => some ⟨"/", "root" :: rest⟩
  | true, name :: _ => if name.toList.head? == some '~' then none else some l
  | _, _ => some l

end Location
end Storyline
