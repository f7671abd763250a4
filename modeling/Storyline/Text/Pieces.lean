namespace Storyline.Text

/-- The pieces of a text between its separators. There is one more of them than of separators. -/
def pieces (separator : Char) : List Char → List (List Char)
  | [] => [[]]
  | c :: rest =>
    if c == separator then [] :: pieces separator rest
    else match pieces separator rest with
      | first :: more => (c :: first) :: more
      | [] => [[c]]

end Storyline.Text
