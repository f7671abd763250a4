import Storyline.Text.WordCharacter

namespace Storyline.Condition
open Text

def deniedNames : List String :=
  ["eval", "Function", "constructor", "prototype", "__proto__", "import", "require", "process",
   "global", "globalThis", "window", "document", "__builtins__", "__import__", "__class__",
   "__subclasses__", "__globals__", "__dict__", "__mro__"]

/-- Characters that continue a word, so that a name beside one is only a part of it. -/
def continuesWord (c : Char) : Bool := isWordCharacter c || c == '$'

def standsAtFront (name : String) (cs : List Char) : Bool :=
  name.toList.isPrefixOf cs && !((cs.drop name.length).head?.any continuesWord)

/-- A denied name stands in the text as a word; the character before the text is given. -/
def mentionsDenied (before : Option Char) : List Char → Bool
  | [] => false
  | c :: rest =>
    (!before.any continuesWord && deniedNames.any (standsAtFront · (c :: rest))) ||
      mentionsDenied (some c) rest

def isDenied (text : String) : Bool := mentionsDenied none text.toList

end Storyline.Condition
