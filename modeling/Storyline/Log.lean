import Storyline.Failing
import Storyline.Text.LetterCase
import Storyline.Text.Quoted

namespace Storyline.Log

inductive Level where
  | trace
  | debug
  | info
  | success
  | warning
  | error
  | critical
  deriving DecidableEq

namespace Level

def name : Level → String
  | trace => "TRACE"
  | debug => "DEBUG"
  | info => "INFO"
  | success => "SUCCESS"
  | warning => "WARNING"
  | error => "ERROR"
  | critical => "CRITICAL"

def all : List Level := [trace, debug, info, success, warning, error, critical]

def ofName? (name : String) : Option Level := all.find? (·.name == name)

def gravity (l : Level) : Nat := all.idxOf l

end Level

structure NoLevel where
  name : String
  deriving DecidableEq

def NoLevel.message (f : NoLevel) : String := "Level " ++ Text.quoted f.name ++ " does not exist"

instance : Failing NoLevel := .simple .wrongValue NoLevel.message

def level (name : String) : Except NoLevel Level :=
  match Level.ofName? name with
  | some l => .ok l
  | none => .error ⟨name⟩

def threshold (name : String) : Except NoLevel Level := level (Text.upper name)

structure Message where
  level : Level
  text : String

def shown (threshold : Level) (ms : List Message) : List Message :=
  ms.filter fun m => threshold.gravity ≤ m.level.gravity

end Storyline.Log
