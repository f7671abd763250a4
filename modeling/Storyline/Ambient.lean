import Storyline.Text.Quoted
import Storyline.Time.Iso

namespace Storyline

/-- The clock in milliseconds and the number of ids given out. -/
structure Ambient where
  clock : Int
  issued : Nat

namespace Ambient

def stamp (a : Ambient) : String := Time.stamp (a.clock * 1000)

def seconds (a : Ambient) : Double := Time.seconds a.clock

def milliseconds (a : Ambient) : Double := Time.milliseconds a.clock

def id (a : Ambient) : String := String.ofList (Text.hexDigits 12 a.issued)

def issue (a : Ambient) : Ambient := { a with issued := a.issued + 1 }

end Ambient
end Storyline
