import Storyline.Value

namespace Storyline.Entries

def value (r : Entries Value) (key : String) : Value := (r.get? key).getD .null

def text? (r : Entries Value) (key : String) : Option String := (r.get? key).bind Value.asText?

def textOr (r : Entries Value) (key default : String) : String := (r.text? key).getD default

def record? (r : Entries Value) (key : String) : Option (Entries Value) :=
  (r.get? key).bind Value.asRecord?

def recordOr (r : Entries Value) (key : String) : Entries Value := (r.record? key).getD []

def list? (r : Entries Value) (key : String) : Option (List Value) :=
  (r.get? key).bind Value.asList?

def listOr (r : Entries Value) (key : String) : List Value := (r.list? key).getD []

def texts? (r : Entries Value) (key : String) : Option (List String) :=
  (r.list? key).map fun vs => vs.filterMap Value.asText?

def bool? (r : Entries Value) (key : String) : Option Bool :=
  match r.get? key with
  | some (.bool b) => some b
  | _ => none

def boolOr (r : Entries Value) (key : String) (default : Bool) : Bool := (r.bool? key).getD default

def number? (r : Entries Value) (key : String) : Option Number :=
  match r.get? key with
  | some (.number n) => some n
  | _ => none

def int? (r : Entries Value) (key : String) : Option Int :=
  match r.get? key with
  | some (.number (.int n)) => some n
  | some (.bool b) => some (if b then 1 else 0)
  | _ => none

def intOr (r : Entries Value) (key : String) (default : Int) : Int := (r.int? key).getD default

end Storyline.Entries
