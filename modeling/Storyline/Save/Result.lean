import Storyline.Value

namespace Storyline.Save

structure Result where
  error : Option String
  data : Entries Value
  warnings : List String

namespace Result

def ok (data : Entries Value) (warnings : List String) : Result := ⟨none, data, warnings⟩

def failure (error : String) (warnings : List String) : Result := ⟨some error, [], warnings⟩

def success (r : Result) : Bool := r.error.isNone

def payload (r : Result) : Value :=
  .record ([("success", .bool r.success)] ++
    (r.error.map fun s => ("error", Value.text s)).toList ++
    (if r.data.isEmpty then [] else [("data", .record r.data)]) ++
    (if r.warnings.isEmpty then [] else [("warnings", .texts r.warnings)]))

end Result

def noTime : Value := .double (.zero false)

end Storyline.Save
