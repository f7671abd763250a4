import Storyline.Report

namespace Storyline

inductive FailureSort where
  | wrongKind
  | wrongValue
  | noKey
  | noIndex
  | noMember
  | noName
  | overflow
  | malformed
  | forbidden
  | tooDeep
  | notJson
  | schema
  | system
  | directory
  | unavailable
  /-- A failure of the embedding application, under its own name. -/
  | foreign (name : String)
  deriving DecidableEq

/-- Failures have a sort and a message. Those of the narrative also have a report. -/
class Failing (ε : Type) where
  sort : ε → FailureSort
  message : ε → String
  report? : ε → Option Report

namespace Failing

abbrev simple {ε : Type} (sort : FailureSort) (message : ε → String) : Failing ε :=
  ⟨fun _ => sort, message, fun _ => none⟩

abbrev sorted {ε : Type} (sort : ε → FailureSort) (message : ε → String) : Failing ε :=
  ⟨sort, message, fun _ => none⟩

abbrev narrative {ε : Type} (report : ε → Report) : Failing ε :=
  ⟨fun e => .foreign (report e).name, fun e => (report e).message, fun e => some (report e)⟩

end Failing

instance : Failing NumberFault :=
  .sorted (fun f => if f.isOverflow then .overflow else .wrongValue) NumberFault.message

end Storyline
