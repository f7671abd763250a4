import Storyline.Schema.Record
import Storyline.Schema.Scalar
import Storyline.Service.Reply
import Storyline.Text.Percent
import Storyline.Timeline

namespace Storyline.Service
open Schema

inductive SessionAsk where
  | look
  | close
  | listChoices
  | choose (index : Int)
  | goTo (node : String)
  | setFlag (name : String) (value : Value)
  | reset
  | travel (direction : Timeline.Direction)
  | keep (name description : Option String) (tags : List String)
  | listCheckpoints
  | restore (checkpoint : String)
  | save (key : String)
  | load (key : String)
  | exportSave
  | importSave (envelope : Entries Value)

inductive Ask where
  | openSession (autosaves : Option Bool)
  | listSessions
  | of (session : String) (ask : SessionAsk)

/-- A request with an escaped path, and the text of its body. -/
structure Request where
  method : String
  path : String
  body : String

def openBody (body : String) : Except BodyFault Ask :=
  optionalBody (.openSession none) (object fun fields =>
    .ok Ask.openSession |> fill (plainField fields "autosave" none (optional bool))) body

def chooseBody : String → Except BodyFault SessionAsk :=
  requireBody <| object fun fields =>
    .ok SessionAsk.choose |> fill (plainRequired fields "index" integer)

def goToBody : String → Except BodyFault SessionAsk :=
  requireBody <| object fun fields =>
    .ok SessionAsk.goTo |> fill (plainRequired fields "node_id" shownText)

def flagBody (name : String) : String → Except BodyFault SessionAsk :=
  requireBody <| object fun fields =>
    .ok (SessionAsk.setFlag name) |> fill (plainField fields "value" .null .ok)

def keepBody : String → Except BodyFault SessionAsk :=
  requireBody <| object fun fields =>
    .ok SessionAsk.keep
      |> fill (plainField fields "name" none (optional text))
      |> fill (plainField fields "description" none (optional text))
      |> fill (plainField fields "tags" [] (list text))

def importBody : String → Except BodyFault SessionAsk :=
  requireBody fun v => .ok SessionAsk.importSave |> fill (record v)

abbrev Offers := List (String × (String → Except BodyFault Ask))

def plainly {α : Type} (a : α) : String → Except BodyFault α := fun _ => .ok a

def sessionOffers : List String → List (String × (String → Except BodyFault SessionAsk))
  | [] => [("GET", plainly .look), ("DELETE", plainly .close)]
  | ["choices"] => [("GET", plainly .listChoices), ("POST", chooseBody)]
  | ["navigate"] => [("POST", goToBody)]
  | ["flags", name] => [("PUT", flagBody name)]
  | ["reset"] => [("POST", plainly .reset)]
  | ["undo"] => [("POST", plainly (.travel .undo))]
  | ["redo"] => [("POST", plainly (.travel .redo))]
  | ["checkpoints"] => [("POST", keepBody), ("GET", plainly .listCheckpoints)]
  | ["checkpoints", id, "restore"] => [("POST", plainly (.restore id))]
  | ["saves", key] => [("POST", plainly (.save key))]
  | ["saves", key, "load"] => [("POST", plainly (.load key))]
  | ["export"] => [("GET", plainly .exportSave)]
  | ["import"] => [("POST", importBody)]
  | _ => []

/-- What a path offers by its steps. A path with an empty step offers nothing. -/
def offers (steps : List String) : Offers :=
  if steps.any String.isEmpty then []
  else match steps with
    | ["api", "sessions"] => [("POST", openBody), ("GET", plainly .listSessions)]
    | "api" :: "sessions" :: id :: rest =>
      (sessionOffers rest).map fun (method, ask) => (method, fun body => (ask body).map (.of id))
    | _ => []

def withoutDots : List (List Char) → List (List Char)
  | steps => steps.foldl (fun done step =>
      if step == ['.'] then done
      else if step == ['.', '.'] then
        if done == [] || done == [[]] then done else done.dropLast
      else done ++ [step]) []

def plainPath (path : String) : List Char :=
  let path := path.toList.takeWhile fun c => c != '?' && c != '#'
  let steps := withoutDots (Text.pieces '/' path)
  (Text.percentDecoded (String.ofList (['/'].intercalate steps))).toList

def stepsOf (path : List Char) : List String :=
  match Text.pieces '/' path with
  | [] :: rest => rest.map String.ofList
  | _ => []

def offersAt (path : String) : Offers :=
  let plain := plainPath path
  match offers (stepsOf plain) with
  | [] => offers (stepsOf (plain.reverse.dropWhile (· == '/')).reverse)
  | found => found

def Ask.ofRequest (r : Request) : Except Reply Ask :=
  match offersAt r.path with
  | [] => .error .notFound
  | found =>
    match found.lookup r.method with
    | none => .error .notAllowed
    | some ask => (ask r.body).mapError BodyFault.reply

end Storyline.Service
