import Storyline.Json.Read
import Storyline.Schema.Problem

namespace Storyline.Service

inductive ReplyBody where
  | json (v : Value)
  | text (s : String)

structure Reply where
  status : Nat
  body : ReplyBody

namespace Reply

def broken : Reply := ⟨500, .text "Internal Server Error"⟩

/-- The levels that the encoder of replies takes inside a resource. -/
def maxLevels : Nat := 254

def writable (loose : Entries Value) : Bool := Value.fieldLevels loose ≤ maxLevels

/-- What is shown, with the part of it that has no declared shape. Numbers that JSON cannot write
are null, and what is too deep cannot be written at all. -/
def resource (status : Nat) (v : Value) (loose : Entries Value) : Reply :=
  if writable loose then ⟨status, .json v.withFinite⟩ else broken

def ok (v : Value) (loose : Entries Value := []) : Reply := resource 200 v loose

def created (v : Value) (loose : Entries Value) : Reply := resource 201 v loose

def empty : Reply := ⟨204, .text ""⟩

def refused (status : Nat) (detail : String) : Reply :=
  ⟨status, .json (.record [("detail", .text detail)])⟩

def notFound : Reply := refused 404 "Not Found"

def notAllowed : Reply := refused 405 "Method Not Allowed"

def noSession : Reply := refused 404 "Session not found."

end Reply

inductive BodyFault where
  | missing
  | notJson (mistake : Json.Mistake) (position : Nat)
  | unreadable
  | problems (ps : List Schema.Problem)

namespace BodyFault
open Schema

def placeValue : Place → Value
  | .field name => .text name
  | .item index => .int index

def detail (code message : String) (place : List Value) (input : Value)
    (context : Entries Value) : Value :=
  .record ([("type", .text code), ("loc", .list (.text "body" :: place)), ("msg", .text message),
    ("input", input)] ++ if context.isEmpty then [] else [("ctx", .record context)])

def contextOf : Mismatch → Entries Value
  | .tooShort => [("min_length", .int 1)]
  | _ => []

def problemDetail (p : Problem) : Value :=
  detail p.mismatch.code p.mismatch.message (p.place.map placeValue) p.input (contextOf p.mismatch)

def listed (details : List Value) : Reply :=
  let v := Value.record [("detail", .list details)]
  if v.isFinite then ⟨422, .json v⟩ else .broken

def reply : BodyFault → Reply
  | missing => listed [detail Mismatch.missing.code Mismatch.missing.message [] .null []]
  | notJson m position =>
    listed [detail "json_invalid" "JSON decode error" [.int position] (.record [])
      [("error", .text m.message)]]
  | unreadable => .refused 400 "There was an error parsing the body"
  | problems ps => listed (ps.map problemDetail)

end BodyFault

/-- The value in a body. An empty one is null, and a mark of its byte order is no part of it. -/
def readBody (body : String) : Except BodyFault Value :=
  if body.isEmpty then .ok .null
  else
    let cs := body.toList
    let cs := if cs.head? == some (Char.ofNat 0xFEFF) then cs.drop 1 else cs
    match Json.read (String.ofList cs) with
    | .ok v => .ok v
    | .error (.mistake m position _ _) => .error (.notJson m position)
    | .error (.number _) => .error .unreadable

def requireBody {α : Type} (read : Value → Schema.Checked α) (body : String) :
    Except BodyFault α := do
  match ← readBody body with
  | .null => .error .missing
  | v => (read v).mapError .problems

def optionalBody {α : Type} (default : α) (read : Value → Schema.Checked α) (body : String) :
    Except BodyFault α := do
  match ← readBody body with
  | .null => return default
  | v => (read v).mapError .problems

end Storyline.Service
