import Storyline.Engine.Moving
import Storyline.Log
import Storyline.Service.Ask
import Storyline.Service.Resource
import Storyline.Story.Definition
import Storyline.Story.Demo

namespace Storyline

/-- Many sessions over one story. Each has its own engine; they share the store, the clock and the
ids, which an engine is lent for the time of a request. -/
structure Service where
  story : Story
  settings : Settings
  storage : Storage
  ambient : Ambient
  /-- The engines of sessions, under their ids. -/
  sessions : Entries Engine

namespace Service
open Engine (Outcome)

inductive StorySource where
  | given (story : Story)
  | file (path : String) (text : Option String)
  | demo

inductive StartFault where
  | story (fault : StoryFault)
  | number (fault : NumberFault)
  | log (fault : Log.NoLevel)

def StartFault.message : StartFault → String
  | story fault => "Configured story could not be loaded: " ++ fault.message
  | number fault => fault.message
  | log fault => fault.message

instance : Failing StartFault :=
  .sorted (fun
    | .story _ => .unavailable
    | .number f => Failing.sort f
    | .log f => Failing.sort f) StartFault.message

def storyFrom : StorySource → Except StartFault Story
  | .given story => .ok story
  | .demo => .ok Story.demo
  | .file path text =>
    (Story.ofFile false path text).mapError fun
      | .story f => .story f
      | .number f => .number f

/-- A service without sessions. It needs its story, and a level for its log. -/
def start (source : StorySource) (settings : Settings) (storage : Storage) (ambient : Ambient) :
    Except StartFault Service := do
  let story ← storyFrom source
  let _ ← (Log.threshold settings.logLevel).mapError .log
  return ⟨story, settings, storage, ambient, []⟩

def sessionId (a : Ambient) : String := a.id ++ String.ofList (List.replicate 20 '0')

/-- The reply to an outcome. A fault that nobody speaks of breaks the request. -/
def respond {α : Type} (o : Outcome α) (refuse : EngineFault → Option Reply)
    (go : α → Engine → Reply × Engine) : Reply × Engine :=
  match o with
  | (.ok a, e) => go a e
  | (.error f, e) => ((refuse f).getD .broken, e)

def silent : EngineFault → Option Reply := fun _ => none

def noWay (status : Nat) : EngineFault → Option Reply
  | .navigation f => some (.refused status f.message)
  | _ => none

def notTaken : EngineFault → Option Reply
  | .rejected r => some ⟨409, .json (rejectionResource r)⟩
  | f => noWay 400 f

def badValue (f : EngineFault) : Option Reply :=
  if f.sort = .wrongValue then some (.refused 400 f.message) else none

def present (id : String) (status : Nat) (e : Engine) : Reply × Engine :=
  respond (view id e) silent fun v e => (.resource status v.payload v.state.flags, e)

def resultReply (failure : Nat) (r : Save.Result) (e : Engine) : Reply × Engine :=
  match r.error with
  | some reason => (.refused failure reason, e)
  | none => (.ok (resultResource r) r.data, e)

def saveOptions : Save.SaveOptions := { events := true, checksum := true }

def loadStored (e : Engine) (key : String) : Reply × Engine :=
  match (e.storage.getD (.memory [])).holds (.text key) with
  | .error f =>
    if Failing.sort f = .wrongValue then (.refused 400 f.message, e) else (.broken, e)
  | .ok false => (.refused 404 ("No save named '" ++ key ++ "'."), e)
  | .ok true =>
    respond (e.loadFrom (.text key) { verifyChecksum := true, restoreEvents := true }) silent
      (resultReply 422)

def SessionAsk.run (id : String) (e : Engine) : SessionAsk → Reply × Engine
  | .look => present id 200 e
  | .close => (.empty, e)
  | .listChoices => respond (offersOf e) silent fun os e => (.ok (offersPayload os), e)
  | .choose index =>
    respond (e.choose (.int index) none) notTaken fun _ e => present id 200 e
  | .goTo node => respond (e.goTo node) (noWay 404) fun _ e => present id 200 e
  | .setFlag name value =>
    respond (e.setFlag (.text name) value) badValue fun _ e => present id 200 e
  | .reset => respond e.reset silent fun _ e => present id 200 e
  | .travel direction =>
    let (o, e) := e.travel direction
    respond (view id e) silent fun v e => (.ok (travelResource o v) v.state.flags, e)
  | .keep name description tags =>
    respond (e.createCheckpoint name { describes := true, description } tags) silent fun c e =>
      (.created (checkpointResource c) c.metadata, e)
  | .listCheckpoints =>
    (.ok (.record [("data", .list (e.shelf.checkpoints.map checkpointResource))])
      (e.shelf.checkpoints.flatMap Checkpoint.metadata), e)
  | .restore checkpoint =>
    respond (e.restore checkpoint) silent fun r e =>
      match r.error with
      | some reason => (.refused 404 reason, e)
      | none => present id 200 e
  | .save key => respond (e.saveTo (.text key) saveOptions) silent (resultReply 400)
  | .load key => loadStored e key
  | .exportSave =>
    match e.save saveOptions with
    | .ok envelope => (.ok (.record envelope) envelope, e)
    | .error _ => (.broken, e)
  | .importSave envelope =>
    respond (e.load { restoreEvents := true } (.record envelope)) silent (resultReply 422)

def newEngine (s : Service) (a : Ambient) (autosaves : Option Bool) : Option Engine := do
  let e ← (Engine.make s.story a { settings := s.settings, storage := some s.storage }).toOption
  match autosaves with
  | none => return e
  | some enabled =>
    match e.configureAutosave [("enabled", .bool enabled)] with
    | (.ok _, e) => return e
    | (.error _, _) => none

/-- A new session. Its id is given out even if there is no engine for it. -/
def openSession (s : Service) (autosaves : Option Bool) : Reply × Service :=
  let ambient := s.ambient.issue
  match s.newEngine ambient autosaves with
  | none => (.broken, { s with ambient })
  | some e =>
    let id := sessionId ambient
    let (reply, e) := present id 201 e
    (reply, { s with ambient := e.ambient, sessions := s.sessions.put id e })

def lend (s : Service) (e : Engine) : Engine :=
  { e with ambient := s.ambient, storage := some s.storage }

def takeBack (s : Service) (id : String) (e : Engine) : Service :=
  { s with
    ambient := e.ambient, storage := e.storage.getD s.storage, sessions := s.sessions.put id e }

def askSession (s : Service) (id : String) (ask : SessionAsk) : Reply × Service :=
  match s.sessions.get? id with
  | none => (.noSession, s)
  | some e =>
    let (reply, e) := ask.run id (s.lend e)
    match ask with
    | .close => (reply, { s with sessions := s.sessions.erase id })
    | _ => (reply, s.takeBack id e)

/-- The reply to what the service is asked, and the service afterwards. -/
def answer (s : Service) : Ask → Reply × Service
  | .openSession autosaves => s.openSession autosaves
  | .listSessions =>
    (.ok (.record [("data", .texts (Text.inOrder s.sessions.keys))]), s)
  | .of session ask => s.askSession session ask

/-- The reply to a request, and the service afterwards. Who asks for the head of a reply gets no
body. -/
def handle (s : Service) (r : Request) : Reply × Service :=
  match Ask.ofRequest r with
  | .error reply => (if r.method == "HEAD" then { reply with body := .text "" } else reply, s)
  | .ok ask => s.answer ask

end Service
end Storyline
