import Switchboard.Card.Document
import Switchboard.Http.MediaType
import Switchboard.Http.Percent
import Switchboard.Inbound.Meta
import Switchboard.Inbound.Telegram
import Switchboard.Inbound.TikTok
import Switchboard.Inbound.WebChat
import Switchboard.Inbound.WhatsApp
import Switchboard.Inbound.X
import Switchboard.Json.Expect
import Switchboard.Service.Access
import Switchboard.Service.Ingest

/-!
# Routes

The resources of the service and the replies to requests for them: webhooks of the platforms, the
widget of the web chat, and what operators use.
-/

namespace Switchboard.Service

inductive Resource where
  | health
  | whatsAppHook
  | metaHook
  | telegramHook
  | xHook
  | tikTokHook
  | widgetPosts
  /-- The history of a session, whose name is part of the path. -/
  | widgetHistory (session : String)
  | card (id : String)
  | cardMessages (id : String)
  | activeBot
  deriving DecidableEq, Repr

/-- The resource at a path. Names in a path may be empty, but not at its end. -/
def Resource.ofPath? (path : String) : Option Resource :=
  match (Text.splitAt (· = '/') path.toList).map String.ofList with
  | ["", "healthz"] => some health
  | ["", "webhooks", "whatsapp"] => some whatsAppHook
  | ["", "webhooks", "meta"] => some metaHook
  | ["", "webhooks", "telegram"] => some telegramHook
  | ["", "webhooks", "x"] => some xHook
  | ["", "webhooks", "tiktok"] => some tikTokHook
  | ["", "webchat", "messages"] => some widgetPosts
  | ["", "webchat", session, "messages"] => some (widgetHistory session)
  | ["", "api", "cards", id] => if id.isEmpty then none else some (card id)
  | ["", "api", "cards", id, "messages"] => some (cardMessages id)
  | ["", "api", "bots", "active"] => some activeBot
  | _ => none

/-- What a handler gives: a reply, or a fault or refusal in its place. -/
abbrev Handler := World → Except Http.Reply Http.Reply × World

namespace Routes

def fail (f : Fault) : Except Http.Reply Http.Reply := .error f.reply

/-- A reply that a request does not get past. -/
def refuse (status : Nat) (text : String) : Http.Reply := .text status text

def badPath : Http.Reply := refuse 400 "Invalid URL"

def badQuery : Http.Reply := refuse 400 "Failed to deserialize query string"

def notJson : Http.Reply := refuse 415 "Expected request with `Content-Type: application/json`"

def malformed : Http.Reply := refuse 400 "Failed to parse the request body as JSON"

def misshapen : Http.Reply := refuse 422 "Failed to deserialize the JSON body into the target type"

/-- The part of a path that names something. -/
def pathName (s : String) : Except Http.Reply String :=
  match Http.pathPart? s with
  | some name => .ok name
  | none => .error badPath

/-- A value of the query that may be given once. -/
def queryValue (r : Http.Request) (name : String) : Except Http.Reply (Option String) :=
  match Http.onceGiven? (Http.queryPairs r.query) name with
  | some value => .ok value
  | none => .error badQuery

def handshake (r : Http.Request) : Except Http.Reply Handshake := do
  return ⟨← queryValue r "hub.mode", ← queryValue r "hub.verify_token",
    ← queryValue r "hub.challenge"⟩

/-- The number of lines a widget has already. -/
def afterOf (r : Http.Request) : Except Http.Reply Nat := do
  match ← queryValue r "after" with
  | none => return 0
  | some s =>
    match Decimal.readNat? UInt64.size s with
    | some n => return n
    | none => .error badQuery

/-- The body of a webhook, whatever its content type. -/
def payload (r : Http.Request) : Except Fault Json :=
  match (Text.ofUtf8? r.body).bind Json.read? with
  | some v => .ok v
  | none => .error (.badRequest "invalid JSON")

def isJson (r : Http.Request) : Bool := (r.plainHeader? "content-type").any Http.namesJson

/-- A body that is declared as JSON. -/
def jsonBody (r : Http.Request) : Except Http.Reply Json :=
  if !isJson r then .error notJson
  else match (Text.ofUtf8? r.body).bind Json.read? with
    | some v => .ok v
    | none => .error malformed

/-- A body that is declared as JSON and holds a record of texts. -/
def textsBody (fields : List Json.TextField) (r : Http.Request) : Except Http.Reply Json.Texts :=
  if !isJson r then .error notJson
  else match Json.readTexts fields (Text.ofUtf8Lossy r.body).toList with
    -- a fault in the record is found before bytes that are no text
    | .ok texts => if (Text.ofUtf8? r.body).isSome then .ok texts else .error malformed
    | .error .malformed => .error malformed
    | .error .misshapen => .error misshapen

def subscribe (expected : Option String) (r : Http.Request) : Except Http.Reply Http.Reply := do
  match (← handshake r).reply expected with
  | .ok challenge => return .text 200 challenge
  | .error f => fail f

/-- Checks a webhook and reads its payload. -/
def delivery (check : Except Fault Unit) (r : Http.Request) : Except Fault Json := do
  check
  payload r

def whatsApp (s : Setup) (r : Http.Request) : Handler := fun w =>
  match delivery (checkSignature s.secrets.whatsAppAppSecret r) r with
  | .error f => (fail f, w)
  | .ok v =>
    match w.tick.ingestAll s (Inbound.WhatsApp.messages (s.clock w.readings) v) with
    | (.error f, w) => (fail f, w)
    | (.ok reports, w) =>
      match w.markAllRead s .whatsApp (Inbound.WhatsApp.readers v) with
      | (.error f, w) => (fail f, w)
      | (.ok read, w) =>
        (.ok (.json 200 (Json.object [
          ("messages", .arr (reports.map Report.toJson)), ("readReceipts", Json.ofInt read)])), w)

/-- Takes in the messages of a delivery; the reply does not tell what became of them. -/
def takeIn (s : Setup) (messages : Time.Instant → List Message) (done : Http.Reply) : Handler :=
  fun w =>
  match w.tick.ingestAll s (messages (s.clock w.readings)) with
  | (.error f, w) => (fail f, w)
  | (.ok _, w) => (.ok done, w)

def metaDelivery (s : Setup) (r : Http.Request) : Handler := fun w =>
  match delivery (checkSignature s.secrets.metaAppSecret r) r with
  | .error f => (fail f, w)
  | .ok v => takeIn s (fun now => Inbound.Meta.messages now v) (.text 200 "EVENT_RECEIVED") w

def telegram (s : Setup) (r : Http.Request) : Handler := fun w =>
  match delivery (checkToken s.secrets.telegramToken r) r with
  | .error f => (fail f, w)
  | .ok v => takeIn s (fun now => [Inbound.Telegram.message now v]) (.empty 200) w

def xDelivery (s : Setup) (r : Http.Request) : Handler := fun w =>
  match jsonBody r with
  | .error reply => (.error reply, w)
  | .ok v => takeIn s (fun now => Inbound.X.messages now v) (.empty 200) w

def tikTok (s : Setup) (r : Http.Request) : Handler := fun w =>
  match jsonBody r with
  | .error reply => (.error reply, w)
  | .ok v => takeIn s (fun now => [Inbound.TikTok.message now v]) (.empty 200) w

/-- A post of a widget must name its session. -/
def widgetPost (s : Setup) (r : Http.Request) : Handler := fun w =>
  match jsonBody r with
  | .error reply => (.error reply, w)
  | .ok v =>
    match w.tick.ingest s (Inbound.WebChat.message (s.clock w.readings) v) with
    | (.error f, w) => (fail f, w)
    | (.ok report, w) => (.ok (.json 200 report.toJson), w)

/-- The lines of a session from a number on. -/
def history (session : String) (r : Http.Request) (w : World) : Except Http.Reply Http.Reply := do
  let session ← pathName session
  let skipped ← afterOf r
  match w.desk.find? .webChat session with
  | none => fail (.notFound ("session " ++ session))
  | some c =>
    return .document (((c.entries.drop skipped).mapM Entry.toJson?).map Json.arr)

def cardDocument (id : String) (w : World) : Except Http.Reply Http.Reply := do
  let id ← pathName id
  match w.desk.card? id with
  | none => fail (.notFound ("card " ++ id))
  | some c => return .document c.toJson?

/-- An operator's message. -/
structure OperatorMessage where
  text : String
  agentId : Option String

def operatorMessage (r : Http.Request) : Except Http.Reply OperatorMessage := do
  let texts ← textsBody [⟨"text", false⟩, ⟨"agentId", true⟩] r
  return ⟨((texts.lookup "text").bind id).getD "", (texts.lookup "agentId").bind id⟩

/-- The card and the message of an operator's request. -/
def operatorRequest (id : String) (r : Http.Request) :
    Except Http.Reply (String × OperatorMessage) := do
  return (← pathName id, ← operatorMessage r)

/-- How an operator's message reaches a contact. -/
structure Delivery where
  platform : Platform
  channel : Channel
  recipient : String

/-- An operator's message goes to the platform that the contact last wrote from. -/
def deliveryOf (s : Setup) (c : Card) : Except Fault Delivery :=
  match c.lastPlatform with
  | none => .error (.badRequest "card has no inbound channel yet")
  | some p =>
    match s.channels p with
    | none => .error (.badRequest ("no adapter registered for " ++ p.name))
    | some channel =>
      match c.recipient? p with
      | none => .error (.badRequest ("card has no " ++ p.name ++ " address"))
      | some recipient => .ok ⟨p, channel, recipient⟩

/-- Checks an operator's message, and finds how it is delivered. -/
def prepare (s : Setup) (w : World) (id text : String) : Except Fault Delivery :=
  if text.isEmpty then .error (.badRequest "text is required")
  else match w.desk.card? id with
    | none => .error (.notFound ("card " ++ id))
    | some c => deliveryOf s c

/-- Sends an operator's message, and writes it on the card. -/
def operatorSend (s : Setup) (id : String) (r : Http.Request) : Handler := fun w =>
  match operatorRequest id r with
  | .error reply => (.error reply, w)
  | .ok (id, m) =>
    let text := Text.trim m.text
    -- all checks come before the one send
    match prepare s w id text with
    | .error f => (fail f, w)
    | .ok d =>
      match w.attempt d.channel d.platform (.text d.recipient text) with
      | (.error e, w) => (fail (.delivery e), w.count (.deliveryFailed d.platform))
      | (.ok _, w) =>
        match w.onDesk s.clock fun d now => d.appendOutbound id (.agent m.agentId) text now with
        | (.error e, w) => (fail (.desk e), w)
        | (.ok c, w) => (.ok (.document c.toJson?), w)

/-- Chooses the bot that answers from now on. -/
def chooseBot (r : Http.Request) : Handler := fun w =>
  match textsBody [⟨"botId", false⟩] r with
  | .error reply => (.error reply, w)
  | .ok texts =>
    let id := ((texts.lookup "botId").bind id).getD ""
    match w.roster.choose id with
    | .error e => (fail (.desk e), w)
    | .ok roster =>
      (.ok (.json 200 (Json.object [("botId", .str id)])), { w with roster := roster })

/-- The handler of a resource for a method, if the resource allows the method. -/
def handler? (s : Setup) (r : Http.Request) (resource : Resource) (method : String) :
    Option Handler :=
  let plain := fun (reply : World → Except Http.Reply Http.Reply) => some fun w => (reply w, w)
  match resource, method with
  | .health, "GET" => plain fun _ => .ok (.empty 204)
  | .whatsAppHook, "GET" => plain fun _ => subscribe s.secrets.whatsAppVerifyToken r
  | .metaHook, "GET" => plain fun _ => subscribe s.secrets.metaVerifyToken r
  | .whatsAppHook, "POST" => some (whatsApp s r)
  | .metaHook, "POST" => some (metaDelivery s r)
  | .telegramHook, "POST" => some (telegram s r)
  | .xHook, "POST" => some (xDelivery s r)
  | .tikTokHook, "POST" => some (tikTok s r)
  | .widgetPosts, "POST" => some (widgetPost s r)
  | .widgetHistory session, "GET" => plain (history session r)
  | .card id, "GET" => plain (cardDocument id)
  | .cardMessages id, "POST" => some (operatorSend s id r)
  | .activeBot, "PUT" => some (chooseBot r)
  | _, _ => none

end Routes

namespace Setup

/-- Replies to a request. A request for the head of a resource is answered like one for the
resource, without content. -/
def answer (s : Setup) (r : Http.Request) (w : World) : Http.Reply × World :=
  match Resource.ofPath? r.path with
  | none => (.empty 404, w)
  | some resource =>
    let isHead := r.method == "HEAD"
    match Routes.handler? s r resource (if isHead then "GET" else r.method) with
    | none => (.empty 405, w)
    | some handle =>
      let (result, w) := handle w
      let reply := match result with
        | .ok reply | .error reply => reply
      (if isHead then reply.withoutContent else reply, w)

end Setup

end Switchboard.Service
