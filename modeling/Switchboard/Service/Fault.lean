import Switchboard.Dialogue.Run
import Switchboard.Http.Message

/-!
# Faults

Why a request is refused. What is wrong with the request is told; what went wrong inside is not,
except that a card or bot is missing.
-/

namespace Switchboard.Service

inductive Fault where
  | badRequest (detail : String)
  | unauthorized (detail : String)
  | forbidden
  | notFound (detail : String)
  | desk (e : DeskError)
  | turn (e : TurnError)
  | delivery (e : DeliveryError)
  deriving DecidableEq, Repr

namespace Fault

/-- The fault in a few words. -/
def summary : Fault → String
  | badRequest detail => "invalid request: " ++ detail
  | unauthorized detail => "unauthorized: " ++ detail
  | forbidden => "verification failed"
  | notFound detail => "not found: " ++ detail
  | desk _ => "ledger error"
  | turn _ => "bot engine error"
  | delivery _ => "platform delivery failed"

/-- What lies behind the fault. -/
def cause? : Fault → Option String
  | desk e => some e.message
  | turn e => some e.message
  | delivery e => some e.message
  | _ => none

def status : Fault → Nat
  | badRequest _ => 400
  | unauthorized _ => 401
  | forbidden => 403
  | notFound _ => 404
  | desk (.cardNotFound _) | desk (.botNotFound _) => 404
  | desk _ | turn _ => 500
  | delivery _ => 502

/-- What the client is told. -/
def message : Fault → String
  | desk (.cardNotFound id) => (DeskError.cardNotFound id).message
  | desk (.botNotFound id) => (DeskError.botNotFound id).message
  | desk _ | turn _ => "internal server error"
  | other => other.summary

def reply (f : Fault) : Http.Reply := .json f.status (Json.object [("error", .str f.message)])

end Fault

end Switchboard.Service
