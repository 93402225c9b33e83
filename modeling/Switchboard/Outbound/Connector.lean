import Switchboard.Outbound.Meta
import Switchboard.Outbound.Telegram
import Switchboard.Outbound.WhatsApp

/-!
# Connectors

A connector holds what is needed to reach one platform. The web chat is not reached at all: its
widget asks for what is new. Connectors are registered under their platform, one for each.
-/

namespace Switchboard.Outbound

inductive Connector where
  | whatsApp (base phoneId token : String)
  | page (platform : Platform) (base token : String)
  | telegram (base token : String)
  | webChat
  deriving DecidableEq, Repr

namespace Connector

def platform : Connector → Platform
  | whatsApp _ _ _ => .whatsApp
  | page p _ _ => p
  | telegram _ _ => .telegram
  | webChat => .webChat

/-- Where WhatsApp, Messenger and Instagram are reached. -/
def graphBase : String := "https://graph.facebook.com/v19.0"

/-- Where Telegram is reached. -/
def telegramBase : String := "https://api.telegram.org"

/-- The address of the platform, without slashes at its end. -/
def base : Connector → String
  | whatsApp base _ _ | page _ base _ | telegram base _ => Text.dropFinalSlashes base
  | webChat => ""

/-- The posts that carry out a call. -/
def posts (c : Connector) (call : Call) : List Post :=
  match c with
  | whatsApp _ phoneId token => WhatsApp.posts c.base phoneId token call
  | page _ _ token => Meta.posts c.base token call
  | telegram _ token => Telegram.posts c.base token call
  | webChat => []

/-- Carries out a call, after the posts already made. -/
def carryOut (c : Connector) (answer : List Post → Post → Exchange) (made : List Post)
    (call : Call) : List Post × Except DeliveryError Receipt :=
  deliver c.base answer made (c.posts call)

end Connector

/-- Adds what reaches a platform, unless the platform has such already. -/
def register {α : Type} (registry : PerPlatform α) (p : Platform) (x : α) :
    Except DeliveryError (PerPlatform α) :=
  match registry p with
  | some _ => .error (.misconfigured ("duplicate adapter registration for " ++ p.name))
  | none => .ok (registry.set p x)

end Switchboard.Outbound
