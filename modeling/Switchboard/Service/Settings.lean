import Switchboard.Dialogue.Plan
import Switchboard.Outbound.Connector
import Switchboard.Service.SocketAddress

/-!
# Settings

The settings of the service, read from named values such as those of an environment. Blank values
count as absent, and so do numbers that cannot be used.
-/

namespace Switchboard.Service

/-- Named values. -/
abbrev Env := String → Option String

/-- A value without blanks around it, unless it is blank. -/
def Env.given (env : Env) (name : String) : Option String :=
  ((env name).map Text.trim).filter fun s => !s.isEmpty

/-- Secrets shared with the platforms. A check whose secret is absent is not made. -/
structure Secrets where
  whatsAppVerifyToken : Option String
  whatsAppAppSecret : Option String
  metaVerifyToken : Option String
  metaAppSecret : Option String
  telegramToken : Option String
  deriving DecidableEq, Repr

structure WhatsAppAccount where
  phoneId : String
  token : String
  base : Option String
  deriving DecidableEq, Repr

/-- A page or bot, by its token. -/
structure TokenAccount where
  token : String
  base : Option String
  deriving DecidableEq, Repr

structure Settings where
  address : SocketAddress
  seedFile : Option String
  rules : TurnRules
  laneKeyword : String
  whatsApp : Option WhatsAppAccount
  page : Option TokenAccount
  telegram : Option TokenAccount
  secrets : Secrets
  deriving DecidableEq, Repr

/-- Why settings cannot be used. -/
inductive SettingsError where
  | invalidBind (text : String)
  /-- A number of hours whose seconds cannot be counted in sixty-four bits. -/
  | hoursOverflow
  deriving DecidableEq, Repr

def SettingsError.message : SettingsError → String
  | invalidBind text => "invalid BIND address `" ++ text ++ "`"
  | hoursOverflow => "overflow constructing a span of time"

def defaultBind : String := "0.0.0.0:8080"

def defaultLaneKeyword : String := "bandeja"

/-- A number of hours as a span of time. -/
def hours (n : Int) : Except SettingsError Span :=
  if inInt64 (n * 3600) then .ok (n * 3600 * 1000 * millisecond) else .error .hoursOverflow

/-- The rules of turns. -/
def rulesFrom (env : Env) : Except SettingsError TurnRules := do
  let value := fun (name : String) => (env name).map Text.trim
  let standard := TurnRules.standard
  let staleness ← match (value "BOT_STALENESS_HOURS").bind Decimal.readInt64? with
    | some n => hours n
    | none => .ok standard.staleness
  return {
    staleness := staleness
    maxSteps := ((value "BOT_MAX_STEPS").bind (Decimal.readNat? UInt64.size)).getD standard.maxSteps
    settle := (((value "BOT_SETTLE_MS").bind (Decimal.readNat? UInt64.size)).map fun ms =>
      (ms : Int) * millisecond).getD standard.settle }

/-- The word that tells the lane for new cards. -/
def laneKeywordFrom (env : Env) : String :=
  ((env "DEFAULT_LANE_KEYWORD").filter fun s => !Text.isBlank s).getD defaultLaneKeyword

def secretsFrom (env : Env) : Secrets where
  whatsAppVerifyToken := env.given "WA_VERIFY_TOKEN"
  whatsAppAppSecret := env.given "WA_APP_SECRET"
  metaVerifyToken := env.given "META_VERIFY_TOKEN"
  metaAppSecret := env.given "META_APP_SECRET"
  telegramToken := env.given "TELEGRAM_SECRET_TOKEN"

def whatsAppFrom (env : Env) : Option WhatsAppAccount :=
  match env.given "WA_PHONE_ID", env.given "WA_TOKEN" with
  | some phoneId, some token => some ⟨phoneId, token, env.given "WA_API_BASE"⟩
  | _, _ => none

/-- The settings of the service itself; turns and lanes are as usual. -/
def Settings.ofEnv (env : Env) : Except SettingsError Settings :=
  let bind := (env.given "BIND").getD defaultBind
  match SocketAddress.read? bind with
  | none => .error (.invalidBind bind)
  | some address =>
    .ok {
      address := address
      seedFile := env.given "HUB_SEED_FILE"
      rules := .standard
      laneKeyword := defaultLaneKeyword
      whatsApp := whatsAppFrom env
      page := (env.given "META_PAGE_TOKEN").map fun token => ⟨token, env.given "META_API_BASE"⟩
      telegram := (env.given "TELEGRAM_BOT_TOKEN").map fun token =>
        ⟨token, env.given "TELEGRAM_API_BASE"⟩
      secrets := secretsFrom env }

/-- All settings, with those of turns and lanes. -/
def Settings.complete (env : Env) : Except SettingsError Settings := do
  let settings ← Settings.ofEnv env
  let rules ← rulesFrom env
  return { settings with rules := rules, laneKeyword := laneKeywordFrom env }

/-- The connectors that the settings have accounts for. The web chat needs none. -/
def Settings.connectors (s : Settings) : List Outbound.Connector :=
  (s.whatsApp.map fun a =>
      .whatsApp (a.base.getD Outbound.Connector.graphBase) a.phoneId a.token).toList
    ++ (s.page.map fun a =>
      [Platform.instagram, Platform.messenger].map fun p =>
        Outbound.Connector.page p (a.base.getD Outbound.Connector.graphBase) a.token).getD []
    ++ (s.telegram.map fun a =>
      .telegram (a.base.getD Outbound.Connector.telegramBase) a.token).toList
    ++ [.webChat]

/-- How the service names itself and writes its log. -/
structure LogSettings where
  service : String
  json : Bool
  deriving DecidableEq, Repr

/-- The log is JSON unless a form for people is asked for. -/
def LogSettings.ofEnv (env : Env) (defaultService : String) : LogSettings where
  service := (env "SERVICE_NAME").getD defaultService
  json := ((env "LOG_FORMAT").map fun s =>
    !(["text", "pretty", "plain"].contains (Text.lower (Text.trim s)))).getD true

end Switchboard.Service
