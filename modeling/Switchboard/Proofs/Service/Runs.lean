import Switchboard.Service.Routes
import Switchboard.Service.Startup

/-!
# Runs of the service

A run begins where the service starts and handles one request after the other. What the service
starts with is read here once (`start_ok`, `cards_plant`), and a small service, the lobby, serves
for runs that are computed.
-/

namespace Switchboard.Service

/-- The world after a number of requests. -/
def Setup.serve (s : Setup) (w : World) (requests : List Http.Request) : World :=
  requests.foldl (fun w r => (s.answer r w).2) w

theorem serve_append (s : Setup) (w : World) (earlier later : List Http.Request) :
    s.serve w (earlier ++ later) = s.serve (s.serve w earlier) later := List.foldl_append

/-- The reply of a handler, be it a refusal or not. -/
def Handler.reply (handle : Handler) (w : World) : Http.Reply :=
  match (handle w).1 with
  | .ok reply | .error reply => reply

theorem answer_of_handler? {s : Setup} {r : Http.Request} {resource : Resource} {method : String}
    {handle : Handler} (hpath : Resource.ofPath? r.path = some resource)
    (hmethod : r.method = method) (hhead : method ≠ "HEAD")
    (h : Routes.handler? s r resource method = some handle) (w : World) :
    s.answer r w = (handle.reply w, (handle w).2) := by
  subst hmethod
  unfold Setup.answer
  simp only [hpath, beq_iff_eq, hhead, if_false, h]
  rfl

-- ---------------------------------------------------------------------------
-- The start
-- ---------------------------------------------------------------------------

theorem cards_furnish (seed : Seed) (d : Desk) : (seed.furnish d).cards = d.cards := by
  unfold Seed.furnish
  induction seed.lanes generalizing d with
  | nil => rfl
  | cons l ls ih => exact ih (d.putLane l)

theorem cards_sow {seed : Seed} {d d' : Desk} {b b' : Roster}
    (h : seed.sow d b = .ok (d', b')) : d'.cards = d.cards := by
  unfold Seed.sow at h
  cases ha : seed.appoint (seed.enlist b) with
  | error e => rw [ha] at h; cases h
  | ok b => rw [ha] at h; cases h; exact cards_furnish seed d

/-- No card is on the desk when the service starts. -/
theorem cards_plant {seedFile : Option String} {contents : String → Option String} {w : World}
    (h : plant seedFile contents = .ok w) : w.desk.cards = Catalog.empty := by
  cases seedFile with
  | none => cases h; rfl
  | some path =>
    simp only [plant] at h
    split at h
    · cases h
    · split at h
      · cases h
      · split at h
        · cases h
        next hs => cases h; exact cards_sow hs

theorem start_ok {settings : Settings} {contents : String → Option String}
    {remote : Outbound.Connector → Outbound.Connector.Remote} {clock : Clock} {s : Setup}
    {w : World} (h : settings.start contents remote clock = .ok (s, w)) :
    plant settings.seedFile contents = .ok w ∧
      ∃ channels, settings.channels remote = .ok channels ∧ s = settings.setup channels clock := by
  unfold Settings.start at h
  cases hp : plant settings.seedFile contents with
  | error e => rw [hp] at h; cases h
  | ok world =>
    cases hc : settings.channels remote with
    | error e => rw [hp, hc] at h; cases h
    | ok channels =>
      rw [hp, hc] at h
      cases h
      exact ⟨rfl, channels, rfl, rfl⟩

-- ---------------------------------------------------------------------------
-- The lobby
-- ---------------------------------------------------------------------------

/-- A service that reaches its visitors by the web chat alone. -/
def lobby : Settings where
  address := .four [127, 0, 0, 1] 8080
  seedFile := some "lobby"
  rules := .standard
  laneKeyword := defaultLaneKeyword
  whatsApp := none
  page := none
  telegram := none
  secrets := ⟨none, none, none, none, none⟩

def lobbyLane : Lane := ⟨"inbox", "Bandeja", none⟩

def lobbyText : String := "\x7blanes: [\x7bid: inbox, name: Bandeja\x7d]\x7d"

def lobbySeed (_ : String) : Option String := some lobbyText

def unreachable (_ : Outbound.Connector) : Outbound.Connector.Remote := fun _ _ => .dropped

def dawn (_ : Nat) : Time.Instant := ⟨0, 0⟩

def lobbySetup : Setup :=
  lobby.setup (fun p =>
    ((PerPlatform.none.set .webChat .webChat) p).map fun c : Outbound.Connector =>
      c.channel (unreachable c)) dawn

def lobbyWorld : World := World.start (Desk.empty.putLane lobbyLane) Roster.empty

theorem ofText?_lobbyText : Seed.ofText? lobbyText = some ⟨[lobbyLane], [], none⟩ := by
  have h : (Seed.ofText? lobbyText).map (fun s => (s.lanes, s.bots.length, s.activeBotId)) =
      some ([lobbyLane], 0, none) := by decide +kernel
  obtain ⟨⟨lanes, bots, chosen⟩, hs, h⟩ := Option.map_eq_some_iff.1 h
  simp only [Prod.mk.injEq, List.length_eq_zero_iff] at h
  obtain ⟨rfl, rfl, rfl⟩ := h
  exact hs

theorem start_lobby :
    lobby.start lobbySeed unreachable dawn = .ok (lobbySetup, lobbyWorld) := by
  unfold Settings.start plant
  simp only [lobby, lobbySeed, ofText?_lobbyText]
  rfl

theorem lane_lobby : ∃ lane, lobbyWorld.desk.defaultLane lobbySetup.laneKeyword = .ok lane := by
  have hok : (lobbyWorld.desk.defaultLane lobbySetup.laneKeyword).isOk = true := by decide +kernel
  cases hd : lobbyWorld.desk.defaultLane lobbySetup.laneKeyword with
  | error e => rw [hd] at hok; cases hok
  | ok lane => exact ⟨lane, rfl⟩

/-- A visitor who says hello. -/
def greeting : Http.Request where
  method := "POST"
  path := "/webchat/messages"
  query := ""
  headers := [("content-type", "application/json")]
  body := Text.utf8 "\x7b\"sessionId\": \"s1\", \"text\": \"Hola\"\x7d"

end Switchboard.Service
