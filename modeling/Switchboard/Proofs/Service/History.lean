import Switchboard.Proofs.Desk.Growth
import Switchboard.Proofs.Service.Moves

/-!
# The history is kept

Whatever the service is asked, the desk evolves: each move leads from a desk to one that it evolves
to, and a reply to a request is a number of moves. `history_kept` states this of all moments of a
run from the start of the service.
-/

namespace Switchboard

namespace Desk

variable {keyword : String} {clock : Clock} {d d' : Desk}

theorem Move.evolves (h : d.Move keyword clock d') : d.Evolves d' := by
  cases h with
  | receive _ _ _ h => exact receive_evolves h
  | markRead _ h => exact markRead_evolves h
  | setPosition _ _ h => exact setPosition_evolves h
  | appendOutbound _ _ h => exact appendOutbound_evolves h
  | learn _ h => exact learn_evolves h
  | rename _ h => exact rename_evolves h

theorem Moves.evolves (h : d.Moves keyword clock d') : d.Evolves d' :=
  h.keep (fun _ _ hd hmove => hd.trans hmove.evolves) (.refl d)

end Desk

namespace Service

theorem serve_evolves (s : Setup) (w : World) (requests : List Http.Request) :
    w.desk.Evolves (s.serve w requests).desk := (serve_moves s w requests).evolves

-- ---------------------------------------------------------------------------
-- A run of the service
-- ---------------------------------------------------------------------------

variable {settings : Settings} {contents : String → Option String}
  {remote : Outbound.Connector → Outbound.Connector.Remote} {clock : Clock} {w : World} {s : Setup}

theorem sound_start (h : settings.start contents remote clock = .ok (s, w)) : w.desk.Sound := by
  intro id c hc
  rw [Desk.card?, cards_plant (start_ok h).1] at hc
  cases hc

/-- At every moment of a run each card is filed under its own id in a lane that is there, shows its
last line and is as recent as its lines; and at every later moment it is still there, with all that
was on it. -/
theorem history_kept (h : settings.start contents remote clock = .ok (s, w))
    (earlier later : List Http.Request) :
    (s.serve w earlier).desk.Sound ∧
      ∀ id c, (s.serve w earlier).desk.card? id = some c →
        ∃ c', (s.serve w (earlier ++ later)).desk.card? id = some c' ∧ c.Grows c' := by
  have hearlier := serve_evolves s w earlier
  have hlater := serve_evolves s (s.serve w earlier) later
  rw [serve_append]
  exact ⟨hearlier.sound (sound_start h), hlater.cards⟩

theorem history_kept_lobby :
    lobby.start lobbySeed unreachable dawn = .ok (lobbySetup, lobbyWorld) ∧
      (lobbySetup.serve lobbyWorld [greeting]).desk.cards.items.map Card.lastMessage = ["Hola"] ∧
      (lobbySetup.serve lobbyWorld [greeting]).desk.Sound ∧
      ∀ id c, (lobbySetup.serve lobbyWorld [greeting]).desk.card? id = some c →
        ∃ c', (lobbySetup.serve lobbyWorld [greeting, greeting]).desk.card? id = some c' ∧
          c.Grows c' :=
  ⟨start_lobby, by decide +kernel, history_kept start_lobby [greeting] [greeting]⟩

end Service

end Switchboard
