import Switchboard.Proofs.Service.Turns

/-!
# The story of a run

The turns that are played in a run and the choices of another bot, in their order. Whatever else the
service does leaves every conversation and the bots as they are (`story_told`), and no turn is left
out (`story_counted`).
-/

namespace Switchboard

open Service

inductive Event where
  | turn (p : Played)
  | choice (botId : String)

def Event.isTurn : Event → Bool
  | .turn _ => true
  | .choice _ => false

/-- The turns that answer messages which are taken in one after the other. -/
def World.turns (w : World) (s : Setup) : List Message → List Played
  | [] => []
  | m :: ms =>
    (w.turnOf? s m).toList ++
      match w.ingest s m with
      | (.ok _, w) | (.error (.badRequest _), w) => w.turns s ms
      | (.error _, _) => []

namespace Service

open Routes

/-- The turns that answer the messages in a payload; one that is refused has none. -/
def Setup.turnsOn {ε : Type} (s : Setup) (w : World) (payload : Except ε Json)
    (messages : Time.Instant → Json → List Message) : List Event :=
  match payload with
  | .error _ => []
  | .ok v => (w.tick.turns s (messages (s.clock w.readings) v)).map .turn

def Setup.choicesOn (w : World) (texts : Except Http.Reply Json.Texts) : List Event :=
  match texts with
  | .error _ => []
  | .ok texts =>
    let id := ((texts.lookup "botId").bind id).getD ""
    match w.roster.choose id with
    | .error _ => []
    | .ok _ => [.choice id]

/-- What happens on a request for a resource. -/
def Setup.eventsAt (s : Setup) (r : Http.Request) (w : World) : Resource → String → List Event
  | .whatsAppHook, "POST" =>
    s.turnsOn w (delivery (checkSignature s.secrets.whatsAppAppSecret r) r) Inbound.WhatsApp.messages
  | .metaHook, "POST" =>
    s.turnsOn w (delivery (checkSignature s.secrets.metaAppSecret r) r) Inbound.Meta.messages
  | .telegramHook, "POST" =>
    s.turnsOn w (delivery (checkToken s.secrets.telegramToken r) r) fun now v =>
      [Inbound.Telegram.message now v]
  | .xHook, "POST" => s.turnsOn w (jsonBody r) Inbound.X.messages
  | .tikTokHook, "POST" => s.turnsOn w (jsonBody r) fun now v => [Inbound.TikTok.message now v]
  | .widgetPosts, "POST" => s.turnsOn w (jsonBody r) fun now v => [Inbound.WebChat.message now v]
  | .activeBot, "PUT" => Setup.choicesOn w (textsBody [⟨"botId", false⟩] r)
  | _, _ => []

/-- What happens on a request. -/
def Setup.events (s : Setup) (r : Http.Request) (w : World) : List Event :=
  match Resource.ofPath? r.path with
  | none => []
  | some resource => s.eventsAt r w resource (if r.method == "HEAD" then "GET" else r.method)

/-- What happens in a run. -/
def Setup.story (s : Setup) (w : World) : List Http.Request → List Event
  | [] => []
  | r :: requests => s.events r w ++ s.story (s.answer r w).2 requests

end Service

/-- From one world to another, with what happens in between. -/
inductive Told (s : Setup) : World → List Event → World → Prop
  | still {w w' : World} (desk : w.desk.Undisturbed w'.desk) (steady : w.Steady w') :
    Told s w [] w'
  | turn {p : Played} (stored : p.world.desk.card? p.turn.card.id = some p.turn.card)
      (bot : p.world.roster.active? = some p.turn.bot) : Told s p.world [.turn p] (p.after s)
  | choice {w : World} {id : String} {roster : Roster} (chosen : w.roster.choose id = .ok roster) :
    Told s w [.choice id] { w with roster := roster }
  | append {w w' w'' : World} {es es' : List Event} (first : Told s w es w')
      (rest : Told s w' es' w'') : Told s w (es ++ es') w''

namespace Told

variable {s : Setup} {w w' w'' : World} {es : List Event}

theorem refl (s : Setup) (w : World) : Told s w [] w := .still (.refl w.desk) (.refl w)

theorem after_still (h : Told s w es w') (desk : w'.desk.Undisturbed w''.desk)
    (steady : w'.Steady w'') : Told s w es w'' := by
  rw [← List.append_nil es]
  exact h.append (.still desk steady)

theorem behind_still (desk : w.desk.Undisturbed w'.desk) (steady : w.Steady w')
    (h : Told s w' es w'') : Told s w es w'' := by
  rw [← List.nil_append es]
  exact (Told.still desk steady).append h

theorem of_tick (h : Told s w.tick es w') : Told s w es w' := by
  have hdesk : w.desk.Undisturbed w.tick.desk := .refl w.desk
  exact h.behind_still hdesk ⟨rfl, rfl⟩

theorem turnsCounted (h : Told s w es w') :
    w'.turnsCounted = w.turnsCounted + es.countP Event.isTurn := by
  induction h with
  | still _ steady => exact steady.turns
  | turn _ _ => exact (World.runTurn_counted ..).2
  | choice _ => rfl
  | append _ _ ih ih' => rw [ih', ih, List.countP_append, Nat.add_assoc]

end Told

namespace World

variable {w : World} {s : Setup}

-- ---------------------------------------------------------------------------
-- Messages
-- ---------------------------------------------------------------------------

theorem told_ingest (w : World) (s : Setup) (m : Message) :
    Told s w ((w.turnOf? s m).toList.map .turn) (w.ingest s m).2 := by
  have h := w.ingest_cases s m
  generalize (w.ingest s m).1 = result at h
  generalize (w.ingest s m).2 = after at h ⊢
  cases h with
  | refused turn rest =>
    rw [turn]
    exact .still (rest.desk ▸ .refl w.desk) rest.steady
  | unanswered turn lands =>
    rw [turn]
    exact .still (Desk.undisturbed_receive lands.receive) lands.toSteady
  | @answered a landed after p outcome turn lands plays rest =>
    rw [turn]
    have hstored : p.world.desk.card? p.turn.card.id = some p.turn.card := plays.stored
    have hbot : p.world.roster.active? = some p.turn.bot := by
      rw [plays.world]
      exact plays.bot
    have hturn : Told s p.world [.turn p] (p.after s) := .turn hstored hbot
    rw [plays.world] at hturn
    have hall := hturn.of_tick.behind_still (Desk.undisturbed_receive lands.receive) lands.toSteady
    exact hall.after_still (rest.desk ▸ .refl _) rest.steady

theorem told_ingestAll (w : World) (s : Setup) (ms : List Message) :
    Told s w ((w.turns s ms).map .turn) (w.ingestAll s ms).2 := by
  induction ms generalizing w with
  | nil => exact .refl s w
  | cons m ms ih =>
    have hm := told_ingest w s m
    unfold turns ingestAll
    rw [List.map_append]
    refine Told.append hm ?_
    cases hw : w.ingest s m with
    | mk result w' =>
      cases result with
      | ok report =>
        have hrest := ih w'
        dsimp only
        split <;> rename_i he <;> rw [he] at hrest <;> exact hrest
      | error f =>
        cases f with
        | badRequest detail => exact ih w'
        | _ => exact .refl s w'

theorem told_markAllRead (w : World) (s : Setup) (p : Platform) (senders : List String) :
    Told s w [] (w.markAllRead s p senders).2 := by
  induction senders generalizing w with
  | nil => exact .refl s w
  | cons sender senders ih =>
    have h : Told s w [] (w.onDesk s.clock fun d now => d.markRead p sender now).2 := by
      unfold onDesk
      split
      next found d hd => exact .still (Desk.undisturbed_markRead hd) ⟨rfl, rfl⟩
      next => exact .still (.refl w.desk) ⟨rfl, rfl⟩
    unfold markAllRead
    split
    next e w' hw => rw [hw] at h; exact h
    next found w' hw =>
      rw [hw] at h
      have hrest := h.append (ih w')
      split <;> rename_i hms <;> rw [hms] at hrest <;> exact hrest

end World

namespace Service

open Routes

variable (s : Setup) (r : Http.Request) (w : World)

-- ---------------------------------------------------------------------------
-- Requests
-- ---------------------------------------------------------------------------

/-- A handler that takes in the messages of a payload, or refuses it. -/
theorem told_turnsOn {ε : Type} {payload : Except ε Json}
    {messages : Time.Instant → Json → List Message} {after : World}
    (hrefused : ∀ e, payload = .error e → after = w)
    (htaken : ∀ v, payload = .ok v →
      Told s (w.tick.ingestAll s (messages (s.clock w.readings) v)).2 [] after) :
    Told s w (s.turnsOn w payload messages) after := by
  unfold Setup.turnsOn
  cases payload with
  | error e =>
    rw [hrefused e rfl]
    exact .refl s w
  | ok v =>
    have h := (w.tick.told_ingestAll s (messages (s.clock w.readings) v)).of_tick
    have hall := h.append (htaken v rfl)
    rwa [List.append_nil] at hall

theorem told_whatsApp : Told s w
    (s.turnsOn w (delivery (checkSignature s.secrets.whatsAppAppSecret r) r)
      Inbound.WhatsApp.messages) (whatsApp s r w).2 := by
  unfold whatsApp
  refine told_turnsOn s w ?_ ?_
  · intro e he
    rw [he]
  · intro v hv
    rw [hv]
    dsimp only
    split <;> rename_i hw <;> rw [hw]
    · exact .refl s _
    next reports w' =>
      have hread := w'.told_markAllRead s .whatsApp (Inbound.WhatsApp.readers v)
      split <;> rename_i he <;> rw [he] at hread <;> exact hread

theorem told_takeIn (messages : Time.Instant → List Message) (done : Http.Reply) :
    Told s (w.tick.ingestAll s (messages (s.clock w.readings))).2 []
      (takeIn s messages done w).2 := by
  unfold takeIn
  split <;> rename_i hw <;> rw [hw] <;> exact .refl s _

theorem told_metaDelivery : Told s w
    (s.turnsOn w (delivery (checkSignature s.secrets.metaAppSecret r) r) Inbound.Meta.messages)
      (metaDelivery s r w).2 := by
  unfold metaDelivery
  refine told_turnsOn s w ?_ ?_ <;> intro x hx <;> rw [hx]
  exact told_takeIn s w (fun now => Inbound.Meta.messages now x) _

theorem told_telegram : Told s w
    (s.turnsOn w (delivery (checkToken s.secrets.telegramToken r) r) fun now v =>
      [Inbound.Telegram.message now v]) (telegram s r w).2 := by
  unfold telegram
  refine told_turnsOn s w ?_ ?_ <;> intro x hx <;> rw [hx]
  exact told_takeIn s w (fun now => [Inbound.Telegram.message now x]) _

theorem told_xDelivery :
    Told s w (s.turnsOn w (jsonBody r) Inbound.X.messages) (xDelivery s r w).2 := by
  unfold xDelivery
  refine told_turnsOn s w ?_ ?_ <;> intro x hx <;> rw [hx]
  exact told_takeIn s w (fun now => Inbound.X.messages now x) _

theorem told_tikTok : Told s w
    (s.turnsOn w (jsonBody r) fun now v => [Inbound.TikTok.message now v]) (tikTok s r w).2 := by
  unfold tikTok
  refine told_turnsOn s w ?_ ?_ <;> intro x hx <;> rw [hx]
  exact told_takeIn s w (fun now => [Inbound.TikTok.message now x]) _

theorem ingestAll_singleton (m : Message) : (w.ingestAll s [m]).2 = (w.ingest s m).2 := by
  unfold World.ingestAll
  split <;> rename_i hw <;> rw [hw] <;> rfl

theorem told_widgetPost : Told s w
    (s.turnsOn w (jsonBody r) fun now v => [Inbound.WebChat.message now v])
      (widgetPost s r w).2 := by
  unfold widgetPost
  refine told_turnsOn s w ?_ ?_
  · intro e he
    rw [he]
  · intro v hv
    rw [hv, ingestAll_singleton]
    dsimp only
    split <;> rename_i hw <;> rw [hw] <;> exact .refl s _

theorem told_operatorSend (id : String) : Told s w [] (operatorSend s id r w).2 := by
  unfold operatorSend
  split
  next => exact .refl s w
  next id m _ =>
    dsimp only
    split
    next => exact .refl s w
    next d _ =>
      have h : Told s w [] (w.attempt d.channel d.platform
          (.text d.recipient (Text.trim m.text))).2 := .still (.refl w.desk) ⟨rfl, rfl⟩
      split
      next e w' hw =>
        rw [hw] at h
        exact h.after_still (.refl w'.desk) (World.steady_count rfl)
      next receipt w' hw =>
        rw [hw] at h
        have hline : Told s w' [] (w'.onDesk s.clock fun d now =>
            d.appendOutbound id (.agent m.agentId) (Text.trim m.text) now).2 := by
          unfold World.onDesk
          split
          next c d hd => exact .still (Desk.undisturbed_appendOutbound hd) ⟨rfl, rfl⟩
          next => exact .still (.refl w'.desk) ⟨rfl, rfl⟩
        have hall := h.append hline
        split <;> rename_i he <;> rw [he] at hall <;> exact hall

theorem told_chooseBot :
    Told s w (Setup.choicesOn w (textsBody [⟨"botId", false⟩] r)) (chooseBot r w).2 := by
  unfold Setup.choicesOn chooseBot
  cases textsBody [⟨"botId", false⟩] r with
  | error reply => exact .refl s w
  | ok texts =>
    dsimp only
    generalize ((texts.lookup "botId").bind id).getD "" = id
    cases hroster : w.roster.choose id with
    | error e => exact .refl s w
    | ok roster => exact .choice hroster

theorem told_handler? {resource : Resource} {method : String} {handle : Handler}
    (h : handler? s r resource method = some handle) :
    Told s w (s.eventsAt r w resource method) (handle w).2 := by
  unfold handler? at h
  dsimp only at h
  split at h <;> cases h
  · exact .refl s w
  · exact .refl s w
  · exact .refl s w
  · exact told_whatsApp s r w
  · exact told_metaDelivery s r w
  · exact told_telegram s r w
  · exact told_xDelivery s r w
  · exact told_tikTok s r w
  · exact told_widgetPost s r w
  · exact .refl s w
  · exact .refl s w
  · exact told_operatorSend s r w _
  · exact told_chooseBot s r w

theorem eventsAt_of_no_handler {resource : Resource} {method : String}
    (h : handler? s r resource method = none) : s.eventsAt r w resource method = [] := by
  unfold Setup.eventsAt
  split <;> first | rfl | cases h

theorem told_answer : Told s w (s.events r w) (s.answer r w).2 := by
  unfold Setup.events Setup.answer
  cases Resource.ofPath? r.path with
  | none => exact .refl s w
  | some resource =>
    dsimp only
    generalize (if r.method == "HEAD" then "GET" else r.method) = method
    cases h : handler? s r resource method with
    | none =>
      rw [eventsAt_of_no_handler s r w h]
      exact .refl s w
    | some handle => exact told_handler? s r w h

/-- The story of a run tells all that befalls the conversations and the bots. -/
theorem story_told (w : World) (requests : List Http.Request) :
    Told s w (s.story w requests) (s.serve w requests) := by
  induction requests generalizing w with
  | nil => exact .refl s w
  | cons r requests ih => exact (told_answer s r w).append (ih _)

/-- Every turn that the service counts is in the story. -/
theorem story_counted (w : World) (requests : List Http.Request) :
    (s.serve w requests).turnsCounted =
      w.turnsCounted + (s.story w requests).countP Event.isTurn :=
  (story_told s w requests).turnsCounted

end Service

end Switchboard
