import Mathlib.Data.List.Forall2
import Switchboard.Proofs.Dialogue.Speech
import Switchboard.Proofs.Dialogue.Standing

/-!
# The lines of a turn

What a bot sent is what the card shows: the lines that a turn appends to the card are the sends that
the platform accepted, one for one and in their order (`lines_shown`). A send and its line are two
actions, and between them nothing can fail; so the turn is followed piece by piece (`Paired`), each
piece being one silent action, a send with its line, or a send that was refused.
-/

namespace Switchboard

def Attempt.delivered (a : Attempt) : Bool := a.accepted && a.call.sends

def Attempt.Succeeds (a : Attempt) : Prop := a.call.sends = true → a.accepted = true

/-- A line of a bot that shows a call: its text, by that bot, on the platform the contact last wrote
from. -/
structure Entry.Shows (e : Entry) (bot : Bot) (p : Option Platform) (call : Call) : Prop where
  line : call.line? = some e.text
  author : e.author = .bot (some bot.id)
  platform : e.platform = p
  kind : e.kind = .text

-- ---------------------------------------------------------------------------
-- What actions leave
-- ---------------------------------------------------------------------------

/-- What some actions of a turn left: the attempts that they made, and on the contact's card the
lines that show which of these were delivered. -/
structure World.Shown (t : Turn) (p : Option Platform) (before after : World)
    (made : List Attempt) (lines : List Entry) : Prop where
  attempts : after.attempts = before.attempts ++ made
  card : ∃ c c', before.desk.card? t.card.id = some c ∧ after.desk.card? t.card.id = some c' ∧
    c.lastPlatform = p ∧ c'.lastPlatform = p ∧ c'.entries = c.entries ++ lines
  others : ∀ id, id ≠ t.card.id → after.desk.card? id = before.desk.card? id
  shown : List.Forall₂ (fun e call => e.Shows t.bot p call) lines
    ((made.filter Attempt.delivered).map Attempt.call)

/-- How actions came to an end: no send was refused, or the last attempt is the first send that
was. -/
inductive Closes (p : Platform) : Except TurnError Unit → List Attempt → Prop
  | all {made : List Attempt} (succeed : ∀ a ∈ made, a.Succeeds) : Closes p (.ok ()) made
  | refused {before : List Attempt} (succeed : ∀ a ∈ before, a.Succeeds) {call : Call}
      (sends : call.sends = true) (e : DeliveryError) :
      Closes p (.error (.delivery e)) (before ++ [⟨p, call, false⟩])

theorem Closes.prepend {p : Platform} {r : Except TurnError Unit} {before made : List Attempt}
    (hbefore : ∀ a ∈ before, a.Succeeds) (h : Closes p r made) : Closes p r (before ++ made) := by
  have hboth : ∀ {more : List Attempt}, (∀ a ∈ more, a.Succeeds) →
      ∀ a ∈ before ++ more, a.Succeeds := fun hmore a ha =>
    (List.mem_append.1 ha).elim (hbefore a) (hmore a)
  cases h with
  | all succeed => exact .all (hboth succeed)
  | refused succeed sends e =>
    rw [← List.append_assoc]
    exact .refused (hboth succeed) sends e

theorem Closes.eq_nil_of_refused {p : Platform} {r : Except TurnError Unit}
    {before after made : List Attempt} {a : Attempt} (h : Closes p r made)
    (hmade : made = before ++ a :: after) (ha : ¬ a.Succeeds) : after = [] := by
  cases h with
  | all succeed =>
    subst hmade
    exact absurd (succeed a (List.mem_append_right _ List.mem_cons_self)) ha
  | refused succeed sends e =>
    rcases split_concat hmade with ⟨rfl, rfl⟩ | ⟨rest, rfl⟩
    · simpa using hmade
    · exact absurd (succeed a (List.mem_append_right _ List.mem_cons_self)) ha

namespace World.Shown

variable {t : Turn} {p : Option Platform} {w w' w'' : World} {made more : List Attempt}
  {lines others : List Entry}

theorem refl {c : Card} (h : w.desk.card? t.card.id = some c) :
    Shown t c.lastPlatform w w [] [] where
  attempts := (List.append_nil _).symm
  card := ⟨c, c, h, h, rfl, rfl, (List.append_nil _).symm⟩
  others _ _ := rfl
  shown := .nil

theorem trans (h : Shown t p w w' made lines) (h' : Shown t p w' w'' more others) :
    Shown t p w w'' (made ++ more) (lines ++ others) where
  attempts := by rw [h'.attempts, h.attempts, List.append_assoc]
  card := by
    obtain ⟨c, c', hc, hc', hp, -, hlines⟩ := h.card
    obtain ⟨x, c'', hx, hc'', -, hp', hothers⟩ := h'.card
    obtain rfl : c' = x := Option.some.inj (hc'.symm.trans hx)
    exact ⟨c, c'', hc, hc'', hp, hp', by rw [hothers, hlines, List.append_assoc]⟩
  others id hid := (h'.others id hid).trans (h.others id hid)
  shown := by
    rw [List.filter_append, List.map_append]
    exact List.rel_append h.shown h'.shown

end World.Shown

-- ---------------------------------------------------------------------------
-- One piece of a turn
-- ---------------------------------------------------------------------------

theorem Action.entries_write (t : Turn) (now : Time.Instant) (c : Card) {a : Action}
    (ha : a.silent = true) : (a.write t now c).entries = c.entries := by
  cases a with
  | rename name => exact c.renamed_entries name now
  | note text => cases ha
  | _ => rfl

theorem Action.lastPlatform_write (t : Turn) (now : Time.Instant) (c : Card) (a : Action) :
    (a.write t now c).lastPlatform = c.lastPlatform := by
  cases a with
  | rename name => exact c.renamed_lastPlatform name now
  | _ => rfl

theorem Action.sends_of_silent {a : Action} {call : Call} (ha : a.silent = true)
    (hcall : a.call? = some call) : call.sends = false := by
  cases a with
  | showRead id => cases hcall; rfl
  | send call => cases ha
  | _ => cases hcall

namespace World

variable {w : World} {s : Stage} {t : Turn} {c : Card} {a : Action}

theorem card?_act_of_ne (h : w.desk.card? t.card.id = some c) {id : String} (hid : id ≠ t.card.id) :
    (w.act s t a).2.desk.card? id = w.desk.card? id := by
  rw [act_writes h, Desk.card?_withCard, Action.write_id, Desk.id_of_card? h, if_neg (Ne.symm hid)]

theorem act_silent_ok (h : w.desk.card? t.card.id = some c) (ha : a.silent = true) :
    (w.act s t a).1 = .ok () := by
  rcases act_cases (s := s) (a := a) h with hok | ⟨call, e, rfl, -⟩
  · exact hok
  · cases ha

/-- A silent action leaves no line, and the attempts that it makes are no sends. -/
theorem shown_silent (h : w.desk.card? t.card.id = some c) (ha : a.silent = true) :
    ∃ made, Shown t c.lastPlatform w (w.act s t a).2 made [] ∧ ∀ x ∈ made, x.Succeeds := by
  have hsends : ∀ x ∈ a.call?.toList.map fun call => Attempt.mk s.platform call
      (s.channel (w.callsOn s.platform) call).isOk, x.call.sends = false := by
    intro x hx
    obtain ⟨call, hcall, rfl⟩ := List.mem_map.1 hx
    exact Action.sends_of_silent ha (Option.mem_toList.1 hcall)
  refine ⟨_, ⟨attempts_act w s t a, ?_, fun id hid => card?_act_of_ne h hid, ?_⟩, ?_⟩
  · refine ⟨c, _, h, card?_act h, rfl, Action.lastPlatform_write .., ?_⟩
    rw [Action.entries_write t _ c ha, List.append_nil]
  · rw [List.filter_eq_nil_iff.2 fun x hx => by simp [Attempt.delivered, hsends x hx]]
    exact .nil
  · intro x hx hs
    rw [hsends x hx] at hs
    cases hs

theorem attempts_act_send (w : World) (s : Stage) (t : Turn) (call : Call) :
    (w.act s t (.send call)).2.attempts =
      w.attempts ++ [⟨s.platform, call, (s.channel (w.callsOn s.platform) call).isOk⟩] :=
  attempts_act w s t (.send call)

theorem shown_refused (h : w.desk.card? t.card.id = some c) {call : Call}
    (hc : (s.channel (w.callsOn s.platform) call).isOk = false) :
    Shown t c.lastPlatform w (w.act s t (.send call)).2 [⟨s.platform, call, false⟩] [] := by
  refine ⟨?_, ⟨c, _, h, card?_act h, rfl, rfl, (List.append_nil _).symm⟩,
    fun id hid => card?_act_of_ne h hid, .nil⟩
  rw [attempts_act_send, hc]

theorem shown_sent (h : w.desk.card? t.card.id = some c) {call : Call} {text : String}
    (hline : call.line? = some text)
    (hc : (s.channel (w.callsOn s.platform) call).isOk = true) :
    ∃ e, Shown t c.lastPlatform w ((w.act s t (.send call)).2.act s t (.note text)).2
      [⟨s.platform, call, true⟩] [e] := by
  have hsent : (w.act s t (.send call)).2.desk.card? t.card.id = some c := card?_act h
  refine ⟨_, ?_, ⟨c, _, h, card?_act hsent, rfl, rfl, rfl⟩, ?_, ?_⟩
  · rw [attempts_act, attempts_act_send, hc]
    exact List.append_nil _
  · intro id hid
    rw [card?_act_of_ne hsent hid, card?_act_of_ne h hid]
  · have hsends : call.sends = true := Call.sends_of_line? hline
    simp only [Attempt.delivered, hsends, List.filter_cons_of_pos, Bool.and_self, List.filter_nil]
    exact .cons ⟨hline, rfl, rfl, rfl⟩ .nil

-- ---------------------------------------------------------------------------
-- Whole turns
-- ---------------------------------------------------------------------------

theorem shown_actAll (h : w.desk.card? t.card.id = some c) (s : Stage) {as : List Action}
    (has : Paired as) :
    ∃ made lines, Shown t c.lastPlatform w (w.actAll s t as).2 made lines ∧
      Closes s.platform (w.actAll s t as).1 made := by
  induction has generalizing w c with
  | nil => exact ⟨[], [], .refl h, .all fun _ ha => nomatch ha⟩
  | @silent a as hsilent _ ih =>
    obtain ⟨made, hshown, hsucceed⟩ := shown_silent (s := s) h hsilent
    obtain ⟨more, lines, hmore, hcloses⟩ := ih (card?_act (s := s) (a := a) h)
    rw [Action.lastPlatform_write] at hmore
    rw [actAll_cons_ok (act_silent_ok h hsilent)]
    exact ⟨_, _, hshown.trans hmore, hcloses.prepend hsucceed⟩
  | @sent call text as hline _ ih =>
    have hsends : call.sends = true := Call.sends_of_line? hline
    have hsent := card?_act (s := s) (a := .send call) h
    cases hc : s.channel (w.callsOn s.platform) call with
    | error e =>
      have hact : (w.act s t (.send call)).1 = .error (.delivery e) := by
        simp only [act, attempt, hc]
      have hnone : ∀ x ∈ ([] : List Attempt), x.Succeeds := fun _ hx => nomatch hx
      rw [actAll_cons_error hact]
      exact ⟨_, _, shown_refused h (by rw [hc]; rfl), .refused hnone hsends e⟩
    | ok receipt =>
      have hact : (w.act s t (.send call)).1 = .ok () := by
        simp only [act, attempt, hc]
      have hnote : ((w.act s t (.send call)).2.act s t (.note text)).1 = .ok () := by
        rw [act_of_writes hsent rfl]
      obtain ⟨e, hshown⟩ := shown_sent (s := s) h hline (by rw [hc]; rfl)
      obtain ⟨more, lines, hmore, hcloses⟩ := ih (card?_act (s := s) (a := .note text) hsent)
      rw [Action.lastPlatform_write, Action.lastPlatform_write] at hmore
      rw [actAll_cons_ok hact, actAll_cons_ok hnote]
      refine ⟨_, _, hshown.trans hmore, hcloses.prepend ?_⟩
      intro x hx _
      rw [List.mem_singleton.1 hx]

/-- A turn leaves what its actions leave, and no attempt behind a send that is refused. -/
theorem shown_runTurn (h : w.desk.card? t.card.id = some c) (s : Stage) (rules : TurnRules)
    (introductions : List Introduction) :
    ∃ made lines, Shown t c.lastPlatform w (w.runTurn s rules introductions t).2 made lines ∧
      ∀ before a behind, made = before ++ a :: behind → ¬ a.Succeeds → behind = [] := by
  obtain ⟨made, lines, hshown, hcloses⟩ := shown_actAll (w := w.tick) h s
    (t.paired_plan rules introductions (s.clock w.readings))
  refine ⟨made, lines, ⟨runTurn_attempts.trans hshown.attempts, ?_, ?_, hshown.shown⟩,
    fun _ _ _ hmade ha => hcloses.eq_nil_of_refused hmade ha⟩
  · rw [runTurn_desk]
    exact hshown.card
  · rw [runTurn_desk]
    exact hshown.others

/-- The lines that a turn appends to the card show, one for one and in their order, the sends that
the platform accepted. A send that is refused is the last call of the turn, and no other card is
touched. -/
theorem lines_shown (w : World) (s : Stage) (rules : TurnRules) (introductions : List Introduction)
    (t : Turn) (c : Card) (h : w.desk.card? t.card.id = some c) :
    let after := (w.runTurn s rules introductions t).2
    ∃ c' made lines, after.desk.card? t.card.id = some c' ∧
      after.attempts = w.attempts ++ made ∧ c'.entries = c.entries ++ lines ∧
      List.Forall₂ (fun e call => e.Shows t.bot c.lastPlatform call) lines
        ((made.filter Attempt.delivered).map Attempt.call) ∧
      (∀ before a behind, made = before ++ a :: behind → a.call.sends = true →
        a.accepted = false → behind = []) ∧
      ∀ id, id ≠ t.card.id → after.desk.card? id = w.desk.card? id := by
  intro after
  obtain ⟨made, lines, hshown, hlast⟩ := shown_runTurn h s rules introductions
  obtain ⟨x, c', hx, hc', -, -, hentries⟩ := hshown.card
  obtain rfl : c = x := Option.some.inj (h.symm.trans hx)
  refine ⟨c', made, lines, hc', hshown.attempts, hentries, hshown.shown, ?_, hshown.others⟩
  intro before a behind hmade hsends hrefused
  refine hlast before a behind hmade fun hsucceeds => ?_
  rw [hsucceeds hsends] at hrefused
  cases hrefused

end World

-- ---------------------------------------------------------------------------
-- A gallery that closes early
-- ---------------------------------------------------------------------------

theorem Entry.texts_of_shows {bot : Bot} {p : Option Platform} {lines : List Entry}
    {calls : List Call} (h : List.Forall₂ (fun e call => e.Shows bot p call) lines calls) :
    lines.map (fun e => some e.text) = calls.map Call.line? := by
  induction h with
  | nil => rfl
  | cons hshows _ ih => rw [List.map_cons, List.map_cons, ih, hshows.line]

/-- A bot that greets, shows a picture and takes its leave. -/
def galleryBot : Bot where
  id := "gallery"
  name := "Gallery"
  isActive := true
  updatedAt := ⟨0, 0⟩
  flow := {
    nodes := [⟨"start", .start, Catalog.empty⟩,
      ⟨"greet", .text, Dictionary.set Catalog.empty "content" (.str "Hola")⟩,
      ⟨"show", .media, Dictionary.set (Dictionary.set Catalog.empty "content" (.str "Foto"))
        "url" (.str "https://gallery.test/a.png")⟩,
      ⟨"leave", .text, Dictionary.set Catalog.empty "content" (.str "Chau")⟩]
    edges := [⟨"start", "greet", none⟩, ⟨"greet", "show", none⟩, ⟨"show", "leave", none⟩] }

def galleryTurn : Turn := { doorTurn with bot := galleryBot }

def closingStage : Stage where
  channel earlier _ :=
    if earlier.length < 2 then .ok ⟨none, none⟩ else .error (.transport "closed")
  platform := .webChat
  clock _ := ⟨0, 0⟩

/-- The leave was not sent, and there is no line for it. -/
theorem lines_shown_gallery :
    doorWorld.desk.card? galleryTurn.card.id = some visitor ∧
      ∃ c lines, (doorWorld.runTurn closingStage .standard [] galleryTurn).2.desk.card? "visitor" =
          some c ∧
        c.entries = visitor.entries ++ lines ∧
        lines.map (fun e => some e.text) = [some "Hola", some "[Archivo] Foto"] := by
  have hcard : doorWorld.desk.card? galleryTurn.card.id = some visitor := rfl
  refine ⟨hcard, ?_⟩
  obtain ⟨c, made, lines, hc, hmade, hlines, hshown, -, -⟩ :=
    World.lines_shown doorWorld closingStage .standard [] galleryTurn visitor hcard
  refine ⟨c, lines, hc, hlines, ?_⟩
  rw [Entry.texts_of_shows hshown, ← show _ = made from hmade]
  decide +kernel

end Switchboard
