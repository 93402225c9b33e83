import Switchboard.Dialogue.Run
import Switchboard.Proofs.Desk.Cards

/-!
# Actions carried out

For a contact whose card is on the desk only a send can fail. So a list of actions is either carried
out as a whole, or up to a send that the platform refused (`actAll_cases`), and the card is changed
by what was carried out (`Action.write`) and by nothing else.
-/

namespace Switchboard

-- ---------------------------------------------------------------------------
-- What an action writes on the card
-- ---------------------------------------------------------------------------

namespace Action

/-- The node that an action makes the conversation stand at. -/
def node? : Action → Option String
  | .standAt node => some node
  | _ => none

/-- The position that an action writes on the card. -/
def position? (now : Time.Instant) : Action → Option Position
  | .standAt node => some (.activeAt node now)
  | .finish => some (.completedAt now)
  | _ => none

/-- Whether an action writes a position. -/
def moves : Action → Bool
  | .standAt _ | .finish => true
  | _ => false

/-- Whether an action writes on the card. -/
def writes : Action → Bool
  | .note _ | .standAt _ | .finish | .learn _ _ | .rename _ => true
  | .showRead _ | .pause _ | .send _ | .countStep _ => false

/-- The card after an action of a turn. -/
def write (t : Turn) (now : Time.Instant) (c : Card) : Action → Card
  | .note text => (c.append (Desk.outboundEntry c (.bot (some t.bot.id)) text now)).touch now
  | .standAt node => Card.touch { c with position := some (.activeAt node now) } now
  | .finish => Card.touch { c with position := some (.completedAt now) } now
  | .learn name value => Card.touch { c with fields := c.fields.set name value } now
  | .rename name => c.renamed name now
  | .showRead _ | .pause _ | .send _ | .countStep _ => c

variable {t : Turn} {now : Time.Instant} {c : Card} {a : Action}

@[simp] theorem write_id (t : Turn) (now : Time.Instant) (c : Card) (a : Action) :
    (a.write t now c).id = c.id := by
  cases a with
  | rename name => exact c.renamed_id name now
  | _ => rfl

theorem write_position (t : Turn) (now : Time.Instant) (c : Card) (a : Action) :
    (a.write t now c).position = (a.position? now).or c.position := by
  cases a with
  | rename name => exact c.renamed_position name now
  | _ => rfl

end Action

-- ---------------------------------------------------------------------------
-- The position that actions lead to
-- ---------------------------------------------------------------------------

/-- The position after some actions is the one that the last of them to write one wrote. -/
def Follows (before after : Option Position) (as : List Action) : Prop :=
  match (as.filter Action.moves).getLast? with
  | none => after = before
  | some a => ∃ now, after = a.position? now

theorem Follows.append {p q r : Option Position} {as bs : List Action} (h : Follows p q as)
    (h' : Follows q r bs) : Follows p r (as ++ bs) := by
  unfold Follows at *
  rw [List.filter_append, List.getLast?_append]
  cases hb : (bs.filter Action.moves).getLast? with
  | none => rw [hb] at h'; subst h'; exact h
  | some b => rw [hb] at h'; exact h'

theorem follows_write (t : Turn) (now : Time.Instant) (c : Card) (a : Action) :
    Follows c.position (a.write t now c).position [a] := by
  rw [Action.write_position]
  cases a with
  | standAt node => exact ⟨now, rfl⟩
  | finish => exact ⟨now, rfl⟩
  | _ => rfl

-- ---------------------------------------------------------------------------
-- One action
-- ---------------------------------------------------------------------------

namespace World

variable {w : World} {s : Stage} {t : Turn} {c : Card} {a : Action}

theorem changeDesk_eq {clock : Clock} {d : Desk}
    (act : Desk → Time.Instant → Except DeskError Desk)
    (h : act w.desk (clock w.readings) = .ok d) :
    w.changeDesk clock act = (.ok (), { w.tick with desk := d }) := by
  unfold changeDesk onDesk
  dsimp only
  rw [h]
  rfl

/-- An action that writes puts the card that it wrote in its place. -/
theorem act_of_writes (h : w.desk.card? t.card.id = some c) (ha : a.writes = true) :
    w.act s t a =
      (.ok (), { w.tick with desk := w.desk.withCard (a.write t (s.clock w.readings) c) }) := by
  cases a with
  | note text =>
    simp only [act]
    refine changeDesk_eq (fun d now =>
      (d.appendOutbound t.card.id (.bot (some t.bot.id)) text now).map Prod.snd) ?_
    rw [Desk.appendOutbound_of_card? h]
    rfl
  | standAt node =>
    simp only [act]
    exact changeDesk_eq (fun d now => d.setPosition t.card.id (.activeAt node now) now)
      (Desk.setPosition_of_card? h _)
  | finish =>
    simp only [act]
    exact changeDesk_eq (fun d now => d.setPosition t.card.id (.completedAt now) now)
      (Desk.setPosition_of_card? h _)
  | learn name value =>
    simp only [act]
    exact changeDesk_eq (fun d now => d.learn t.card.id name value now)
      (Desk.learn_of_card? h name value)
  | rename name =>
    simp only [act]
    exact changeDesk_eq (fun d now => d.rename t.card.id name now) (Desk.rename_of_card? h name)
  | _ => cases ha

theorem act_writes (h : w.desk.card? t.card.id = some c) :
    (w.act s t a).2.desk = w.desk.withCard (a.write t (s.clock w.readings) c) := by
  cases hw : a.writes with
  | true => rw [act_of_writes h hw]
  | false =>
    have hsame : w.desk = w.desk.withCard c := (Desk.withCard_of_card? h).symm
    cases a with
    | send call =>
      simp only [act, attempt]
      cases s.channel (w.callsOn s.platform) call <;> exact hsame
    | showRead id => exact hsame
    | pause span => exact hsame
    | countStep kind => exact hsame
    | _ => cases hw

theorem card?_act (h : w.desk.card? t.card.id = some c) :
    (w.act s t a).2.desk.card? t.card.id = some (a.write t (s.clock w.readings) c) := by
  rw [act_writes h, Desk.card?_withCard, Action.write_id, Desk.id_of_card? h]
  simp

/-- Only a send can fail, and it does so if the platform refuses it. -/
theorem act_cases (h : w.desk.card? t.card.id = some c) :
    (w.act s t a).1 = .ok () ∨
      ∃ call e, a = .send call ∧ (w.act s t a).1 = .error (.delivery e) ∧
        (w.act s t a).2.attempts = w.attempts ++ [⟨s.platform, call, false⟩] := by
  cases hw : a.writes with
  | true => exact .inl (by rw [act_of_writes h hw])
  | false =>
    cases a with
    | send call =>
      simp only [act, attempt]
      cases hc : s.channel (w.callsOn s.platform) call with
      | ok receipt => exact .inl rfl
      | error e => exact .inr ⟨call, e, rfl, rfl, rfl⟩
    | showRead id => exact .inl rfl
    | pause span => exact .inl rfl
    | countStep kind => exact .inl rfl
    | _ => cases hw

-- ---------------------------------------------------------------------------
-- All actions
-- ---------------------------------------------------------------------------

/-- The actions that are carried out: all before the first that fails. -/
def carriedOut (w : World) (s : Stage) (t : Turn) : List Action → List Action
  | [] => []
  | a :: as =>
    match w.act s t a with
    | (.ok _, w) => a :: w.carriedOut s t as
    | (.error _, _) => []

theorem actAll_cons_ok {as : List Action} (h : (w.act s t a).1 = .ok ()) :
    w.actAll s t (a :: as) = (w.act s t a).2.actAll s t as := by
  rw [actAll]
  split <;> rename_i hw <;> rw [hw] at h ⊢
  cases h

theorem carriedOut_cons_ok {as : List Action} (h : (w.act s t a).1 = .ok ()) :
    w.carriedOut s t (a :: as) = a :: (w.act s t a).2.carriedOut s t as := by
  rw [carriedOut]
  split <;> rename_i hw <;> rw [hw] at h ⊢
  cases h

theorem actAll_cons_error {as : List Action} {e : TurnError} (h : (w.act s t a).1 = .error e) :
    w.actAll s t (a :: as) = (.error e, (w.act s t a).2) := by
  rw [actAll]
  split <;> rename_i hw <;> rw [hw] at h <;> cases h
  rw [hw]

theorem carriedOut_cons_error {as : List Action} {e : TurnError} (h : (w.act s t a).1 = .error e) :
    w.carriedOut s t (a :: as) = [] := by
  rw [carriedOut]
  split <;> rename_i hw <;> rw [hw] at h
  cases h

/-- Either all actions are carried out, or all before a send that is refused. -/
theorem actAll_cases (h : w.desk.card? t.card.id = some c) (s : Stage) (as : List Action) :
    ((w.actAll s t as).1 = .ok () ∧ w.carriedOut s t as = as) ∨
      ∃ before call after e, as = before ++ .send call :: after ∧
        w.carriedOut s t as = before ∧ (w.actAll s t as).1 = .error (.delivery e) ∧
        (w.actAll s t as).2.attempts.getLast? = some ⟨s.platform, call, false⟩ := by
  induction as generalizing w c with
  | nil => exact .inl ⟨rfl, rfl⟩
  | cons a as ih =>
    rcases act_cases (s := s) (a := a) h with ha | ⟨call, e, rfl, ha, hattempts⟩
    · rw [actAll_cons_ok ha, carriedOut_cons_ok ha]
      rcases ih (card?_act h) with ⟨hok, hall⟩ | ⟨before, call, after, e, has, hc, he, hl⟩
      · exact .inl ⟨hok, by rw [hall]⟩
      · exact .inr ⟨a :: before, call, after, e, by rw [has]; rfl, by rw [hc], he, hl⟩
    · rw [actAll_cons_error ha, carriedOut_cons_error ha]
      exact .inr ⟨[], call, as, e, rfl, rfl, rfl, by rw [hattempts]; simp⟩

theorem carriedOut_of_ok (h : w.desk.card? t.card.id = some c) {as : List Action}
    (hok : (w.actAll s t as).1 = .ok ()) : w.carriedOut s t as = as := by
  rcases actAll_cases h s as with ⟨_, hall⟩ | ⟨_, _, _, _, _, _, he, _⟩
  · exact hall
  · rw [he] at hok; cases hok

/-- Actions behind ones that are all carried out are carried out in the world that these leave. -/
theorem carriedOut_append (h : w.desk.card? t.card.id = some c) {as : List Action}
    (hok : (w.actAll s t as).1 = .ok ()) (bs : List Action) :
    w.carriedOut s t (as ++ bs) = as ++ (w.actAll s t as).2.carriedOut s t bs := by
  induction as generalizing w c with
  | nil => rfl
  | cons a as ih =>
    rcases act_cases (s := s) (a := a) h with ha | ⟨call, e, rfl, ha, _⟩
    · rw [actAll_cons_ok ha] at hok ⊢
      rw [List.cons_append, carriedOut_cons_ok ha, ih (card?_act h) hok]; rfl
    · rw [actAll_cons_error ha] at hok
      cases hok

theorem actAll_append {as : List Action} (hok : (w.actAll s t as).1 = .ok ()) (bs : List Action) :
    w.actAll s t (as ++ bs) = (w.actAll s t as).2.actAll s t bs := by
  induction as generalizing w with
  | nil => rfl
  | cons a as ih =>
    cases ha : (w.act s t a).1 with
    | ok _ =>
      rw [actAll_cons_ok ha] at hok ⊢
      rw [List.cons_append, actAll_cons_ok ha]
      exact ih hok
    | error e => rw [actAll_cons_error ha] at hok; cases hok

theorem carriedOut_prefix (w : World) (s : Stage) (t : Turn) (as : List Action) :
    w.carriedOut s t as <+: as := by
  induction as generalizing w with
  | nil => exact List.prefix_rfl
  | cons a as ih =>
    cases ha : (w.act s t a).1 with
    | ok _ =>
      rw [carriedOut_cons_ok ha]
      exact (List.prefix_cons_inj a).2 (ih _)
    | error e => rw [carriedOut_cons_error ha]; exact List.nil_prefix

/-- The first of the actions that are carried out succeed on their own. -/
theorem actAll_ok_of_carriedOut {as done rest : List Action}
    (h : w.carriedOut s t as = done ++ rest) : (w.actAll s t done).1 = .ok () := by
  induction as generalizing w done with
  | nil =>
    obtain ⟨rfl, -⟩ := List.append_eq_nil_iff.1 h.symm
    rfl
  | cons a as ih =>
    cases ha : (w.act s t a).1 with
    | ok _ =>
      rw [carriedOut_cons_ok ha] at h
      rcases List.cons_eq_append_iff.1 h with ⟨rfl, -⟩ | ⟨done, rfl, hdone⟩
      · rfl
      · rw [actAll_cons_ok ha]
        exact ih hdone
    | error e =>
      rw [carriedOut_cons_error ha] at h
      obtain ⟨rfl, -⟩ := List.append_eq_nil_iff.1 h.symm
      rfl

/-- Actions without a send are carried out. -/
theorem actAll_ok (h : w.desk.card? t.card.id = some c) (s : Stage) {as : List Action}
    (has : ∀ call, .send call ∉ as) : (w.actAll s t as).1 = .ok () := by
  rcases actAll_cases h s as with ⟨hok, _⟩ | ⟨before, call, after, _, rfl, _, _, _⟩
  · exact hok
  · exact absurd (List.mem_append_right _ List.mem_cons_self) (has call)

/-- What actions that are carried out add to a log is the beginning of what all of them would add,
and the whole of it if none of them failed. -/
theorem log_actAll {α : Type} {log : World → List α} {logged? : Action → Option α}
    (hlog : ∀ w a, log (w.act s t a).2 = log w ++ (logged? a).toList) (w : World)
    (as : List Action) :
    ∃ made, log (w.actAll s t as).2 = log w ++ made ∧ made <+: as.filterMap logged? ∧
      ((w.actAll s t as).1 = .ok () → made = as.filterMap logged?) := by
  induction as generalizing w with
  | nil => exact ⟨[], (List.append_nil _).symm, List.prefix_rfl, fun _ => rfl⟩
  | cons a as ih =>
    have hlogged : (a :: as).filterMap logged? = (logged? a).toList ++ as.filterMap logged? := by
      cases h : logged? a <;> simp [h]
    rw [hlogged]
    cases ha : (w.act s t a).1 with
    | error e =>
      rw [actAll_cons_error ha]
      exact ⟨_, hlog w a, List.prefix_append _ _, fun hok => nomatch hok⟩
    | ok _ =>
      obtain ⟨made, hmade, hbegins, hall⟩ := ih (w.act s t a).2
      rw [actAll_cons_ok ha]
      refine ⟨(logged? a).toList ++ made, ?_, (List.prefix_append_right_inj _).2 hbegins,
        fun hok => by rw [hall hok]⟩
      rw [hmade, hlog, List.append_assoc]

theorem follows_actAll (h : w.desk.card? t.card.id = some c) (s : Stage) (as : List Action) :
    ∃ c', (w.actAll s t as).2.desk.card? t.card.id = some c' ∧
      Follows c.position c'.position (w.carriedOut s t as) := by
  induction as generalizing w c with
  | nil => exact ⟨c, h, rfl⟩
  | cons a as ih =>
    rcases act_cases (s := s) (a := a) h with ha | ⟨call, e, rfl, ha, _⟩
    · rw [actAll_cons_ok ha, carriedOut_cons_ok ha]
      obtain ⟨c', hc', hf⟩ := ih (card?_act h)
      exact ⟨c', hc', (follows_write t _ c a).append hf⟩
    · rw [actAll_cons_error ha, carriedOut_cons_error ha]
      exact ⟨c, card?_act h, rfl⟩

-- ---------------------------------------------------------------------------
-- Turns
-- ---------------------------------------------------------------------------

/-- The nodes that a turn executes, in their order. -/
def visits (w : World) (s : Stage) (rules : TurnRules) (introductions : List Introduction)
    (t : Turn) : List String :=
  (w.tick.carriedOut s t
    (t.plan rules introductions (s.clock w.readings)).actions).filterMap Action.node?

end World

end Switchboard
