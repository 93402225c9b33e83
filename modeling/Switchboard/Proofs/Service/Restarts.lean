import Switchboard.Proofs.Desk.Positions
import Switchboard.Proofs.Dialogue.Standing
import Switchboard.Service.Ingest

/-!
# Restarts

Whether a turn goes on where the conversation stands is decided twice: when the message has arrived
(`mustRestart`), and when the turn begins and looks at the position again. The first decision only
repeats the second. A new card has no position, what is stale stays so, and the turn begins no
earlier than the message arrived (`restart_immaterial`).
-/

namespace Switchboard

open Service

theorem Position.isStale_mono {p : Position} {t₁ t₂ : Time.Instant} {window : Span}
    (hle : t₁.nanos ≤ t₂.nanos) (h : p.isStale t₁ window = true) :
    p.isStale t₂ window = true := by
  simp only [isStale, decide_eq_true_eq] at h ⊢
  exact Int.le_trans h (Int.sub_le_sub_right hle _)

namespace Card

/-- The node at which a conversation stands that is not over, as long as less than the window has
passed since it was there. -/
def standing? (c : Card) (now : Time.Instant) (window : Span) : Option String :=
  match c.position with
  | some ⟨.active, some node, since⟩ =>
    if now.nanos - since.nanos < window then some node else none
  | _ => none

variable {c : Card} {now : Time.Instant} {window : Span}

theorem standing?_of_no_position (h : c.position = none) : c.standing? now window = none := by
  simp [standing?, h]

theorem standing?_of_stale {p : Position} (hp : c.position = some p)
    (h : p.isStale now window = true) : c.standing? now window = none := by
  obtain ⟨progress, node, since⟩ := p
  simp only [Position.isStale, decide_eq_true_eq] at h
  unfold standing?
  rw [hp]
  cases progress with
  | completed => rfl
  | active =>
    cases node with
    | none => rfl
    | some node => exact if_neg (Int.not_lt.2 h)

theorem bind_livePosition? (c : Card) (now : Time.Instant) (window : Span) :
    (c.livePosition? now window).bind Position.node = c.standing? now window := by
  unfold livePosition? standing?
  cases c.position with
  | none => rfl
  | some p =>
    obtain ⟨progress, node, since⟩ := p
    cases progress with
    | completed => cases node <;> rfl
    | active =>
      by_cases h : now.nanos - since.nanos < window
      · cases node <;> simp [Option.filter, Position.isStale, h]
      · cases node <;> simp [Option.filter, Position.isStale, h, Int.not_lt.1 h]

end Card

-- ---------------------------------------------------------------------------
-- Where a turn begins
-- ---------------------------------------------------------------------------

/-- Where a conversation has to begin anew it stands nowhere, then or later. -/
theorem standing?_of_mustRestart {c : Card} {p : Platform} {isNew : Bool} {t₁ t₂ : Time.Instant}
    {window : Span} (hnew : isNew = true → c.position = none) (hle : t₁.nanos ≤ t₂.nanos)
    (h : mustRestart c p isNew t₁ window = true) : c.standing? t₂ window = none := by
  rcases Bool.or_eq_true_iff.1 h with h | h
  · exact Card.standing?_of_no_position (hnew h)
  · obtain ⟨-, h⟩ := Bool.and_eq_true_iff.1 h
    cases hp : c.position with
    | none => exact Card.standing?_of_no_position hp
    | some position =>
      rw [hp] at h
      exact Card.standing?_of_stale hp (Position.isStale_mono hle h)

namespace Turn

/-- The plan of a turn that begins with a reply at a node, or where the flow opens. -/
def planFrom (t : Turn) (rules : TurnRules) (introductions : List Introduction) :
    Option String → Plan
  | some id => (t.replyAt rules introductions id).after (t.greeting rules)
  | none =>
    match (Graph.ofFlow t.bot.flow).opening? with
    | some first => t.forward rules (Fillings.ofCard t.card) (some first)
    | none => ⟨[], .idle⟩

variable {t : Turn} {rules : TurnRules} {introductions : List Introduction}

theorem plan_eq_planFrom (t : Turn) (rules : TurnRules) (introductions : List Introduction)
    (now : Time.Instant) :
    t.plan rules introductions now = t.planFrom rules introductions (t.resumesAt? rules now) := by
  unfold plan planFrom
  cases t.resumesAt? rules now <;> rfl

/-- What a turn was told decides where it begins, and nothing behind that. -/
theorem planFrom_told (t : Turn) (told : Bool) (rules : TurnRules)
    (introductions : List Introduction) (start : Option String) :
    { t with restart := told }.planFrom rules introductions start =
      t.planFrom rules introductions start := by
  simp only [planFrom, replyAt, forward, greeting]

theorem resumesAt?_of_not_restart (h : t.restart = false) (now : Time.Instant) :
    t.resumesAt? rules now = t.card.standing? now rules.staleness := by
  rw [resumesAt?, h, ← Card.bind_livePosition?]
  rfl

theorem resumesAt?_eq_standing? {p : Platform} {isNew : Bool} {t₁ t₂ : Time.Instant}
    (hnew : isNew = true → t.card.position = none) (hle : t₁.nanos ≤ t₂.nanos)
    (hrestart : t.restart = mustRestart t.card p isNew t₁ rules.staleness) :
    t.resumesAt? rules t₂ = t.card.standing? t₂ rules.staleness := by
  cases h : t.restart with
  | false => exact resumesAt?_of_not_restart h t₂
  | true =>
    rw [resumesAt?, h, standing?_of_mustRestart hnew hle (hrestart.symm.trans h)]
    rfl

end Turn

/-- A turn on a card to which a message was brought begins at the node where the conversation
stands, or where the flow opens if it stands nowhere. That it was told to begin anew, whenever this
was decided and for whichever platform, makes no difference. -/
theorem Desk.restart_immaterial {d d' : Desk} {keyword : String} {m : Message} {a : Arrival}
    {now : Time.Instant} (h : d.receive keyword m now = .ok (a, d')) :
    ∃ c, d'.card? a.cardId = some c ∧
      ∀ (t : Turn) (p : Platform) (rules : TurnRules) (introductions : List Introduction)
        (t₁ t₂ : Time.Instant), t₁.nanos ≤ t₂.nanos → t.card = c →
        t.restart = mustRestart c p a.isNew t₁ rules.staleness →
        t.resumesAt? rules t₂ = c.standing? t₂ rules.staleness ∧
          t.plan rules introductions t₂ =
            t.planFrom rules introductions (c.standing? t₂ rules.staleness) ∧
          t.plan rules introductions t₂ =
            { t with restart := false }.plan rules introductions t₂ := by
  obtain ⟨c, hid, rfl, hcard⟩ := receive_landed h
  have hnew : a.isNew = true → (m.addTo now c).position = none := by
    intro hnew
    rcases hcard with ⟨hold, -⟩ | ⟨-, -, lane, rfl⟩
    · rw [hold] at hnew
      cases hnew
    · rfl
  have hstored : (d.withCard (m.addTo now c)).card? a.cardId = some (m.addTo now c) := by
    rw [← hid, ← Message.addTo_id m now c]
    exact card?_withCard_self d _
  generalize m.addTo now c = c at hnew hstored ⊢
  refine ⟨c, hstored, ?_⟩
  intro t p rules introductions t₁ t₂ hle heq hrestart
  subst heq
  have hresumes := Turn.resumesAt?_eq_standing? hnew hle hrestart
  have hplain : { t with restart := false }.resumesAt? rules t₂ =
      t.card.standing? t₂ rules.staleness := Turn.resumesAt?_of_not_restart rfl t₂
  refine ⟨hresumes, ?_, ?_⟩
  · rw [Turn.plan_eq_planFrom, hresumes]
  · rw [Turn.plan_eq_planFrom, Turn.plan_eq_planFrom, hresumes, hplain]
    exact (t.planFrom_told false rules introductions _).symm

/-- The visitor as a bot has just asked for the name. -/
def askedVisitor : Card := { visitor with position := some (.activeAt "ask" ⟨0, 0⟩) }

/-- The answer is taken up at the question, unless positions are stale at once. -/
theorem Desk.restart_immaterial_visitor :
    let d := Desk.empty.withCard askedVisitor
    let m := Message.ofText .webChat "s1" "Ana"
    let atOnce := { TurnRules.standard with staleness := 0 }
    let turn := fun (c : Card) (p : Platform) (rules : TurnRules) =>
      Turn.mk doorBot "s1" c "Ana" none (mustRestart c p false ⟨1, 0⟩ rules.staleness)
    ∃ d' c, d.receive "bandeja" m ⟨1, 0⟩ = .ok (⟨"visitor", false⟩, d') ∧
      d'.card? "visitor" = some c ∧ (1 : Int) ≤ 2 ∧
      (turn c .webChat .standard).restart = false ∧
      (turn c .webChat .standard).resumesAt? .standard ⟨2, 0⟩ = some "ask" ∧
      (turn c .whatsApp atOnce).restart = true ∧
      (turn c .whatsApp atOnce).resumesAt? atOnce ⟨2, 0⟩ = none := by
  intro d m atOnce turn
  have hfound : d.find? m.platform m.sender = some askedVisitor := rfl
  have hreceive : d.receive "bandeja" m ⟨1, 0⟩ =
      .ok (⟨"visitor", false⟩, d.withCard (m.addTo ⟨1, 0⟩ askedVisitor)) := receive_of_found hfound
  obtain ⟨c, hc, hturn⟩ := restart_immaterial hreceive
  have hstored : (d.withCard (m.addTo ⟨1, 0⟩ askedVisitor)).card? askedVisitor.id =
      some (m.addTo ⟨1, 0⟩ askedVisitor) := card?_withCard_self d _
  obtain rfl := Option.some.inj (hstored.symm.trans hc)
  have hbegins := fun p rules => (hturn (turn (m.addTo ⟨1, 0⟩ askedVisitor) p rules) p rules []
    ⟨1, 0⟩ ⟨2, 0⟩ (by decide) rfl rfl).1
  refine ⟨_, _, hreceive, hc, by decide, rfl, ?_, rfl, ?_⟩
  · exact (hbegins .webChat .standard).trans rfl
  · exact (hbegins .whatsApp atOnce).trans rfl

end Switchboard
