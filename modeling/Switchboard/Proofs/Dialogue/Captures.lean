import Switchboard.Proofs.Dialogue.Addresses
import Switchboard.Proofs.Dialogue.Answers
import Switchboard.Proofs.Dialogue.AutomaticPath
import Switchboard.Proofs.Dialogue.Lines

/-!
# Answers to questions

A turn that goes on at a question and is not broken off ends in one of two ways. An answer that the
question does not take is turned down: a line says so, and all else is as before
(`World.TurnedDown`). Any other answer is kept under the name of the question, and the flow goes on
along its edge (`World.TakenUp`).
-/

namespace Switchboard

-- ---------------------------------------------------------------------------
-- The plan at a question
-- ---------------------------------------------------------------------------

/-- A question has no options, so its first edge is taken. -/
theorem Graph.replyTarget?_question {flow : Flow} {n : Node} (hk : n.kind = .capture)
    (reply : String) : (ofFlow flow).replyTarget? n n.id reply = flow.successor? n := by
  have hselected : n.selected? reply = none := by rw [Node.selected?, hk]
  have hplain : n.kind ≠ .condition := by
    rw [hk]
    decide
  unfold replyTarget? Flow.successor?
  rw [outgoing_ofFlow, hselected]
  dsimp only
  rw [if_neg hplain]
  cases flow.edges.filter fun e => e.source == n.id with
  | nil => rfl
  | cons e es => cases es <;> rfl

namespace Turn

variable {t : Turn} {rules : TurnRules} {introductions : List Introduction} {now : Time.Instant}
  {n : Node}

theorem plan_of_declines (introductions : List Introduction)
    (hresumes : t.resumesAt? rules now = some n.id)
    (hnode : t.bot.flow.node? n.id = some n) (hk : n.kind = .capture)
    (h : n.Declines (Text.trim t.text)) : t.plan rules introductions now =
      ⟨t.greeting rules ++ Node.say t.recipient n.refusal, .invalidAnswer n.id⟩ := by
  rw [← Flow.node?_ofFlow] at hnode
  simp only [plan, hresumes, replyAt, hnode, if_pos hk, Node.lesson?_of_declines h]
  rfl

theorem plan_of_takes (introductions : List Introduction)
    (hresumes : t.resumesAt? rules now = some n.id)
    (hnode : t.bot.flow.node? n.id = some n) (hk : n.kind = .capture)
    (h : ¬ n.Declines (Text.trim t.text)) :
    let l : Lesson := ⟨n.captureName, keptAnswer introductions n.captureName (Text.trim t.text),
      isNameVariable n.captureName⟩
    t.plan rules introductions now =
      (t.forward rules ((Fillings.ofCard t.card).add l) (t.bot.flow.successor? n)).after
        (t.greeting rules ++ l.actions) := by
  rw [← Flow.node?_ofFlow] at hnode
  simp only [plan, hresumes, replyAt, hnode, if_pos hk, Node.lesson?_of_takes h,
    Graph.replyTarget?_question hk, Plan.after, List.append_assoc]

end Turn

-- ---------------------------------------------------------------------------
-- Turns that are not broken off
-- ---------------------------------------------------------------------------

namespace World

variable {w w' : World} {s : Stage} {rules : TurnRules} {introductions : List Introduction}
  {t : Turn} {c : Card} {made : List Attempt}

/-- Where no send is refused all actions are carried out. -/
theorem actAll_of_succeed (h : w.desk.card? t.card.id = some c) {as : List Action}
    (has : Paired as) (hmade : (w.actAll s t as).2.attempts = w.attempts ++ made)
    (hsucceed : ∀ a ∈ made, a.Succeeds) : (w.actAll s t as).1 = .ok () := by
  obtain ⟨made', lines, hshown, hcloses⟩ := shown_actAll h s has
  obtain rfl : made' = made := List.append_cancel_left (hshown.attempts.symm.trans hmade)
  generalize (w.actAll s t as).1 = r at hcloses ⊢
  cases hcloses with
  | all _ => rfl
  | refused _ sends e =>
    have hrefused := hsucceed _ (List.mem_append_right _ List.mem_cons_self) sends
    cases hrefused

theorem runTurn_of_ok
    (h : w.tick.actAll s t (t.plan rules introductions (s.clock w.readings)).actions =
      (.ok (), w')) :
    w.runTurn s rules introductions t =
      (.ok (t.plan rules introductions (s.clock w.readings)).outcome,
        w'.count (.botTurn (t.plan rules introductions (s.clock w.readings)).outcome.name)) := by
  unfold runTurn
  dsimp only
  rw [h]

/-- The world when a turn that goes on somewhere has greeted. -/
def greeted (w : World) (s : Stage) (rules : TurnRules) (t : Turn) : World :=
  { w with
    attempts := w.attempts ++
      answers s.channel s.platform (w.callsOn s.platform) (t.messageId.map Call.read).toList
    pauses := w.pauses ++ [rules.settle] }

theorem actAll_greeting (w : World) (s : Stage) (rules : TurnRules) (t : Turn) :
    w.actAll s t (t.greeting rules) = (.ok (), w.greeted s rules t) := by
  unfold Turn.greeting greeted
  cases t.messageId with
  | none =>
    have hsame : w.attempts = w.attempts ++ [] := (List.append_nil _).symm
    exact Prod.ext rfl (by simp [actAll, act, World.pause, answers])
  | some id => rfl

theorem act_send_of_ok {call : Call} (h : (w.act s t (.send call)).1 = .ok ()) :
    w.act s t (.send call) =
      (.ok (), { w with attempts := w.attempts ++ [⟨s.platform, call, true⟩] }) := by
  simp only [act, attempt] at h ⊢
  cases hc : s.channel (w.callsOn s.platform) call with
  | ok receipt => rfl
  | error e => rw [hc] at h; cases h

theorem actAll_say (h : w.desk.card? t.card.id = some c) {text : String}
    (hok : (w.actAll s t (Node.say t.recipient text)).1 = .ok ()) :
    w.actAll s t (Node.say t.recipient text) =
      (.ok (), { w.tick with
        desk := w.desk.withCard (Action.write t (s.clock w.readings) c (.note text))
        attempts := w.attempts ++ [⟨s.platform, .text t.recipient text, true⟩] }) := by
  rcases act_cases (s := s) (a := .send (.text t.recipient text)) h with hsent | ⟨_, e, _, he, _⟩
  · have hact := act_send_of_ok hsent
    have hcard : (w.act s t (.send (.text t.recipient text))).2.desk.card? t.card.id = some c :=
      card?_act h
    rw [Node.say, actAll_cons_ok hsent, actAll, act_of_writes hcard rfl, hact]
    rfl
  · rw [Node.say, actAll_cons_error he] at hok
    cases hok

-- ---------------------------------------------------------------------------
-- Answers that are turned down
-- ---------------------------------------------------------------------------

/-- What a turn leaves whose question does not take the answer. Behind the receipt a refusal was
sent, and its line stands on the card. Of the card this changes what shows its last line; where the
conversation stands, what was learned and the name of the contact are as before. -/
structure TurnedDown (w : World) (s : Stage) (rules : TurnRules) (t : Turn) (c : Card) (n : Node)
    (made : List Attempt) (after : Except TurnError Outcome × World) : Prop where
  result : after.1 = .ok (.invalidAnswer n.id)
  calls : made =
    answers s.channel s.platform (w.callsOn s.platform) (t.messageId.map Call.read).toList ++
      [⟨s.platform, .text t.recipient n.refusal, true⟩]
  world : ∃ (c' : Card) (e : Entry),
    e.Shows t.bot c.lastPlatform (.text t.recipient n.refusal) ∧
    c' = { c with
      entries := c.entries ++ [e], lastMessage := e.text, updatedAt := c'.updatedAt } ∧
    after.2 = { w with
      desk := w.desk.withCard c'
      attempts := w.attempts ++ made
      pauses := w.pauses ++ [rules.settle]
      tally := w.tally ++ [.botTurn "invalid_input"]
      readings := w.readings + 2 }

theorem turnedDown_of_declines {n : Node} (h : w.desk.card? t.card.id = some c)
    (hresumes : t.resumesAt? rules (s.clock w.readings) = some n.id)
    (hnode : t.bot.flow.node? n.id = some n) (hk : n.kind = .capture)
    (hmade : (w.runTurn s rules introductions t).2.attempts = w.attempts ++ made)
    (hok : (w.tick.actAll s t (t.plan rules introductions (s.clock w.readings)).actions).1 = .ok ())
    (hdeclines : n.Declines (Text.trim t.text)) :
    w.TurnedDown s rules t c n made (w.runTurn s rules introductions t) := by
  have hplan := Turn.plan_of_declines introductions hresumes hnode hk hdeclines
  have hgreets := w.tick.actAll_greeting s rules t
  have hactions : w.tick.actAll s t (t.plan rules introductions (s.clock w.readings)).actions =
      (w.tick.greeted s rules t).actAll s t (Node.say t.recipient n.refusal) := by
    rw [hplan, actAll_append (congrArg Prod.fst hgreets), hgreets]
  rw [hactions] at hok
  have hcard : (w.tick.greeted s rules t).desk.card? t.card.id = some c := h
  have hturn := runTurn_of_ok (hactions.trans (actAll_say hcard hok))
  rw [hplan] at hturn
  rw [hturn] at hmade ⊢
  have hcalls : made =
      answers s.channel s.platform (w.callsOn s.platform) (t.messageId.map Call.read).toList ++
        [⟨s.platform, .text t.recipient n.refusal, true⟩] :=
    List.append_cancel_left (hmade.symm.trans (List.append_assoc ..))
  refine ⟨rfl, hcalls, Action.write t (s.clock (w.readings + 1)) c (.note n.refusal),
    Desk.outboundEntry c (.bot (some t.bot.id)) n.refusal (s.clock (w.readings + 1)),
    ⟨rfl, rfl, rfl, rfl⟩, rfl, ?_⟩
  rw [hcalls, ← List.append_assoc]
  rfl

-- ---------------------------------------------------------------------------
-- Answers that are taken up
-- ---------------------------------------------------------------------------

/-- What a turn leaves whose question takes the answer: a value was kept under the name of the
question, and is the contact's name too if that is what the name stands for. Nothing else was
learned, and the turn went on along the edge of the question. -/
structure TakenUp (w : World) (s : Stage) (rules : TurnRules) (introductions : List Introduction)
    (t : Turn) (c : Card) (n : Node) (value : String) (made : List Attempt)
    (after : Except TurnError Outcome × World) : Prop where
  named : Text.isBlank n.captureName = false
  valued : Text.isBlank value = false
  card : ∃ c', after.2.desk.card? t.card.id = some c' ∧
    c'.fields.value? n.captureName = some value ∧
    (∀ name, name ≠ n.captureName → c'.fields.value? name = c.fields.value? name) ∧
    c'.contactName = if isNameVariable n.captureName then value else c.contactName
  others : ∀ id, id ≠ t.card.id → after.2.desk.card? id = w.desk.card? id
  onward : ∃ ns o, after.1 = .ok o ∧ t.bot.flow.Leads (t.bot.flow.successor? n) ns ∧
    t.bot.flow.Ends rules.maxSteps (t.bot.flow.successor? n)
      ((t.bot.flow.successor? n).getD "") ns o ∧
    w.visits s rules introductions t = ns.map Node.id ∧
    made.map Attempt.call = (t.messageId.map Call.read).toList ++
      ns.flatMap fun n =>
        n.calls (t.fillings rules introductions (s.clock w.readings)) t.recipient

end World

theorem Turn.calls_greeting (t : Turn) (rules : TurnRules) :
    (t.greeting rules).filterMap Action.call? = (t.messageId.map Call.read).toList := by
  unfold greeting
  cases t.messageId <;> rfl

theorem Lesson.calls_actions (l : Lesson) : l.actions.filterMap Action.call? = [] := by
  unfold actions
  split <;> rfl

/-- A name that an answer tells is the name of the contact as it is. -/
theorem Lesson.contactName_keptAnswer {introductions : List Introduction} {name answer : String}
    (h : Text.isBlank answer = false) (before : String) :
    Lesson.contactName ⟨name, keptAnswer introductions name answer, isNameVariable name⟩ before =
      if isNameVariable name then keptAnswer introductions name answer else before := by
  unfold contactName keptAnswer
  cases isNameVariable name with
  | false => rfl
  | true =>
    obtain ⟨htrimmed, hne⟩ := givenName_trimmed introductions h
    simp [htrimmed.trim_eq, hne]

namespace World

variable {w w' : World} {s : Stage} {rules : TurnRules} {introductions : List Introduction}
  {t : Turn} {c : Card} {made : List Attempt}

/-- Actions that teach nothing leave what a card tells, be they all carried out or not. -/
theorem knowledge_untaught (h : w.desk.card? t.card.id = some c) {as : List Action}
    (has : ∀ a ∈ as, a.teaches = false) :
    ∃ c', (w.actAll s t as).2.desk.card? t.card.id = some c' ∧ c'.knowledge = c.knowledge := by
  induction as generalizing w c with
  | nil => exact ⟨c, h, rfl⟩
  | cons a as ih =>
    obtain ⟨ha, has⟩ := List.forall_mem_cons.1 has
    have hcard := card?_act (s := s) (a := a) h
    have hknows : (a.write t (s.clock w.readings) c).knowledge = c.knowledge := by
      rw [Action.knowledge_write, Action.teach_of_not_teaches ha]
    cases hact : (w.act s t a).1 with
    | ok _ =>
      rw [actAll_cons_ok hact]
      obtain ⟨c', hc', hsame⟩ := ih hcard has
      exact ⟨c', hc', hsame.trans hknows⟩
    | error e =>
      rw [actAll_cons_error hact]
      exact ⟨_, hcard, hknows⟩

/-- However a turn ends, its card tells what the lead of the turn made of it. -/
theorem knowledge_runTurn (h : w.desk.card? t.card.id = some c) (s : Stage) (rules : TurnRules)
    (introductions : List Introduction) :
    ∃ c', (w.runTurn s rules introductions t).2.desk.card? t.card.id = some c' ∧
      c'.knowledge =
        (t.lead rules introductions (s.clock w.readings)).foldl Action.teach c.knowledge := by
  obtain ⟨p, hcourse, hplan⟩ := t.plan_course rules introductions (s.clock w.readings)
  have hlead : (w.tick.actAll s t (t.lead rules introductions (s.clock w.readings))).1 = .ok () :=
    actAll_ok (w := w.tick) h s (Action.send_notMem_of_quiet fun _ => Turn.quiet_of_mem_lead)
  obtain ⟨c₁, hc₁, htaught⟩ := knowledge_actAll (w := w.tick) h hlead
  obtain ⟨c₂, hc₂, hkept⟩ := knowledge_untaught hc₁ hcourse.teaches
  refine ⟨c₂, ?_, hkept.trans htaught⟩
  rw [runTurn_desk, hplan, Plan.after, actAll_append hlead]
  exact hc₂

theorem takenUp_of_takes {n : Node} (h : w.desk.card? t.card.id = some c)
    (hresumes : t.resumesAt? rules (s.clock w.readings) = some n.id)
    (hnode : t.bot.flow.node? n.id = some n) (hk : n.kind = .capture)
    (hmade : (w.runTurn s rules introductions t).2.attempts = w.attempts ++ made)
    (hok : (w.tick.actAll s t (t.plan rules introductions (s.clock w.readings)).actions).1 = .ok ())
    (htakes : ¬ n.Declines (Text.trim t.text)) :
    w.TakenUp s rules introductions t c n
      (keptAnswer introductions n.captureName (Text.trim t.text)) made
      (w.runTurn s rules introductions t) := by
  have hplan := Turn.plan_of_takes introductions hresumes hnode hk htakes
  have hanswer : Text.isBlank (Text.trim t.text) = false :=
    Bool.eq_false_iff.2 fun hblank => htakes (.inl hblank)
  have hlesson : t.lesson? rules introductions (s.clock w.readings) = some ⟨n.captureName,
      keptAnswer introductions n.captureName (Text.trim t.text),
      isNameVariable n.captureName⟩ := by
    rw [Turn.lesson?, hresumes, Option.bind_some, Flow.node?_ofFlow, hnode, Option.bind_some,
      if_pos hk, Node.lesson?_of_takes htakes]
  refine ⟨n.captureName_not_blank, keptAnswer_not_blank _ _ hanswer, ?card, ?others, ?onward⟩
  case card =>
    obtain ⟨c', hc', hknows⟩ := knowledge_runTurn h s rules introductions
    rw [Turn.foldl_teach_lead, hlesson, Option.map_some, Option.getD_some, Lesson.foldl_teach,
      Lesson.contactName_keptAnswer hanswer] at hknows
    obtain ⟨hname, -, hfields⟩ := Knowledge.mk.inj hknows
    refine ⟨c', hc', ?_, fun name hother => ?_, hname⟩
    · rw [hfields, Dictionary.value?_set_self]
    · rw [hfields]
      exact Dictionary.value?_set_of_ne c.fields _ (Ne.symm hother)
  case others =>
    obtain ⟨_, _, hshown, -⟩ := shown_runTurn h s rules introductions
    exact hshown.others
  case onward =>
    have hfillings : t.fillings rules introductions (s.clock w.readings) =
        (Fillings.ofCard t.card).add ⟨n.captureName,
          keptAnswer introductions n.captureName (Text.trim t.text),
          isNameVariable n.captureName⟩ := by
      rw [Turn.fillings, hlesson]
    have hquiet : ∀ l : Lesson, ∀ a ∈ t.greeting rules ++ l.actions, a.moves = false := by
      intro l a ha
      exact Action.moves_of_quiet ((List.mem_append.1 ha).elim Turn.quiet_of_mem_greeting
        Turn.quiet_of_mem_lesson)
    obtain ⟨made', hmade', -, hall⟩ := calls_actAll w.tick s t
      (t.plan rules introductions (s.clock w.readings)).actions
    rw [runTurn_attempts] at hmade
    obtain rfl : made' = made := List.append_cancel_left (hmade'.symm.trans hmade)
    refine ⟨(Graph.ofFlow t.bot.flow).path rules.maxSteps (t.bot.flow.successor? n), _,
      by rw [runTurn_result, hok]; rfl, Flow.leads_path .., ?_, ?_, ?_⟩
    · rw [hplan]
      exact Flow.ends_walk _ _ _ _ none _
    · rw [visits, carriedOut_of_ok (w := w.tick) h hok, hplan, Plan.after, Turn.forward,
        Graph.walk_actions, ← List.append_assoc, List.filterMap_append,
        nodes_lead_visits (hquiet _), Outcome.nodes_closing, List.append_nil]
    · rw [hall hok, hplan, hfillings, Plan.after, List.filterMap_append, List.filterMap_append,
        Turn.calls_greeting, Lesson.calls_actions, List.append_nil, Turn.forward, Graph.calls_walk]

/-- A turn that goes on at a question, and of which no send is refused, keeps what the question
takes, and turns down what it does not take. -/
theorem answer_kept_or_turned_down (w : World) (s : Stage) (rules : TurnRules)
    (introductions : List Introduction) (t : Turn) (c : Card) (n : Node) (made : List Attempt)
    (h : w.desk.card? t.card.id = some c)
    (hresumes : t.resumesAt? rules (s.clock w.readings) = some n.id)
    (hnode : t.bot.flow.node? n.id = some n) (hk : n.kind = .capture)
    (hmade : (w.runTurn s rules introductions t).2.attempts = w.attempts ++ made)
    (hsucceed : ∀ a ∈ made, a.Succeeds) :
    (n.Declines (Text.trim t.text) →
      w.TurnedDown s rules t c n made (w.runTurn s rules introductions t)) ∧
    (¬ n.Declines (Text.trim t.text) →
      w.TakenUp s rules introductions t c n
        (keptAnswer introductions n.captureName (Text.trim t.text)) made
        (w.runTurn s rules introductions t)) := by
  have hok := actAll_of_succeed (w := w.tick) h
    (t.paired_plan rules introductions (s.clock w.readings))
    (runTurn_attempts.symm.trans hmade) hsucceed
  exact ⟨turnedDown_of_declines h hresumes hnode hk hmade hok,
    takenUp_of_takes h hresumes hnode hk hmade hok⟩

end World

-- ---------------------------------------------------------------------------
-- Asked for a name
-- ---------------------------------------------------------------------------

def nameQuestion : Node :=
  ⟨"ask", .capture, Dictionary.set Catalog.empty "variableName" (.str "nombre")⟩

def silentTurn : Turn := { receptionTurn "nombre" with text := " " }

/-- The name is kept in both places, and silence is turned down. -/
theorem answer_kept_or_turned_down_reception :
    receptionWorld.desk.card? ana.id = some ana ∧
      (receptionTurn "nombre").resumesAt? .standard ⟨0, 0⟩ = some "ask" ∧
      (∃ c, (receptionWorld.runTurn openStage .standard [] (receptionTurn "nombre")).2.desk.card?
          ana.id = some c ∧
        c.fields.value? "nombre" = some "Carlos" ∧ c.contactName = "Carlos") ∧
      ∃ c, (receptionWorld.runTurn openStage .standard [] silentTurn).2.desk.card? ana.id = some c ∧
        c.contactName = "Ana" ∧ c.position = ana.position := by
  have hcard : receptionWorld.desk.card? ana.id = some ana := rfl
  have hresumes : (receptionTurn "nombre").resumesAt? .standard ⟨0, 0⟩ = some "ask" := by
    decide +kernel
  have hsilent : silentTurn.resumesAt? .standard ⟨0, 0⟩ = some "ask" := by decide +kernel
  have hnode : (receptionBot "nombre").flow.node? "ask" = some nameQuestion := rfl
  have hname : nameQuestion.captureName = "nombre" := by decide +kernel
  have htakes : ¬ nameQuestion.Declines (Text.trim "Carlos") := by
    rw [← Node.accepts_iff]
    decide +kernel
  have hdeclines : nameQuestion.Declines (Text.trim " ") := .inl (by decide +kernel)
  have hkept : keptAnswer [] nameQuestion.captureName (Text.trim "Carlos") = "Carlos" := by
    decide +kernel
  have haccepted : ∀ t ∈ [receptionTurn "nombre", silentTurn],
      (receptionWorld.runTurn openStage .standard [] t).2.attempts.map Attempt.accepted =
        [true] := by
    decide +kernel
  have hsucceed : ∀ t ∈ [receptionTurn "nombre", silentTurn],
      ∀ a ∈ (receptionWorld.runTurn openStage .standard [] t).2.attempts, a.Succeeds := by
    intro t ht a ha _
    have hmem := List.mem_map_of_mem (f := Attempt.accepted) ha
    rw [haccepted t ht] at hmem
    exact List.mem_singleton.1 hmem
  refine ⟨hcard, hresumes, ?_, ?_⟩
  · obtain ⟨-, htaken⟩ := World.answer_kept_or_turned_down receptionWorld openStage .standard []
      (receptionTurn "nombre") ana nameQuestion _ hcard hresumes hnode rfl
      (List.nil_append _).symm (hsucceed _ List.mem_cons_self)
    obtain ⟨c, hc, hfield, -, hcontact⟩ := (htaken htakes).card
    rw [hname] at hfield hcontact
    exact ⟨c, hc, hfield.trans (congrArg some hkept), hcontact.trans hkept⟩
  · obtain ⟨hdown, -⟩ := World.answer_kept_or_turned_down receptionWorld openStage .standard []
      silentTurn ana nameQuestion _ hcard hsilent hnode rfl (List.nil_append _).symm
      (hsucceed _ (List.mem_cons_of_mem _ List.mem_cons_self))
    obtain ⟨c, e, -, hc, hafter⟩ := (hdown hdeclines).world
    have hid : c.id = ana.id := by rw [hc]
    refine ⟨c, ?_, by rw [hc]; rfl, by rw [hc]⟩
    rw [hafter, ← hid]
    exact Desk.card?_withCard_self _ _

end Switchboard
