import Switchboard.Proofs.Dialogue.AutomaticPath
import Switchboard.Proofs.Dialogue.Values

/-!
# How long a turn pauses

A turn that goes on at a saved node pauses before it takes up the reply. Behind that a node of the
kinds that send messages pauses as if it typed, even if it has nothing to send, and a node of delay
for as long as its data says. What a turn pauses for altogether is the sum over the nodes that it
executes, and nothing else (`World.pauses_add_up`).
-/

namespace Switchboard

/-- How long some pauses take together. -/
def together (spans : List Span) : Span := spans.foldr (· + ·) 0

@[simp] theorem together_append (xs ys : List Span) :
    together (xs ++ ys) = together xs + together ys := by
  induction xs with
  | nil => simp [together]
  | cons x xs ih =>
    unfold together at ih ⊢
    rw [List.cons_append, List.foldr_cons, List.foldr_cons, ih, Int.add_assoc]

-- ---------------------------------------------------------------------------
-- Typing
-- ---------------------------------------------------------------------------

/-- Twenty milliseconds for each character, but no less than 500 and no more than 2000, and 100
before them. -/
def typingTime (chars : Nat) : Nat := 100 + min (max (20 * chars) 500) 2000

/-- However many characters there are, nothing is lost where numbers have sixty-four bits. -/
theorem typingMillis_eq (chars : Nat) : typingMillis chars = typingTime chars := by
  simp only [typingMillis, typingTime, typingBase, shortestTyping, longestTyping, maxMillis,
    typingRate, UInt64.size]
  omega

theorem typingTime_le (chars : Nat) : typingTime chars ≤ 2100 := by
  unfold typingTime
  omega

-- ---------------------------------------------------------------------------
-- Pauses of nodes
-- ---------------------------------------------------------------------------

/-- The pause that an action makes. -/
def Action.span? : Action → Option Span
  | .pause span => some span
  | _ => none

namespace Node

variable {n : Node} {f : Fillings} {recipient : String}

/-- The text that a node types: the caption of a file if it has one, or else the body. -/
def typed (n : Node) : String :=
  if n.kind = .media then (n.textField? "caption").getD n.body else n.body

/-- The pauses of a node, of which there is one at most. -/
def pauses (n : Node) (f : Fillings) : List Span :=
  match n.kind with
  | .text | .media | .quickReply | .list =>
    if n.field? "typingSimulation" matches some (.bool false) then []
    else [typingTime (f.fill n.typed).length * millisecond]
  | .delay => [n.wait]
  | _ => []

theorem showsTyping_eq (n : Node) :
    n.showsTyping = !(n.field? "typingSimulation" matches some (.bool false)) := by
  unfold showsTyping
  rcases n.field? "typingSimulation" with _ | _ | (_ | _) | _ | _ | _ | _ <;> rfl

theorem spans_typing (text : String) (h : n.kind.sendsMessage = true) :
    (n.typing text).filterMap Action.span? =
      if n.field? "typingSimulation" matches some (.bool false) then []
      else [typingTime text.length * millisecond] := by
  rw [typing, h, Bool.true_and, showsTyping_eq]
  cases n.field? "typingSimulation" matches some (.bool false) with
  | true => rfl
  | false => simp [Action.span?, typingPause, typingMillis_eq]

theorem spans_utterance {as : List Action} (h : Utterance as) : as.filterMap Action.span? = [] := by
  cases h <;> rfl

/-- A node makes its pauses whatever it says behind them, and also if it says nothing. -/
theorem spans_actions (n : Node) (f : Fillings) (recipient : String) :
    (n.actions f recipient).filterMap Action.span? = n.pauses f := by
  have htyped {text : String} {spoken : List Action} (hkind : n.kind.sendsMessage = true)
      (hspoken : Utterance spoken) : (n.typing text ++ spoken).filterMap Action.span? =
        if n.field? "typingSimulation" matches some (.bool false) then []
        else [typingTime text.length * millisecond] := by
    rw [List.filterMap_append, spans_typing text hkind, spans_utterance hspoken, List.append_nil]
  unfold actions pauses typed
  cases hk : n.kind with
  | text => exact htyped (by rw [hk]; rfl) (utterance_sayUnlessBlank ..)
  | media => exact htyped (by rw [hk]; rfl) (n.utterance_mediaActions ..)
  | quickReply =>
    refine htyped (by rw [hk]; rfl) ?_
    cases n.buttons with
    | nil => exact utterance_sayUnlessBlank ..
    | cons b bs => exact .said rfl
  | list =>
    refine htyped (by rw [hk]; rfl) ?_
    cases n.sections with
    | nil => exact utterance_sayUnlessBlank ..
    | cons s ss => exact .said rfl
  | location => exact spans_utterance (n.utterance_locationActions recipient)
  | _ => rfl

theorem spans_flatMap_visit (ns : List Node) :
    (ns.flatMap fun n => n.visit f recipient).filterMap Action.span? =
      ns.flatMap fun n => n.pauses f := by
  have hvisit (n : Node) : (n.visit f recipient).filterMap Action.span? = n.pauses f :=
    n.spans_actions f recipient
  rw [List.filterMap_flatMap]
  simp only [hvisit]

end Node

theorem Outcome.spans_closing (o : Outcome) : o.closing.filterMap Action.span? = [] := by
  cases o <;> rfl

-- ---------------------------------------------------------------------------
-- Pauses of turns
-- ---------------------------------------------------------------------------

namespace Turn

variable {t : Turn} {rules : TurnRules}

theorem spans_lesson (l : Lesson) : l.actions.filterMap Action.span? = [] := by
  unfold Lesson.actions
  split <;> rfl

theorem spans_lead (t : Turn) (rules : TurnRules) (introductions : List Introduction)
    (now : Time.Instant) : (t.lead rules introductions now).filterMap Action.span? =
      if (t.resumesAt? rules now).isSome then [rules.settle] else [] := by
  have hgreeting : (t.greeting rules).filterMap Action.span? = [rules.settle] := by
    unfold greeting
    cases t.messageId <;> rfl
  have hlesson : (((t.lesson? rules introductions now).map Lesson.actions).getD []).filterMap
      Action.span? = [] := by
    cases t.lesson? rules introductions now with
    | none => rfl
    | some l => exact spans_lesson l
  rw [lead, List.filterMap_append, hlesson, List.append_nil]
  split
  · exact hgreeting
  · rfl

/-- Behind its lead a turn executes some nodes of the flow, and pauses where these do. -/
theorem Course.spans {f : Fillings} {p : Plan} (h : t.Course rules f p) :
    ∃ ns : List Node, (∀ n ∈ ns, t.bot.flow.node? n.id = some n) ∧
      p.actions.filterMap Action.node? = ns.map Node.id ∧
      p.actions.filterMap Action.span? = ns.flatMap fun n => n.pauses f := by
  cases h with
  | refusal n => exact ⟨[], nofun, rfl, rfl⟩
  | nowhere => exact ⟨[], nofun, rfl, rfl⟩
  | walk first =>
    refine ⟨(Graph.ofFlow t.bot.flow).path rules.maxSteps first, fun n hn => ?_, ?_, ?_⟩
    · rw [← Flow.node?_ofFlow]
      exact Graph.node?_of_mem_path hn
    · rw [forward, Graph.walk_actions, List.filterMap_append, nodes_flatMap_visit,
        Outcome.nodes_closing, List.append_nil]
    · rw [forward, Graph.walk_actions, List.filterMap_append, Node.spans_flatMap_visit,
        Outcome.spans_closing, List.append_nil]

end Turn

namespace World

variable {w : World} {s : Stage} {t : Turn}

/-- How long was paused so far. -/
def paused (w : World) : Span := together w.pauses

theorem pauses_changeDesk (w : World) (clock : Clock)
    (act : Desk → Time.Instant → Except DeskError Desk) :
    (w.changeDesk clock act).2.pauses = w.pauses := by
  unfold changeDesk onDesk
  dsimp only
  split <;> rfl

theorem pauses_act (w : World) (s : Stage) (t : Turn) (a : Action) :
    (w.act s t a).2.pauses = w.pauses ++ a.span?.toList := by
  have hsame : w.pauses = w.pauses ++ [] := (List.append_nil _).symm
  cases a with
  | showRead id => exact hsame
  | pause span => rfl
  | send call =>
    simp only [act, attempt]
    cases s.channel (w.callsOn s.platform) call <;> exact hsame
  | countStep kind => exact hsame
  | _ => simp only [act, pauses_changeDesk]; exact hsame

theorem pauses_actAll {as : List Action} (h : (w.actAll s t as).1 = .ok ()) :
    (w.actAll s t as).2.pauses = w.pauses ++ as.filterMap Action.span? := by
  obtain ⟨made, hmade, -, hall⟩ := log_actAll (fun w a => pauses_act w s t a) w as
  rw [hmade, hall h]

theorem runTurn_pauses (w : World) (s : Stage) (rules : TurnRules)
    (introductions : List Introduction) (t : Turn) :
    (w.runTurn s rules introductions t).2.pauses =
      (w.tick.actAll s t (t.plan rules introductions (s.clock w.readings)).actions).2.pauses := by
  unfold runTurn
  dsimp only
  split <;> rename_i hw <;> rw [hw] <;> rfl

/-- A turn whose sends are all accepted pauses to settle if it goes on at a saved node, and then
where the nodes do that it executes. -/
theorem pauses_runTurn {c : Card} (h : w.desk.card? t.card.id = some c) (hs : s.AcceptsSends)
    (rules : TurnRules) (introductions : List Introduction) :
    let now := s.clock w.readings
    let settling := if (t.resumesAt? rules now).isSome then [rules.settle] else []
    ∃ ns : List Node, w.visits s rules introductions t = ns.map Node.id ∧
      (∀ n ∈ ns, t.bot.flow.node? n.id = some n) ∧
      (w.runTurn s rules introductions t).2.pauses = w.pauses ++
        (settling ++ ns.flatMap fun n => n.pauses (t.fillings rules introductions now)) := by
  intro now settling
  have hstored : w.tick.desk.card? t.card.id = some c := h
  have hok : (w.tick.actAll s t (t.plan rules introductions now).actions).1 = .ok () :=
    actAll_of_accepts hstored hs (t.paired_plan rules introductions now)
  obtain ⟨p, hcourse, hplan⟩ := t.plan_course rules introductions now
  obtain ⟨ns, hfound, hnodes, hspans⟩ := hcourse.spans
  have hlead : (t.lead rules introductions now).filterMap Action.node? = [] :=
    nodes_eq_nil fun a ha => Action.moves_of_quiet (Turn.quiet_of_mem_lead ha)
  refine ⟨ns, ?_, hfound, ?_⟩
  · rw [visits, carriedOut_of_ok hstored hok, hplan, Plan.after, List.filterMap_append, hlead,
      hnodes, List.nil_append]
  · rw [runTurn_pauses, pauses_actAll hok, hplan, Plan.after, List.filterMap_append, t.spans_lead,
      hspans]
    rfl

/-- What a turn pauses for whose sends are all accepted adds up: the time to settle if it goes on at
a saved node, and the pauses of the nodes that it executes. The time of typing is the exact one for
any number of characters. -/
theorem pauses_add_up (w : World) (s : Stage) (rules : TurnRules)
    (introductions : List Introduction) (t : Turn) (h : (w.desk.card? t.card.id).isSome)
    (hs : s.AcceptsSends) :
    let now := s.clock w.readings
    let settling := if (t.resumesAt? rules now).isSome then rules.settle else 0
    (∀ chars, typingMillis chars = typingTime chars ∧ typingTime chars < UInt64.size) ∧
      ∃ ns : List Node, w.visits s rules introductions t = ns.map Node.id ∧
        (∀ n ∈ ns, t.bot.flow.node? n.id = some n) ∧
        (w.runTurn s rules introductions t).2.paused = w.paused + (settling +
          together (ns.flatMap fun n => n.pauses (t.fillings rules introductions now))) := by
  intro now settling
  obtain ⟨c, hc⟩ := Option.isSome_iff_exists.1 h
  obtain ⟨ns, hvisits, hfound, hpauses⟩ := pauses_runTurn hc hs rules introductions
  have hsettling : together (if (t.resumesAt? rules now).isSome then [rules.settle] else []) =
      settling := by
    rw [apply_ite together]
    simp [together, settling]
  have hsmall (chars : Nat) : typingTime chars < UInt64.size :=
    Nat.lt_of_le_of_lt (typingTime_le chars) (by decide)
  refine ⟨fun chars => ⟨typingMillis_eq chars, hsmall chars⟩, ns, hvisits, hfound, ?_⟩
  rw [paused, hpauses, together_append, together_append, hsettling]
  rfl

end World

-- ---------------------------------------------------------------------------
-- In a gallery
-- ---------------------------------------------------------------------------

/-- A bot that asks for a name, rests, shows a picture that it has no address of, and falls silent
at once. -/
def tourBot : Bot where
  id := "tour"
  name := "Tour"
  isActive := true
  updatedAt := ⟨0, 0⟩
  flow := {
    nodes := [⟨"start", .start, Catalog.empty⟩,
      ⟨"ask", .capture, Dictionary.set Catalog.empty "variableName" (.str "apodo")⟩,
      ⟨"rest", .delay, Dictionary.set Catalog.empty "duration" (.num (.float 0.5))⟩,
      ⟨"picture", .media,
        Dictionary.set Catalog.empty "caption" (.str "Bienvenido, \x7bapodo\x7d, a la galería")⟩,
      ⟨"hush", .text, Dictionary.set Catalog.empty "typingSimulation" (.bool false)⟩]
    edges := [⟨"start", "ask", none⟩, ⟨"ask", "rest", none⟩, ⟨"rest", "picture", none⟩,
      ⟨"picture", "hush", none⟩] }

def tourTurn : Turn := ⟨tourBot, "s1", ana, "Carlos", none, false⟩

/-- The caption has 32 characters with the name in it: half a second to settle, half a second of
rest, and 740 milliseconds of typing. -/
theorem pauses_add_up_tour :
    (receptionWorld.desk.card? tourTurn.card.id).isSome ∧ openStage.AcceptsSends ∧
      ∃ ns : List Node, ns.map Node.id = ["rest", "picture", "hush"] ∧
        together (ns.flatMap fun n => n.pauses (tourTurn.fillings .standard [] ⟨0, 0⟩)) =
          (500 + 740) * millisecond ∧
        (receptionWorld.runTurn openStage .standard [] tourTurn).2.paused =
          (500 + (500 + 740)) * millisecond := by
  have hcard : (receptionWorld.desk.card? tourTurn.card.id).isSome := rfl
  have hstage : openStage.AcceptsSends := fun _ _ _ => rfl
  have hvisits : receptionWorld.visits openStage .standard [] tourTurn =
      ["rest", "picture", "hush"] := by decide +kernel
  have hresumes : (tourTurn.resumesAt? .standard ⟨0, 0⟩).isSome = true := by decide +kernel
  have hpaused : (receptionWorld.runTurn openStage .standard [] tourTurn).2.paused =
      (500 + (500 + 740)) * millisecond := by decide +kernel
  obtain ⟨-, ns, hns, -, hsum⟩ :=
    World.pauses_add_up receptionWorld openStage .standard [] tourTurn hcard hstage
  have hbefore : receptionWorld.paused = 0 := rfl
  have hsettle : TurnRules.standard.settle = 500 * millisecond := rfl
  refine ⟨hcard, hstage, ns, hns.symm.trans hvisits, ?_, hpaused⟩
  -- the share of the nodes is what is left of the whole
  replace hsum : (receptionWorld.runTurn openStage .standard [] tourTurn).2.paused =
      receptionWorld.paused + ((if (tourTurn.resumesAt? .standard ⟨0, 0⟩).isSome then
        TurnRules.standard.settle else 0) +
      together (ns.flatMap fun n => n.pauses (tourTurn.fillings .standard [] ⟨0, 0⟩))) := hsum
  rw [hpaused, hbefore, hresumes, if_pos rfl, hsettle, Int.zero_add, Int.add_mul] at hsum
  exact (Int.add_left_cancel hsum).symm

end Switchboard
