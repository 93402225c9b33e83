import Switchboard.Proofs.Dialogue.Speech
import Switchboard.Proofs.Dialogue.Values

/-!
# Whom a turn addresses

Everything that a turn sends goes to the recipient of the turn, and the only message that it shows as
read is the one that it answers (`Turn.concerns_plan`). What comes of its calls is what the channel of
its stage answers to them, one after the other (`World.answers_actAll`).
-/

namespace Switchboard

/-- A call that sends to a recipient, or shows the message with an id as read. -/
def Call.Concerns (recipient : String) (messageId : Option String) : Call → Prop
  | .text whom _ | .buttons whom _ _ | .list whom _ _ _ | .media whom _ _ _
  | .location whom _ _ _ _ => whom = recipient
  | .read id => messageId = some id

namespace Node

variable {n : Node} {f : Fillings} {recipient text : String} {messageId : Option String}
  {call : Call}

theorem concerns_say (h : .send call ∈ say recipient text) :
    call.Concerns recipient messageId := by
  simp only [say, List.mem_cons, Action.send.injEq, reduceCtorEq, List.not_mem_nil, or_false] at h
  subst h
  rfl

theorem concerns_sayUnlessBlank (h : .send call ∈ sayUnlessBlank recipient text) :
    call.Concerns recipient messageId := by
  unfold sayUnlessBlank at h
  split at h
  · cases h
  · exact concerns_say h

theorem concerns_mediaActions (h : .send call ∈ n.mediaActions recipient text) :
    call.Concerns recipient messageId := by
  unfold mediaActions at h
  split at h
  · cases h
  · simp only [List.mem_cons, Action.send.injEq, reduceCtorEq, List.not_mem_nil, or_false] at h
    subst h
    rfl

theorem concerns_locationActions (h : .send call ∈ n.locationActions recipient) :
    call.Concerns recipient messageId := by
  unfold locationActions at h
  split at h
  · cases h
  · simp only [List.mem_cons, Action.send.injEq, reduceCtorEq, List.not_mem_nil, or_false] at h
    subst h
    rfl

theorem send_notMem_typing (n : Node) (text : String) (call : Call) :
    .send call ∉ n.typing text := by
  unfold typing
  split <;> simp

/-- A node sends to the recipient alone. -/
theorem concerns_actions (h : .send call ∈ n.actions f recipient) :
    call.Concerns recipient messageId := by
  have htyped : ∀ {text : String} {spoken : List Action},
      .send call ∈ n.typing text ++ spoken → .send call ∈ spoken := by
    intro text spoken h
    exact (List.mem_append.1 h).resolve_left (n.send_notMem_typing text call)
  unfold actions at h
  dsimp only at h
  split at h
  · exact concerns_sayUnlessBlank (htyped h)
  · exact concerns_mediaActions (htyped h)
  · replace h := htyped h
    split at h
    · exact concerns_sayUnlessBlank h
    · simp only [List.mem_cons, Action.send.injEq, reduceCtorEq, List.not_mem_nil, or_false] at h
      subst h
      rfl
  · replace h := htyped h
    split at h
    · exact concerns_sayUnlessBlank h
    · simp only [List.mem_cons, Action.send.injEq, reduceCtorEq, List.not_mem_nil, or_false] at h
      subst h
      rfl
  · exact concerns_locationActions h
  · simp at h
  · cases h

end Node

-- ---------------------------------------------------------------------------
-- Turns
-- ---------------------------------------------------------------------------

namespace Turn

variable {t : Turn} {rules : TurnRules} {introductions : List Introduction} {now : Time.Instant}
  {call : Call}

/-- Behind the lead of a turn nothing is shown as read, and what is sent goes to the recipient. -/
theorem Course.concerns {f : Fillings} {p : Plan} (h : t.Course rules f p) {a : Action}
    (ha : a ∈ p.actions) (hcall : a.call? = some call) :
    call.Concerns t.recipient t.messageId := by
  cases h with
  | refusal n =>
    cases a with
    | send x => cases hcall; exact Node.concerns_say ha
    | showRead id => simp [Node.say] at ha
    | _ => cases hcall
  | nowhere => cases ha
  | walk first =>
    rw [forward, Graph.walk_actions] at ha
    rcases List.mem_append.1 ha with ha | ha
    · obtain ⟨n, -, ha⟩ := List.mem_flatMap.1 ha
      rcases List.mem_cons.1 ha with rfl | ha
      · cases hcall
      rcases List.mem_cons.1 ha with rfl | ha
      · cases hcall
      have hspeaks := n.speaks_of_mem_actions ha
      cases a with
      | send x => cases hcall; exact Node.concerns_actions ha
      | showRead id => cases hspeaks
      | _ => cases hcall
    · unfold Outcome.closing at ha
      split at ha
      · rw [List.mem_singleton.1 ha] at hcall
        cases hcall
      · cases ha

theorem concerns_lead {a : Action} (ha : a ∈ t.lead rules introductions now)
    (hcall : a.call? = some call) : call.Concerns t.recipient t.messageId := by
  unfold lead at ha
  rcases List.mem_append.1 ha with ha | ha
  · split at ha
    · rcases List.mem_append.1 ha with ha | ha
      · obtain ⟨id, hid, rfl⟩ := Option.map_eq_some_iff.1 (Option.mem_toList.1 ha)
        cases hcall
        exact hid
      · rw [List.mem_singleton.1 ha] at hcall
        cases hcall
    · cases ha
  · cases hl : t.lesson? rules introductions now with
    | none => rw [hl] at ha; cases ha
    | some l =>
      rw [hl] at ha
      have hquiet := quiet_of_mem_lesson ha
      cases a with
      | showRead id =>
        -- a lesson is learned, and at most gives a name
        simp only [Option.map_some, Option.getD_some, Lesson.actions, List.mem_cons, reduceCtorEq,
          false_or] at ha
        split at ha <;> simp at ha
      | send x => cases hquiet
      | _ => cases hcall

theorem concerns_plan (h : call ∈
    (t.plan rules introductions now).actions.filterMap Action.call?) :
    call.Concerns t.recipient t.messageId := by
  obtain ⟨a, ha, hcall⟩ := List.mem_filterMap.1 h
  obtain ⟨p, hcourse, hplan⟩ := t.plan_course rules introductions now
  rw [hplan] at ha
  rcases List.mem_append.1 ha with ha | ha
  · exact concerns_lead ha hcall
  · exact hcourse.concerns ha hcall

end Turn

-- ---------------------------------------------------------------------------
-- What comes of calls
-- ---------------------------------------------------------------------------

/-- The attempts that come of calls on a channel, behind those that were made there before. -/
def answers (channel : Channel) (p : Platform) (earlier : List Call) : List Call → List Attempt
  | [] => []
  | call :: calls =>
    ⟨p, call, (channel earlier call).isOk⟩ :: answers channel p (earlier ++ [call]) calls

/-- Each of the attempts is answered behind the calls before it. -/
theorem accepted_of_answers {channel : Channel} {p : Platform} {earlier calls : List Call}
    {before after : List Attempt} {a : Attempt}
    (h : answers channel p earlier calls = before ++ a :: after) :
    a.accepted = (channel (earlier ++ before.map Attempt.call) a.call).isOk := by
  induction calls generalizing earlier before with
  | nil => simp [answers] at h
  | cons call calls ih =>
    rcases List.cons_eq_append_iff.1 h with ⟨rfl, hfirst⟩ | ⟨rest, rfl, hrest⟩
    · cases hfirst
      rw [List.map_nil, List.append_nil]
    · rw [ih hrest, List.map_cons, List.append_assoc, List.singleton_append]

namespace World

theorem callsOn_of_attempt {w w' : World} {p : Platform} {call : Call} {accepted : Bool}
    (h : w'.attempts = w.attempts ++ [⟨p, call, accepted⟩]) :
    w'.callsOn p = w.callsOn p ++ [call] := by
  simp [callsOn, h]

theorem callsOn_congr {w w' : World} (h : w'.attempts = w.attempts) (p : Platform) :
    w'.callsOn p = w.callsOn p := by
  rw [callsOn, callsOn, h]

/-- The attempts of actions are what the channel answers to the calls that they begin with. -/
theorem answers_actAll (w : World) (s : Stage) (t : Turn) (as : List Action) :
    ∃ calls, calls <+: as.filterMap Action.call? ∧
      (w.actAll s t as).2.attempts =
        w.attempts ++ answers s.channel s.platform (w.callsOn s.platform) calls := by
  induction as generalizing w with
  | nil => exact ⟨[], List.prefix_rfl, (List.append_nil _).symm⟩
  | cons a as ih =>
    have hact := attempts_act w s t a
    have hone : ∃ calls, calls <+: (a :: as).filterMap Action.call? ∧
        (w.act s t a).2.attempts =
          w.attempts ++ answers s.channel s.platform (w.callsOn s.platform) calls := by
      refine ⟨a.call?.toList, ?_, ?_⟩ <;> cases h : a.call? <;> rw [h] at hact
      · exact List.nil_prefix
      · simp [h]
      · exact hact
      · exact hact
    cases ha : (w.act s t a).1 with
    | error e => rw [actAll_cons_error ha]; exact hone
    | ok _ =>
      rw [actAll_cons_ok ha]
      obtain ⟨calls, hsub, hcalls⟩ := ih (w.act s t a).2
      cases h : a.call? with
      | none =>
        rw [h, Option.toList_none, List.map_nil, List.append_nil] at hact
        refine ⟨calls, by simpa [h] using hsub, ?_⟩
        rw [hcalls, callsOn_congr hact, hact]
      | some call =>
        rw [h, Option.toList_some, List.map_singleton] at hact
        refine ⟨call :: calls, by simpa [h] using hsub, ?_⟩
        rw [hcalls, callsOn_of_attempt hact, hact, answers, List.append_assoc,
          List.singleton_append]

/-- What a turn asks of the platform concerns its recipient and the message that it answers. -/
theorem answers_runTurn (w : World) (s : Stage) (rules : TurnRules)
    (introductions : List Introduction) (t : Turn) :
    ∃ calls : List Call, (∀ call ∈ calls, call.Concerns t.recipient t.messageId) ∧
      (w.runTurn s rules introductions t).2.attempts =
        w.attempts ++ answers s.channel s.platform (w.callsOn s.platform) calls := by
  obtain ⟨calls, hsub, hcalls⟩ := answers_actAll w.tick s t
    (t.plan rules introductions (s.clock w.readings)).actions
  refine ⟨calls, fun call hcall => Turn.concerns_plan (hsub.subset hcall), ?_⟩
  rw [runTurn_attempts]
  exact hcalls

end World

end Switchboard
