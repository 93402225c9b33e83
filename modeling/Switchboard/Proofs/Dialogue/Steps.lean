import Switchboard.Proofs.Dialogue.AutomaticPath
import Switchboard.Proofs.Dialogue.Values

/-!
# What a turn counts

A turn counts the nodes that it comes to, of which there are no more than the turn has steps, and at
its end how it ended (`World.tally_runTurn`). It is counted as failed if and only if a send was
refused.
-/

namespace Switchboard

-- ---------------------------------------------------------------------------
-- Plans
-- ---------------------------------------------------------------------------

namespace Action

/-- The kind of the node that an action counts. -/
def step? : Action → Option NodeKind
  | .countStep kind => some kind
  | _ => none

theorem step?_of_quiet {a : Action} (h : a.quiet = true) : a.step? = none := by
  cases a <;> first | rfl | cases h

theorem step?_of_speaks {a : Action} (h : a.speaks = true) : a.step? = none := by
  cases a <;> first | rfl | cases h

end Action

theorem Node.steps_flatMap_visit (ns : List Node) (f : Fillings) (recipient : String) :
    (ns.flatMap fun n => n.visit f recipient).filterMap Action.step? = ns.map Node.kind := by
  induction ns with
  | nil => rfl
  | cons n ns ih =>
    have hspeaks : (n.actions f recipient).filterMap Action.step? = [] :=
      List.filterMap_eq_nil_iff.2 fun a ha => Action.step?_of_speaks (n.speaks_of_mem_actions ha)
    rw [List.flatMap_cons, List.filterMap_append, ih, Node.visit]
    simp only [List.filterMap_cons, Action.step?, hspeaks]
    rfl

theorem Outcome.steps_closing (o : Outcome) : o.closing.filterMap Action.step? = [] := by
  cases o <;> rfl

namespace Turn

variable {t : Turn} {rules : TurnRules}

theorem Course.length_steps_le {f : Fillings} {p : Plan} (h : t.Course rules f p) :
    (p.actions.filterMap Action.step?).length ≤ rules.maxSteps := by
  cases h with
  | refusal n => exact Nat.zero_le _
  | nowhere => exact Nat.zero_le _
  | walk first =>
    rw [forward, Graph.walk_actions, List.filterMap_append, Node.steps_flatMap_visit,
      Outcome.steps_closing, List.append_nil, List.length_map]
    exact Flow.length_path_le t.bot.flow rules.maxSteps first

/-- A turn plans to come to no more nodes than it has steps. -/
theorem length_steps_plan (t : Turn) (rules : TurnRules) (introductions : List Introduction)
    (now : Time.Instant) :
    ((t.plan rules introductions now).actions.filterMap Action.step?).length ≤ rules.maxSteps := by
  obtain ⟨p, hcourse, hplan⟩ := t.plan_course rules introductions now
  have hlead : (t.lead rules introductions now).filterMap Action.step? = [] :=
    List.filterMap_eq_nil_iff.2 fun a ha => Action.step?_of_quiet (quiet_of_mem_lead ha)
  rw [hplan, Plan.after, List.filterMap_append, hlead, List.nil_append]
  exact hcourse.length_steps_le

end Turn

-- ---------------------------------------------------------------------------
-- Turns carried out
-- ---------------------------------------------------------------------------

namespace World

theorem tally_changeDesk (w : World) (clock : Clock)
    (act : Desk → Time.Instant → Except DeskError Desk) :
    (w.changeDesk clock act).2.tally = w.tally := by
  unfold changeDesk onDesk
  dsimp only
  split <;> rfl

theorem tally_act (w : World) (s : Stage) (t : Turn) (a : Action) :
    (w.act s t a).2.tally = w.tally ++ a.step?.toList.map Count.botStep := by
  have hsame : w.tally = w.tally ++ [] := (List.append_nil _).symm
  cases a with
  | showRead id => exact hsame
  | pause span => exact hsame
  | send call =>
    simp only [act, attempt]
    cases s.channel (w.callsOn s.platform) call <;> exact hsame
  | countStep kind => rfl
  | _ => simp only [act, tally_changeDesk]; exact hsame

/-- The nodes that are counted while actions are carried out are the first of those that they would
count. -/
theorem tally_actAll (w : World) (s : Stage) (t : Turn) (as : List Action) :
    ∃ kinds, kinds <+: as.filterMap Action.step? ∧
      (w.actAll s t as).2.tally = w.tally ++ kinds.map Count.botStep := by
  have hlog (w : World) (a : Action) :
      (w.act s t a).2.tally = w.tally ++ (a.step?.map Count.botStep).toList := by
    rw [tally_act]
    cases a.step? <;> rfl
  obtain ⟨made, hmade, hbegins, -⟩ := log_actAll hlog w as
  rw [← List.map_filterMap] at hbegins
  obtain ⟨kinds, hkinds, rfl⟩ := List.prefix_map_iff.1 hbegins
  exact ⟨kinds, hkinds, hmade⟩

/-- How the end of a turn is counted. -/
def ending : Except TurnError Outcome → String
  | .ok o => o.name
  | .error _ => "failed"

theorem ending_eq_failed_iff (r : Except TurnError Outcome) :
    ending r = "failed" ↔ r.isOk = false := by
  cases r with
  | ok o => cases o <;> simp [ending, Outcome.name, Except.isOk, Except.toBool]
  | error e => simp [ending, Except.isOk, Except.toBool]

/-- A turn counts nodes, no more than it has steps, and how it ended. -/
theorem tally_runTurn (w : World) (s : Stage) (rules : TurnRules)
    (introductions : List Introduction) (t : Turn) :
    ∃ kinds : List NodeKind, kinds.length ≤ rules.maxSteps ∧
      (w.runTurn s rules introductions t).2.tally = w.tally ++
        (kinds.map Count.botStep ++ [.botTurn (ending (w.runTurn s rules introductions t).1)]) := by
  obtain ⟨kinds, hkinds, htally⟩ := tally_actAll w.tick s t
    (t.plan rules introductions (s.clock w.readings)).actions
  refine ⟨kinds, Nat.le_trans hkinds.length_le (t.length_steps_plan ..), ?_⟩
  rw [← List.append_assoc]
  unfold runTurn
  dsimp only
  split <;> rename_i hw <;> rw [hw] at htally <;> exact congrArg (· ++ [_]) htally

/-- What breaks off a turn is a send that the platform refused. -/
theorem runTurn_error {w : World} {t : Turn} {c : Card} (h : w.desk.card? t.card.id = some c)
    (s : Stage) (rules : TurnRules) (introductions : List Introduction) {e : TurnError}
    (he : (w.runTurn s rules introductions t).1 = .error e) : ∃ d, e = .delivery d := by
  rw [runTurn_result] at he
  rcases actAll_cases (w := w.tick) h s
    (t.plan rules introductions (s.clock w.readings)).actions with
    ⟨hok, -⟩ | ⟨-, -, -, d, -, -, hrefused, -⟩
  · rw [hok] at he
    cases he
  · rw [hrefused] at he
    cases he
    exact ⟨d, rfl⟩

end World

end Switchboard
