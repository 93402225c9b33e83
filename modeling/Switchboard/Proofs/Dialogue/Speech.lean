import Switchboard.Proofs.Dialogue.Shape

/-!
# What a turn says

A node says at most one thing, and writes it down as soon as it is sent (`Node.actions_cases`). So
in the plan of a turn each send is followed by its line (`Turn.paired_plan`), and what a turn asks of
the platform is the beginning of what was planned (`World.calls_actAll`).
-/

namespace Switchboard

-- ---------------------------------------------------------------------------
-- Calls and their lines
-- ---------------------------------------------------------------------------

/-- The line that shows on a card what a call sent. -/
def Call.line? : Call → Option String
  | .text _ words | .buttons _ words _ | .list _ words _ _ => some words
  | .media _ _ caption _ => some ("[Archivo] " ++ caption)
  | .location _ _ _ name _ => some (if name.isEmpty then "[Ubicación]" else "[Ubicación] " ++ name)
  | .read _ => none

theorem Call.sends_of_line? {call : Call} {line : String} (h : call.line? = some line) :
    call.sends = true := by
  cases call <;> first | rfl | cases h

namespace Action

def call? : Action → Option Call
  | .showRead id => some (.read id)
  | .send call => some call
  | _ => none

def silent : Action → Bool
  | .send _ | .note _ => false
  | _ => true

theorem silent_of_quiet {a : Action} (h : a.quiet = true) : a.silent = true := by
  cases a <;> first | rfl | cases h

end Action

/-- Actions in which each send is followed at once by its line, and no other line is written. -/
inductive Paired : List Action → Prop
  | nil : Paired []
  | silent {a : Action} {as : List Action} (silent : a.silent = true) (rest : Paired as) :
      Paired (a :: as)
  | sent {call : Call} {line : String} {as : List Action} (shown : call.line? = some line)
      (rest : Paired as) : Paired (.send call :: .note line :: as)

namespace Paired

variable {as bs : List Action}

theorem append (ha : Paired as) (hb : Paired bs) : Paired (as ++ bs) := by
  induction ha with
  | nil => exact hb
  | silent h _ ih => exact .silent h ih
  | sent h _ ih => exact .sent h ih

theorem of_silent (h : ∀ a ∈ as, a.silent = true) : Paired as := by
  induction as with
  | nil => exact .nil
  | cons a as ih =>
    obtain ⟨ha, has⟩ := List.forall_mem_cons.1 h
    exact .silent ha (ih has)

theorem of_quiet (h : ∀ a ∈ as, a.quiet = true) : Paired as :=
  of_silent fun a ha => Action.silent_of_quiet (h a ha)

theorem flatMap {α : Type} {f : α → List Action} (xs : List α) (h : ∀ x ∈ xs, Paired (f x)) :
    Paired (xs.flatMap f) := by
  induction xs with
  | nil => exact .nil
  | cons x xs ih =>
    obtain ⟨hx, hxs⟩ := List.forall_mem_cons.1 h
    rw [List.flatMap_cons]
    exact hx.append (ih hxs)

theorem sends (h : Paired as) {call : Call} (hc : .send call ∈ as) : call.sends = true := by
  induction h with
  | nil => cases hc
  | silent hs _ ih =>
    rcases List.mem_cons.1 hc with rfl | hc
    · cases hs
    · exact ih hc
  | sent hl _ ih =>
    rcases List.mem_cons.1 hc with heq | hc
    · cases heq
      exact Call.sends_of_line? hl
    · rcases List.mem_cons.1 hc with heq | hc
      · cases heq
      · exact ih hc

end Paired

-- ---------------------------------------------------------------------------
-- Nodes and plans
-- ---------------------------------------------------------------------------

inductive Utterance : List Action → Prop
  | nothing : Utterance []
  | said {call : Call} {line : String} (shown : call.line? = some line) :
      Utterance [.send call, .note line]

namespace Node

variable {n : Node} {f : Fillings} {recipient : String}

theorem utterance_sayUnlessBlank (recipient text : String) :
    Utterance (sayUnlessBlank recipient text) := by
  unfold sayUnlessBlank
  split
  · exact .nothing
  · exact .said rfl

theorem utterance_mediaActions (n : Node) (recipient caption : String) :
    Utterance (n.mediaActions recipient caption) := by
  unfold mediaActions
  split
  · exact .nothing
  · exact .said rfl

theorem utterance_locationActions (n : Node) (recipient : String) :
    Utterance (n.locationActions recipient) := by
  unfold locationActions
  split
  · exact .nothing
  · exact .said rfl

theorem typing_eq_pauses (n : Node) (text : String) :
    ∃ spans : List Span, n.typing text = spans.map Action.pause := by
  unfold typing
  split
  · exact ⟨[typingPause text], rfl⟩
  · exact ⟨[], rfl⟩

/-- A node pauses, and then says at most one thing. -/
theorem actions_cases (n : Node) (f : Fillings) (recipient : String) :
    ∃ (spans : List Span) (spoken : List Action),
      n.actions f recipient = spans.map Action.pause ++ spoken ∧ Utterance spoken := by
  have htyped : ∀ text spoken, Utterance spoken → ∃ (spans : List Span) (spoken' : List Action),
      n.typing text ++ spoken = spans.map Action.pause ++ spoken' ∧ Utterance spoken' := by
    intro text spoken hspoken
    obtain ⟨spans, hspans⟩ := n.typing_eq_pauses text
    exact ⟨spans, spoken, by rw [hspans], hspoken⟩
  unfold actions
  dsimp only
  split
  · exact htyped _ _ (utterance_sayUnlessBlank _ _)
  · exact htyped _ _ (n.utterance_mediaActions _ _)
  · refine htyped _ _ ?_
    split
    · exact utterance_sayUnlessBlank _ _
    · exact .said rfl
  · refine htyped _ _ ?_
    split
    · exact utterance_sayUnlessBlank _ _
    · exact .said rfl
  · exact ⟨[], _, rfl, n.utterance_locationActions _⟩
  · exact ⟨[n.wait], [], rfl, .nothing⟩
  · exact ⟨[], [], rfl, .nothing⟩

theorem paired_actions (n : Node) (f : Fillings) (recipient : String) :
    Paired (n.actions f recipient) := by
  obtain ⟨spans, spoken, hactions, hspoken⟩ := n.actions_cases f recipient
  rw [hactions]
  refine (Paired.of_silent fun a ha => ?_).append ?_
  · obtain ⟨span, _, rfl⟩ := List.mem_map.1 ha
    rfl
  · cases hspoken with
    | nothing => exact .nil
    | said shown => exact .sent shown .nil

def calls (n : Node) (f : Fillings) (recipient : String) : List Call :=
  (n.actions f recipient).filterMap Action.call?

/-- A node makes at most one call, and it is a send. -/
theorem calls_cases (n : Node) (f : Fillings) (recipient : String) :
    n.calls f recipient = [] ∨ ∃ call, n.calls f recipient = [call] ∧ call.sends = true := by
  obtain ⟨spans, spoken, hactions, hspoken⟩ := n.actions_cases f recipient
  have hspans : (spans.map Action.pause).filterMap Action.call? = [] :=
    List.filterMap_eq_nil_iff.2 fun a ha => by
      obtain ⟨span, _, rfl⟩ := List.mem_map.1 ha
      rfl
  unfold calls
  rw [hactions, List.filterMap_append, hspans, List.nil_append]
  cases hspoken with
  | nothing => exact .inl rfl
  | said shown => exact .inr ⟨_, rfl, Call.sends_of_line? shown⟩

theorem calls_flatMap_visit (ns : List Node) :
    (ns.flatMap fun n => n.visit f recipient).filterMap Action.call? =
      ns.flatMap fun n => n.calls f recipient := by
  rw [List.filterMap_flatMap]
  rfl

theorem length_calls_le (n : Node) (f : Fillings) (recipient : String) :
    (n.calls f recipient).length ≤ 1 := by
  rcases n.calls_cases f recipient with h | ⟨call, h, _⟩ <;> rw [h] <;> simp

theorem length_flatMap_calls_le (ns : List Node) :
    (ns.flatMap fun n => n.calls f recipient).length ≤ ns.length := by
  induction ns with
  | nil => exact Nat.le_refl 0
  | cons n ns ih =>
    have h := n.length_calls_le f recipient
    rw [List.flatMap_cons, List.length_append, List.length_cons]
    omega

theorem paired_visit (n : Node) (f : Fillings) (recipient : String) :
    Paired (n.visit f recipient) := .silent rfl (.silent rfl (n.paired_actions f recipient))

theorem paired_say (recipient text : String) : Paired (say recipient text) := .sent rfl .nil

end Node

theorem Outcome.paired_closing (o : Outcome) : Paired o.closing := by
  cases o with
  | completed => exact .silent rfl .nil
  | _ => exact .nil

theorem Graph.paired_walk (g : Graph) (f : Fillings) (recipient : String) (steps : Nat)
    (last next : Option String) : Paired (g.walk f recipient steps last next).actions := by
  rw [walk_actions]
  exact (Paired.flatMap _ fun n _ => n.paired_visit f recipient).append (Outcome.paired_closing _)

/-- In the plan of a turn each send is followed by its line. -/
theorem Turn.paired_plan (t : Turn) (rules : TurnRules) (introductions : List Introduction)
    (now : Time.Instant) : Paired (t.plan rules introductions now).actions := by
  have hshape := t.plan_shape rules introductions now
  have hplan : t.plan rules introductions now =
    t.planWithin rules introductions now rules.maxSteps := rfl
  rw [hplan]
  generalize t.planWithin rules introductions now = plan at hshape ⊢
  cases hshape with
  | refusal =>
    exact (Paired.of_quiet fun _ ha => quiet_of_mem_greeting ha).append (Node.paired_say _ _)
  | nowhere quiet => exact .of_quiet quiet
  | walk quiet f first => exact (Paired.of_quiet quiet).append (Graph.paired_walk ..)

-- ---------------------------------------------------------------------------
-- What is asked of the platform
-- ---------------------------------------------------------------------------

namespace World

variable {w : World} {s : Stage} {t : Turn} {a : Action}

theorem attempts_changeDesk (w : World) (clock : Clock)
    (act : Desk → Time.Instant → Except DeskError Desk) :
    (w.changeDesk clock act).2.attempts = w.attempts := by
  unfold changeDesk onDesk
  dsimp only
  split <;> rfl

/-- An action asks the platform for its call, if it makes one, and for nothing else. -/
theorem attempts_act (w : World) (s : Stage) (t : Turn) (a : Action) :
    (w.act s t a).2.attempts = w.attempts ++ a.call?.toList.map fun call =>
      ⟨s.platform, call, (s.channel (w.callsOn s.platform) call).isOk⟩ := by
  have hsame : w.attempts = w.attempts ++ [] := (List.append_nil _).symm
  cases a with
  | showRead id => rfl
  | send call =>
    simp only [act, attempt, Action.call?, Option.toList_some, List.map_cons, List.map_nil]
    cases s.channel (w.callsOn s.platform) call <;> rfl
  | pause span => exact hsame
  | countStep kind => exact hsame
  | _ => simp only [act, attempts_changeDesk]; exact hsame

/-- What was asked of the platform while actions were carried out is the beginning of what they ask
for, and all of it if none of them failed. -/
theorem calls_actAll (w : World) (s : Stage) (t : Turn) (as : List Action) :
    ∃ made : List Attempt, (w.actAll s t as).2.attempts = w.attempts ++ made ∧
      made.map Attempt.call <+: as.filterMap Action.call? ∧
      ((w.actAll s t as).1 = .ok () → made.map Attempt.call = as.filterMap Action.call?) := by
  induction as generalizing w with
  | nil => exact ⟨[], (List.append_nil _).symm, List.prefix_rfl, fun _ => rfl⟩
  | cons a as ih =>
    have hact := attempts_act w s t a
    have hcalls : (a :: as).filterMap Action.call? = a.call?.toList ++ as.filterMap Action.call? := by
      cases h : a.call? <;> simp [h]
    cases ha : (w.act s t a).1 with
    | ok _ =>
      obtain ⟨made, hmade, hprefix, hall⟩ := ih (w.act s t a).2
      rw [actAll_cons_ok ha, hmade, hact, hcalls, List.append_assoc]
      refine ⟨_, rfl, ?_, fun hok => ?_⟩
      · simpa [Function.comp_def] using hprefix
      · simp [Function.comp_def, hall hok]
    | error e =>
      rw [actAll_cons_error ha, hact, hcalls]
      refine ⟨_, rfl, ?_, fun hok => nomatch hok⟩
      simp [Function.comp_def]

end World

end Switchboard
