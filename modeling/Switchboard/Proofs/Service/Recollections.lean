import Switchboard.Proofs.Dialogue.Captures
import Switchboard.Proofs.Dialogue.Spellings
import Switchboard.Proofs.Service.Story

/-!
# What conversations remember

What a card has learned is told by the story: each turn on the card that was taught something keeps
a value under a name, and nothing else does (`Told.fields`). So a value is there until another turn
keeps one under the same name (`TaughtBy`). Until then it is what texts show for the name, unless
the card has another spelling of the name that comes first (`shown_until_taught_again`,
`shown_under_other_spelling`).
-/

namespace Switchboard

open Service

namespace Played

variable (p : Played) (s : Setup)

/-- What the turn is taught, if it goes on at a question that takes the answer. -/
def lesson? : Option Lesson := p.turn.lesson? s.rules s.introductions p.begins

/-- The values that the texts of the turn are filled with. -/
def fillings : Fillings := p.turn.fillings s.rules s.introductions p.begins

end Played

/-- What a card has learned behind an event, if it had learned some values before. -/
def Event.learned (s : Setup) (cardId : String) (fields : Dictionary String) :
    Event → Dictionary String
  | .turn p =>
    if p.turn.card.id = cardId then
      (p.lesson? s).elim fields fun l => fields.set l.name l.value
    else fields
  | .choice _ => fields

namespace Played

variable {p : Played} {s : Setup}

theorem fields_after (stored : p.world.desk.card? p.turn.card.id = some p.turn.card)
    (cardId : String) :
    (p.after s).desk.fields cardId =
      (Event.turn p).learned s cardId (p.world.desk.fields cardId) := by
  by_cases hid : p.turn.card.id = cardId
  · subst hid
    obtain ⟨c, hc, hknows⟩ := World.knowledge_runTurn stored p.stage s.rules s.introductions
    rw [Turn.foldl_teach_lead] at hknows
    rw [Event.learned, if_pos rfl, Desk.fields_of_card? stored, after, Desk.fields_of_card? hc]
    unfold lesson? begins
    cases hl : p.turn.lesson? s.rules s.introductions (p.stage.clock p.world.readings) with
    | none =>
      rw [hl] at hknows
      exact congrArg Knowledge.fields hknows
    | some l =>
      rw [hl, Option.map_some, Option.getD_some, Lesson.foldl_teach] at hknows
      exact congrArg Knowledge.fields hknows
  · rw [Event.learned, if_neg hid, Desk.fields, Desk.fields, after,
      World.card?_runTurn_of_ne stored _ _ (Ne.symm hid)]

/-- The texts of a turn are filled with all that its card has learned behind it. -/
theorem fields_fillings (stored : p.world.desk.card? p.turn.card.id = some p.turn.card) :
    (p.fillings s).fields =
      (Event.turn p).learned s p.turn.card.id (p.world.desk.fields p.turn.card.id) := by
  rw [Event.learned, if_pos rfl, Desk.fields_of_card? stored]
  unfold fillings lesson? Turn.fillings
  cases p.turn.lesson? s.rules s.introductions p.begins <;> rfl

theorem name_of_lesson? {l : Lesson} (h : p.lesson? s = some l) : l.name ≠ "" := by
  obtain ⟨n, -, h⟩ := Option.bind_eq_some_iff.1 h
  split at h
  · have hname : l.name = n.captureName := by
      by_cases hdeclines : n.Declines (Text.trim p.turn.text)
      · rw [Node.lesson?_of_declines hdeclines] at h
        cases h
      · rw [Node.lesson?_of_takes hdeclines] at h
        cases h
        rfl
    have hblank := n.captureName_not_blank
    rw [← hname] at hblank
    rintro hempty
    rw [hempty] at hblank
    cases hblank
  · cases h

end Played

-- ---------------------------------------------------------------------------
-- What is told of the values on a card
-- ---------------------------------------------------------------------------

namespace Told

variable {s : Setup} {w w' : World} {es : List Event}

theorem fields (h : Told s w es w') (cardId : String) :
    w'.desk.fields cardId = es.foldl (Event.learned s cardId) (w.desk.fields cardId) := by
  induction h with
  | still desk _ => rw [desk.fields]; rfl
  | turn stored _ => exact Played.fields_after stored cardId
  | choice _ => rfl
  | append _ _ ih ih' => rw [ih', ih, List.foldl_append]

/-- The events before a turn lead to the world in which it begins, and its card is as stored. -/
theorem before_turn (h : Told s w es w') {before after : List Event} {p : Played}
    (hsplit : es = before ++ .turn p :: after) :
    Told s w before p.world ∧ p.world.desk.card? p.turn.card.id = some p.turn.card := by
  induction h generalizing before after with
  | still _ _ => simp at hsplit
  | @turn q stored _ =>
    rcases List.append_eq_singleton_iff.1 hsplit.symm with ⟨rfl, heq⟩ | ⟨-, hnil⟩
    · cases heq
      exact ⟨.refl s _, stored⟩
    · cases hnil
  | choice _ =>
    rcases List.append_eq_singleton_iff.1 hsplit.symm with ⟨-, heq⟩ | ⟨-, hnil⟩
    · cases heq
    · cases hnil
  | append first _ ih ih' =>
    rcases split_append hsplit with ⟨mid, rfl, hrest⟩ | ⟨rest, hfirst, -⟩
    · obtain ⟨htold, stored⟩ := ih' hrest
      exact ⟨first.append htold, stored⟩
    · exact ih hfirst

end Told

/-- A turn on a card was taught something, and no turn behind it was taught something else under
the same name. -/
structure TaughtBy (s : Setup) (es : List Event) (cardId : String) (l : Lesson)
    (earlier : List Event) (p : Played) (later : List Event) : Prop where
  split : es = earlier ++ .turn p :: later
  card : p.turn.card.id = cardId
  taught : p.lesson? s = some l
  last : ∀ r, .turn r ∈ later → r.turn.card.id = cardId → ∀ other, r.lesson? s = some other →
    other.name ≠ l.name

section
variable {s : Setup} {es earlier later : List Event} {cardId name : String} {l : Lesson}
  {p : Played}

theorem value?_learned {fields : Dictionary String}
    (h : ∀ r, .turn r ∈ es → r.turn.card.id = cardId → ∀ other, r.lesson? s = some other →
      other.name ≠ name) :
    (es.foldl (Event.learned s cardId) fields).value? name = fields.value? name := by
  induction es generalizing fields with
  | nil => rfl
  | cons e es ih =>
    rw [List.foldl_cons, ih fun r hr => h r (List.mem_cons_of_mem _ hr)]
    cases e with
    | choice id => rfl
    | turn r =>
      rw [Event.learned]
      split
      next hid =>
        cases hl : r.lesson? s with
        | none => rfl
        | some other =>
          exact Dictionary.value?_set_of_ne fields _ (h r List.mem_cons_self hid other hl)
      next => rfl

/-- What was taught last under a name is kept under it. -/
theorem TaughtBy.kept (h : TaughtBy s es cardId l earlier p later) (fields : Dictionary String) :
    (es.foldl (Event.learned s cardId) fields).value? l.name = some l.value := by
  rw [h.split, List.foldl_append, List.foldl_cons, value?_learned h.last, Event.learned,
    if_pos h.card, h.taught]
  exact Dictionary.value?_set_self _ l.name l.value

end

namespace Service

variable {s : Setup} {w : World}

theorem fields_of_story {requests : List Http.Request} {before after : List Event} {q : Played}
    (hstory : s.story w requests = before ++ .turn q :: after) :
    (q.fillings s).fields =
        (before ++ [Event.turn q]).foldl (Event.learned s q.turn.card.id)
          (w.desk.fields q.turn.card.id) ∧
      q.world.desk.card? q.turn.card.id = some q.turn.card := by
  obtain ⟨htold, stored⟩ := (story_told s w requests).before_turn hstory
  rw [Played.fields_fillings stored, htold.fields, List.foldl_append]
  exact ⟨rfl, stored⟩

/-- From the turn on that was taught a value, and until a turn on the card is taught another under
the same name, the value is on the card at every node that is visited. For the name in braces texts
show the value of its first spelling on the card. This is the value that was taught, if no other
spelling comes before the name as it was taught. -/
theorem shown_until_taught_again (s : Setup) (w : World) (requests : List Http.Request)
    {before after earlier later : List Event} {p q : Played} {l : Lesson}
    (hstory : s.story w requests = before ++ .turn q :: after)
    (htaught : TaughtBy s (before ++ [.turn q]) q.turn.card.id l earlier p later)
    (hname : ∀ c ∈ l.name.toList, Placeholder.isNameChar c = true)
    {done rest : List Action} {id : String} (hvisit : q.done s = done ++ .standAt id :: rest) :
    ∃ n moment c spelling shown, n.id = id ∧
      q.world.ComesTo q.stage s.rules s.introductions q.turn done n moment ∧
      moment.desk.card? q.turn.card.id = some c ∧
      c.fields.value? l.name = some l.value ∧
      c.fields.FirstSpelling l.name spelling shown ∧
      (∀ text ∈ Placeholder.plain l.name, (q.fillings s).fill text = shown) ∧
      ((∀ other, other < l.name → Text.eqIgnoreAsciiCase other l.name = true →
        c.fields.value? other = none) → shown = l.value) := by
  obtain ⟨hfields, stored⟩ := fields_of_story hstory
  have hkept : (q.fillings s).fields.value? l.name = some l.value := by
    rw [hfields]
    exact htaught.kept _
  obtain ⟨n, moment, hid, hcomes⟩ := World.comesTo_of_standAt hvisit
  obtain ⟨c, hc, htells⟩ := hcomes.tells stored
  have hsame : (q.fillings s).fields = c.fields := htells.fields
  obtain ⟨spelling, shown, hfirst, hshown⟩ := Fillings.fill_plain (f := q.fillings s)
    (Played.name_of_lesson? htaught.taught) hname (Option.isSome_of_eq_some hkept)
  rw [hsame] at hkept hfirst
  refine ⟨n, moment, c, spelling, shown, hid, hcomes, hc, hkept, hfirst, hshown, fun hnone => ?_⟩
  obtain rfl := hfirst.eq_of_none_before (Option.isSome_of_eq_some hkept) hnone
  exact Option.some.inj (hfirst.kept.symm.trans hkept)

-- ---------------------------------------------------------------------------
-- At the register
-- ---------------------------------------------------------------------------

/-- A bot that asks twice, and keeps the answers under two spellings of one name. -/
def registerBot : Bot where
  id := "register"
  name := "Register"
  isActive := true
  updatedAt := ⟨0, 0⟩
  flow := {
    nodes := [⟨"first", .capture, Dictionary.set Catalog.empty "variableName" (.str "Email")⟩,
      ⟨"second", .capture, Dictionary.set Catalog.empty "variableName" (.str "email")⟩,
      ⟨"thanks", .text, Dictionary.set Catalog.empty "content" (.str "\x7b\x7bemail\x7d\x7d")⟩]
    edges := [⟨"first", "second", none⟩, ⟨"second", "thanks", none⟩] }

/-- The visitor has been asked something, and told some things before. -/
def registerWorld (asked : String) (told : Dictionary String) : World :=
  World.start
    (Desk.empty.withCard
      { visitor with position := some (.activeAt asked ⟨0, 0⟩), fields := told })
    (Roster.empty.put registerBot)

def saying (text : String) : Http.Request :=
  { greeting with
    body := Text.utf8 ("\x7b\"sessionId\": \"s1\", \"text\": \"" ++ text ++ "\"\x7d") }

/-- The card of a turn, what the turn was taught, the nodes that it visits, and what its texts show
for a name. -/
def recollection (s : Setup) (name : String) :
    Event → Option (String × Option Lesson × List String × List String)
  | .turn p => some (p.turn.card.id, p.lesson? s,
      p.world.visits p.stage s.rules s.introductions p.turn,
      (Placeholder.plain name).map (p.fillings s).fill)
  | .choice _ => none

theorem turn_of_recollection {name cardId : String} {e : Event} {l : Option Lesson}
    {visits shown : List String}
    (h : recollection s name e = some (cardId, l, visits, shown)) :
    ∃ p, e = .turn p ∧ p.turn.card.id = cardId ∧ p.lesson? s = l ∧
      p.world.visits p.stage s.rules s.introductions p.turn = visits ∧
      (Placeholder.plain name).map (p.fillings s).fill = shown := by
  cases e with
  | turn p =>
    cases h
    exact ⟨p, rfl, rfl, rfl, rfl, rfl⟩
  | choice id => cases h

/-- A node that a turn visits is written down by it. -/
theorem standAt_of_visits {p : Played} {id : String} {ids : List String}
    (h : p.world.visits p.stage s.rules s.introductions p.turn = id :: ids) :
    ∃ done rest, p.done s = done ++ .standAt id :: rest := by
  have hvisit : id ∈ p.world.visits p.stage s.rules s.introductions p.turn := by
    rw [h]
    exact List.mem_cons_self
  exact World.standAt_of_mem_visits hvisit

/-- What the first turn was taught is shown by the next, which is taught another spelling. -/
theorem shown_until_taught_again_register : ∃ p q done rest,
    lobbySetup.story (registerWorld "first" Catalog.empty) [saying "uno", saying "uno"] =
        [.turn p] ++ .turn q :: [] ∧
      TaughtBy lobbySetup ([.turn p] ++ [.turn q]) q.turn.card.id ⟨"Email", "uno", false⟩
        [] p [.turn q] ∧
      (∀ c ∈ "Email".toList, Placeholder.isNameChar c = true) ∧
      q.done lobbySetup = done ++ .standAt "thanks" :: rest ∧
      ∃ (moment : World) (c : Card) (spelling : String),
        moment.desk.card? q.turn.card.id = some c ∧ c.fields.value? "Email" = some "uno" ∧
        c.fields.FirstSpelling "Email" spelling "uno" := by
  have hstory : (lobbySetup.story (registerWorld "first" Catalog.empty)
        [saying "uno", saying "uno"]).map (recollection lobbySetup "Email") =
      [some ("visitor", some ⟨"Email", "uno", false⟩, ["second"], ["uno", "uno"]),
        some ("visitor", some ⟨"email", "uno", false⟩, ["thanks"], ["uno", "uno"])] := by
    decide +kernel
  obtain ⟨e₁, es, hes, h₁, hrest⟩ := List.map_eq_cons_iff.1 hstory
  obtain ⟨e₂, es, rfl, h₂, hrest⟩ := List.map_eq_cons_iff.1 hrest
  obtain rfl := List.map_eq_nil_iff.1 hrest
  obtain ⟨p, rfl, hp, hfirst, -, -⟩ := turn_of_recollection h₁
  obtain ⟨q, rfl, hq, hsecond, hvisits, hshown⟩ := turn_of_recollection h₂
  obtain ⟨done, rest, hvisit⟩ := standAt_of_visits hvisits
  have htaught : TaughtBy lobbySetup ([.turn p] ++ [.turn q]) q.turn.card.id
      ⟨"Email", "uno", false⟩ [] p [.turn q] := by
    refine ⟨rfl, hp.trans hq.symm, hfirst, fun r hr _ other hother => ?_⟩
    obtain rfl : r = q := by simpa using hr
    obtain rfl := Option.some.inj (hsecond.symm.trans hother)
    decide
  have hname : ∀ c ∈ "Email".toList, Placeholder.isNameChar c = true :=
    List.all_eq_true.1 (by decide)
  refine ⟨p, q, done, rest, hes, htaught, hname, hvisit, ?_⟩
  obtain ⟨n, moment, c, spelling, shown, -, -, hc, hkept, hspelling, hfill, -⟩ :=
    shown_until_taught_again lobbySetup _ _ hes htaught hname hvisit
  obtain rfl : shown = "uno" :=
    (hfill _ List.mem_cons_self).symm.trans (List.cons.inj hshown).1
  exact ⟨moment, c, spelling, hc, hkept, hspelling⟩

/-- At each node of each turn texts show for a name what was last taught under it. -/
def ShowsLast (s : Setup) (es : List Event) : Prop :=
  ∀ before (q : Played) after, es = before ++ .turn q :: after →
    ∀ l earlier p later, TaughtBy s (before ++ [.turn q]) q.turn.card.id l earlier p later →
      (∀ c ∈ l.name.toList, Placeholder.isNameChar c = true) →
        ∀ done id rest, q.done s = done ++ .standAt id :: rest →
          ∀ text ∈ Placeholder.plain l.name, (q.fillings s).fill text = l.value

/-- A value may be hidden behind one that is kept under another spelling of its name. -/
theorem shown_under_other_spelling :
    ¬ ∀ s w requests, ShowsLast s (Setup.story s w requests) := by
  intro hshows
  have hstory : (lobbySetup.story
        (registerWorld "second" (Dictionary.set Catalog.empty "Email" "uno")) [saying "dos"]).map
        (recollection lobbySetup "email") =
      [some ("visitor", some ⟨"email", "dos", false⟩, ["thanks"], ["uno", "uno"])] := by
    decide +kernel
  obtain ⟨e, es, hes, h, hrest⟩ := List.map_eq_cons_iff.1 hstory
  obtain rfl := List.map_eq_nil_iff.1 hrest
  obtain ⟨q, rfl, -, hlesson, hvisits, hshown⟩ := turn_of_recollection h
  obtain ⟨done, rest, hvisit⟩ := standAt_of_visits hvisits
  have htaught : TaughtBy lobbySetup ([] ++ [.turn q]) q.turn.card.id ⟨"email", "dos", false⟩
      [] q [] := ⟨rfl, rfl, hlesson, fun _ hr => nomatch hr⟩
  have hname : ∀ c ∈ "email".toList, Placeholder.isNameChar c = true :=
    List.all_eq_true.1 (by decide)
  have hdos := hshows _ _ _ [] q [] hes _ _ _ _ htaught hname done "thanks" rest hvisit _
    List.mem_cons_self
  have huno := (List.cons.inj hshown).1
  exact absurd (huno.symm.trans hdos) (by decide)

end Service

end Switchboard
