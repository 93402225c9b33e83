import Switchboard.Proofs.Dialogue.Continuation

/-!
# The values that texts are filled with

A turn takes the values from the card as it stands at its beginning, and adds what an answer taught
(`Turn.fillings`). So at each node they are the card's own, except that the card may have been given
a new name of the contact: then texts that name the contact still show the old one
(`fillings_stored`).
-/

namespace Switchboard

-- ---------------------------------------------------------------------------
-- Values that agree
-- ---------------------------------------------------------------------------

namespace Placeholder

theorem pieces_nil : pieces [] = [] := by
  rw [pieces]
  rfl

theorem pieces_of_atStart? {cs name rest : List Char} (h : atStart? cs = some (name, rest)) :
    pieces cs = .hole name (cs.take (cs.length - rest.length)) :: pieces rest := by
  rw [pieces]
  split
  next name' rest' h' =>
    obtain ⟨rfl, rfl⟩ := Prod.mk.inj (Option.some.inj (h'.symm.trans h))
    rfl
  next h' => rw [h'] at h; cases h

end Placeholder

namespace Fillings

def addressed (f : Fillings) : String := f.contactName.getD defaultName

def knows (f : Fillings) (name : String) : Bool :=
  f.fields.items.any fun field => Text.eqIgnoreAsciiCase field.1 name

def Agree (f g : Fillings) : Prop := ∀ text, f.fill text = g.fill text

def addresses (name : String) : Bool :=
  Text.lowerAscii name == "name" || Text.lowerAscii name == "nombre"

variable {f g : Fillings} {name : String}

theorem find?_of_not_knows (h : f.knows name = false) :
    (f.fields.items.find? fun field => Text.eqIgnoreAsciiCase field.1 name) = none :=
  List.find?_eq_none.2 (List.any_eq_false.1 h)

theorem value?_of_addresses (hname : addresses name = true) (h : f.knows name = false) :
    f.value? name = some f.addressed := by
  unfold value?
  rw [find?_of_not_knows h]
  rcases Bool.or_eq_true_iff.1 hname with hname | hname <;> rw [beq_iff_eq.1 hname] <;> rfl

theorem knows_of_addresses (hknows : f.knows "name" = true ∧ f.knows "nombre" = true)
    (h : addresses name = true) : f.knows name = true := by
  have hsame : ∀ {other}, Text.lowerAscii other = other → (Text.lowerAscii name == other) = true →
      f.knows name = f.knows other := by
    intro other hother hname
    unfold knows Text.eqIgnoreAsciiCase
    rw [beq_iff_eq.1 hname, hother]
  rcases Bool.or_eq_true_iff.1 h with h | h
  · exact (hsame (by decide) h).trans hknows.1
  · exact (hsame (by decide) h).trans hknows.2

/-- Values that differ in the contact's name at most are alike under a name if the contact is
addressed alike, or the name is one under which something was learned. -/
theorem value?_eq (hfields : f.fields = g.fields) (hnumber : f.contactNumber = g.contactNumber)
    (h : f.addressed = g.addressed ∨ f.knows "name" = true ∧ f.knows "nombre" = true)
    (name : String) : f.value? name = g.value? name := by
  have hknows : f.knows name = g.knows name := by
    unfold knows
    rw [hfields]
  cases hk : f.knows name with
  | true =>
    unfold value?
    rw [hfields]
    split
    · rfl
    next hnone =>
      rw [hknows, knows, List.any_eq_true] at hk
      obtain ⟨field, hmem, hfield⟩ := hk
      exact absurd hfield (List.find?_eq_none.1 hnone field hmem)
  | false =>
    cases ha : addresses name with
    | true =>
      rw [value?_of_addresses ha hk, value?_of_addresses ha (hknows.symm.trans hk)]
      refine congrArg some (h.resolve_right fun hboth => ?_)
      rw [knows_of_addresses hboth ha] at hk
      cases hk
    | false =>
      unfold value?
      rw [find?_of_not_knows hk, find?_of_not_knows (hknows.symm.trans hk), hnumber]
      obtain ⟨hname, hnombre⟩ := Bool.or_eq_false_iff.1 ha
      dsimp only
      split
      next h => rw [h] at hname; cases hname
      next h => rw [h] at hnombre; cases hnombre
      next => rfl
      next => rfl

theorem fill_hole {text name : List Char} {value : String}
    (h : Placeholder.atStart? text = some (name, []))
    (hvalue : f.value? (String.ofList name) = some value) :
    f.fill (String.ofList text) = value := by
  unfold fill
  rw [String.toList_ofList, Placeholder.pieces_of_atStart? h, Placeholder.pieces_nil,
    List.flatMap_cons, List.flatMap_nil, List.append_nil, Placeholder.Piece.fill]
  simp only [hvalue, String.ofList_toList]

theorem addressed_eq_of_agree (h : f.Agree g) (hfields : f.fields = g.fields)
    (text name : List Char) (hname : addresses (String.ofList name) = true)
    (htext : Placeholder.atStart? text = some (name, []))
    (hknows : f.knows (String.ofList name) = false) : f.addressed = g.addressed := by
  have hknows' : g.knows (String.ofList name) = false := by
    unfold knows at *
    rw [← hfields]
    exact hknows
  rw [← fill_hole htext (value?_of_addresses hname hknows),
    ← fill_hole htext (value?_of_addresses hname hknows')]
  exact h _

/-- Values that differ in the contact's name at most fill all texts alike if and only if the contact
is addressed alike, or there are learned values under both names of the contact. -/
theorem agree_iff (hfields : f.fields = g.fields) (hnumber : f.contactNumber = g.contactNumber) :
    f.Agree g ↔ f.addressed = g.addressed ∨ f.knows "name" = true ∧ f.knows "nombre" = true := by
  constructor
  · intro h
    cases hname : f.knows "name" with
    | false =>
      exact .inl (addressed_eq_of_agree h hfields "\x7bname\x7d".toList "name".toList rfl
        (by decide) hname)
    | true =>
      cases hnombre : f.knows "nombre" with
      | false =>
        exact .inl (addressed_eq_of_agree h hfields "\x7bnombre\x7d".toList "nombre".toList rfl
          (by decide) hnombre)
      | true => exact .inr ⟨rfl, rfl⟩
  · intro h text
    have hpiece : Placeholder.Piece.fill f = Placeholder.Piece.fill g := by
      funext p
      cases p with
      | char c => rfl
      | hole name written =>
        rw [Placeholder.Piece.fill, Placeholder.Piece.fill, value?_eq hfields hnumber h]
    unfold fill
    rw [hpiece]

end Fillings

-- ---------------------------------------------------------------------------
-- What a turn knows
-- ---------------------------------------------------------------------------

namespace Turn

def lesson? (t : Turn) (rules : TurnRules) (introductions : List Introduction)
    (now : Time.Instant) : Option Lesson :=
  ((t.resumesAt? rules now).bind (Graph.ofFlow t.bot.flow).node?).bind fun n =>
    if n.kind = .capture then n.lesson? introductions t.text else none

/-- The values that the texts of a turn are filled with. -/
def fillings (t : Turn) (rules : TurnRules) (introductions : List Introduction)
    (now : Time.Instant) : Fillings :=
  match t.lesson? rules introductions now with
  | none => Fillings.ofCard t.card
  | some l => (Fillings.ofCard t.card).add l

def lead (t : Turn) (rules : TurnRules) (introductions : List Introduction)
    (now : Time.Instant) : List Action :=
  (if (t.resumesAt? rules now).isSome then t.greeting rules else []) ++
    ((t.lesson? rules introductions now).map Lesson.actions).getD []

/-- What a turn may do behind its lead, with the values that it fills texts with. -/
inductive Course (t : Turn) (rules : TurnRules) (f : Fillings) : Plan → Prop
  | refusal (n : Node) : Course t rules f ⟨Node.say t.recipient n.refusal, .invalidAnswer n.id⟩
  | nowhere : Course t rules f ⟨[], .idle⟩
  | walk (first : Option String) : Course t rules f (t.forward rules f first)

variable {t : Turn} {rules : TurnRules} {introductions : List Introduction} {now : Time.Instant}

theorem plan_course (t : Turn) (rules : TurnRules) (introductions : List Introduction)
    (now : Time.Instant) :
    ∃ p, t.Course rules (t.fillings rules introductions now) p ∧
      t.plan rules introductions now = p.after (t.lead rules introductions now) := by
  unfold plan lead fillings lesson?
  cases hid : t.resumesAt? rules now with
  | none =>
    cases (Graph.ofFlow t.bot.flow).opening? with
    | none => exact ⟨_, .nowhere, rfl⟩
    | some first => exact ⟨_, .walk (some first), rfl⟩
  | some id =>
    simp only [replyAt, Option.bind_some, Option.isSome_some, if_true]
    cases hn : (Graph.ofFlow t.bot.flow).node? id with
    | none => exact ⟨_, .nowhere, by simp [Plan.after]⟩
    | some n =>
      simp only [Option.bind_some]
      by_cases hk : n.kind = .capture
      · simp only [hk, if_true]
        cases n.lesson? introductions t.text with
        | none => exact ⟨_, .refusal n, by simp [Plan.after, Node.refusal]⟩
        | some l =>
          exact ⟨_, .walk ((Graph.ofFlow t.bot.flow).replyTarget? n id t.text), by simp [Plan.after]⟩
      · simp only [hk, if_false]
        exact ⟨_, .walk ((Graph.ofFlow t.bot.flow).replyTarget? n id t.text), by simp [Plan.after]⟩

/-- Behind the lead of a turn nodes are visited and speak, and the flow may come to its end. -/
theorem Course.mem_cases {f : Fillings} {p : Plan} (h : t.Course rules f p) {a : Action}
    (ha : a ∈ p.actions) :
    a.speaks = true ∨ (∃ id, a = .standAt id) ∨ (∃ kind, a = .countStep kind) ∨ a = .finish := by
  cases h with
  | refusal n => exact .inl (Node.speaks_of_mem_say ha)
  | nowhere => cases ha
  | walk first =>
    rw [forward, Graph.walk_actions] at ha
    rcases List.mem_append.1 ha with ha | ha
    · obtain ⟨n, -, ha⟩ := List.mem_flatMap.1 ha
      rcases List.mem_cons.1 ha with rfl | ha
      · exact .inr (.inl ⟨_, rfl⟩)
      rcases List.mem_cons.1 ha with rfl | ha
      · exact .inr (.inr (.inl ⟨_, rfl⟩))
      · exact .inl (n.speaks_of_mem_actions ha)
    · unfold Outcome.closing at ha
      split at ha
      · exact .inr (.inr (.inr (List.mem_singleton.1 ha)))
      · cases ha

theorem quiet_of_mem_lead {a : Action} (h : a ∈ t.lead rules introductions now) :
    a.quiet = true := by
  unfold lead at h
  rcases List.mem_append.1 h with h | h
  · split at h
    · exact quiet_of_mem_greeting h
    · cases h
  · cases hl : t.lesson? rules introductions now with
    | none => rw [hl] at h; cases h
    | some l => rw [hl] at h; exact quiet_of_mem_lesson h

end Turn

-- ---------------------------------------------------------------------------
-- What a card tells
-- ---------------------------------------------------------------------------

structure Knowledge where
  contactName : String
  contactNumber : Option String
  fields : Dictionary String

def Card.knowledge (c : Card) : Knowledge := ⟨c.contactName, c.contactNumber, c.fields⟩

theorem Fillings.ofCard_congr {c c' : Card} (h : c.knowledge = c'.knowledge) :
    Fillings.ofCard c = Fillings.ofCard c' := by
  obtain ⟨hname, hnumber, hfields⟩ := Knowledge.mk.inj h
  unfold ofCard
  rw [hname, hnumber, hfields]

namespace Action

def teaches : Action → Bool
  | .learn _ _ | .rename _ => true
  | _ => false

def teach (k : Knowledge) : Action → Knowledge
  | .learn name value => { k with fields := k.fields.set name value }
  | .rename name =>
    if (Text.trim name).isEmpty then k else { k with contactName := Text.trim name }
  | _ => k

theorem knowledge_write (t : Turn) (now : Time.Instant) (c : Card) (a : Action) :
    (a.write t now c).knowledge = a.teach c.knowledge := by
  cases a with
  | rename name =>
    simp only [write, teach, Card.renamed]
    split <;> rfl
  | _ => rfl

theorem teach_of_not_teaches {a : Action} (h : a.teaches = false) (k : Knowledge) :
    a.teach k = k := by
  cases a with
  | learn name value => cases h
  | rename name => cases h
  | _ => rfl

theorem foldl_teach {as : List Action} (h : ∀ a ∈ as, a.teaches = false) (k : Knowledge) :
    as.foldl teach k = k := by
  induction as with
  | nil => rfl
  | cons a as ih =>
    obtain ⟨ha, has⟩ := List.forall_mem_cons.1 h
    rw [List.foldl_cons, teach_of_not_teaches ha, ih has]

theorem teaches_of_speaks {a : Action} (h : a.speaks = true) : a.teaches = false := by
  cases a <;> first | rfl | cases h

end Action

def Lesson.contactName (l : Lesson) (before : String) : String :=
  if l.isContactName && !(Text.trim l.value).isEmpty then Text.trim l.value else before

theorem Lesson.foldl_teach (l : Lesson) (k : Knowledge) :
    l.actions.foldl Action.teach k =
      ⟨l.contactName k.contactName, k.contactNumber, k.fields.set l.name l.value⟩ := by
  unfold actions contactName
  cases l.isContactName with
  | false => rfl
  | true =>
    cases hblank : (Text.trim l.value).isEmpty <;>
      simp [Action.teach, hblank]

/-- Nothing is learned behind the lead of a turn. -/
theorem Turn.Course.teaches {t : Turn} {rules : TurnRules} {f : Fillings} {p : Plan}
    (h : t.Course rules f p) : ∀ a ∈ p.actions, a.teaches = false := by
  intro a ha
  rcases h.mem_cases ha with hspeaks | ⟨id, rfl⟩ | ⟨kind, rfl⟩ | rfl
  · exact Action.teaches_of_speaks hspeaks
  · rfl
  · rfl
  · rfl

theorem World.knowledge_actAll {w : World} {s : Stage} {t : Turn} {c : Card}
    (h : w.desk.card? t.card.id = some c) {as : List Action}
    (hok : (w.actAll s t as).1 = .ok ()) :
    ∃ c', (w.actAll s t as).2.desk.card? t.card.id = some c' ∧
      c'.knowledge = as.foldl Action.teach c.knowledge := by
  induction as generalizing w c with
  | nil => exact ⟨c, h, rfl⟩
  | cons a as ih =>
    cases ha : (w.act s t a).1 with
    | ok _ =>
      rw [actAll_cons_ok ha] at hok ⊢
      obtain ⟨c', hc', hknows⟩ := ih (card?_act h) hok
      exact ⟨c', hc', by rw [hknows, Action.knowledge_write, List.foldl_cons]⟩
    | error e => rw [actAll_cons_error ha] at hok; cases hok

namespace Turn

variable {t : Turn} {rules : TurnRules} {introductions : List Introduction} {now : Time.Instant}

theorem foldl_teach_lead (k : Knowledge) :
    (t.lead rules introductions now).foldl Action.teach k =
      (((t.lesson? rules introductions now).map Lesson.actions).getD []).foldl Action.teach k := by
  have hgreeting : ∀ a ∈ if (t.resumesAt? rules now).isSome then t.greeting rules else [],
      a.teaches = false := by
    intro a ha
    split at ha
    · unfold greeting at ha
      rcases List.mem_append.1 ha with ha | ha
      · obtain ⟨id, -, rfl⟩ := Option.map_eq_some_iff.1 (Option.mem_toList.1 ha)
        rfl
      · rw [List.mem_singleton.1 ha]; rfl
    · cases ha
  rw [lead, List.foldl_append, Action.foldl_teach hgreeting]

/-- What a card tells while the flow of a turn is walked. -/
structure Tells (t : Turn) (rules : TurnRules) (introductions : List Introduction)
    (now : Time.Instant) (c : Card) : Prop where
  fields : (t.fillings rules introductions now).fields = c.fields
  number : (t.fillings rules introductions now).contactNumber = c.contactNumber
  name : c.contactName =
    ((t.lesson? rules introductions now).map fun l => l.contactName t.card.contactName).getD
      t.card.contactName
  /-- Only an answer that is the contact's name makes a difference. -/
  same : (∀ l, t.lesson? rules introductions now = some l → l.isContactName = false) →
    t.fillings rules introductions now = Fillings.ofCard c

theorem tells_of_knowledge {c : Card} (h : c.knowledge =
    (t.lead rules introductions now).foldl Action.teach t.card.knowledge) :
    t.Tells rules introductions now c := by
  rw [foldl_teach_lead] at h
  cases hl : t.lesson? rules introductions now with
  | none =>
    rw [hl] at h
    have hfillings : t.fillings rules introductions now = Fillings.ofCard c := by
      simp only [fillings, hl]
      exact (Fillings.ofCard_congr h).symm
    obtain ⟨hname, -, -⟩ := Knowledge.mk.inj h
    exact ⟨by rw [hfillings]; rfl, by rw [hfillings]; rfl, by rw [hl]; exact hname,
      fun _ => hfillings⟩
  | some l =>
    rw [hl, Option.map_some, Option.getD_some, Lesson.foldl_teach] at h
    have hfillings : t.fillings rules introductions now = (Fillings.ofCard t.card).add l := by
      simp only [fillings, hl]
    obtain ⟨hname, hnumber, hfields⟩ := Knowledge.mk.inj h
    refine ⟨by rw [hfillings, hfields]; rfl, by rw [hfillings, hnumber]; rfl,
      by rw [hl]; exact hname, fun hother => ?_⟩
    have hsame : c.contactName = t.card.contactName := by
      rw [hname, Lesson.contactName, hother l hl]
      rfl
    rw [hfillings]
    unfold Fillings.ofCard
    rw [hsame, hnumber, hfields]
    rfl

end Turn

-- ---------------------------------------------------------------------------
-- Moments of a turn
-- ---------------------------------------------------------------------------

/-- A turn comes to the message of a node: it has carried out what is planned before, with the values
that it fills texts with, and stands at the node. -/
structure World.ComesTo (w : World) (s : Stage) (rules : TurnRules)
    (introductions : List Introduction) (t : Turn) (before : List Action) (n : Node)
    (moment : World) : Prop where
  planned : ∃ later, (t.plan rules introductions (s.clock w.readings)).actions =
    before ++ n.visit (t.fillings rules introductions (s.clock w.readings)) t.recipient ++ later
  carried : w.tick.actAll s t (before ++ [.standAt n.id, .countStep n.kind]) = (.ok (), moment)

/-- In a plan the conversation is written down at a node right before the node acts. -/
theorem Turn.Course.split {t : Turn} {rules : TurnRules} {f : Fillings} {p : Plan}
    (h : t.Course rules f p) {before after : List Action} {id : String}
    (hsplit : p.actions = before ++ .standAt id :: after) :
    ∃ (n : Node) (later : List Action), n.id = id ∧
      .standAt id :: after = n.visit f t.recipient ++ later := by
  have hmem : .standAt id ∈ p.actions := hsplit ▸ List.mem_append_right _ List.mem_cons_self
  cases h with
  | refusal n => cases Node.speaks_of_mem_say hmem
  | nowhere => cases hmem
  | walk first =>
    rw [forward, Graph.walk_actions] at hsplit
    generalize ((Graph.ofFlow t.bot.flow).walk f t.recipient rules.maxSteps none first).outcome = o
      at hsplit
    have hclosing : .standAt id ∉ o.closing := by cases o <;> simp [Outcome.closing]
    obtain ⟨rest, hvisits, rfl⟩ := split_within hsplit hclosing
    obtain ⟨done, n, later, part, behind, -, -, hvisit, rfl⟩ := split_flatMap hvisits
    have hactions : ∀ part, .countStep n.kind :: n.actions f t.recipient ≠
        part ++ .standAt id :: behind := by
      intro part hpart
      have hmem : .standAt id ∈ Action.countStep n.kind :: n.actions f t.recipient :=
        hpart ▸ List.mem_append_right _ List.mem_cons_self
      rcases List.mem_cons.1 hmem with heq | hmem
      · cases heq
      · cases n.speaks_of_mem_actions hmem
    rcases List.cons_eq_append_iff.1 hvisit with ⟨rfl, hhead⟩ | ⟨part, -, htail⟩
    · obtain ⟨hid, hbehind⟩ := List.cons.inj hhead
      cases hid
      refine ⟨n, later.flatMap (fun n => n.visit f t.recipient) ++ o.closing, rfl, ?_⟩
      rw [hbehind, Node.visit]
      simp only [List.cons_append, List.append_assoc]
    · exact absurd htail (hactions part)

namespace World

variable {w : World} {s : Stage} {rules : TurnRules} {introductions : List Introduction} {t : Turn}

/-- Whenever a turn writes a node down it comes to its message. -/
theorem comesTo_of_standAt {before after : List Action} {id : String}
    (h : w.tick.carriedOut s t (t.plan rules introductions (s.clock w.readings)).actions =
      before ++ .standAt id :: after) :
    ∃ n moment, n.id = id ∧ w.ComesTo s rules introductions t before n moment := by
  obtain ⟨p, hcourse, hplan⟩ := t.plan_course rules introductions (s.clock w.readings)
  obtain ⟨rest, hrest⟩ := carriedOut_prefix w.tick s t
    (t.plan rules introductions (s.clock w.readings)).actions
  rw [h, List.append_assoc, List.cons_append] at hrest
  have hlead : .standAt id ∉ t.lead rules introductions (s.clock w.readings) := fun hmem => by
    cases Turn.quiet_of_mem_lead hmem
  have hsplit : t.lead rules introductions (s.clock w.readings) ++ p.actions =
      before ++ .standAt id :: (after ++ rest) := by
    rw [hrest, hplan]
    rfl
  obtain ⟨mid, -, hwalked⟩ := split_behind hsplit hlead
  obtain ⟨n, later, rfl, hvisit⟩ := hcourse.split hwalked
  have hdone : (w.tick.actAll s t (before ++ [.standAt n.id])).1 = .ok () :=
    actAll_ok_of_carriedOut (by rw [h, List.append_assoc]; rfl)
  have hok : (w.tick.actAll s t (before ++ [.standAt n.id, .countStep n.kind])).1 = .ok () := by
    have hcount : before ++ [.standAt n.id, .countStep n.kind] =
        (before ++ [.standAt n.id]) ++ [.countStep n.kind] := by simp
    rw [hcount, actAll_append hdone]
    rfl
  refine ⟨n, (w.tick.actAll s t (before ++ [.standAt n.id, .countStep n.kind])).2, rfl,
    ⟨later, ?_⟩, Prod.ext hok rfl⟩
  rw [← hrest, hvisit, List.append_assoc]

theorem ComesTo.tells {before : List Action} {n : Node} {moment : World}
    (hcomes : w.ComesTo s rules introductions t before n moment)
    (h : w.desk.card? t.card.id = some t.card) :
    ∃ c, moment.desk.card? t.card.id = some c ∧
      t.Tells rules introductions (s.clock w.readings) c := by
  obtain ⟨p, hcourse, hplan⟩ := t.plan_course rules introductions (s.clock w.readings)
  obtain ⟨later, hplanned⟩ := hcomes.planned
  have hlead : .standAt n.id ∉ t.lead rules introductions (s.clock w.readings) := fun hmem => by
    cases Turn.quiet_of_mem_lead hmem
  have hsplit : t.lead rules introductions (s.clock w.readings) ++ p.actions =
      before ++ .standAt n.id :: (.countStep n.kind ::
        n.actions (t.fillings rules introductions (s.clock w.readings)) t.recipient ++ later) := by
    rw [hplan, List.append_assoc] at hplanned
    exact hplanned
  obtain ⟨mid, rfl, hwalked⟩ := split_behind hsplit hlead
  -- what was carried out teaches in the lead only
  have hmid : ∀ a ∈ mid ++ [.standAt n.id, .countStep n.kind], a.teaches = false := by
    intro a ha
    rcases List.mem_append.1 ha with ha | ha
    · exact hcourse.teaches a (hwalked ▸ List.mem_append_left _ ha)
    · simp only [List.mem_cons, List.not_mem_nil, or_false] at ha
      rcases ha with rfl | rfl <;> rfl
  have hok := congrArg Prod.fst hcomes.carried
  obtain ⟨c, hc, hknows⟩ := knowledge_actAll (w := w.tick) h hok
  rw [hcomes.carried] at hc
  rw [List.append_assoc, List.foldl_append, Action.foldl_teach hmid] at hknows
  exact ⟨c, hc, Turn.tells_of_knowledge hknows⟩

/-- At every message of a turn the values in use are those of the stored card, but for the name of
the contact if the turn was told one. Then they fill all texts alike if and only if the contact is
addressed as before, or there are learned values under both names of the contact. -/
theorem fillings_stored (w : World) (s : Stage) (rules : TurnRules)
    (introductions : List Introduction) (t : Turn) (h : w.desk.card? t.card.id = some t.card) :
    let f := t.fillings rules introductions (s.clock w.readings)
    (∀ before id after, w.tick.carriedOut s t
        (t.plan rules introductions (s.clock w.readings)).actions =
          before ++ .standAt id :: after →
      ∃ n moment, n.id = id ∧ w.ComesTo s rules introductions t before n moment) ∧
    ∀ before n moment, w.ComesTo s rules introductions t before n moment →
      ∃ c, moment.desk.card? t.card.id = some c ∧
        t.Tells rules introductions (s.clock w.readings) c ∧
        (f.Agree (Fillings.ofCard c) ↔
          f.addressed = (Fillings.ofCard c).addressed ∨
            f.knows "name" = true ∧ f.knows "nombre" = true) := by
  intro f
  refine ⟨fun before id after hdone => comesTo_of_standAt hdone, ?_⟩
  intro before n moment hcomes
  obtain ⟨c, hc, htells⟩ := hcomes.tells h
  exact ⟨c, hc, htells, Fillings.agree_iff htells.fields htells.number⟩

theorem standAt_of_mem_visits {id : String} (h : id ∈ w.visits s rules introductions t) :
    ∃ before after, w.tick.carriedOut s t
      (t.plan rules introductions (s.clock w.readings)).actions = before ++ .standAt id :: after := by
  obtain ⟨a, ha, hid⟩ := List.mem_filterMap.1 h
  have hstand : a = .standAt id := by
    cases a <;> cases hid
    rfl
  subst hstand
  exact List.append_of_mem ha

end World

-- ---------------------------------------------------------------------------
-- At the reception
-- ---------------------------------------------------------------------------

def receptionBot (learned : String) : Bot where
  id := "reception"
  name := "Reception"
  isActive := true
  updatedAt := ⟨0, 0⟩
  flow := {
    nodes := [⟨"start", .start, Catalog.empty⟩,
      ⟨"ask", .capture, Dictionary.set Catalog.empty "variableName" (.str learned)⟩,
      ⟨"greet", .text, Dictionary.set Catalog.empty "content" (.str "Hola \x7bname\x7d")⟩]
    edges := [⟨"start", "ask", none⟩, ⟨"ask", "greet", none⟩] }

def ana : Card := { visitor with contactName := "Ana", position := some (.activeAt "ask" ⟨0, 0⟩) }

def receptionTurn (learned : String) : Turn :=
  ⟨receptionBot learned, "s1", ana, "Carlos", none, false⟩

def receptionWorld : World := World.start (Desk.empty.withCard ana) Roster.empty

/-- What is kept under a name that is not the contact's is told by the card at once. -/
theorem fillings_stored_nickname :
    receptionWorld.desk.card? (receptionTurn "apodo").card.id = some (receptionTurn "apodo").card ∧
      ∃ before n moment c, n.id = "greet" ∧
        receptionWorld.ComesTo openStage .standard [] (receptionTurn "apodo") before n moment ∧
        moment.desk.card? "visitor" = some c ∧ c.fields.value? "apodo" = some "Carlos" ∧
        ((receptionTurn "apodo").fillings .standard [] ⟨0, 0⟩).Agree (Fillings.ofCard c) := by
  have hcard : receptionWorld.desk.card? (receptionTurn "apodo").card.id =
    some (receptionTurn "apodo").card := rfl
  have hvisit : "greet" ∈ receptionWorld.visits openStage .standard [] (receptionTurn "apodo") := by
    decide +kernel
  have hlesson : (receptionTurn "apodo").lesson? .standard [] ⟨0, 0⟩ =
    some ⟨"apodo", "Carlos", false⟩ := by decide +kernel
  have hkept : ((receptionTurn "apodo").fillings .standard [] ⟨0, 0⟩).fields.value? "apodo" =
    some "Carlos" := by decide +kernel
  refine ⟨hcard, ?_⟩
  obtain ⟨hcomes, hstored⟩ :=
    World.fillings_stored receptionWorld openStage .standard [] (receptionTurn "apodo") hcard
  obtain ⟨before, after, hdone⟩ := World.standAt_of_mem_visits hvisit
  obtain ⟨n, moment, hid, hcomes⟩ := hcomes before "greet" after hdone
  obtain ⟨c, hc, htells, -⟩ := hstored before n moment hcomes
  refine ⟨before, n, moment, c, hid, hcomes, hc, htells.fields ▸ hkept, ?_⟩
  have hother : ∀ l, (receptionTurn "apodo").lesson? .standard [] ⟨0, 0⟩ = some l →
      l.isContactName = false := by
    intro l hl
    obtain rfl := Option.some.inj (hlesson.symm.trans hl)
    rfl
  intro text
  exact congrArg (fun f => f.fill text) (htells.same hother)

/-- Told that the contact is Carlos, the turn greets Ana, while the card says Carlos. -/
theorem old_name_at_reception :
    receptionWorld.desk.card? (receptionTurn "nombre").card.id =
        some (receptionTurn "nombre").card ∧
      ∃ before n moment c, n.id = "greet" ∧
        receptionWorld.ComesTo openStage .standard [] (receptionTurn "nombre") before n moment ∧
        moment.desk.card? "visitor" = some c ∧
        ((receptionTurn "nombre").fillings .standard [] ⟨0, 0⟩).fill "Hola \x7bname\x7d" =
          "Hola Ana" ∧
        (Fillings.ofCard c).fill "Hola \x7bname\x7d" = "Hola Carlos" ∧
        (receptionWorld.runTurn openStage .standard [] (receptionTurn "nombre")).2.attempts.map
          (fun a => a.call.words?) = [some "Hola Ana"] := by
  have hcard : receptionWorld.desk.card? (receptionTurn "nombre").card.id =
    some (receptionTurn "nombre").card := rfl
  have hvisit : "greet" ∈ receptionWorld.visits openStage .standard [] (receptionTurn "nombre") := by
    decide +kernel
  have hlesson : (receptionTurn "nombre").lesson? .standard [] ⟨0, 0⟩ =
    some ⟨"nombre", "Carlos", true⟩ := by decide +kernel
  obtain ⟨before, after, hdone⟩ := World.standAt_of_mem_visits hvisit
  obtain ⟨n, moment, hid, hcomes⟩ := World.comesTo_of_standAt hdone
  obtain ⟨c, hc, htells⟩ := hcomes.tells hcard
  replace htells : (receptionTurn "nombre").Tells .standard [] ⟨0, 0⟩ c := htells
  have hname : c.contactName = "Carlos" := by
    rw [htells.name, hlesson]
    decide +kernel
  have hcarlos : Fillings.ofCard c =
      ⟨(Fillings.ofCard { ana with contactName := "Carlos" }).contactName,
        ((receptionTurn "nombre").fillings .standard [] ⟨0, 0⟩).contactNumber,
        ((receptionTurn "nombre").fillings .standard [] ⟨0, 0⟩).fields⟩ := by
    rw [htells.fields, htells.number]
    unfold Fillings.ofCard
    rw [hname]
  refine ⟨hcard, before, n, moment, c, hid, hcomes, hc, by decide +kernel, ?_, by decide +kernel⟩
  rw [hcarlos]
  decide +kernel

end Switchboard
