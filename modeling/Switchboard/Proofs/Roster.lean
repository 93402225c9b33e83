import Mathlib.Data.List.Induction
import Mathlib.Data.List.Nodup
import Switchboard.Proofs.Desk.Cards
import Switchboard.Proofs.First
import Switchboard.Roster

/-!
# The bot that answers

Two things say which bot answers: the id that was chosen last, and the flags of the bots, which come
with their definitions and may change with each of them. A choice is what counts, and the bot it
names is always there, since no operation removes one. Before the first choice the flagged bot that
was changed last answers, by a total order on times and ids, so nothing depends on the order in
which the bots are held.
-/

namespace Switchboard

-- ---------------------------------------------------------------------------
-- The bot changed last
-- ---------------------------------------------------------------------------

/-- A bot was changed before another, or together with it and its id is not greater. -/
def Bot.NotAfter (a b : Bot) : Prop :=
  a.updatedAt.nanos < b.updatedAt.nanos ∨ a.updatedAt.nanos = b.updatedAt.nanos ∧ a.id ≤ b.id

structure IsNewest (bs : List Bot) (b : Bot) : Prop where
  mem : b ∈ bs
  greatest : ∀ c ∈ bs, c.NotAfter b

namespace Bot

variable {a b c : Bot}

theorem NotAfter.refl (a : Bot) : a.NotAfter a := .inr ⟨rfl, String.le_refl a.id⟩

theorem NotAfter.trans (h : a.NotAfter b) (h' : b.NotAfter c) : a.NotAfter c := by
  rcases h with h | ⟨h, hid⟩ <;> rcases h' with h' | ⟨h', hid'⟩
  · exact .inl (Int.lt_trans h h')
  · exact .inl (h' ▸ h)
  · exact .inl (h ▸ h')
  · exact .inr ⟨h.trans h', String.le_trans hid hid'⟩

theorem NotAfter.id_eq (h : a.NotAfter b) (h' : b.NotAfter a) : a.id = b.id := by
  rcases h with h | ⟨h, hid⟩ <;> rcases h' with h' | ⟨h', hid'⟩
  · omega
  · omega
  · omega
  · exact String.le_antisymm hid hid'

theorem decides_newerThan : Decides newerThan fun a b => b.NotAfter a where
  refl := .refl
  trans h h' := h'.trans h
  of_better {a b} h := by
    simp only [newerThan, Bool.or_eq_true, Bool.and_eq_true, decide_eq_true_eq, beq_iff_eq] at h
    exact h.imp_right fun h => ⟨h.1, Std.le_of_lt h.2⟩
  of_not_better {a b} h := by
    simp only [newerThan, Bool.or_eq_false_iff, Bool.and_eq_false_iff, decide_eq_false_iff_not,
      beq_eq_false_iff_ne] at h
    obtain ⟨htime, hid⟩ := h
    by_cases heq : b.updatedAt.nanos = a.updatedAt.nanos
    · exact .inr ⟨heq.symm, String.not_lt.1 (hid.resolve_left fun h => h heq)⟩
    · exact .inl (by omega)

end Bot

theorem newest?_eq_best? (bs : List Bot) : newest? bs = best? Bot.newerThan bs := by
  induction bs with
  | nil => rfl
  | cons b bs ih =>
    rw [newest?, best?, ih]
    cases best? Bot.newerThan bs <;> rfl

theorem isNewest_iff {bs : List Bot} {b : Bot} :
    IsNewest bs b ↔ IsFirst (fun a b : Bot => b.NotAfter a) (· ∈ bs) b :=
  ⟨fun h => ⟨h.mem, h.greatest⟩, fun h => ⟨h.holds, h.before⟩⟩

theorem newest?_eq_none {bs : List Bot} : newest? bs = none ↔ bs = [] := by
  rw [newest?_eq_best?, best?_eq_none]

/-- Of bots with different ids one alone was changed last. -/
theorem newest?_eq_some {bs : List Bot} (hids : (bs.map Bot.id).Nodup) {b : Bot} :
    newest? bs = some b ↔ IsNewest bs b := by
  have hseparates : Separates (fun a b : Bot => b.NotAfter a) (· ∈ bs) := fun a b ha hb hab hba =>
    List.inj_on_of_nodup_map hids ha hb (hba.id_eq hab)
  rw [newest?_eq_best?, best?_eq_some Bot.decides_newerThan hseparates, isNewest_iff]

theorem newest?_perm {bs bs' : List Bot} (h : bs.Perm bs') (hids : (bs.map Bot.id).Nodup) :
    newest? bs = newest? bs' := by
  refine Option.ext fun b => ?_
  rw [newest?_eq_some hids, newest?_eq_some ((h.map Bot.id).nodup hids)]
  constructor <;> rintro ⟨hmem, hgreatest⟩
  · exact ⟨h.mem_iff.1 hmem, fun c hc => hgreatest c (h.mem_iff.2 hc)⟩
  · exact ⟨h.mem_iff.2 hmem, fun c hc => hgreatest c (h.mem_iff.1 hc)⟩

namespace Roster

-- ---------------------------------------------------------------------------
-- Operations in a row
-- ---------------------------------------------------------------------------

inductive Operation where
  | put (b : Bot)
  | choose (id : String)

/-- The roster after an operation. A choice that is refused leaves it as it was. -/
def step (r : Roster) : Operation → Roster
  | .put b => r.put b
  | .choose id =>
    match r.choose id with
    | .ok r' => r'
    | .error _ => r

def run (ops : List Operation) : Roster := ops.foldl step empty

/-- The id that an operation chooses, unless it is refused. -/
def choice? (r : Roster) : Operation → Option String
  | .put _ => none
  | .choose id =>
    match r.choose id with
    | .ok _ => some id
    | .error _ => none

def choices (r : Roster) : List Operation → List String
  | [] => []
  | op :: ops => (r.choice? op).toList ++ choices (r.step op) ops

def lastChoice? (ops : List Operation) : Option String := (choices empty ops).getLast?

/-- The definition that was put last under an id. -/
def lastPut? (ops : List Operation) (id : String) : Option Bot :=
  ops.reverse.findSome? fun
    | .put b => if b.id = id then some b else none
    | .choose _ => none

/-- A bot that is flagged if it has this id. -/
def flaggedBy (id : String) (b : Bot) : Bot := { b with isActive := b.id == id }

/-- The roster after the choice of a bot that is there. -/
def appoint (r : Roster) (id : String) : Roster :=
  ⟨r.bots.update (flaggedBy id) fun _ => rfl, some id⟩

variable {r : Roster} {ops : List Operation} {op : Operation} {id : String} {b : Bot}

theorem choose_of_bot? (h : r.bot? id = some b) : r.choose id = .ok (r.appoint id) := by
  unfold choose
  rw [h]
  rfl

theorem choose_of_missing (h : r.bot? id = none) : r.choose id = .error (.botNotFound id) := by
  unfold choose
  rw [h]

theorem bot?_put (r : Roster) (b : Bot) (id : String) :
    (r.put b).bot? id = if b.id = id then some b else r.bot? id := by
  split
  next h =>
    subst h
    exact Catalog.get?_put_self r.bots b
  next h => exact Catalog.get?_put_of_ne r.bots h

theorem bot?_appoint (r : Roster) (id other : String) :
    (r.appoint id).bot? other = (r.bot? other).map (flaggedBy id) := List.find?_map

theorem step_cases (r : Roster) (op : Operation) :
    (∃ b, op = .put b ∧ r.step op = r.put b ∧ r.choice? op = none) ∨
      (∃ id, op = .choose id ∧ r.bot? id = none ∧ r.step op = r ∧ r.choice? op = none) ∨
      ∃ id b, op = .choose id ∧ r.bot? id = some b ∧ r.step op = r.appoint id ∧
        r.choice? op = some id := by
  cases op with
  | put b => exact .inl ⟨b, rfl, rfl, rfl⟩
  | choose id =>
    cases h : r.bot? id with
    | none => exact .inr (.inl ⟨id, rfl, h, by simp [step, choose_of_missing h],
        by simp [choice?, choose_of_missing h]⟩)
    | some b => exact .inr (.inr ⟨id, b, rfl, h, by simp [step, choose_of_bot? h],
        by simp [choice?, choose_of_bot? h]⟩)

@[simp] theorem run_concat (ops : List Operation) (op : Operation) :
    run (ops ++ [op]) = (run ops).step op := by
  simp [run]

theorem choices_append (r : Roster) (ops ops' : List Operation) :
    choices r (ops ++ ops') = choices r ops ++ choices (ops.foldl step r) ops' := by
  induction ops generalizing r with
  | nil => rfl
  | cons op ops ih => simp [choices, ih]

theorem lastChoice?_concat (ops : List Operation) (op : Operation) :
    lastChoice? (ops ++ [op]) = ((run ops).choice? op).or (lastChoice? ops) := by
  have hop : choices (ops.foldl step empty) [op] = ((run ops).choice? op).toList :=
    List.append_nil _
  unfold lastChoice?
  rw [choices_append, hop, List.getLast?_append]
  cases (run ops).choice? op <;> rfl

@[simp] theorem lastPut?_put (ops : List Operation) (b : Bot) (id : String) :
    lastPut? (ops ++ [.put b]) id = if b.id = id then some b else lastPut? ops id := by
  unfold lastPut?
  rw [List.reverse_append]
  split
  next h => simp [h]
  next h => simp [h]

@[simp] theorem lastPut?_choose (ops : List Operation) (chosen id : String) :
    lastPut? (ops ++ [.choose chosen]) id = lastPut? ops id := by
  unfold lastPut?
  rw [List.reverse_append]
  rfl

-- ---------------------------------------------------------------------------
-- What the operations leave
-- ---------------------------------------------------------------------------

/-- The choice is the last that was not refused, its bot is there, and bots are as they were put,
apart from flags after a choice. -/
structure Kept (ops : List Operation) (r : Roster) : Prop where
  chosen : r.chosen = lastChoice? ops
  present : ∀ id, r.chosen = some id → ∃ b, r.bot? id = some b
  stored : ∀ id, ∃ active, r.bot? id = (lastPut? ops id).map fun b => { b with isActive := active }
  asPut : r.chosen = none → ∀ id, r.bot? id = lastPut? ops id

theorem kept_empty : Kept [] empty where
  chosen := rfl
  present := by simp [empty]
  stored _ := ⟨false, rfl⟩
  asPut _ _ := rfl

theorem Kept.put (h : Kept ops r) (b : Bot)
    (hchoice : lastChoice? (ops ++ [.put b]) = lastChoice? ops) :
    Kept (ops ++ [.put b]) (r.put b) where
  chosen := h.chosen.trans hchoice.symm
  present id hid := by
    obtain ⟨c, hc⟩ := h.present id hid
    rw [bot?_put]
    split
    · exact ⟨b, rfl⟩
    · exact ⟨c, hc⟩
  stored id := by
    rw [bot?_put, lastPut?_put]
    split
    · exact ⟨b.isActive, rfl⟩
    · exact h.stored id
  asPut hnone id := by
    rw [bot?_put, lastPut?_put, h.asPut hnone id]

theorem Kept.appoint (h : Kept ops r) (hbot : r.bot? id = some b)
    (hchoice : lastChoice? (ops ++ [.choose id]) = some id) :
    Kept (ops ++ [.choose id]) (r.appoint id) where
  chosen := hchoice.symm
  present other hother := by
    obtain rfl : id = other := Option.some.inj hother
    exact ⟨flaggedBy id b, by rw [bot?_appoint, hbot, Option.map_some]⟩
  stored other := by
    obtain ⟨active, hstored⟩ := h.stored other
    refine ⟨other == id, ?_⟩
    rw [bot?_appoint, lastPut?_choose, hstored]
    cases hput : lastPut? ops other with
    | none => rfl
    | some c =>
      rw [hput, Option.map_some] at hstored
      have hid := Catalog.key_of_get? hstored
      obtain rfl : c.id = other := hid
      rfl
  asPut hnone := by cases hnone

theorem Kept.step (h : Kept ops (run ops)) (op : Operation) :
    Kept (ops ++ [op]) (run (ops ++ [op])) := by
  have hlast := lastChoice?_concat ops op
  rw [run_concat]
  rcases step_cases (run ops) op with
    ⟨b, rfl, hstep, hchoice⟩ | ⟨id, rfl, hbot, hstep, hchoice⟩ | ⟨id, b, rfl, hbot, hstep, hchoice⟩
  · rw [hchoice] at hlast
    rw [hstep]
    exact h.put b hlast
  · rw [hchoice] at hlast
    rw [hstep]
    exact ⟨h.chosen.trans hlast.symm, h.present, by simpa using h.stored, by simpa using h.asPut⟩
  · rw [hchoice] at hlast
    rw [hstep]
    exact h.appoint hbot hlast

theorem kept_run (ops : List Operation) : Kept ops (run ops) := by
  induction ops using List.reverseRecOn with
  | nil => exact kept_empty
  | append_singleton ops op ih => exact ih.step op

-- ---------------------------------------------------------------------------
-- Bots in any order
-- ---------------------------------------------------------------------------

/-- The bot that answers, found among the bots in the order they are listed. -/
def activeAmong (chosen : Option String) (bots : List Bot) : Option Bot :=
  match chosen.bind fun id => bots.find? fun b => b.id == id with
  | some b => some b
  | none => newest? (bots.filter Bot.isActive)

variable {bots : List Bot}

theorem nodup_ids (r : Roster) : (r.bots.items.map Bot.id).Nodup := r.bots.nodup_keys

theorem nodup_flagged (r : Roster) : ((r.bots.items.filter Bot.isActive).map Bot.id).Nodup :=
  r.nodup_ids.sublist (List.filter_sublist.map Bot.id)

theorem find?_of_perm (h : bots.Perm r.bots.items) (id : String) :
    (bots.find? fun b => b.id == id) = r.bot? id := by
  have hids : (bots.map Bot.id).Nodup := (h.map Bot.id).nodup_iff.2 r.nodup_ids
  cases hfound : r.bot? id with
  | none =>
    refine List.find?_eq_none.2 fun b hb hid => ?_
    have hstored := Catalog.mem_items_iff.1 (h.mem_iff.1 hb)
    rw [beq_iff_eq.1 hid] at hstored
    cases hfound.symm.trans hstored
  | some b =>
    have hid : b.id = id := Catalog.key_of_get? hfound
    have hb : b ∈ bots := h.mem_iff.2 (List.mem_of_find?_eq_some hfound)
    cases hfirst : bots.find? fun b => b.id == id with
    | none => exact absurd (beq_iff_eq.2 hid) (List.find?_eq_none.1 hfirst b hb)
    | some c =>
      have hc : c.id = id := by simpa using List.find?_some hfirst
      rw [List.inj_on_of_nodup_map hids (List.mem_of_find?_eq_some hfirst) hb (hc.trans hid.symm)]

theorem activeAmong_of_perm (h : bots.Perm r.bots.items) :
    activeAmong r.chosen bots = r.active? := by
  have hflagged : newest? (bots.filter Bot.isActive) = newest? (r.bots.items.filter Bot.isActive) :=
    (newest?_perm (h.filter Bot.isActive).symm r.nodup_flagged).symm
  unfold activeAmong active?
  rw [funext (find?_of_perm h)]
  cases r.chosen.bind r.bot? with
  | some b => rfl
  | none => exact hflagged

theorem flaggedBy_of_perm (h : bots.Perm r.bots.items) (id : String) :
    (bots.map (flaggedBy id)).Perm (r.appoint id).bots.items := h.map (flaggedBy id)

-- ---------------------------------------------------------------------------
-- One bot answers
-- ---------------------------------------------------------------------------

theorem active?_of_chosen (hchosen : r.chosen = some id) (hbot : r.bot? id = some b) :
    r.active? = some b := by
  unfold active?
  simp [hchosen, hbot]

theorem active?_of_unchosen (hchosen : r.chosen = none) :
    r.active? = newest? (r.bots.items.filter Bot.isActive) := by
  unfold active?
  simp [hchosen]

/-- A bot that was just chosen answers. -/
theorem active?_choose {r' : Roster} (h : r.choose id = .ok r') :
    ∃ b, r'.active? = some b ∧ b.id = id := by
  cases hb : r.bot? id with
  | none =>
    rw [choose_of_missing hb] at h
    cases h
  | some b =>
    rw [choose_of_bot? hb] at h
    cases h
    have hflagged : (r.appoint id).bot? id = some (flaggedBy id b) := by
      rw [bot?_appoint, hb, Option.map_some]
    have hid : b.id = id := Catalog.key_of_get? hb
    exact ⟨_, active?_of_chosen rfl hflagged, hid⟩

theorem isActive_appoint (hb : b ∈ (r.appoint id).bots.items) : b.isActive = true ↔ b.id = id := by
  obtain ⟨c, -, rfl⟩ := List.mem_map.1 hb
  exact beq_iff_eq

/-- Which bot answers after some operations, and what a further choice does. -/
structure Answers (ops : List Operation) : Prop where
  chosen : ∀ id, lastChoice? ops = some id →
    ∃ b, (run ops).bot? id = some b ∧ (run ops).active? = some b
  unchosen : lastChoice? ops = none →
    (∀ b, (run ops).active? = some b ↔
      IsNewest ((run ops).bots.items.filter Bot.isActive) b) ∧
    ((run ops).active? = none ↔ ∀ b ∈ (run ops).bots.items, b.isActive = false)
  /-- What is stored under an id is what was put there last; only a choice changes its flag. -/
  stored : ∀ id,
    (∃ active, (run ops).bot? id =
      (lastPut? ops id).map fun b => { b with isActive := active }) ∧
    (lastChoice? ops = none → (run ops).bot? id = lastPut? ops id)
  accepted : ∀ id b, (run ops).bot? id = some b →
    ∃ r, (run ops).choose id = .ok r ∧ run (ops ++ [.choose id]) = r ∧
      lastChoice? (ops ++ [.choose id]) = some id ∧
      r.bot? id = some { b with isActive := true } ∧
      ∀ c ∈ r.bots.items, c.isActive = true ↔ c.id = id
  refused : ∀ id, (run ops).bot? id = none →
    (run ops).choose id = .error (.botNotFound id) ∧
      run (ops ++ [.choose id]) = run ops ∧ lastChoice? (ops ++ [.choose id]) = lastChoice? ops
  /-- The order in which the bots are visited changes neither an answer nor what a choice leaves. -/
  order : ∀ bots, bots.Perm (run ops).bots.items →
    activeAmong (run ops).chosen bots = (run ops).active? ∧
    (∀ id, (bots.find? fun b => b.id == id) = (run ops).bot? id) ∧
    ∀ id r, (run ops).choose id = .ok r → (bots.map (flaggedBy id)).Perm r.bots.items

theorem one_bot_answers (ops : List Operation) : Answers ops where
  chosen id hid := by
    have hkept := kept_run ops
    obtain ⟨b, hb⟩ := hkept.present id (hkept.chosen.trans hid)
    exact ⟨b, hb, active?_of_chosen (hkept.chosen.trans hid) hb⟩
  unchosen hnone := by
    rw [active?_of_unchosen ((kept_run ops).chosen.trans hnone)]
    refine ⟨fun b => newest?_eq_some (run ops).nodup_flagged, ?_⟩
    rw [newest?_eq_none, List.filter_eq_nil_iff]
    simp
  stored id := by
    have hkept := kept_run ops
    exact ⟨hkept.stored id, fun hnone => hkept.asPut (hkept.chosen.trans hnone) id⟩
  accepted id b hb := by
    have hchoose := choose_of_bot? hb
    have hid : b.id = id := Catalog.key_of_get? hb
    refine ⟨(run ops).appoint id, hchoose, ?_, ?_, ?_, fun c hc => isActive_appoint hc⟩
    · simp [step, hchoose]
    · simp [lastChoice?_concat, choice?, hchoose]
    · simp [bot?_appoint, hb, flaggedBy, hid]
  refused id hnone := by
    have hchoose := choose_of_missing hnone
    refine ⟨hchoose, ?_, ?_⟩
    · simp [step, hchoose]
    · simp [lastChoice?_concat, choice?, hchoose]
  order bots hperm := by
    refine ⟨activeAmong_of_perm hperm, find?_of_perm hperm, fun id r hr => ?_⟩
    cases hb : (run ops).bot? id with
    | none =>
      rw [choose_of_missing hb] at hr
      cases hr
    | some b =>
      rw [choose_of_bot? hb] at hr
      cases hr
      exact flaggedBy_of_perm hperm id

/-- The chosen bot answers though it was put again without its flag and another choice failed. -/
example :
    let bot (id : String) (isActive : Bool) : Bot := ⟨id, id, isActive, ⟨0, 0⟩, ⟨[], []⟩⟩
    let ops := [.put (bot "a" true), .put (bot "b" false), .choose "b", .put (bot "b" false),
      .choose "c"]
    lastChoice? ops = some "b" ∧
      (run ops).active?.map (fun b => (b.id, b.isActive)) = some ("b", false) := by
  decide +kernel

end Roster

end Switchboard
