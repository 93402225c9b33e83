import Switchboard.Proofs.Desk.Growth
import Switchboard.Proofs.Desk.Register
import Switchboard.Proofs.First

/-!
# Where new cards are placed

Of the lanes put under one id the last one stands, whatever else is done at the desk. Among the
lanes that stand, the first one whose name holds the keyword is for new cards, or else the one with
the lowest position; only if there is neither, no lane is. The lane therefore depends on which lanes
stand and not on when they were put (`Desk.new_cards_in_default_lane`).
-/

namespace Switchboard

-- ---------------------------------------------------------------------------
-- The order of the lanes
-- ---------------------------------------------------------------------------

namespace Lane

/-- Lanes with a position stand before those without, and in each group the lower position and then
the lower id decides. -/
inductive NotBehind (a b : Lane) : Prop
  | positioned (ha : a.order.isSome) (hb : b.order = none)
  | lower {i j : Int} (ha : a.order = some i) (hb : b.order = some j) (hij : i < j)
  | sameOrder (h : a.order = b.order) (hid : a.id ≤ b.id)

/-- Both lanes have a position, and this one has the lower, or the same and no greater id. -/
def NotAbove (a b : Lane) : Prop :=
  ∃ i j, a.order = some i ∧ b.order = some j ∧ (i < j ∨ i = j ∧ a.id ≤ b.id)

variable {a b c : Lane}

theorem before_iff : a.before b = true ↔ a.NotBehind b := by
  unfold before
  constructor
  · intro h
    split at h
    next i j ha hb =>
      simp only [Bool.or_eq_true, Bool.and_eq_true, decide_eq_true_eq, beq_iff_eq] at h
      rcases h with h | ⟨rfl, h⟩
      · exact .lower ha hb h
      · exact .sameOrder (ha.trans hb.symm) h
    next i ha hb => exact .positioned (by rw [ha]; rfl) hb
    next => cases h
    next ha hb => exact .sameOrder (ha.trans hb.symm) (of_decide_eq_true h)
  · rintro (⟨ha, hb⟩ | ⟨ha, hb, hij⟩ | ⟨h, hid⟩)
    · obtain ⟨i, ha⟩ := Option.isSome_iff_exists.1 ha
      simp [ha, hb]
    · simp [ha, hb, hij]
    · rw [h]
      cases b.order <;> simp [hid]

theorem NotBehind.refl (a : Lane) : a.NotBehind a := .sameOrder rfl (String.le_refl a.id)

theorem NotBehind.trans (h : a.NotBehind b) (h' : b.NotBehind c) : a.NotBehind c := by
  cases h with
  | positioned ha hb =>
    cases h' with
    | positioned hb' => simp [hb] at hb'
    | lower hb' => simp [hb] at hb'
    | sameOrder h' => exact .positioned ha (h' ▸ hb)
  | lower ha hb hij =>
    cases h' with
    | positioned _ hc => exact .positioned (by rw [ha]; rfl) hc
    | lower hb' hc hjk =>
      obtain rfl := Option.some.inj (hb.symm.trans hb')
      exact .lower ha hc (Int.lt_trans hij hjk)
    | sameOrder h' => exact .lower ha (h' ▸ hb) hij
  | sameOrder h hid =>
    cases h' with
    | positioned hb hc => exact .positioned (h ▸ hb) hc
    | lower hb hc hij => exact .lower (h.trans hb) hc hij
    | sameOrder h' hid' => exact .sameOrder (h.trans h') (String.le_trans hid hid')

theorem NotBehind.total (a b : Lane) : a.NotBehind b ∨ b.NotBehind a := by
  have hids : a.order = b.order → a.NotBehind b ∨ b.NotBehind a := fun h =>
    (String.le_total a.id b.id).imp (.sameOrder h) (.sameOrder h.symm)
  cases ha : a.order with
  | none =>
    cases hb : b.order with
    | none => exact hids (ha.trans hb.symm)
    | some j => exact .inr (.positioned (by rw [hb]; rfl) ha)
  | some i =>
    cases hb : b.order with
    | none => exact .inl (.positioned (by rw [ha]; rfl) hb)
    | some j =>
      rcases Int.lt_trichotomy i j with hij | rfl | hij
      · exact .inl (.lower ha hb hij)
      · exact hids (ha.trans hb.symm)
      · exact .inr (.lower hb ha hij)

theorem NotBehind.id_eq (h : a.NotBehind b) (h' : b.NotBehind a) : a.id = b.id := by
  cases h with
  | positioned ha hb =>
    cases h' with
    | positioned hb' => simp [hb] at hb'
    | lower hb' => simp [hb] at hb'
    | sameOrder h' => simp [← h', hb] at ha
  | lower ha hb hij =>
    cases h' with
    | positioned _ ha' => simp [ha] at ha'
    | lower hb' ha' hji =>
      obtain rfl := Option.some.inj (ha.symm.trans ha')
      obtain rfl := Option.some.inj (hb.symm.trans hb')
      omega
    | sameOrder h' =>
      obtain rfl := Option.some.inj (hb.symm.trans (h'.trans ha))
      omega
  | sameOrder h hid =>
    cases h' with
    | positioned hb ha => simp [← h, ha] at hb
    | lower hb ha hji =>
      obtain rfl := Option.some.inj (hb.symm.trans (h.symm.trans ha))
      omega
    | sameOrder _ hid' => exact String.le_antisymm hid hid'

/-- Among lanes with a position the lower one comes first. -/
theorem notBehind_iff_notAbove (ha : a.order.isSome) (hb : b.order.isSome) :
    a.NotBehind b ↔ a.NotAbove b := by
  obtain ⟨i, ha⟩ := Option.isSome_iff_exists.1 ha
  obtain ⟨j, hb⟩ := Option.isSome_iff_exists.1 hb
  constructor
  · rintro (⟨-, hnone⟩ | ⟨ha', hb', hij⟩ | ⟨h, hid⟩)
    · cases hb.symm.trans hnone
    · exact ⟨_, _, ha', hb', .inl hij⟩
    · exact ⟨i, i, ha, h ▸ ha, .inr ⟨rfl, hid⟩⟩
  · rintro ⟨i', j', ha', hb', hij | ⟨rfl, hid⟩⟩
    · exact .lower ha' hb' hij
    · exact .sameOrder (ha'.trans hb'.symm) hid

/-- The name of a lane holds a word, in any case. -/
def NameHolds (l : Lane) (word : String) : Prop :=
  (Text.lower word).toList <:+: (Text.lower l.name).toList

theorem nameHolds_iff {l : Lane} {word : String} :
    Text.contains (Text.lower l.name) (Text.lower word) = true ↔ l.NameHolds word :=
  Text.hasPart_iff

end Lane

-- ---------------------------------------------------------------------------
-- The lane for new cards
-- ---------------------------------------------------------------------------

namespace Desk

/-- Which lane is for new cards, by the lanes that stand; the keyword is told as it was compared. -/
structure DefaultLane (stands : Lane → Prop) (keyword : String) (answer : Except DeskError Lane) :
    Prop where
  lane : ∀ l, answer = .ok l ↔
    IsFirst Lane.NotBehind (fun m => stands m ∧ m.NameHolds keyword) l ∨
      (∀ m, stands m → ¬ m.NameHolds keyword) ∧
        IsFirst Lane.NotAbove (fun m => stands m ∧ m.order.isSome) l
  refused : ∀ e, answer = .error e ↔ e = .noDefaultLane (Text.lower keyword) ∧
    ∀ m, stands m → ¬ m.NameHolds keyword ∧ m.order = none

/-- The first lane whose name holds the keyword. -/
def namedLane? (d : Desk) (keyword : String) : Option Lane :=
  d.allLanes.find? fun l => Text.contains (Text.lower l.name) (Text.lower keyword)

/-- The first lane that has a position. -/
def lowestLane? (d : Desk) : Option Lane := d.allLanes.find? fun l => l.order.isSome

variable {d : Desk} {keyword : String} {l : Lane}

theorem separates_lanes (d : Desk) : Separates Lane.NotBehind (· ∈ d.allLanes) := by
  intro a b ha hb hab hba
  exact Catalog.eq_of_key_eq (List.mem_mergeSort.1 ha) (List.mem_mergeSort.1 hb) (hab.id_eq hba)

theorem pairwise_allLanes (d : Desk) : d.allLanes.Pairwise Lane.NotBehind := by
  have htrans : ∀ a b c : Lane, a.before b = true → b.before c = true → a.before c = true := by
    intro a b c hab hbc
    exact Lane.before_iff.2 ((Lane.before_iff.1 hab).trans (Lane.before_iff.1 hbc))
  have htotal : ∀ a b : Lane, (a.before b || b.before a) = true := by
    intro a b
    rw [Bool.or_eq_true, Lane.before_iff, Lane.before_iff]
    exact Lane.NotBehind.total a b
  exact (List.pairwise_mergeSort htrans htotal d.lanes.items).imp Lane.before_iff.1

/-- A search of the lanes finds the first one that satisfies the test. -/
theorem find?_allLanes {test : Lane → Bool} : d.allLanes.find? test = some l ↔
    IsFirst Lane.NotBehind (fun m => m ∈ d.lanes.items ∧ test m = true) l := by
  rw [find?_eq_some_of_pairwise Lane.NotBehind.refl d.pairwise_allLanes d.separates_lanes]
  exact IsFirst.congr fun m => and_congr_left' List.mem_mergeSort

theorem find?_allLanes_eq_none {test : Lane → Bool} : d.allLanes.find? test = none ↔
    ∀ m ∈ d.lanes.items, test m = false := by
  simp only [List.find?_eq_none, Bool.not_eq_true]
  exact forall_congr' fun m => imp_congr_left List.mem_mergeSort

theorem namedLane?_eq_some : d.namedLane? keyword = some l ↔
    IsFirst Lane.NotBehind (fun m => m ∈ d.lanes.items ∧ m.NameHolds keyword) l := by
  simp only [namedLane?, find?_allLanes, Lane.nameHolds_iff]

theorem namedLane?_eq_none : d.namedLane? keyword = none ↔
    ∀ m ∈ d.lanes.items, ¬ m.NameHolds keyword := by
  simp only [namedLane?, find?_allLanes_eq_none, ← Bool.not_eq_true, Lane.nameHolds_iff]

theorem lowestLane?_eq_some : d.lowestLane? = some l ↔
    IsFirst Lane.NotAbove (fun m => m ∈ d.lanes.items ∧ m.order.isSome) l := by
  rw [lowestLane?, find?_allLanes]
  constructor <;> rintro ⟨⟨hl, hsome⟩, hbefore⟩
  · exact ⟨⟨hl, hsome⟩, fun m hm => (Lane.notBehind_iff_notAbove hsome hm.2).1 (hbefore m hm)⟩
  · exact ⟨⟨hl, hsome⟩, fun m hm => (Lane.notBehind_iff_notAbove hsome hm.2).2 (hbefore m hm)⟩

theorem lowestLane?_eq_none : d.lowestLane? = none ↔ ∀ m ∈ d.lanes.items, m.order = none := by
  simp only [lowestLane?, find?_allLanes_eq_none, Option.isSome_eq_false_iff,
    Option.isNone_iff_eq_none]

theorem defaultLane_eq (d : Desk) (keyword : String) : d.defaultLane keyword =
    match (d.namedLane? keyword).or d.lowestLane? with
    | some l => .ok l
    | none => .error (.noDefaultLane (Text.lower keyword)) := rfl

theorem defaultLane_spec (d : Desk) (keyword : String) :
    DefaultLane (· ∈ d.lanes.items) keyword (d.defaultLane keyword) where
  lane l := by
    rw [← namedLane?_eq_some, ← namedLane?_eq_none, ← lowestLane?_eq_some, defaultLane_eq]
    cases d.namedLane? keyword <;> cases d.lowestLane? <;> simp
  refused e := by
    rw [forall₂_and, ← namedLane?_eq_none, ← lowestLane?_eq_none, defaultLane_eq]
    cases d.namedLane? keyword <;> cases d.lowestLane? <;> simp [eq_comm]

end Desk

-- ---------------------------------------------------------------------------
-- Lanes that stand
-- ---------------------------------------------------------------------------

/-- The lane that an operation puts. -/
def Operation.lane? : Operation → Option Lane
  | .putLane l => some l
  | _ => none

namespace Register

/-- The lanes that operations put, in their order. -/
def lanesPut (ops : List (Operation × Time.Instant)) : List Lane :=
  ops.filterMap fun x => x.1.lane?

/-- Of the lanes put under its id, a lane is the last. -/
def Stands (ops : List (Operation × Time.Instant)) (l : Lane) : Prop :=
  Catalog.IsLatest Lane.id (lanesPut ops) l

variable {r : Register} {keyword : String}

theorem lanes_keep {result : Except DeskError Desk}
    (h : ∀ d, result = .ok d → r.desk.Evolves d) : (r.keep result).desk.lanes = r.desk.lanes := by
  cases result with
  | error e => rfl
  | ok d => exact (h d rfl).lanes

theorem lanes_keep_snd {α : Type} {result : Except DeskError (α × Desk)}
    (h : ∀ x d, result = .ok (x, d) → r.desk.Evolves d) :
    (r.keep (result.map Prod.snd)).desk.lanes = r.desk.lanes := by
  cases result with
  | error e => rfl
  | ok x => exact (h x.1 x.2 rfl).lanes

theorem lanes_file (r : Register) (keyword : String) (m : Message) (now : Time.Instant) :
    (r.file keyword m now).desk.lanes = r.desk.lanes := by
  unfold file
  cases hreceive : r.desk.receive keyword m now with
  | error e => rfl
  | ok x => exact (Desk.receive_evolves hreceive).lanes

/-- An operation puts its lane, and leaves the other lanes as they were. -/
theorem lanes_step (keyword : String) (r : Register) (op : Operation) (now : Time.Instant) :
    (r.step keyword (op, now)).desk.lanes = op.lane?.elim r.desk.lanes r.desk.lanes.put := by
  cases op with
  | putLane l => rfl
  | receive m => exact lanes_file r keyword m now
  | markRead p sender => exact lanes_keep_snd fun _ _ h => Desk.markRead_evolves h
  | setPosition id p => exact lanes_keep fun _ h => Desk.setPosition_evolves h
  | appendOutbound id author text => exact lanes_keep_snd fun _ _ h => Desk.appendOutbound_evolves h
  | learn id name value => exact lanes_keep fun _ h => Desk.learn_evolves h
  | rename id name =>
    rw [step]
    exact lanes_keep fun _ h => Desk.rename_evolves h

theorem lanes_foldl (keyword : String) (r : Register) (ops : List (Operation × Time.Instant)) :
    (ops.foldl (step keyword) r).desk.lanes = (lanesPut ops).foldl Catalog.put r.desk.lanes := by
  induction ops generalizing r with
  | nil => rfl
  | cons x ops ih =>
    obtain ⟨op, now⟩ := x
    rw [List.foldl_cons, ih, lanes_step]
    simp only [lanesPut, List.filterMap_cons]
    cases op.lane? <;> rfl

theorem mem_lanes_run {made : String} {ops : List (Operation × Time.Instant)} {l : Lane} :
    l ∈ (run made ops).desk.lanes.items ↔ Stands ops l := by
  have hlanes : (run made ops).desk.lanes = Catalog.ofList (lanesPut ops) :=
    lanes_foldl made empty ops
  rw [hlanes]
  exact Catalog.mem_ofList

end Register

namespace Desk

variable {d d' : Desk}

/-- A new card is in the lane that is for new cards. -/
theorem lane_of_new {keyword : String} {m : Message} {now : Time.Instant} {a : Arrival}
    (h : d.receive keyword m now = .ok (a, d')) (hnew : a.isNew = true) :
    ∃ lane c, d.defaultLane keyword = .ok lane ∧ d'.card? a.cardId = some c ∧
      c.laneId = lane.id := by
  cases hfind : d.find? m.platform m.sender with
  | some c =>
    rw [receive_of_found hfind] at h
    cases h
    cases hnew
  | none =>
    cases hlane : d.defaultLane keyword with
    | error e =>
      rw [receive_of_no_lane hfind hlane] at h
      cases h
    | ok lane =>
      rw [receive_of_unknown hfind hlane] at h
      -- the id need not be computed
      generalize contactCardId m.platform m.sender = id at h
      cases hc : d.card? id with
      | some c =>
        rw [deposit_of_card? hc] at h
        cases h
        cases hnew
      | none =>
        rw [deposit_of_vacant hc rfl] at h
        cases h
        exact ⟨lane, _, rfl, card?_withCard_self .., rfl⟩

/-- The lane for new cards after any operations on an empty desk. -/
structure PlacesNewCards (ops : List (Operation × Time.Instant)) (d : Desk) (keyword : String) :
    Prop where
  lane : DefaultLane (Register.Stands ops) keyword (d.defaultLane keyword)
  /-- Other operations that leave the same lanes have the same lane for new cards. -/
  same : ∀ made ops', (∀ l, Register.Stands ops' l ↔ Register.Stands ops l) →
    (Register.run made ops').desk.defaultLane keyword = d.defaultLane keyword
  placed : ∀ m now a d', d.receive keyword m now = .ok (a, d') → a.isNew = true →
    ∃ lane c, d.defaultLane keyword = .ok lane ∧ d'.card? a.cardId = some c ∧ c.laneId = lane.id

theorem new_cards_in_default_lane (made : String) (ops : List (Operation × Time.Instant))
    (keyword : String) : PlacesNewCards ops (Register.run made ops).desk keyword where
  lane := by
    have hstands : (· ∈ (Register.run made ops).desk.lanes.items) = Register.Stands ops :=
      funext fun _ => propext Register.mem_lanes_run
    exact hstands ▸ defaultLane_spec _ keyword
  same made' ops' h := by
    refine defaultLane_congr (Catalog.ext_mem fun l => ?_) keyword
    rw [Register.mem_lanes_run, Register.mem_lanes_run, h]
  placed m now a d' h hnew := lane_of_new h hnew

/-- A lane that was put again under another name is no longer known by the first. -/
example :
    let ops := [(.putLane ⟨"a", "Bandeja", none⟩, ⟨0, 0⟩),
      (.putLane ⟨"b", "Leads", some (-1)⟩, ⟨1, 0⟩), (.putLane ⟨"a", "Archivo", some 0⟩, ⟨2, 0⟩)]
    ((Register.run "bandeja" ops).desk.defaultLane "bandeja").map Lane.id = .ok "b" := by
  cbv

end Desk

end Switchboard
