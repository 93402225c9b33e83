import Switchboard.Proofs.Desk.Cards
import Switchboard.Proofs.First

/-!
# Which card is found

A sender is looked up by their address, and on platforms that use telephone numbers by the digits of
the number and then by the number as it is written. The first of these that any card has decides,
and of several such cards the oldest is found. Cards are known by their ids, so the oldest is one
alone, and in whatever order the cards are gone through the same one is found
(`Desk.oldest_card_found`).
-/

namespace Switchboard

-- ---------------------------------------------------------------------------
-- The oldest card
-- ---------------------------------------------------------------------------

/-- A card was made before another, or together with it and its id is not greater. -/
def Card.NotYounger (a b : Card) : Prop :=
  a.createdAt.nanos < b.createdAt.nanos ∨
    a.createdAt.nanos = b.createdAt.nanos ∧ a.id ≤ b.id

namespace Card

variable {a b c : Card}

theorem NotYounger.trans (h : a.NotYounger b) (h' : b.NotYounger c) : a.NotYounger c := by
  rcases h with h | ⟨h, hid⟩ <;> rcases h' with h' | ⟨h', hid'⟩
  · exact .inl (Int.lt_trans h h')
  · exact .inl (h' ▸ h)
  · exact .inl (h ▸ h')
  · exact .inr ⟨h.trans h', String.le_trans hid hid'⟩

theorem NotYounger.id_eq (h : a.NotYounger b) (h' : b.NotYounger a) : a.id = b.id := by
  rcases h with h | ⟨h, hid⟩ <;> rcases h' with h' | ⟨h', hid'⟩
  · omega
  · omega
  · omega
  · exact String.le_antisymm hid hid'

theorem decides_olderThan : Decides olderThan NotYounger where
  refl c := .inr ⟨rfl, String.le_refl c.id⟩
  trans := NotYounger.trans
  of_better {a b} h := by
    simp only [olderThan, Bool.or_eq_true, Bool.and_eq_true, decide_eq_true_eq, beq_iff_eq] at h
    exact h.imp_right fun h => ⟨h.1, Std.le_of_lt h.2⟩
  of_not_better {a b} h := by
    simp only [olderThan, Bool.or_eq_false_iff, Bool.and_eq_false_iff, decide_eq_false_iff_not,
      beq_eq_false_iff_ne] at h
    obtain ⟨htime, hid⟩ := h
    by_cases heq : a.createdAt.nanos = b.createdAt.nanos
    · exact .inr ⟨heq.symm, String.not_lt.1 (hid.resolve_left fun h => h heq)⟩
    · exact .inl (by omega)

end Card

theorem oldest?_eq_best? (cs : List Card) : oldest? cs = best? Card.olderThan cs := by
  induction cs with
  | nil => rfl
  | cons c cs ih =>
    rw [oldest?, best?, ih]
    cases best? Card.olderThan cs <;> rfl

-- ---------------------------------------------------------------------------
-- What a sender is looked up by
-- ---------------------------------------------------------------------------

inductive Clue where
  | address
  | digits
  | number
  deriving DecidableEq, Repr

namespace Clue

/-- All clues, from the strongest to the weakest. -/
def all : List Clue := [address, digits, number]

/-- A card has what a sender is looked up by. -/
def Holds (p : Platform) (sender : String) (c : Card) : Clue → Prop
  | address => c.addresses p = some sender
  | digits => p.usesPhone = true ∧ phoneDigits sender ≠ "" ∧ c.phone = some (phoneDigits sender)
  | number => p.usesPhone = true ∧ c.contactNumber = some sender

theorem mem_all (clue : Clue) : clue ∈ all := by
  cases clue <;> decide

def test (p : Platform) (sender : String) : Clue → Card → Bool
  | address, c => c.addresses p == some sender
  | digits, c =>
    p.usesPhone && (!(phoneDigits sender).isEmpty && c.phone == some (phoneDigits sender))
  | number, c => p.usesPhone && c.contactNumber == some sender

theorem test_iff {p : Platform} {sender : String} {clue : Clue} {c : Card} :
    clue.test p sender c = true ↔ clue.Holds p sender c := by
  cases clue <;> simp [test, Holds]

end Clue

namespace Desk

/-- A card is on the desk, under its own id. -/
def Stores (d : Desk) (c : Card) : Prop := d.card? c.id = some c

/-- The oldest of the cards on the desk that satisfy a condition. -/
def IsOldest (d : Desk) (p : Card → Prop) (c : Card) : Prop :=
  IsFirst Card.NotYounger (fun c => d.Stores c ∧ p c) c

/-- The strongest clue that any card has decides, and the oldest card that has it is meant. -/
def Means (d : Desk) (p : Platform) (sender : String) (c : Card) : Prop :=
  ∃ stronger clue weaker, Clue.all = stronger ++ clue :: weaker ∧
    (∀ other ∈ stronger, ∀ c, d.Stores c → ¬ other.Holds p sender c) ∧
    d.IsOldest (fun c => clue.Holds p sender c) c

/-- The entries of the desk, each once and in any order: a key with the card that is kept under
it. -/
structure Listing (d : Desk) (entries : List (String × Card)) : Prop where
  once : (entries.map Prod.fst).Nodup
  mem : ∀ k c, (k, c) ∈ entries ↔ d.card? k = some c

/-- The oldest card that satisfies a test, found by going through entries. -/
def oldestAmong? (entries : List (String × Card)) (test : Card → Bool) : Option Card :=
  oldest? ((entries.map Prod.snd).filter test)

/-- The card of a sender, found by going through entries anew for each clue. -/
def findAmong? (entries : Clue → List (String × Card)) (p : Platform) (sender : String) :
    Option Card :=
  if sender = "" then none
  else Clue.all.findSome? fun clue => oldestAmong? (entries clue) (clue.test p sender)

variable {d : Desk} {c : Card} {p : Platform} {sender : String}
  {entries : List (String × Card)}

/-- Cards are told apart by their ids, and so by their age and id. -/
theorem separates_stores (d : Desk) : Separates Card.NotYounger d.Stores := by
  intro a b ha hb hab hba
  exact Catalog.eq_of_key_eq (mem_cards_iff.2 ha) (mem_cards_iff.2 hb) (hab.id_eq hba)

theorem oldest?_filter {cs : List Card} (hcs : ∀ c, c ∈ cs ↔ d.Stores c) (test : Card → Bool) :
    oldest? (cs.filter test) = some c ↔ d.IsOldest (fun c => test c = true) c := by
  have hmem : ∀ c, c ∈ cs.filter test ↔ d.Stores c ∧ test c = true := fun c => by
    rw [List.mem_filter, hcs]
  have hseparates : Separates Card.NotYounger (· ∈ cs.filter test) :=
    d.separates_stores.of_imp fun c hc => ((hmem c).1 hc).1
  rw [oldest?_eq_best?, best?_eq_some Card.decides_olderThan hseparates]
  exact IsFirst.congr hmem

theorem oldestWhere?_eq_some (test : Card → Bool) :
    d.oldestWhere? test = some c ↔ d.IsOldest (fun c => test c = true) c :=
  oldest?_filter (fun _ => mem_cards_iff) test

theorem oldestWhere?_eq_none {test : Card → Bool} :
    d.oldestWhere? test = none ↔ ∀ c, d.Stores c → ¬ test c = true := by
  unfold oldestWhere?
  rw [oldest?_eq_best?, best?_eq_none, List.filter_eq_nil_iff]
  exact forall_congr' fun c => by rw [mem_cards_iff]; rfl

theorem listing_items (d : Desk) : d.Listing (d.cards.items.map fun c => (c.id, c)) where
  once := by
    rw [List.map_map]
    exact d.cards.nodup_keys
  mem k c := by
    rw [List.mem_map]
    constructor
    · rintro ⟨c, hc, hentry⟩
      cases hentry
      exact mem_cards_iff.1 hc
    · intro hc
      obtain rfl := id_of_card? hc
      exact ⟨c, mem_cards_iff.2 hc, rfl⟩

theorem oldestAmong?_of_listing (h : d.Listing entries) (test : Card → Bool) :
    oldestAmong? entries test = d.oldestWhere? test := by
  have hmem : ∀ c, c ∈ entries.map Prod.snd ↔ d.Stores c := by
    intro c
    rw [List.mem_map]
    constructor
    · rintro ⟨⟨k, c⟩, hentry, rfl⟩
      have hc := (h.mem k c).1 hentry
      rwa [← id_of_card? hc] at hc
    · exact fun hc => ⟨(c.id, c), (h.mem c.id c).2 hc, rfl⟩
  exact Option.ext fun c => (oldest?_filter hmem test).trans (oldestWhere?_eq_some test).symm

theorem oldestWhere?_and (b : Bool) (test : Card → Bool) :
    (d.oldestWhere? fun c => b && test c) = if b then d.oldestWhere? test else none := by
  cases b with
  | false => exact oldestWhere?_eq_none.2 fun _ _ h => nomatch h
  | true => rfl

/-- The clues are asked one after the other, each for the oldest card that has it. -/
theorem find?_eq_findSome? (hs : sender ≠ "") : d.find? p sender =
    Clue.all.findSome? fun clue => d.oldestWhere? (clue.test p sender) := by
  have hempty : sender.isEmpty = false := by simpa using hs
  have hdigits : d.oldestWhere? (Clue.digits.test p sender) =
      if p.usesPhone then if !(phoneDigits sender).isEmpty then
        d.oldestWhere? fun c => c.phone == some (phoneDigits sender) else none else none := by
    rw [← oldestWhere?_and, ← oldestWhere?_and]
    rfl
  have hnumber : d.oldestWhere? (Clue.number.test p sender) =
      if p.usesPhone then d.oldestWhere? fun c => c.contactNumber == some sender else none := by
    rw [← oldestWhere?_and]
    rfl
  have haddress : d.oldestWhere? (Clue.address.test p sender) =
      d.oldestWhere? fun c => c.addresses p == some sender := rfl
  simp only [Clue.all, List.findSome?_cons, List.findSome?_nil, haddress, hdigits, hnumber]
  unfold find?
  simp only [hempty, Bool.false_eq_true, if_false]
  cases d.oldestWhere? fun c => c.addresses p == some sender with
  | some c => rfl
  | none =>
    cases p.usesPhone with
    | false => rfl
    | true =>
      cases d.oldestWhere? fun c => c.contactNumber == some sender <;>
        cases d.oldestWhere? fun c => c.phone == some (phoneDigits sender) <;>
        cases (phoneDigits sender).isEmpty <;> rfl

-- ---------------------------------------------------------------------------
-- The card that is found
-- ---------------------------------------------------------------------------

theorem oldestWhere?_clue {clue : Clue} : d.oldestWhere? (clue.test p sender) = some c ↔
    d.IsOldest (fun c => clue.Holds p sender c) c := by
  simp only [oldestWhere?_eq_some, Clue.test_iff]

theorem no_clue {clue : Clue} : d.oldestWhere? (clue.test p sender) = none ↔
    ∀ c, d.Stores c → ¬ clue.Holds p sender c := by
  simp only [oldestWhere?_eq_none, Clue.test_iff]

theorem find?_eq_some : d.find? p sender = some c ↔ sender ≠ "" ∧ d.Means p sender c := by
  by_cases hs : sender = ""
  · simp [hs, find?]
  rw [find?_eq_findSome? hs, List.findSome?_eq_some_iff]
  simp only [oldestWhere?_clue, no_clue, Means, ne_eq, hs, not_false_iff, true_and]
  constructor
  · rintro ⟨stronger, clue, weaker, hall, holdest, hnone⟩
    exact ⟨stronger, clue, weaker, hall, hnone, holdest⟩
  · rintro ⟨stronger, clue, weaker, hall, hnone, holdest⟩
    exact ⟨stronger, clue, weaker, hall, holdest, hnone⟩

theorem find?_eq_none : d.find? p sender = none ↔
    sender = "" ∨ ∀ clue c, d.Stores c → ¬ Clue.Holds p sender c clue := by
  by_cases hs : sender = ""
  · simp [hs, find?]
  rw [find?_eq_findSome? hs, List.findSome?_eq_none_iff, or_iff_right hs]
  simp only [no_clue]
  exact ⟨fun h clue => h clue clue.mem_all, fun h clue _ => h clue⟩

/-- The entries of a desk may be gone through in any order. -/
theorem findAmong?_of_listing {entries : Clue → List (String × Card)}
    (h : ∀ clue, d.Listing (entries clue)) : findAmong? entries p sender = d.find? p sender := by
  unfold findAmong?
  split
  next hs => simp [hs, find?]
  next hs =>
    rw [find?_eq_findSome? hs]
    simp only [oldestAmong?_of_listing (h _)]

/-- Which card of a desk a sender has. -/
structure FindsOldest (d : Desk) (p : Platform) (sender : String) : Prop where
  found : ∀ c, d.find? p sender = some c ↔ sender ≠ "" ∧ d.Means p sender c
  unknown : d.find? p sender = none ↔
    sender = "" ∨ ∀ clue c, d.Stores c → ¬ Clue.Holds p sender c clue
  withoutNumber : p.usesPhone = false →
    (d.find? p sender = none ↔ sender = "" ∨ ∀ c, d.Stores c → c.addresses p ≠ some sender)
  listed : ∃ entries, d.Listing entries
  anyOrder : ∀ entries : Clue → List (String × Card), (∀ clue, d.Listing (entries clue)) →
    findAmong? entries p sender = d.find? p sender

/-- Whatever cards are on the desk, the oldest of those that the strongest clue has is found. -/
theorem oldest_card_found (d : Desk) (p : Platform) (sender : String) :
    d.FindsOldest p sender where
  found c := find?_eq_some
  unknown := find?_eq_none
  withoutNumber hp := by
    rw [find?_eq_none]
    refine or_congr_right ⟨fun h c hc => h .address c hc, fun h clue c hc hholds => ?_⟩
    cases clue with
    | address => exact h c hc hholds
    | digits => simp [Clue.Holds, hp] at hholds
    | number => simp [Clue.Holds, hp] at hholds
  listed := ⟨_, d.listing_items⟩
  anyOrder entries h := findAmong?_of_listing h

/-- Of two cards with one address the one that was made first is found, though its id is greater. -/
example :
    let m := Message.ofText .telegram "42" "hola"
    let made (id : String) (time : Int) := m.addTo ⟨time, 0⟩
      (m.blankCard id ⟨"inbox", "Bandeja", some 0⟩ ⟨time, 0⟩)
    let d := (empty.withCard (made "a" 2)).withCard (made "b" 1)
    (d.find? .telegram "42").map Card.id = some "b" := by
  decide +kernel

end Desk

end Switchboard
