import Switchboard.Card
import Switchboard.Text.Search

/-!
# The desk

The desk holds all cards and lanes. Cards change one at a time: a change sees the card as it stands,
or that there is none, and its result takes the card's place only if the change succeeds and keeps
the id.
-/

namespace Switchboard

structure Desk where
  cards : Catalog Card Card.id
  lanes : Catalog Lane Lane.id

/-- Why the desk, or the roster of bots, refuses a request. -/
inductive DeskError where
  | cardNotFound (id : String)
  | botNotFound (id : String)
  | noDefaultLane (keyword : String)
  | store (detail : String)
  | serialization (detail : String)
  deriving DecidableEq, Repr

namespace DeskError

def message : DeskError → String
  | cardNotFound id => "card " ++ id ++ " not found"
  | botNotFound id => "bot " ++ id ++ " not found"
  | noDefaultLane keyword =>
    "no default lane: no lane matches `" ++ keyword ++ "` and none is positioned"
  | store detail => "store error: " ++ detail
  | serialization detail => "serialization error: " ++ detail

end DeskError

/-- Lanes in their order: those with a position first, then by id. -/
def Lane.before (a b : Lane) : Bool :=
  match a.order, b.order with
  | some i, some j => i < j || (i == j && a.id ≤ b.id)
  | some _, none => true
  | none, some _ => false
  | none, none => a.id ≤ b.id

/-- Whether a card comes before another by age; of cards of one age the one with the smaller id. -/
def Card.olderThan (a b : Card) : Bool :=
  a.createdAt.nanos < b.createdAt.nanos
    || (a.createdAt.nanos == b.createdAt.nanos && a.id < b.id)

/-- The oldest of some cards. -/
def oldest? : List Card → Option Card
  | [] => none
  | c :: cs =>
    match oldest? cs with
    | none => some c
    | some d => some (if d.olderThan c then d else c)

namespace Desk

def empty : Desk := ⟨Catalog.empty, Catalog.empty⟩

def card? (d : Desk) (id : String) : Option Card := d.cards.get? id

def putLane (d : Desk) (l : Lane) : Desk := { d with lanes := d.lanes.put l }

/-- All lanes, in their order. -/
def allLanes (d : Desk) : List Lane := d.lanes.items.mergeSort Lane.before

/-- The lane for new cards: the first one whose name holds the keyword, in any case, else the first
one that has a position. -/
def defaultLane (d : Desk) (keyword : String) : Except DeskError Lane :=
  let keyword := Text.lower keyword
  let lanes := d.allLanes
  match (lanes.find? fun l => Text.contains (Text.lower l.name) keyword).or
      (lanes.find? fun l => l.order.isSome) with
  | some l => .ok l
  | none => .error (.noDefaultLane keyword)

/-- The oldest card that satisfies a test. -/
def oldestWhere? (d : Desk) (test : Card → Bool) : Option Card :=
  oldest? (d.cards.items.filter test)

/-- The card of a contact: by their address on the platform, and on platforms that use telephone
numbers by the digits of the number, or by the number as written. -/
def find? (d : Desk) (p : Platform) (sender : String) : Option Card :=
  if sender.isEmpty then none else
  match d.oldestWhere? fun c => c.addresses p == some sender with
  | some c => some c
  | none =>
    if !p.usesPhone then none else
    let digits := phoneDigits sender
    match if digits.isEmpty then none else d.oldestWhere? fun c => c.phone == some digits with
    | some c => some c
    | none => d.oldestWhere? fun c => c.contactNumber == some sender

/-- Changes the card with an id, which may not be there yet. -/
def transact (d : Desk) (id : String) (change : Option Card → Except DeskError Card) :
    Except DeskError (Card × Desk) :=
  match change (d.card? id) with
  | .error e => .error e
  | .ok c =>
    if c.id = id then .ok (c, { d with cards := d.cards.put c })
    else .error (.store ("transaction on " ++ id ++ " produced card " ++ c.id))

/-- Changes a card that is there, and notes the time of the change. -/
def change (d : Desk) (id : String) (now : Time.Instant) (f : Card → Card) :
    Except DeskError (Card × Desk) :=
  d.transact id fun
    | none => .error (.cardNotFound id)
    | some c =>
      let c := f c
      .ok { c with updatedAt := Time.later c.updatedAt now }

end Desk

end Switchboard
