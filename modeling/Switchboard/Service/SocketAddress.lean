import Switchboard.Decimal.Reading
import Switchboard.Json.Token

/-!
# Socket addresses

The address a service listens at: four numbers or eight groups of hexadecimal digits, and a port. In
the second form one stretch of zeros may be left out, the last two groups may be written as four
numbers, and a zone may follow. It is written with the longest stretch of zeros left out.
-/

namespace Switchboard.Service

inductive SocketAddress where
  | four (octets : List Nat) (port : Nat)
  | six (groups : List Nat) (zone port : Nat)
  deriving DecidableEq, Repr

/-- A value read from the start of a text, and the text after it. -/
abbrev Reader (α : Type) := List Char → Option (α × List Char)

namespace SocketAddress

def digitOf? (radix : Nat) (c : Char) : Option Nat := (Json.hexValue? c).filter (· < radix)

/-- The digits at the start of a text. -/
def digits (radix : Nat) : List Char → List Nat × List Char
  | [] => ([], [])
  | c :: cs =>
    match digitOf? radix c with
    | none => ([], c :: cs)
    | some d =>
      let (ds, rest) := digits radix cs
      (d :: ds, rest)

/-- A number below a limit. -/
def number? (radix limit : Nat) : Reader Nat := fun cs =>
  let (ds, rest) := digits radix cs
  let n := ds.foldl (fun n d => n * radix + d) 0
  if ds.isEmpty || limit ≤ n then none else some (n, rest)

def skip? (mark : Char) : Reader Unit
  | c :: cs => if c = mark then some ((), cs) else none
  | [] => none

/-- A number of up to three digits below 256, without zeros in front. -/
def octet? : Reader Nat := fun cs =>
  match number? 10 256 cs with
  | some (n, rest) =>
    let width := cs.length - rest.length
    if 3 < width || (1 < width && cs.head? == some '0') then none else some (n, rest)
  | none => none

/-- Four octets with points between them. -/
def octets? : Reader (List Nat) := fun cs => do
  let (a, cs) ← octet? cs
  let (b, cs) ← octet? (← skip? '.' cs).2
  let (c, cs) ← octet? (← skip? '.' cs).2
  let (d, cs) ← octet? (← skip? '.' cs).2
  return ([a, b, c, d], cs)

/-- A group of up to four hexadecimal digits. -/
def group? : Reader Nat := fun cs =>
  match number? 16 UInt16.size cs with
  | some (n, rest) => if 4 < cs.length - rest.length then none else some (n, rest)
  | none => none

/-- What stands before the next group: a colon, except before the first one. -/
def separator? (isFirst : Bool) (cs : List Char) : Option (List Char) :=
  if isFirst then some cs else (skip? ':' cs).map Prod.snd

/-- Up to `room` groups with colons between them, and whether four octets took the place of the last
two. -/
def groups : Nat → Bool → List Char → (List Nat × Bool) × List Char
  | 0, _, cs => (([], false), cs)
  | room + 1, isFirst, cs =>
    -- four octets need the room of two groups
    match if room = 0 then none else (separator? isFirst cs).bind octets? with
    | some ([a, b, c, d], rest) => (([a * 256 + b, c * 256 + d], true), rest)
    | _ =>
      match (separator? isFirst cs).bind group? with
      | none => (([], false), cs)
      | some (g, rest) =>
        let ((gs, embedded), rest) := groups room false rest
        ((g :: gs, embedded), rest)

/-- Eight groups, or fewer with two colons where zeros are left out. -/
def eightGroups? : Reader (List Nat) := fun cs =>
  let ((head, embedded), rest) := groups 8 true cs
  if head.length = 8 then some (head, rest)
  else if embedded then none
  else do
    let ((), rest) ← skip? ':' rest
    let ((), rest) ← skip? ':' rest
    let ((tail, _), rest) := groups (7 - head.length) true rest
    return (head ++ List.replicate (8 - head.length - tail.length) 0 ++ tail, rest)

def port? : Reader Nat := fun cs => do number? 10 UInt16.size (← skip? ':' cs).2

def zone? : Reader Nat
  | '%' :: cs => number? 10 UInt32.size cs
  | cs => some (0, cs)

/-- An address that is the whole of a text. -/
def read? (s : String) : Option SocketAddress :=
  let whole := fun (x : SocketAddress × List Char) => if x.2.isEmpty then some x.1 else none
  match s.toList with
  | '[' :: cs => do
    let (gs, cs) ← eightGroups? cs
    let (zone, cs) ← zone? cs
    let ((), cs) ← skip? ']' cs
    let (port, cs) ← port? cs
    whole (.six gs zone port, cs)
  | cs => do
    let (os, cs) ← octets? cs
    let (port, cs) ← port? cs
    whole (.four os port, cs)

def octetsText (os : List Nat) : String := ".".intercalate (os.map toString)

def groupsText (gs : List Nat) : String :=
  ":".intercalate (gs.map fun g => String.ofList (Nat.toDigits 16 g))

/-- The number of zeros at the start. -/
def leadingZeros (gs : List Nat) : Nat := (gs.takeWhile (· = 0)).length

/-- The first longest stretch of zeros: where it begins, and its length. -/
def zeroStretch : List Nat → Nat × Nat
  | [] => (0, 0)
  | g :: gs =>
    let (start, length) := zeroStretch gs
    let here := leadingZeros (g :: gs)
    if length ≤ here then (0, here) else (start + 1, length)

def sixText (gs : List Nat) : String :=
  match gs with
  | [0, 0, 0, 0, 0, 0xffff, a, b] =>
    "::ffff:" ++ octetsText [a / 256, a % 256, b / 256, b % 256]
  | _ =>
    let (start, length) := zeroStretch gs
    if 1 < length then groupsText (gs.take start) ++ "::" ++ groupsText (gs.drop (start + length))
    else groupsText gs

def text : SocketAddress → String
  | four os port => octetsText os ++ ":" ++ toString port
  | six gs zone port =>
    "[" ++ sixText gs ++ (if zone = 0 then "" else "%" ++ toString zone) ++ "]:" ++ toString port

end SocketAddress

end Switchboard.Service
