import Switchboard.Card
import Switchboard.Text.Case

/-!
# Placeholders

A text may name values in braces, as in {name}; they are filled in once, from left to right, and
what is filled in is not looked at again. Names that are not known stay as written.
-/

namespace Switchboard

/-- The values a text may name. -/
structure Fillings where
  contactName : Option String
  contactNumber : Option String
  fields : Dictionary String

namespace Fillings

/-- The values of a card. A name that only stands for the platform does not count. -/
def ofCard (c : Card) : Fillings where
  contactName :=
    let name := Text.trim c.contactName
    if (Platform.all.any fun p => p.defaultContactName == c.contactName) || name.isEmpty then none
    else some name
  contactNumber := c.contactNumber
  fields := c.fields

/-- How a contact without name is addressed. -/
def defaultName : String := "Amigo"

/-- The value of a name in any case: a learned value, else the contact's name or number. -/
def value? (f : Fillings) (name : String) : Option String :=
  match f.fields.items.find? fun field => Text.eqIgnoreAsciiCase field.1 name with
  | some field => some field.2
  | none =>
    match Text.lowerAscii name with
    | "name" | "nombre" => some (f.contactName.getD defaultName)
    | "phone" => f.contactNumber
    | _ => none

end Fillings

namespace Placeholder

/-- The characters of names. -/
def isNameChar (c : Char) : Bool := c.isAlphanum || c = '_'

/-- What follows one or two opening braces. -/
def afterOpening? : List Char → Option (List Char)
  | '\x7b' :: '\x7b' :: rest => some rest
  | '\x7b' :: rest => some rest
  | _ => none

/-- What follows one or two closing braces. -/
def afterClosing? : List Char → Option (List Char)
  | '\x7d' :: '\x7d' :: rest => some rest
  | '\x7d' :: rest => some rest
  | _ => none

/-- The placeholder at the start of a text: its name and what follows it. -/
def atStart? (cs : List Char) : Option (List Char × List Char) := do
  let inner ← afterOpening? cs
  let named := Text.dropBlanks inner
  let name := named.takeWhile isNameChar
  let rest ← afterClosing? (Text.dropBlanks (named.dropWhile isNameChar))
  if name.isEmpty then none else some (name, rest)

/-- A text is a sequence of characters and placeholders. -/
inductive Piece where
  | char (c : Char)
  | hole (name written : List Char)

theorem length_dropWhile_le (p : Char → Bool) (cs : List Char) :
    (cs.dropWhile p).length ≤ cs.length := (List.dropWhile_suffix p).length_le

theorem length_afterOpening? {cs rest : List Char} (h : afterOpening? cs = some rest) :
    rest.length < cs.length := by
  unfold afterOpening? at h
  split at h
  · obtain rfl := Option.some.inj h
    exact Nat.lt_add_of_pos_right Nat.two_pos
  · obtain rfl := Option.some.inj h
    exact Nat.lt_add_one _
  · cases h

theorem length_afterClosing? {cs rest : List Char} (h : afterClosing? cs = some rest) :
    rest.length < cs.length := by
  unfold afterClosing? at h
  split at h
  · obtain rfl := Option.some.inj h
    exact Nat.lt_add_of_pos_right Nat.two_pos
  · obtain rfl := Option.some.inj h
    exact Nat.lt_add_one _
  · cases h

theorem length_atStart? {cs name rest : List Char} (h : atStart? cs = some (name, rest)) :
    rest.length < cs.length := by
  simp only [atStart?, Option.bind_eq_bind, Option.bind_eq_some_iff] at h
  obtain ⟨inner, hi, after, ha, h⟩ := h
  split at h
  · simp at h
  · simp only [Option.some.injEq, Prod.mk.injEq] at h
    have h1 := length_afterOpening? hi
    have h2 := length_afterClosing? ha
    have h3 := length_dropWhile_le Text.isBlankChar inner
    have h4 := length_dropWhile_le isNameChar (Text.dropBlanks inner)
    have h5 := length_dropWhile_le Text.isBlankChar ((Text.dropBlanks inner).dropWhile isNameChar)
    simp only [Text.dropBlanks] at *
    rw [← h.2]; omega

/-- The characters and placeholders of a text, each placeholder as far left as it can begin. -/
def pieces (cs : List Char) : List Piece :=
  match _h : atStart? cs with
  | some (name, rest) => .hole name (cs.take (cs.length - rest.length)) :: pieces rest
  | none =>
    match cs with
    | [] => []
    | c :: cs => .char c :: pieces cs
termination_by cs.length
decreasing_by
  · exact length_atStart? _h
  · simp

def Piece.fill (f : Fillings) : Piece → List Char
  | .char c => [c]
  | .hole name written =>
    match f.value? (String.ofList name) with
    | some value => value.toList
    | none => written

end Placeholder

/-- The text with its placeholders filled in. -/
def Fillings.fill (f : Fillings) (s : String) : String :=
  String.ofList ((Placeholder.pieces s.toList).flatMap (Placeholder.Piece.fill f))

end Switchboard
