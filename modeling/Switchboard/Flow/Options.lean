import Switchboard.Flow

/-!
# Options

The buttons and list rows a node offers. An option needs a title; one without id is known by its
title. Options keep the order of the node's data, and sections without rows are left out.
-/

namespace Switchboard

structure Button where
  id : String
  title : String
  deriving DecidableEq, Repr

structure Row where
  id : String
  title : String
  description : Option String
  deriving DecidableEq, Repr

structure Section where
  title : String
  rows : List Row
  deriving DecidableEq, Repr

/-- The title of an option, trimmed: a text or number that is neither blank nor the word undefined.
-/
def optionTitle? (v : Option Json) : Option String :=
  ((v.bind Json.scalarText?).map Text.trim).filter fun t => !t.isEmpty && t != "undefined"

/-- A text or number that is not blank. -/
def Json.givenText? (v : Json) (name : String) : Option String :=
  ((v.field? name).bind Json.scalarText?).filter fun s => !Text.isBlank s

namespace Button

def ofJson? (v : Json) : Option Button :=
  (optionTitle? ((v.field? "title").or (v.field? "text"))).map fun title =>
    ⟨(v.givenText? "id").getD title, title⟩

end Button

namespace Row

def ofJson? (v : Json) : Option Row :=
  (optionTitle? (v.field? "title")).map fun title =>
    ⟨(v.givenText? "id").getD title, title, v.givenText? "description"⟩

/-- The row of an option that is only a title, known by its place. -/
def ofTitle? (place : Nat) (v : Json) : Option Row :=
  (optionTitle? (some v)).map fun title => ⟨"option_" ++ toString place, title, none⟩

end Row

namespace Section

/-- The section at a place of the list, unless it has no usable row. -/
def ofJson? (place : Nat) (v : Json) : Option Section :=
  match ((v.field? "rows").map fun rows => rows.items.filterMap Row.ofJson?).getD [] with
  | [] => none
  | row :: rows =>
    some ⟨(v.givenText? "title").getD ("Sección " ++ toString (place + 1)), row :: rows⟩

/-- All rows, from the first section to the last. -/
def allRows (sections : List Section) : List Row := sections.flatMap Section.rows

end Section

namespace Node

def buttons (n : Node) : List Button :=
  match n.field? "buttons" with
  | some (.arr items) => items.filterMap Button.ofJson?
  | _ => []

/-- The items that can be used, each read with its place among all. -/
def usable {α : Type} (read : Nat → Json → Option α) (items : List Json) : List α :=
  items.zipIdx.filterMap fun (v, place) => read place v

/-- The sections of a list; a node that only names its options has them in one section. -/
def sections (n : Node) : List Section :=
  match n.field? "sections" with
  | some (.arr items) => usable Section.ofJson? items
  | _ =>
    match n.field? "options" with
    | some (.arr items) =>
      match usable Row.ofTitle? items with
      | [] => []
      | row :: rows => [⟨"Opciones", row :: rows⟩]
    | _ => []

end Node

end Switchboard
