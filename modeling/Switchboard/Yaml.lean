/-!
# YAML trees

What a YAML text says: scalars, sequences and mappings, and values that are used again under a name.
What a scalar means depends on who asks for it, so a scalar keeps its text, whether it was written
without quotes and the tag it was given; only without quotes, or under a tag, may it stand for
something else than a text.
-/

namespace Switchboard

/-- A scalar as it is written. -/
structure Yaml.Scalar where
  text : String
  plain : Bool
  tag : Option String

inductive Yaml where
  | scalar (s : Yaml.Scalar)
  | seq (tag : Option String) (items : List Yaml)
  | map (tag : Option String) (entries : List (Yaml × Yaml))
  /-- The value that has been given a name. Names are counted, so a name given twice is two. -/
  | reference (name : Nat)

namespace Yaml

/-- What stands where nothing is written, perhaps under a tag. -/
def empty (tag : Option String) : Yaml := .scalar ⟨"", true, tag⟩

/-- A whole text: its value, the named values in it, and how many scalars, aliases and ends of
collections it is written with. -/
structure Tree where
  root : Yaml
  named : List (Nat × Yaml)
  size : Nat

/-- How deep collections may lie in each other. -/
def maxDepth : Nat := 128

/-- How often names may be looked up while a value is put together. -/
def Tree.lookups (t : Tree) : Nat := t.size * 100

/-- The value behind a name; any other value is itself. -/
def Tree.follow? (t : Tree) : Yaml → Option Yaml
  | .reference name => t.named.lookup name
  | v => some v

/-- The value behind a name, one look-up of those left. -/
def Tree.follow (t : Tree) (v : Yaml) : StateT Nat Option Yaml := do
  match v with
  | .reference _ =>
    match ← get with
    | 0 => failure
    | left + 1 =>
      set left
      t.follow? v
  | v => return v

end Yaml

end Switchboard
