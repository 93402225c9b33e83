import Switchboard.Document
import Switchboard.Yaml.Scalar

/-!
# Values

A YAML tree whose scalars say by themselves what they are, with all names looked up. What a mapping
has under `<<` is merged into it: entries that it lacks, from a mapping or from several of which the
later ones come first. Null counts as an empty collection.
-/

namespace Switchboard.Yaml

inductive Value where
  | scalar (m : Meaning)
  | seq (items : List Value)
  | map (entries : List (Value × Value))
  /-- A choice with its content. -/
  | choice (name : String) (content : Value)

namespace Value

def text? : Value → Option String
  | .scalar (.text s) => some s
  | _ => none

def entries? : Value → Option (List (Value × Value))
  | .map entries => some entries
  | _ => none

/-- Both are scalars that say the same. -/
def isSame : Value → Value → Bool
  | .scalar a, .scalar b =>
    match a, b with
    | .null, .null => true
    | .flag x, .flag y => x == y
    | .int x, .int y => x == y
    | .float x, .float y => x == y
    | .text x, .text y => x == y
    | _, _ => false
  | _, _ => false

def hasKey (entries : List (Value × Value)) (key : Value) : Bool :=
  entries.any fun e => e.1.isSame key

def keysDiffer : List (Value × Value) → Bool
  | [] => true
  | e :: es => !hasKey es e.1 && keysDiffer es

def isMergeKey (v : Value) : Bool := v.text? == some "<<"

/-- Adds an entry unless its key is there already. -/
def addMissing (entries : List (Value × Value)) (e : Value × Value) : List (Value × Value) :=
  if hasKey entries e.1 then entries else entries ++ [e]

/-- The entries of what is merged into a mapping, those first that count. -/
def mergedEntries? : Value → Option (List (Value × Value))
  | .seq items => (items.reverse.mapM entries?).map List.flatten
  | v => v.entries?

/-- A mapping of entries whose keys differ, with what is merged into it. -/
def ofEntries? (entries : List (Value × Value)) : Option Value :=
  if !keysDiffer entries then none
  else
    let own := entries.filter fun e => !e.1.isMergeKey
    match entries.find? fun e => e.1.isMergeKey with
    | some e => e.2.mergedEntries?.map fun merged => .map (merged.foldl addMissing own)
    | none => some (.map entries)

/-- The value under the name of a choice, if its tag gives one. -/
def underTag (tag : Option String) (v : Value) : Value :=
  match tag.bind choiceName? with
  | some name => .choice name v
  | none => v

end Value

/-- The value of a part of a tree, with collections up to a depth. -/
def Tree.value (t : Tree) : Nat → Yaml → StateT Nat Option Value
  | depth, v => do
    match ← t.follow v, depth with
    | .scalar s, _ =>
      match s.tag.bind choiceName? with
      | some name => return .choice name (.scalar (← s.untagged?))
      | none => return .scalar (← s.meaning?)
    | .seq tag items, depth + 1 =>
      return Value.underTag tag (.seq (← items.mapM (t.value depth)))
    | .map tag entries, depth + 1 =>
      let entries ← entries.mapM fun e => return (← t.value depth e.1, ← t.value depth e.2)
      return Value.underTag tag (← Value.ofEntries? entries)
    | _, _ => failure

def Tree.value? (t : Tree) : Option Value := (t.value maxDepth t.root).run' t.lookups

namespace Value

/-- The content of a choice; any other value is itself. -/
def content : Value → Value
  | .choice _ v => v
  | v => v

def isNull : Value → Bool
  | .scalar .null => true
  | _ => false

def flag? (v : Value) : Option Bool :=
  match v.content with
  | .scalar (.flag b) => some b
  | _ => none

def int64? (v : Value) : Option Int :=
  match v.content with
  | .scalar (.int i) => if inInt64 i then some i else none
  | _ => none

def choice? : Value → Option String
  | .scalar (.text s) => some s
  | .choice name v => if v.isNull then some name else none
  | .map [(key, v)] => if v.isNull then key.text? else none
  | _ => none

def items? (v : Value) : Option (List Value) :=
  match v.content with
  | .seq items => some items
  | .scalar (.bytes bs) => some (bs.map fun b : Nat => .scalar (.int b))
  | .scalar .null => some []
  | _ => none

def members? (v : Value) : Option (List (String × Value)) :=
  match v.content with
  | .map entries => entries.mapM fun e => e.1.content.text?.map fun name => (name, e.2)
  | .scalar .null => some []
  | _ => none

def json? : Value → Option Json
  | .scalar m => some m.json
  | .seq items => do return .arr (← items.attach.mapM fun ⟨v, _⟩ => json? v)
  | .map entries => do
    let members ← entries.attach.mapM fun ⟨e, _⟩ => do return (← e.1.text?, ← json? e.2)
    return Json.object members
  | .choice _ _ => none
termination_by v => sizeOf v
decreasing_by
  · decreasing_tactic
  · rename_i h
    have := List.sizeOf_lt_of_mem h
    cases e
    simp only [Prod.mk.sizeOf_spec] at this
    simp
    omega

instance : Document Value where
  isNull := isNull
  text? v := v.content.text?
  flag? := flag?
  int64? := int64?
  choice? := choice?
  items? := items?
  members? := members?
  record? _ v := v.members?.map fun members => ⟨fun name => members.lookup name, true⟩
  json? := json?

end Value

end Switchboard.Yaml
