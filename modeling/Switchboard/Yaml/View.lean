import Switchboard.Document
import Switchboard.Yaml.Scalar

/-!
# Views

A YAML tree as readers of records see it. A scalar is a text, a flag or a number, whichever the
reader asks for and its writing allows, and nothing at all counts as an empty collection. What no
reader asks for is not looked at. A mapping names no key twice.
-/

namespace Switchboard.Yaml

/-- A value of a tree, and how many more collections may lie in each other there. -/
structure View where
  tree : Tree
  value : Yaml
  depth : Nat

def Tree.view (t : Tree) : View := ⟨t, t.root, maxDepth⟩

/-- A tag that names a choice. -/
def namesChoice (tag : Option String) : Bool := (tag.bind choiceName?).isSome

/-- The text of a key. -/
def Tree.key (t : Tree) (v : Yaml) : StateT Nat Option String := do
  match ← t.follow v with
  | .scalar s => return s.text
  | _ => failure

/-- The document of a value without choices in it, with collections up to a depth. -/
def Tree.json (t : Tree) : Nat → Yaml → StateT Nat Option Json
  | depth, v => do
    match ← t.follow v, depth with
    | .scalar s, _ => if namesChoice s.tag then failure else return (← s.meaning?).json
    | .seq tag items, depth + 1 =>
      if namesChoice tag then failure else return .arr (← items.mapM (t.json depth))
    | .map tag entries, depth + 1 =>
      if namesChoice tag then failure else
      let members ← entries.mapM fun e => return (← t.key e.1, ← t.json depth e.2)
      if (members.map Prod.fst).Nodup then return Json.object members else failure
    | _, _ => failure

namespace View

def target? (v : View) : Option Yaml := v.tree.follow? v.value

def scalar? (v : View) : Option Scalar := do
  match ← v.target? with
  | .scalar s => some s
  | _ => none

def inside (v : View) (depth : Nat) (w : Yaml) : View := ⟨v.tree, w, depth⟩

def text? (v : View) : Option String := v.scalar?.map Scalar.text

def isNull (v : View) : Bool := v.scalar?.any Scalar.isNull

def flag? (v : View) : Option Bool := do
  let s ← v.scalar?
  if s.mayBe "bool" then flagWord? s.text else none

def int64? (v : View) : Option Int := do
  let s ← v.scalar?
  if s.mayBe "int" then (int? s.text).filter inInt64 else none

/-- Nothing, or a word for it, beside the name of a choice. -/
def isUnit (v : View) : Bool :=
  v.scalar?.any fun s => s.plain && (s.text = "" || isNullWord s.text)

/-- A choice is named by a text, by a tag on nothing, or by the one key of a mapping to nothing. -/
def choice? (v : View) : Option String := do
  match ← v.target? with
  | .scalar s =>
    match s.tag.bind choiceName? with
    | some name => if v.isUnit then some name else none
    | none => some s.text
  | .map tag [(key, value)] =>
    if !namesChoice tag && (v.inside v.depth value).isUnit then (v.inside v.depth key).text?
    else none
  | _ => none

def items? (v : View) : Option (List View) := do
  match ← v.target?, v.depth with
  | .seq _ items, depth + 1 => some (items.map (v.inside depth))
  | .scalar s, _ => if s.isAbsent then some [] else none
  | _, _ => none

def members? (v : View) : Option (List (String × View)) := do
  match ← v.target?, v.depth with
  | .map _ entries, depth + 1 =>
    let members ← entries.mapM fun e => do
      return (← (v.inside depth e.1).text?, v.inside depth e.2)
    if (members.map Prod.fst).Nodup then some members else none
  | .scalar s, _ => if s.isAbsent then some [] else none
  | _, _ => none

def json? (v : View) : Option Json := (v.tree.json v.depth v.value).run' v.tree.lookups

instance : Document View where
  isNull := isNull
  text? := text?
  flag? := flag?
  int64? := int64?
  choice? := choice?
  items? := items?
  members? := members?
  record? _ v := v.members?.map fun members => ⟨fun name => members.lookup name, true⟩
  json? := json?

end View

end Switchboard.Yaml
