import Switchboard.Json.Token

/-!
# Reading JSON

A JSON text is read token by token. What has been read so far is a stack of open arrays and objects
and what may follow; a text is complete when the stack is empty again.
-/

namespace Switchboard.Json

/-- An array or object that is still open. An object keeps the name whose value comes next. -/
inductive Frame where
  | array (reversed : List Json)
  | object (members : List (String × Json)) (name : String)

/-- What may come next inside the innermost open array or object. -/
inductive Want where
  | value
  | valueOrEnd
  | name
  | nameOrEnd
  | colon
  | commaOrEnd
  deriving DecidableEq

inductive Reading where
  | within (frames : List Frame) (want : Want)
  | complete (v : Json)

/-- The greatest number of arrays and objects open at a time. -/
def maxDepth : Nat := 127

/-- A value has been read: it goes to the innermost open array or object. -/
def Reading.close (v : Json) : List Frame → Reading
  | [] => .complete v
  | .array reversed :: frames => .within (.array (v :: reversed) :: frames) .commaOrEnd
  | .object members name :: frames =>
    .within (.object (Catalog.insertAscending Prod.fst (name, v) members) "" :: frames) .commaOrEnd

def Reading.enter (frame : Frame) (frames : List Frame) (want : Want) : Option Reading :=
  if frames.length < maxDepth then some (.within (frame :: frames) want) else none

def Want.allowsValue (w : Want) : Bool := w = .value || w = .valueOrEnd

def Reading.step : Reading → Token → Option Reading
  | .complete _, _ => none
  | .within frames want, .scalar v => if want.allowsValue then some (.close v frames) else none
  | .within frames want, .beginArray =>
    if want.allowsValue then enter (.array []) frames .valueOrEnd else none
  | .within frames want, .beginObject =>
    if want.allowsValue then enter (.object [] "") frames .nameOrEnd else none
  | .within (.array reversed :: frames) want, .endArray =>
    if want = .commaOrEnd ∨ want = .valueOrEnd then some (close (.arr reversed.reverse) frames)
    else none
  | .within (.object members _ :: frames) want, .endObject =>
    if want = .commaOrEnd ∨ want = .nameOrEnd then some (close (.obj members) frames) else none
  | .within (.array reversed :: frames) .commaOrEnd, .comma =>
    some (.within (.array reversed :: frames) .value)
  | .within (.object members name :: frames) .commaOrEnd, .comma =>
    some (.within (.object members name :: frames) .name)
  | .within (.object members name :: frames) .colon, .colon =>
    some (.within (.object members name :: frames) .value)
  | .within frames want, .text s =>
    if want.allowsValue then some (.close (.str s) frames)
    else match frames, want with
      | .object members _ :: frames, .name | .object members _ :: frames, .nameOrEnd =>
        some (.within (.object members s :: frames) .colon)
      | _, _ => none
  | .within _ _, _ => none

/-- The value of a JSON text. -/
def ofChars? (cs : List Char) : Option Json :=
  match tokens cs with
  | (ts, true) =>
    match ts.foldlM Reading.step (.within [] .value) with
    | some (.complete v) => some v
    | _ => none
  | (_, false) => none

def read? (s : String) : Option Json := ofChars? s.toList

end Switchboard.Json
