import Switchboard.Json.Reader

/-!
# Records of texts

A record whose fields are all texts, read straight from its tokens. The first fault on the way
decides whether the text is no JSON or holds something else than the record.
-/

namespace Switchboard.Json

/-- A field that holds a text; one that is optional may be null or missing. -/
structure TextField where
  name : String
  optional : Bool

/-- Why a record cannot be read. -/
inductive RecordFault where
  /-- The text is no JSON. -/
  | malformed
  /-- The text holds something else. -/
  | misshapen
  deriving DecidableEq, Repr

/-- The texts read so far, by name. -/
abbrev Texts := List (String × Option String)

/-- An open array or object is passed over. -/
inductive Skipped where
  | array
  | object
  deriving DecidableEq

/-- What follows a value of any shape and depth; what its texts and numbers stand for does not
matter. The arrays and objects that are open, and what may come next, are known. -/
def skipValue? : List Skipped → Want → List Token → Option (List Token)
  | _, _, [] => none
  | frames, want, t :: ts =>
    let closed := fun frames : List Skipped =>
      if frames.isEmpty then some ts else skipValue? frames .commaOrEnd ts
    match t, frames with
    | .beginArray, _ =>
      if want.allowsValue then skipValue? (.array :: frames) .valueOrEnd ts else none
    | .beginObject, _ =>
      if want.allowsValue then skipValue? (.object :: frames) .nameOrEnd ts else none
    | .endArray, .array :: rest =>
      if want = .commaOrEnd ∨ want = .valueOrEnd then closed rest else none
    | .endObject, .object :: rest =>
      if want = .commaOrEnd ∨ want = .nameOrEnd then closed rest else none
    | .comma, .array :: _ => if want = .commaOrEnd then skipValue? frames .value ts else none
    | .comma, .object :: _ => if want = .commaOrEnd then skipValue? frames .name ts else none
    | .colon, .object :: _ => if want = .colon then skipValue? frames .value ts else none
    | .scalar _, _ | .hugeNumber, _ => if want.allowsValue then closed frames else none
    | .text _, _ | .brokenText, _ =>
      if want.allowsValue then closed frames
      else if want = .name ∨ want = .nameOrEnd then skipValue? frames .colon ts
      else none
    | _, _ => none

/-- The text of a field, and what follows it. -/
def fieldText (f : TextField) : List Token → Except RecordFault (Option String × List Token)
  | .text s :: ts => .ok (some s, ts)
  | .scalar .null :: ts => if f.optional then .ok (none, ts) else .error .misshapen
  | .scalar _ :: _ | .beginArray :: _ | .beginObject :: _ => .error .misshapen
  | _ => .error .malformed

/-- Fields that are missing must be optional. -/
def complete (fields : List TextField) (read : Texts) : Except RecordFault Texts :=
  if fields.all fun f => f.optional || (read.lookup f.name).isSome then .ok read
  else .error .misshapen

/-- The members of an object after its opening brace or a comma. -/
def readMembers (fields : List TextField) :
    Nat → Bool → Texts → List Token → Except RecordFault (Texts × List Token)
  | 0, _, _, _ => .error .malformed
  | _ + 1, true, read, .endObject :: ts => do return (← complete fields read, ts)
  | fuel + 1, _, read, .text name :: ts =>
    let field := fields.find? fun f => f.name == name
    -- a declared field may be given once, and other members as often as they like
    if field.isSome && (read.lookup name).isSome then .error .misshapen else
    match ts with
    | .colon :: ts => do
      let (read, ts) ← match field with
        | some f => do
          let (s, ts) ← fieldText f ts
          pure ((name, s) :: read, ts)
        | none =>
          match skipValue? [] .value ts with
          | some ts => pure (read, ts)
          | none => .error .malformed
      match ts with
      | .comma :: ts => readMembers fields fuel false read ts
      | .endObject :: ts => return (← complete fields read, ts)
      | _ => .error .malformed
    | _ => .error .malformed
  | _, _, _, _ => .error .malformed

/-- The items of an array, one for each field in turn, after its opening bracket or a comma. -/
def readItems (all : List TextField) (isFirst : Bool) (read : Texts) :
    List TextField → List Token → Except RecordFault (Texts × List Token)
  | [], .endArray :: ts => .ok (read, ts)
  | [], _ => .error .malformed
  | f :: fields, ts =>
    let item := match isFirst, ts with
      | true, ts => some ts
      | false, .comma :: ts => some ts
      | false, _ => none
    match ts, item with
    | .endArray :: ts, _ => do return (← complete all read, ts)
    | _, some ts => do
      let (s, ts) ← fieldText f ts
      readItems all false ((f.name, s) :: read) fields ts
    | _, none => .error .malformed

/-- A record of texts that is the whole of a text. -/
def readTexts (fields : List TextField) (cs : List Char) : Except RecordFault Texts :=
  let (ts, whole) := tokens cs
  let result := match ts with
    | .beginObject :: ts => readMembers fields (ts.length + 1) true [] ts
    | .beginArray :: ts => readItems fields true [] fields ts
    | .text _ :: _ | .scalar _ :: _ => .error .misshapen
    | _ => .error .malformed
  match result with
  | .ok (read, []) => if whole then .ok read else .error .malformed
  | .ok (_, _ :: _) => .error .malformed
  | .error e => .error e

end Switchboard.Json
