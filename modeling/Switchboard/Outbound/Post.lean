import Switchboard.Json.Reader
import Switchboard.Outbound.Call
import Switchboard.Text.Search

/-!
# Posts

A call becomes one or more JSON posts to a platform. The answer to a post is a receipt when its
status is one of success; the receipt holds the answer, and the id that the platform gave the
message. Addresses that begin with mock are not contacted: their receipt holds the post itself.
-/

namespace Switchboard.Outbound

structure Post where
  url : String
  /-- The token that authorizes the post. -/
  bearer : Option String
  payload : Json
  /-- Where the answer holds the id of the message. -/
  idPath : List String

/-- What comes back after a post. -/
inductive Exchange where
  | answered (status : Nat) (body : String)
  | dropped

def isMock (base : String) : Bool := "mock://".toList.isPrefixOf base.toList

/-- The item of an array that a name without leading zeros counts to. -/
def itemAt? (items : List Json) (name : String) : Option Json :=
  match name.toList with
  | '0' :: _ :: _ => none
  | digits => (Decimal.readDigits? digits).bind fun n => items[n]?

/-- The value reached through objects by name and through arrays by number. -/
def reach? (v : Json) : List String → Option Json
  | [] => some v
  | name :: path =>
    (match v with
      | .obj members => members.lookup name
      | .arr items => itemAt? items name
      | _ => none).bind fun w => reach? w path

def succeeded (status : Nat) : Bool := 200 ≤ status && status ≤ 299

/-- The receipt of a post that was answered. -/
def Post.receipt (p : Post) (body : String) : Receipt :=
  let raw := (Json.read? body).getD .null
  ⟨(reach? raw p.idPath).bind Json.scalarText?, some raw⟩

/-- The receipt of a post that is not made. -/
def Post.mockReceipt (p : Post) : Receipt :=
  ⟨some "mock", some (Json.object [("url", .str p.url), ("payload", p.payload)])⟩

/-- What an exchange means for its post. -/
def Post.outcome (p : Post) : Exchange → Except DeliveryError Receipt
  | .dropped => .error (.transport "no answer")
  | .answered status body =>
    if succeeded status then .ok (p.receipt body) else .error (.rejected status body)

/-- Makes posts one after the other until one fails. What a post is answered may depend on the posts
made before. The receipt is that of the first. -/
def deliverAll (answer : List Post → Post → Exchange) (made : List Post) (first : Receipt) :
    List Post → List Post × Except DeliveryError Receipt
  | [] => (made, .ok first)
  | p :: ps =>
    match p.outcome (answer made p) with
    | .error e => (made ++ [p], .error e)
    | .ok _ => deliverAll answer (made ++ [p]) first ps

/-- Makes the posts of a call, and adds them to those made before. A call without posts succeeds
with an empty receipt. -/
def deliver (base : String) (answer : List Post → Post → Exchange) (made : List Post)
    (posts : List Post) : List Post × Except DeliveryError Receipt :=
  match posts with
  | [] => (made, .ok ⟨none, none⟩)
  | p :: ps =>
    -- of several posts only the first is shown in the receipt
    if isMock base then (made, .ok p.mockReceipt)
    else match p.outcome (answer made p) with
      | .error e => (made ++ [p], .error e)
      | .ok receipt => deliverAll answer (made ++ [p]) receipt ps

end Switchboard.Outbound
