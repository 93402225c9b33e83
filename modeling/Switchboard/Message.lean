import Switchboard.Json
import Switchboard.Platform
import Switchboard.Time.Instant

/-!
# Inbound messages

What a contact sent, in one form for all platforms: who wrote, on which platform, with what content.
Content without text of its own is shown by a placeholder, the name of its kind in brackets.
-/

namespace Switchboard

inductive ContentKind where
  | text
  | image
  | video
  | audio
  | document
  | sticker
  | location
  | interactive
  | button
  | comment
  | unknown
  deriving DecidableEq, Repr

namespace ContentKind

def all : List ContentKind :=
  [text, image, video, audio, document, sticker, location, interactive, button, comment, unknown]

def name : ContentKind → String
  | text => "text"
  | image => "image"
  | video => "video"
  | audio => "audio"
  | document => "document"
  | sticker => "sticker"
  | location => "location"
  | interactive => "interactive"
  | button => "button"
  | comment => "comment"
  | unknown => "unknown"

def ofName? (s : String) : Option ContentKind := all.find? fun k => k.name == s

@[simp] theorem ofName?_name (k : ContentKind) : ofName? k.name = some k := by cases k <;> decide

/-- The kind of an attached file, by the word a platform uses for it. -/
def ofMedia? : String → Option ContentKind
  | "image" | "photo" => some .image
  | "video" => some .video
  | "audio" | "voice" => some .audio
  | "document" | "file" => some .document
  | "sticker" => some .sticker
  | _ => none

end ContentKind

/-- A point on the map. -/
structure Place where
  latitude : Float
  longitude : Float
  name : Option String
  address : Option String

/-- The option a contact tapped. -/
structure Reply where
  kind : String
  id : String
  title : String
  deriving DecidableEq, Repr

structure Message where
  platform : Platform
  /-- The contact's address on the platform. -/
  sender : String
  contactName : String
  text : String
  kind : ContentKind
  sentAt : Time.Instant
  /-- The platform's own name for the message. -/
  id : Option String
  mediaUrl : Option String
  /-- What else the platform says about the contact. -/
  details : Option Json
  reply : Option Reply
  place : Option Place

/-- The text shown for content of a kind that has none. -/
def placeholder (kind : String) : String := "[" ++ Text.upper kind ++ "]"

/-- The decimal digits of a telephone number, without the marks between them. -/
def phoneDigits (s : String) : String := String.ofList (s.toList.filter Char.isDigit)

end Switchboard
