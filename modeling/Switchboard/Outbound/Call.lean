import Switchboard.Flow.Options
import Switchboard.Platform
import Switchboard.Text.Search

/-!
# Outbound calls

What can be asked of a platform: to send something to a contact, or to show that a message was read.
-/

namespace Switchboard

inductive MediaKind where
  | image
  | video
  | audio
  | document
  deriving DecidableEq, Repr

namespace MediaKind

def name : MediaKind → String
  | image => "image"
  | video => "video"
  | audio => "audio"
  | document => "document"

/-- The kind a word stands for. -/
def ofWord? : String → Option MediaKind
  | "image" => some image
  | "video" => some video
  | "audio" => some audio
  | "document" | "file" => some document
  | _ => none

/-- The kind of a file by the end of its name. -/
def ofExtension : String → MediaKind
  | "jpg" | "jpeg" | "png" | "gif" | "webp" => image
  | "mp4" | "mov" | "3gp" => video
  | "mp3" | "ogg" | "aac" | "m4a" | "amr" => audio
  | _ => document

/-- The end of the file name in an address, in small letters. -/
def extension (url : String) : String :=
  let path := Text.before (fun c => c = '?' || c = '#') url.toList
  Text.lowerAscii (String.ofList (Text.afterLast (· = '.') path))

/-- The kind of a file: the one that is given, else what its address tells. -/
def detect (given : Option String) (url : String) : MediaKind :=
  match given.bind fun s => ofWord? (Text.lowerAscii (Text.trim s)) with
  | some kind => kind
  | none => ofExtension (extension url)

end MediaKind

/-- A message on its way to a contact. -/
inductive Call where
  | text (recipient text : String)
  | media (recipient url caption : String) (kind : MediaKind)
  | buttons (recipient text : String) (buttons : List Button)
  | list (recipient text label : String) (sections : List Section)
  | location (recipient : String) (latitude longitude : Float) (name address : String)
  | read (messageId : String)

namespace Call

/-- Whether the call sends something. -/
def sends : Call → Bool
  | .read _ => false
  | _ => true

/-- The words a call carries to the contact. -/
def words? : Call → Option String
  | .text _ words | .buttons _ words _ | .list _ words _ _ => some words
  | .media _ _ caption _ => some caption
  | _ => none

end Call

/-- Why a call was not carried out. -/
inductive DeliveryError where
  | transport (detail : String)
  | rejected (status : Nat) (body : String)
  | unsupported (platform : Platform) (feature : String)
  | misconfigured (detail : String)
  deriving DecidableEq, Repr

namespace DeliveryError

def message : DeliveryError → String
  | transport detail => "transport error: " ++ detail
  | rejected status body =>
    "platform rejected request: status=" ++ toString status ++ " body=" ++ body
  | unsupported platform feature => platform.name ++ " does not support " ++ feature
  | misconfigured detail => "adapter misconfigured: " ++ detail

end DeliveryError

/-- What a platform answers to a call. -/
structure Receipt where
  messageId : Option String
  raw : Option Json

end Switchboard
