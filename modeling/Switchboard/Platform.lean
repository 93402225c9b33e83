import Switchboard.Text.Blank
import Switchboard.Text.Case

/-!
# Platforms

The messaging platforms that contacts write from. A platform has a lowercase name, used in addresses
of requests, in documents and in counters, and a name for contacts who give none.
-/

namespace Switchboard

inductive Platform where
  | whatsApp
  | sms
  | instagram
  | messenger
  | telegram
  | x
  | tikTok
  | webChat
  deriving DecidableEq, Repr

/-- A value for some of the platforms. -/
abbrev PerPlatform (α : Type) := Platform → Option α

namespace Platform

/-- All platforms, in the order in which listings give them. -/
def all : List Platform := [whatsApp, sms, instagram, messenger, telegram, x, tikTok, webChat]

def name : Platform → String
  | whatsApp => "whatsapp"
  | sms => "sms"
  | instagram => "instagram"
  | messenger => "messenger"
  | telegram => "telegram"
  | x => "x"
  | tikTok => "tiktok"
  | webChat => "webchat"

/-- Platforms on which a contact is known by a telephone number. -/
def usesPhone : Platform → Bool
  | whatsApp | sms => true
  | _ => false

/-- The name of a contact who gives no name. -/
def defaultContactName : Platform → String
  | whatsApp => "WhatsApp User"
  | sms => "SMS User"
  | instagram => "Instagram User"
  | messenger => "Messenger User"
  | telegram => "Telegram User"
  | x => "X User"
  | tikTok => "TikTok User"
  | webChat => "Web Visitor"

/-- The platform with exactly this name. -/
def ofName? (s : String) : Option Platform := all.find? fun p => p.name == s

/-- The platform a request names, in any case of ASCII letters and with blanks around. -/
def read? (s : String) : Option Platform := ofName? (Text.lowerAscii (Text.trim s))

/-- What is said about a name that is no platform's. -/
def unknownMessage (s : String) : String := "unknown platform `" ++ s ++ "`"

theorem mem_all (p : Platform) : p ∈ all := by cases p <;> decide

@[simp] theorem ofName?_name (p : Platform) : ofName? p.name = some p := by cases p <;> decide

theorem name_injective {p q : Platform} (h : p.name = q.name) : p = q := by
  have := congrArg ofName? h
  simpa using this

end Platform

namespace PerPlatform

variable {α : Type}

def none : PerPlatform α := fun _ => Option.none

def set (m : PerPlatform α) (p : Platform) (x : α) : PerPlatform α :=
  fun q => if q = p then some x else m q

/-- The platforms that have a value, with it. -/
def toList (m : PerPlatform α) : List (Platform × α) :=
  Platform.all.filterMap fun p => (m p).map fun x => (p, x)

@[simp] theorem set_self (m : PerPlatform α) (p : Platform) (x : α) : m.set p x p = some x := by
  simp [set]

theorem set_of_ne (m : PerPlatform α) {p q : Platform} (x : α) (h : q ≠ p) : m.set p x q = m q := by
  simp [set, h]

end PerPlatform

end Switchboard
