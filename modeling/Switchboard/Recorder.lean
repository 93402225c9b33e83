import Switchboard.Dialogue.Tempo
import Switchboard.World

/-!
# Recorded calls

A channel that reaches no platform. It keeps what it is asked for, and can be told to fail; then it
keeps only what was to be shown as read. What happened between two states of the world is what the
later one has more.
-/

namespace Switchboard

structure Recorder where
  failsSends : Bool
  failsReads : Bool
  deriving DecidableEq, Repr

namespace Recorder

def reliable : Recorder := ⟨false, false⟩

def sendFault : DeliveryError := .transport "recording adapter told to fail"

def readFault : DeliveryError := .rejected 500 "read receipt failed"

/-- What goes wrong with a call. -/
def fault? (r : Recorder) (call : Call) : Option DeliveryError :=
  if call.sends then if r.failsSends then some sendFault else none
  else if r.failsReads then some readFault else none

def channel (r : Recorder) : Channel := fun _ call =>
  match r.fault? call with
  | some e => .error e
  | none => .ok ⟨none, none⟩

end Recorder

/-- Whether a recorder keeps a call that it was asked for. -/
def Attempt.isKept (a : Attempt) : Bool := a.accepted || !a.call.sends

namespace World

/-- The calls on a platform that were recorded since an earlier state. -/
def recordedSince (w earlier : World) (p : Platform) : List Call :=
  ((w.attempts.drop earlier.attempts.length).filter fun a => a.platform == p && a.isKept).map
    Attempt.call

/-- A span in milliseconds, rounded up. -/
def wholeMillis (span : Span) : Int := (span + millisecond - 1) / millisecond

/-- How long was waited since an earlier state; each pause counts in whole milliseconds. -/
def waitedSince (w earlier : World) : Int :=
  ((w.pauses.drop earlier.pauses.length).map wholeMillis).foldl (· + ·) 0

end World

end Switchboard
