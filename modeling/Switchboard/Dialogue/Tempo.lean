import Switchboard.Card
import Switchboard.Decimal.Binary
import Switchboard.Flow

/-!
# Tempo

A bot pauses as if it typed, for longer before longer messages, and where a flow tells it to wait.
-/

namespace Switchboard

def millisecond : Span := 1000000

/-- The pause before every message. -/
def typingBase : Nat := 100

def shortestTyping : Nat := 500

def longestTyping : Nat := 2000

/-- Characters typed in a second. -/
def typingRate : Nat := 50

/-- The greatest number of milliseconds that can be counted. -/
def maxMillis : Nat := UInt64.size - 1

/-- The milliseconds of typing before a message, by its number of characters. -/
def typingMillis (chars : Nat) : Nat :=
  typingBase + max shortestTyping (min longestTyping (min (chars * 1000) maxMillis / typingRate))

/-- The pause before a message. -/
def typingPause (text : String) : Span := typingMillis text.length * millisecond

/-- A number of seconds to the nearest nanosecond. Negative numbers, and those that are too great to
count in sixty-four bits, are no span of time. -/
def secondsSpan (x : Float) : Span :=
  match Decimal.magnitude x with
  | .finite m q _ =>
    -- the whole seconds have to stay below `2^64`
    if Decimal.isNegative x ∨ Decimal.compareScaled 1 0 m (q - 64) ≠ .gt then 0
    else Decimal.roundScaled m q 1000000000
  | _ => 0

/-- The wait of a node: its duration in seconds, or two. -/
def Node.wait (n : Node) : Span := secondsSpan ((n.numberField? "duration").getD 2.0)

end Switchboard
