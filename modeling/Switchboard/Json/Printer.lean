import Switchboard.Json

/-!
# Writing JSON

The compact text of a value. Quotes, backslashes and control characters are escaped, all other
characters stand for themselves.
-/

namespace Switchboard.Json

def hexDigit (n : Nat) : Char := (Nat.digitChar (n % 16))

def escape (c : Char) : String :=
  match c with
  | '"' => "\\\""
  | '\\' => "\\\\"
  | '\x08' => "\\b"
  | '\x0c' => "\\f"
  | '\n' => "\\n"
  | '\r' => "\\r"
  | '\t' => "\\t"
  | c =>
    if c.toNat < 0x20 then
      String.ofList ['\\', 'u', '0', '0', hexDigit (c.toNat / 16), hexDigit c.toNat]
    else String.singleton c

def quote (s : String) : String := s.toList.foldl (fun out c => out ++ escape c) "\"" ++ "\""

mutual
/-- The compact text of a value. -/
def print : Json → String
  | .null => "null"
  | .bool true => "true"
  | .bool false => "false"
  | .num n => n.text
  | .str s => quote s
  | .arr items => "[" ++ printItems items ++ "]"
  | .obj members => "\x7b" ++ printMembers members ++ "\x7d"
def printItems : List Json → String
  | [] => ""
  | [v] => print v
  | v :: w :: vs => print v ++ "," ++ printItems (w :: vs)
def printMembers : List (String × Json) → String
  | [] => ""
  | [(name, v)] => quote name ++ ":" ++ print v
  | (name, v) :: m :: ms => quote name ++ ":" ++ print v ++ "," ++ printMembers (m :: ms)
end

end Switchboard.Json
