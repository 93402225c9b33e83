import Switchboard.Yaml.Folding
import Switchboard.Json.Token

/-!
# Quoted scalars

Texts in single quotes, where only the quote itself is written twice, and in double quotes, where a
backslash begins an escape. Outside brackets every line of such a text but the first must be
indented as far as the block it belongs to; a line without any character is free.
-/

namespace Switchboard.Yaml

/-- The line after a line feed begins left of the first column that belongs to the block. -/
def isOutdented (floor : Nat) (p : Place) (ps : List Place) : Bool :=
  let indent := (ps.takeWhile fun q => q.char = ' ').length
  p.char = '\n' && !(ps.head?.any Place.isBreak) && indent < floor

/-- The rest of a text in single quotes and what follows it. -/
def singleQuoted? (floor : Nat) : List Place → Option (List Piece × List Place)
  | [] => none
  | p :: ps =>
    if isOver (p :: ps) || isOutdented floor p ps then none
    else if p.char = '\'' then
      match ps with
      | q :: qs =>
        if q.char = '\'' then
          (singleQuoted? floor qs).map fun (pieces, rest) => (.char '\'' :: pieces, rest)
        else some ([], q :: qs)
      | [] => some ([], [])
    else (singleQuoted? floor ps).map fun (pieces, rest) => (p.piece :: pieces, rest)

/-- The character that a one-letter escape stands for. -/
def escaped? : Char → Option Char
  | '0' => some '\x00'
  | 'a' => some '\x07'
  | 'b' => some '\x08'
  | 't' | '\t' => some '\t'
  | 'n' => some '\n'
  | 'v' => some '\x0b'
  | 'f' => some '\x0c'
  | 'r' => some '\r'
  | 'e' => some '\x1b'
  | ' ' => some ' '
  | '"' => some '"'
  | '/' => some '/'
  | '\\' => some '\\'
  | 'N' => some '\u0085'
  | '_' => some '\u00a0'
  | 'L' => some '\u2028'
  | 'P' => some '\u2029'
  | _ => none

/-- How many hexadecimal digits an escape takes. -/
def escapeWidth? : Char → Option Nat
  | 'x' => some 2
  | 'u' => some 4
  | 'U' => some 8
  | _ => none

/-- How far the next character of a text in double quotes has been read. -/
inductive Escape where
  | none
  | begun
  /-- Digits still to come after the next one, and the value of those read. -/
  | digits (left value : Nat)

/-- The rest of a text in double quotes and what follows it. -/
def doubleQuoted? (floor : Nat) : Escape → List Place → Option (List Piece × List Place)
  | _, [] => none
  | .none, p :: ps =>
    if isOver (p :: ps) || isOutdented floor p ps then none
    else if p.char = '"' then some ([], ps)
    else if p.char = '\\' then doubleQuoted? floor .begun ps
    else (doubleQuoted? floor .none ps).map fun (pieces, rest) => (p.piece :: pieces, rest)
  | .begun, p :: ps =>
    if p.isBreak then
      (doubleQuoted? floor .none ps).map fun (pieces, rest) => (.joint :: pieces, rest)
    else match escapeWidth? p.char with
      | some width => doubleQuoted? floor (.digits (width - 1) 0) ps
      | none => do
        let c ← escaped? p.char
        let (pieces, rest) ← doubleQuoted? floor .none ps
        return (.char c :: pieces, rest)
  | .digits left value, p :: ps => do
    let value := value * 16 + (← Json.hexValue? p.char)
    match left with
    | left + 1 => doubleQuoted? floor (.digits left value) ps
    | 0 =>
      if value.isValidChar then
        let (pieces, rest) ← doubleQuoted? floor .none ps
        return (.char (Char.ofNat value) :: pieces, rest)
      else none

/-- A text in quotes after the first of them, and what follows it. -/
def quoted? (quote : Char) (floor : Nat) (ps : List Place) : Option (String × List Place) := do
  let (pieces, rest) ←
    if quote = '"' then doubleQuoted? floor .none ps else singleQuoted? floor ps
  return ((Folding.ofPieces pieces).whole, rest)

end Switchboard.Yaml
