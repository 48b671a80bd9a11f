import StoredProgram.Text.Point
import StoredProgram.Text.Printable

/-! Quoted text: the quotation mark is a single one unless the text has single marks and no double
ones, and whatever would not print is escaped. -/

namespace StoredProgram.Text

def hexDigit (n : Nat) : Char := Nat.digitChar (n % 16)

def hex : Nat → Nat → List Char
  | 0, _ => []
  | width + 1, n => hex width (n / 16) ++ [hexDigit n]

def shortEscape? (quote c : Char) : Option (List Char) :=
  if c = quote ∨ c = '\\' then some ['\\', c]
  else if c = '\n' then some ['\\', 'n']
  else if c = '\r' then some ['\\', 'r']
  else if c = '\t' then some ['\\', 't']
  else none

def escapeCode (n : Nat) : List Char :=
  if n < 0x100 then '\\' :: 'x' :: hex 2 n
  else if n < 0x10000 then '\\' :: 'u' :: hex 4 n
  else '\\' :: 'U' :: hex 8 n

def escape (quote : Char) : Point → List Char
  | .surrogate code => escapeCode code
  | .char c =>
    match shortEscape? quote c with
    | some s => s
    | none => if isPrintable c then [c] else escapeCode c.toNat

def quoteMark (s : List Char) : Char :=
  if s.contains '\'' && !s.contains '"' then '"' else '\''

def quoted (s : List Point) : List Char :=
  let mark := quoteMark (chars s)
  mark :: s.flatMap (escape mark) ++ [mark]

def escapeByte (quote : Char) (b : UInt8) : List Char :=
  let c := Char.ofNat b.toNat
  match shortEscape? quote c with
  | some s => s
  | none => if 0x20 ≤ b.toNat ∧ b.toNat < 0x7F then [c] else escapeCode b.toNat

def quotedBytes (bs : List UInt8) : List Char :=
  let mark := quoteMark (bs.map fun b => Char.ofNat b.toNat)
  'b' :: mark :: bs.flatMap (escapeByte mark) ++ [mark]

end StoredProgram.Text
