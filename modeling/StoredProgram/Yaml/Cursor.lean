import StoredProgram.Fault

/-! A place in the text of a document, with the characters that follow it. The classes of characters
take the end of the text for a line end. -/

namespace StoredProgram.Yaml

def isBreak (c : Char) : Bool :=
  c = '\n' || c = '\r' || c = '\x85' || c = '\u2028' || c = '\u2029'

def isSpace (c : Char) : Bool := c = ' ' || c = '\t'

def endsLine : Option Char → Bool
  | none => true
  | some c => isBreak c

def endsWord : Option Char → Bool
  | none => true
  | some c => isSpace c || isBreak c

def endsItem : Option Char → Bool
  | none => true
  | some c => c = ' ' || isBreak c

def byteOrderMark : Char := '\ufeff'

def isPermitted (c : Char) : Bool :=
  c = '\t' || c = '\n' || c = '\r' || (' ' ≤ c && c ≤ '~') || c = '\x85' ||
    ('\u00a0' ≤ c && c.toNat ≠ 0xFFFE && c.toNat ≠ 0xFFFF)

/-- A text as far as it can be read, and the fault for which it breaks off there, if it does. -/
structure Source where
  text : List Char
  fault : Option Fault := none

structure Cursor where
  rest : List Char
  fault : Option Fault
  size : Nat
  index : Nat := 0
  line : Nat := 0
  column : Nat := 0

namespace Cursor

def next (c : Cursor) : Cursor :=
  match c.rest with
  | [] => c
  | x :: r =>
    if isBreak x && !(x = '\r' && r.head? = some '\n') then
      { c with rest := r, index := c.index + 1, line := c.line + 1, column := 0 }
    else
      { c with
        rest := r
        index := c.index + 1
        column := if x = byteOrderMark then c.column else c.column + 1 }

def skip (c : Cursor) : Nat → Cursor
  | 0 => c
  | n + 1 => c.next.skip n

def start (s : Source) : Cursor :=
  let c : Cursor := { rest := s.text, fault := s.fault, size := s.text.length }
  if c.rest.head? = some byteOrderMark then c.next else c

end Cursor

end StoredProgram.Yaml
