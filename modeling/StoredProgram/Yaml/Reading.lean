import StoredProgram.Yaml.Cursor

/-! Readers of the text behind a cursor. Where the text breaks off for a fault, a reader fails with
that fault as soon as it looks beyond. -/

namespace StoredProgram.Yaml

abbrev Reading := StateT Cursor (Except Fault)

def malformed {α : Type} : Reading α := throw .document

namespace Reading

def demand (n : Nat) : Reading Unit := do
  let c ← get
  if let some e := c.fault then
    if (c.rest.take n).length < n then throw e

def peekAt (n : Nat) : Reading (Option Char) := do
  demand (n + 1)
  return ((← get).rest.drop n).head?

def peek : Reading (Option Char) := peekAt 0

/-- A reader does not stop at the place where a text breaks off. -/
def skip (n : Nat) : Reading Unit := do
  demand (n + 1)
  modify (·.skip n)

def takeWhile (p : Char → Bool) : Reading (List Char) := do
  let taken := (← get).rest.takeWhile p
  skip taken.length
  return taken

def skipWhile (p : Char → Bool) : Reading Unit := do
  let _ ← takeWhile p

def skipSpaces : Reading Unit := skipWhile (· = ' ')

def atMark (mark : Char) : Reading Bool := do
  demand 3
  if (← get).rest.take 3 = [mark, mark, mark] then return endsWord (← peekAt 3) else return false

def atDocumentMark : Reading Bool := do
  if ← atMark '-' then return true else atMark '.'

/-- All line ends but the two separators read as a line feed. -/
def lineBreak? : Reading (Option Char) := do
  match ← peek with
  | none => return none
  | some x =>
    if x = '\u2028' || x = '\u2029' then
      skip 1
      return some x
    else if isBreak x then
      let second ← peekAt 1
      skip (if x = '\r' && second = some '\n' then 2 else 1)
      return some '\n'
    else return none

def skipComment : Reading Unit := do
  if (← peek) = some '#' then skipWhile fun x => !isBreak x

def need (p : Option Char → Bool) : Reading Unit := do
  if p (← peek) then return () else malformed

def needChar (x : Char) : Reading Unit := do
  need (· = some x)
  skip 1

def finishLine : Reading Unit := do
  skipSpaces
  skipComment
  need endsLine
  let _ ← lineBreak?

def fuel : Reading Nat := return (← get).size + 1

end Reading

end StoredProgram.Yaml
