/-! UTF-8 read one byte at a time, so that a text can be read in stretches that end within a
character. -/

namespace StoredProgram.Text.Utf8

/-- The bytes that are owed to the character at hand, the bounds of the next one, and the value so
far. -/
structure State where
  owed : Nat := 0
  least : Nat := 0x80
  greatest : Nat := 0xBF
  value : Nat := 0
  deriving DecidableEq

def first (b : Nat) : Option State :=
  if b < 0x80 then some { value := b }
  else if b < 0xC2 then none
  else if b < 0xE0 then some { owed := 1, value := b - 0xC0 }
  else if b < 0xF0 then some {
    owed := 2
    least := if b = 0xE0 then 0xA0 else 0x80
    greatest := if b = 0xED then 0x9F else 0xBF
    value := b - 0xE0 }
  else if b < 0xF5 then some {
    owed := 3
    least := if b = 0xF0 then 0x90 else 0x80
    greatest := if b = 0xF4 then 0x8F else 0xBF
    value := b - 0xF0 }
  else none

def next (s : State) (b : Nat) : Option State :=
  if s.owed = 0 then first b
  else if s.least ≤ b ∧ b ≤ s.greatest then
    some { owed := s.owed - 1, value := 64 * s.value + (b - 0x80) }
  else none

/-- The characters that end within a stretch, and the state behind it; nothing if no text has these
bytes. -/
def read (s : State) : List UInt8 → Option (List Char × State)
  | [] => some ([], s)
  | b :: bs => do
    let s ← next s b.toNat
    let (cs, t) ← read s bs
    return (if s.owed = 0 then Char.ofNat s.value :: cs else cs, t)

end StoredProgram.Text.Utf8
