import StoredProgram.Binary64
import StoredProgram.Text.Utf8

/-! A text file read in stretches of a number of characters. Bytes are taken in larger stretches, so
that bytes that are no text are found somewhat before the place where they stand. -/

namespace StoredProgram.Text

structure File where
  bytes : List UInt8
  utf8 : Utf8.State := {}
  /-- A carriage return has been read, and it is open whether a line feed follows. -/
  held : Bool := false
  ahead : List Char := []
  /-- Bytes and characters of the latest stretch. -/
  latest : Nat × Nat := (0, 0)

namespace File

def normalizeLines : List Char → List Char
  | '\r' :: '\n' :: s => '\n' :: normalizeLines s
  | c :: s => (if c = '\r' then '\n' else c) :: normalizeLines s
  | [] => []

def leastStretch : Nat := 8192

def stretch (f : File) (wanted : Nat) : Nat :=
  let (bytes, chars) := f.latest
  if chars = 0 then leastStretch
  else
    match (Binary64.ofRatio false bytes chars).mul (.ofInt wanted) with
    | .finite s m e => max leastStretch (Binary64.truncate s m e).toNat
    | _ => leastStretch

/-- A carriage return at the end of a stretch is held back, unless the file ends. -/
def holdBack (atEnd : Bool) (cs : List Char) : List Char × Bool :=
  if !atEnd && cs.getLast? = some '\r' then (cs.dropLast, true) else (cs, false)

def take (f : File) (wanted : Nat) : Option File := do
  let (now, later) := f.bytes.splitAt (f.stretch wanted)
  let atEnd := now.isEmpty
  let (cs, utf8) ← Utf8.read f.utf8 now
  if atEnd && utf8.owed ≠ 0 then none
  else
    let release := f.held && (atEnd || !cs.isEmpty)
    let (cs, held) := holdBack atEnd (if release then '\r' :: cs else cs)
    let ahead := normalizeLines cs
    return {
      bytes := later
      utf8
      held := held || (f.held && !release)
      ahead
      latest := (now.length, ahead.length) }

def read (f : File) (wanted : Nat) : Nat → Option (List Char × File)
  | 0 => none
  | fuel + 1 =>
    let (now, later) := f.ahead.splitAt wanted
    let f' := { f with ahead := later }
    if wanted ≤ now.length then some (now, f')
    else do
      let g ← take f' (wanted - now.length)
      if f'.bytes.isEmpty && g.ahead.isEmpty then return (now, g)
      else
        let (rest, h) ← read g (wanted - now.length) fuel
        return (now ++ rest, h)

end File

end StoredProgram.Text
