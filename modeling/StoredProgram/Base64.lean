/-! Bytes written as characters of six bits each. Characters of no meaning are passed over. -/

namespace StoredProgram.Base64

def alphabet : List Char :=
  "ABCDEFGHIJKLMNOPQRSTUVWXYZabcdefghijklmnopqrstuvwxyz0123456789+/".toList

def padding : Char := '='

def sixBits? (c : Char) : Option Nat := alphabet.idxOf? c

/-- Reads on from within a group of four: `place` is the number of its characters so far, `left` the
value of their bits that are not yet in a byte, and `pads` the number of paddings just read. A group
that is padded to its length ends the text, and a group must not be left open. -/
def decodeFrom (place left pads : Nat) : List Char → Option (List UInt8)
  | [] => if place = 0 then some [] else none
  | c :: cs =>
    if c = padding then
      if 2 ≤ place then
        if 4 ≤ place + pads + 1 then some [] else decodeFrom place left (pads + 1) cs
      else decodeFrom place left pads cs
    else
      match sixBits? c, place with
      | none, _ => decodeFrom place left pads cs
      | some n, 0 => decodeFrom 1 n 0 cs
      | some n, 1 => (decodeFrom 2 (n % 16) 0 cs).map (.ofNat (4 * left + n / 16) :: ·)
      | some n, 2 => (decodeFrom 3 (n % 4) 0 cs).map (.ofNat (16 * left + n / 4) :: ·)
      | some n, _ => (decodeFrom 0 0 0 cs).map (.ofNat (64 * left + n) :: ·)

def decode (s : List Char) : Option (List UInt8) := decodeFrom 0 0 0 s

end StoredProgram.Base64
