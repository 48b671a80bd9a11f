/-! Code points of a text. A numeric escape can name a surrogate, which is no character by itself,
so that a text with such escapes is more than a string. -/

namespace StoredProgram.Text

inductive Point where
  | char (c : Char)
  | surrogate (code : Nat)
  deriving DecidableEq

namespace Point

def ofNat (n : Nat) : Point := if n.isValidChar then .char (Char.ofNat n) else .surrogate n

def toNat : Point → Nat
  | .char c => c.toNat
  | .surrogate code => code

/-- A surrogate has no meaning in any notation, and neither has the replacement character. -/
def toChar : Point → Char
  | .char c => c
  | .surrogate _ => '\ufffd'

def isChar : Point → Bool
  | .char _ => true
  | .surrogate _ => false

end Point

def points (s : List Char) : List Point := s.map .char

def chars (ps : List Point) : List Char := ps.map Point.toChar

end StoredProgram.Text
