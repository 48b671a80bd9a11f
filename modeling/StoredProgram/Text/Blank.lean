/-! White space, and the cutting of a text into trimmed lines and words. The class is that of
Unicode together with the four information separators. -/

namespace StoredProgram.Text

def blankCodes : List Nat :=
  [0x9, 0xA, 0xB, 0xC, 0xD, 0x1C, 0x1D, 0x1E, 0x1F, 0x20, 0x85, 0xA0, 0x1680, 0x2000, 0x2001,
   0x2002, 0x2003, 0x2004, 0x2005, 0x2006, 0x2007, 0x2008, 0x2009, 0x200A, 0x2028, 0x2029, 0x202F,
   0x205F, 0x3000]

def isBlank (c : Char) : Bool := blankCodes.contains c.toNat

variable {α : Type}

def trimStart (blank : α → Bool) (s : List α) : List α := s.dropWhile blank

def trimEnd (blank : α → Bool) (s : List α) : List α := (s.reverse.dropWhile blank).reverse

def trim (blank : α → Bool) (s : List α) : List α := trimEnd blank (trimStart blank s)

def split (separator : α → Bool) : List α → List (List α)
  | [] => [[]]
  | c :: s =>
    if separator c then [] :: split separator s
    else (split separator s).modifyHead (c :: ·)

def lines (s : List Char) : List (List Char) := split (· == '\n') s

def words (s : List Char) : List (List Char) := (split isBlank s).filter (!·.isEmpty)

theorem split_ne_nil (separator : α → Bool) (s : List α) : split separator s ≠ [] := by
  induction s with
  | nil => simp [split]
  | cons c s ih =>
    unfold split
    split
    · simp
    · simpa using ih

theorem length_split (separator : α → Bool) (s : List α) :
    (split separator s).length = s.countP separator + 1 := by
  induction s with
  | nil => rfl
  | cons c s ih => by_cases h : separator c <;> simp [split, h, ih]

theorem split_append_separator (separator : α → Bool) (s t : List α) {c : α}
    (h : separator c) : split separator (s ++ c :: t) = split separator s ++ split separator t := by
  induction s with
  | nil => simp [split, h]
  | cons d s ih =>
    by_cases hd : separator d
    · simp [split, hd, ih]
    · simp only [List.cons_append, split, hd, ih]
      cases hs : split separator s with
      | nil => exact absurd hs (split_ne_nil separator s)
      | cons w ws => simp

end StoredProgram.Text
