import StoredProgram.Text.Blank
import StoredProgram.Text.Digit
import StoredProgram.Text.Point

/-! Integers as text. Decimal text of more than 4300 digits is neither read nor written; hexadecimal
text has no such bound. -/

namespace StoredProgram.Numeral

open Text

inductive Error where
  | malformed (base : Nat) (text : List Point)
  | tooManyDigits (count : Nat)
  | unwritable
  deriving DecidableEq

def digitLimit : Nat := 4300

def ofDigits (base : Nat) (ds : List Nat) : Nat := ds.foldl (fun n d => base * n + d) 0

def signed (negative : Bool) (n : Nat) : Int := if negative then -(n : Int) else n

def takeSign : List Char → Bool × List Char
  | '-' :: s => (true, s)
  | '+' :: s => (false, s)
  | s => (false, s)

def grouped? (digit? : Char → Option Nat) : List Char → Option (List Nat)
  | [] => none
  | [c] => (digit? c).map ([·])
  | c :: '_' :: s => do return (← digit? c) :: (← grouped? digit? s)
  | c :: s => do return (← digit? c) :: (← grouped? digit? s)

/-- White space around a numeral, which does not include the information separators. -/
def isPadding (c : Char) : Bool := isBlank c && !(0x1C ≤ c.toNat && c.toNat ≤ 0x1F)

def digitRun (digit? : Char → Option Nat) (s : List Char) : List Char × List Char :=
  s.span fun c => (digit? c).isSome || c == '_'

/-- The length of a well-formed run of digits is held against the limit before the text that follows
it is looked at. -/
def readDecimal (text : List Point) : Except Error Int :=
  let (negative, body) := takeSign (trim isPadding (chars text))
  let (run, rest) := digitRun digit? body
  match grouped? digit? run with
  | none => .error (.malformed 10 text)
  | some ds =>
    if digitLimit < ds.length then .error (.tooManyDigits ds.length)
    else if rest.isEmpty then .ok (signed negative (ofDigits 10 ds))
    else .error (.malformed 10 text)

def dropBaseMark (mark : Char) : List Char → List Char
  | '0' :: m :: s =>
    if m.toLower = mark then (if s.head? = some '_' then s.tail else s) else '0' :: m :: s
  | s => s

def digitBelow? (base : Nat) (c : Char) : Option Nat := (hexDigit? c).filter (· < base)

def readMarked (base : Nat) (mark : Char) (text : List Point) : Except Error Int :=
  let (negative, body) := takeSign (trim isPadding (chars text))
  match grouped? (digitBelow? base) (dropBaseMark mark body) with
  | none => .error (.malformed base text)
  | some ds => .ok (signed negative (ofDigits base ds))

def readBinary (text : List Point) : Except Error Int := readMarked 2 'b' text

def readOctal (text : List Point) : Except Error Int := readMarked 8 'o' text

def readHex (text : List Point) : Except Error Int := readMarked 16 'x' text

def decimal (n : Nat) : List Char := Nat.toDigits 10 n

def decimalInt (n : Int) : List Char :=
  if n < 0 then '-' :: decimal n.natAbs else decimal n.natAbs

def text (n : Int) : String := String.ofList (decimalInt n)

def write (n : Int) : Except Error String :=
  if Nat.pow 10 digitLimit ≤ n.natAbs then .error .unwritable else .ok (Numeral.text n)

end StoredProgram.Numeral
