import StoredProgram.Numeral

/-! Binary floating point numbers of double precision, as mantissa times power of two, with rounding
to nearest, ties to even, and their shortest decimal text. -/

namespace StoredProgram

/-- A finite number has either a mantissa of 53 bits or the least exponent. -/
inductive Binary64 where
  | finite (negative : Bool) (mantissa : Nat) (exponent : Int)
  | infinite (negative : Bool)
  | nan
  deriving DecidableEq

namespace Binary64

def leastExponent : Int := -1074
def greatestExponent : Int := 971

def leastMantissa : Nat := Nat.pow 2 52

def zero (negative : Bool) : Binary64 := .finite negative 0 leastExponent

def roundDiv (num den : Nat) : Nat :=
  let q := num / den
  let r := num % den
  if 2 * r < den ∨ (2 * r = den ∧ q % 2 = 0) then q else q + 1

def scaled (num den : Nat) (e : Int) : Nat × Nat :=
  if e < 0 then (num * Nat.pow 2 e.natAbs, den) else (num, den * Nat.pow 2 e.natAbs)

def log2Ratio (num den : Nat) : Int :=
  let e : Int := (num.log2 : Int) - (den.log2 : Int)
  let (n, d) := scaled num den e
  if d ≤ n then e else e - 1

def ofRatio (negative : Bool) (num den : Nat) : Binary64 :=
  if num = 0 then zero negative
  else
    let e := max leastExponent (log2Ratio num den - 52)
    let (n, d) := scaled num den e
    let m := roundDiv n d
    let (m, e) := if m = 2 * leastMantissa then (leastMantissa, e + 1) else (m, e)
    if greatestExponent < e then .infinite negative else .finite negative m e

def ofScientific (negative : Bool) (digits : Nat) (exponent : Int) : Binary64 :=
  let size : Int := digits.log2 / 3
  if digits = 0 ∨ size + exponent < -400 then zero negative
  else if 400 < exponent then .infinite negative
  else if exponent < 0 then ofRatio negative digits (Nat.pow 10 exponent.natAbs)
  else ofRatio negative (digits * Nat.pow 10 exponent.natAbs) 1

def isZero : Binary64 → Bool
  | .finite _ m _ => m = 0
  | _ => false

def neg : Binary64 → Binary64
  | .finite s m e => .finite (!s) m e
  | .infinite s => .infinite (!s)
  | .nan => .nan

def ratio (negative : Bool) (m : Nat) (e : Int) : Int × Nat :=
  if e < 0 then (Numeral.signed negative m, Nat.pow 2 e.natAbs)
  else (Numeral.signed negative (m * Nat.pow 2 e.natAbs), 1)

def ofSignedRatio (num : Int) (den : Nat) : Binary64 := ofRatio (num < 0) num.natAbs den

def ofInt (n : Int) : Binary64 := ofSignedRatio n 1

def add : Binary64 → Binary64 → Binary64
  | .nan, _ | _, .nan => .nan
  | .infinite s, .infinite t => if s = t then .infinite s else .nan
  | .infinite s, _ | _, .infinite s => .infinite s
  | .finite s m e, .finite t n f =>
    let (a, b) := ratio s m e
    let (c, d) := ratio t n f
    ofSignedRatio (a * d + c * b) (b * d)

def mul : Binary64 → Binary64 → Binary64
  | .nan, _ | _, .nan => .nan
  | .infinite s, x@(.infinite t) | x@(.finite t ..), .infinite s | .infinite s, x@(.finite t ..) =>
    if x.isZero then .nan else .infinite (s != t)
  | .finite s m e, .finite t n f =>
    let (a, b) := ratio false m e
    let (c, d) := ratio false n f
    ofRatio (s != t) (a * c).natAbs (b * d)

def truncate (negative : Bool) (m : Nat) (e : Int) : Int :=
  Numeral.signed negative (if e < 0 then m / Nat.pow 2 e.natAbs else m * Nat.pow 2 e.natAbs)

def equalsInt : Binary64 → Int → Bool
  | .finite s m e, n => let (a, b) := ratio s m e; a = n * b
  | _, _ => false

/-- Numerical equality: the two zeros are equal and a NaN equals nothing. -/
def equal : Binary64 → Binary64 → Bool
  | .nan, _ | _, .nan => false
  | x, y => x = y || (x.isZero && y.isZero)

end Binary64

end StoredProgram
