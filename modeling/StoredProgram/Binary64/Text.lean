import StoredProgram.Binary64

/-! Decimal text of floating point numbers. A finite number is written with the fewest digits that
read back to it, and of those the nearest; positionally while its first digit stands at most sixteen
places before the point or at most four after it, and with an exponent otherwise. -/

namespace StoredProgram.Binary64

open Text

def inUnits (num den : Nat) (s : Int) : Nat × Nat :=
  if s < 0 then (num * Nat.pow 10 s.natAbs, den) else (num, den * Nat.pow 10 s.natAbs)

def log10Ratio (num den : Nat) : Int :=
  let digits (n : Nat) : Int := n.log2 * 30103 / 100000
  let fits (k : Int) : Bool := let (n, d) := inUnits num den k; d ≤ n
  let e := digits num - digits den
  ([e + 2, e + 1, e, e - 1].find? fits).getD (e - 2)

/-- The numerators of the lower end, the middle and the upper end of the reals that round to a
number, and their common denominator. -/
def roundingInterval (m : Nat) (e : Int) : Nat × Nat × Nat × Nat :=
  let below := if m = leastMantissa ∧ leastExponent < e then 1 else 2
  let scale := if e < 0 then 1 else Nat.pow 2 e.natAbs
  let den := if e < 0 then Nat.pow 2 e.natAbs * 4 else 4
  ((4 * m - below) * scale, 4 * m * scale, (4 * m + 2) * scale, den)

/-- The nearer of the two neighbours on the grid of multiples of `10 ^ s` that round back. -/
def onGrid? (m : Nat) (e s : Int) : Option Nat :=
  let (lo, mid, hi, den) := roundingInterval m e
  let (v, d) := inUnits mid den s
  let (l, _) := inUnits lo den s
  let (h, _) := inUnits hi den s
  let inside (k : Nat) : Bool :=
    if m % 2 = 0 then l ≤ k * d && k * d ≤ h else l < k * d && k * d < h
  let down := v / d
  match inside down, inside (down + 1) with
  | true, true => some (if 2 * (v % d) ≤ d then down else down + 1)
  | true, false => some down
  | false, true => some (down + 1)
  | false, false => none

def shortest (m : Nat) (e : Int) : Nat × Int :=
  let (_, mid, _, den) := roundingInterval m e
  let top := log10Ratio mid den
  let grids := (List.range 17).map fun n : Nat => top - (n : Int)
  (grids.findSome? fun s => (onGrid? m e s).map (·, s)).getD (m, e)

def dropTrailingZeros (ds : List Char) : List Char := trimEnd (· == '0') ds

def digitsAndPoint (m : Nat) (e : Int) : List Char × Int :=
  let (n, s) := shortest m e
  let ds := Numeral.decimal n
  (dropTrailingZeros ds, ds.length + s)

def exponentText (e : Int) : List Char :=
  let ds := Numeral.decimal e.natAbs
  (if e < 0 then '-' else '+') :: (if ds.length < 2 then '0' :: ds else ds)

def layout (ds : List Char) (point : Int) : List Char :=
  if point ≤ -4 ∨ 16 < point then
    ds.take 1 ++ (if ds.length ≤ 1 then [] else '.' :: ds.drop 1) ++ 'e' :: exponentText (point - 1)
  else if point ≤ 0 then '0' :: '.' :: List.replicate point.natAbs '0' ++ ds
  else if ds.length ≤ point.natAbs then
    ds ++ List.replicate (point.natAbs - ds.length) '0' ++ ['.', '0']
  else ds.take point.natAbs ++ '.' :: ds.drop point.natAbs

def text : Binary64 → String
  | .nan => "nan"
  | .infinite s => if s then "-inf" else "inf"
  | .finite s m e =>
    let (ds, point) := if m = 0 then (['0'], 1) else digitsAndPoint m e
    String.ofList ((if s then ['-'] else []) ++ layout ds point)

def digitValues (s : List Char) : List Nat := s.filterMap digit?

def ofText (s : List Char) : Binary64 :=
  let (negative, body) := Numeral.takeSign s
  let (mantissa, tail) := body.span fun c => isDigit c || c == '.'
  let (whole, frac) := mantissa.span isDigit
  let (down, exponent) := Numeral.takeSign (tail.drop 1)
  let ds := digitValues whole ++ digitValues frac
  let shift := (digitValues frac).length
  if body = ['i', 'n', 'f'] then .infinite negative
  else if body = ['n', 'a', 'n'] then .nan
  else ofScientific negative (Numeral.ofDigits 10 ds)
    (Numeral.signed down (Numeral.ofDigits 10 (digitValues exponent)) - shift)

end StoredProgram.Binary64
