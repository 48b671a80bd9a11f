import StoredProgram.Base64
import StoredProgram.Binary64.Text
import StoredProgram.Text.Small
import StoredProgram.Value
import StoredProgram.Yaml.Tag

/-! Values of scalars by their tag. -/

namespace StoredProgram.Yaml

open Plain (dropSign)
open Text (Point points chars)

def withoutGaps (s : List Point) : List Point := s.filter (· ≠ .char '_')

def isNegative (s : List Char) : Bool := s.head? = some '-'

def dropSignPoint (s : List Point) : List Point :=
  s.drop (s.length - (dropSign (chars s)).length)

def parts (s : List Point) : List (List Point) := Text.split (· = .char ':') s

def sexagesimal (parts : List Int) : Int := parts.foldl (fun n d => 60 * n + d) 0

def magnitude (s : List Point) : Except Numeral.Error Int :=
  match chars s with
  | ['0'] => .ok 0
  | '0' :: 'b' :: _ => Numeral.readBinary (s.drop 2)
  | '0' :: 'x' :: _ => Numeral.readHex (s.drop 2)
  | '0' :: _ => Numeral.readOctal s
  | _ =>
    if s.contains (.char ':') then sexagesimal <$> (parts s).mapM Numeral.readDecimal
    else Numeral.readDecimal s

def readInteger (text : List Point) : Except Fault Int :=
  let s := withoutGaps text
  let body := dropSignPoint s
  if body.isEmpty then .error .emptyNumeral
  else match magnitude body with
    | .ok n => .ok (if isNegative (chars s) then -n else n)
    | .error e => .error (.numeral e)

def sexagesimalFloat (parts : List Binary64) : Except Fault Binary64 :=
  let rec go (sum : Binary64) (base : Nat) : List Binary64 → Except Fault Binary64
    | [] => .ok sum
    | x :: xs =>
      match Binary64.ofInt base with
      | .infinite _ => .error .floatOverflow
      | b => go (sum.add (x.mul b)) (60 * base) xs
  go (.zero false) 1 parts.reverse

def isFloatText (s : List Char) : Bool :=
  let (mantissa, tail) := (dropSign s).span fun c => Text.isDigit c || c = '.'
  mantissa.any Text.isDigit && mantissa.countP (· = '.') ≤ 1 &&
    match tail with
    | [] => true
    | e :: ds => e = 'e' && Plain.isRun Text.isDigit (dropSign ds)

def plainFloat (text : List Point) : Except Fault Binary64 :=
  let s := Text.trim Numeral.isPadding (chars text)
  let word := String.ofList (dropSign s)
  if word = "infinity" || word = "inf" then .ok (.infinite (isNegative s))
  else if word = "nan" then .ok .nan
  else if isFloatText s then .ok (Binary64.ofText s)
  else .error (.notAFloat text)

def infinityText : List Char := ['.', 'i', 'n', 'f']

def nanText : List Char := ['.', 'n', 'a', 'n']

def floatText (text : List Point) : List Point := Text.smallLetters (withoutGaps text)

def readFloat (text : List Point) : Except Fault Binary64 := do
  let s := floatText text
  let body := dropSignPoint s
  if s.isEmpty then throw .emptyNumeral
  let x ←
    if chars body = infinityText then pure (Binary64.infinite false)
    else if chars body = nanText then pure Binary64.nan
    else if body.contains (.char ':') then do
      sexagesimalFloat (← (parts body).mapM plainFloat)
    else plainFloat body
  return if isNegative (chars s) then x.neg else x

/-- Whether a text is the one name of what is no number. The values of all such texts are one key of
a map, although they are not equal. -/
def isCommonNan (text : List Point) : Bool := chars (dropSignPoint (floatText text)) = nanText

def readBool (text : List Point) : Except Fault Bool :=
  let s := String.ofList (chars (Text.smallLetters text))
  if Plain.trueTexts.contains s then .ok true
  else if Plain.falseTexts.contains s then .ok false
  else .error (.documentLookup s)

def readBinary (text : List Point) : Except Fault (List UInt8) :=
  if text.all fun p => p.toNat < 0x80 then
    match Base64.decode (chars text) with
    | some bs => .ok bs
    | none => .error .document
  else .error .document

def digitsValue (s : List Char) : Nat := Numeral.ofDigits 10 (s.filterMap Text.digit?)

def microseconds (fraction : List Char) : Nat :=
  digitsValue ((fraction ++ List.replicate 6 '0').take 6)

def zoneOffset (sign : Char) (hours minutes : List Char) : Int :=
  Numeral.signed (sign = '-') (3600 * digitsValue hours + 60 * digitsValue minutes)

def stampValue (t : Plain.Stamp) : Except Calendar.Error Value :=
  let date : Calendar.Day := ⟨digitsValue t.year, digitsValue t.month, digitsValue t.day⟩
  match t.time with
  | none => Value.day <$> date.check
  | some (hour, minute, second, fraction) =>
    Value.moment <$> Calendar.Moment.check {
      date
      hour := digitsValue hour
      minute := digitsValue minute
      second := digitsValue second
      microsecond := microseconds fraction
      offset := t.zone.map fun (sign, hours, minutes) => zoneOffset sign hours minutes }

def readTimestamp (text : List Point) : Except Fault Value :=
  match Plain.stamp? (withoutLastBreak (chars text)) with
  | none => .error .missingMember
  | some t => (stampValue t).mapError .calendar

def scalarValue (tag : Tag) (text : List Point) : Except Fault Value :=
  match tag with
  | .null => .ok .null
  | .bool => Value.bool <$> readBool text
  | .int => Value.int <$> readInteger text
  | .float => Value.float <$> readFloat text
  | .timestamp => readTimestamp text
  | .text => .ok (.ofPoints text)
  | .binary => Value.bytes <$> readBinary text
  | _ => .error .document

end StoredProgram.Yaml
