import StoredProgram.Calendar
import StoredProgram.Yaml.Token

/-! Kinds of nodes, and the kind that a plain scalar has by its text alone. -/

namespace StoredProgram.Yaml

inductive Tag where
  | null
  | bool
  | int
  | float
  | timestamp
  | text
  | binary
  | merge
  | value
  | sequence
  | mapping
  | set
  | orderedMap
  | pairs
  | unknown
  deriving DecidableEq

def standardLead : String := "tag:yaml.org,2002:"

def standardTags : List (String × Tag) :=
  [("null", .null), ("bool", .bool), ("int", .int), ("float", .float), ("timestamp", .timestamp),
   ("str", .text), ("binary", .binary), ("merge", .merge), ("value", .value), ("seq", .sequence),
   ("map", .mapping), ("set", .set), ("omap", .orderedMap), ("pairs", .pairs)]

def Tag.ofName (name : String) : Tag :=
  ((standardTags.find? fun e => standardLead ++ e.1 = name).map (·.2)).getD .unknown

namespace Plain

open Reading (isAsciiDigit isHexDigit)

def nullTexts : List String := ["", "~", "null", "Null", "NULL"]

def trueTexts : List String :=
  ["yes", "Yes", "YES", "true", "True", "TRUE", "on", "On", "ON"]

def falseTexts : List String :=
  ["no", "No", "NO", "false", "False", "FALSE", "off", "Off", "OFF"]

def dropSign : List Char → List Char
  | '-' :: s | '+' :: s => s
  | s => s

def isDigitOrGap (c : Char) : Bool := isAsciiDigit c || c = '_'

def isRun (p : Char → Bool) (s : List Char) : Bool := !s.isEmpty && s.all p

def startsWithDigit (s : List Char) : Bool := (s.head?.map isAsciiDigit).getD false

def isWhole (s : List Char) : Bool := startsWithDigit s && s.all isDigitOrGap

def isSixtieth : List Char → Bool
  | [c] => isAsciiDigit c
  | [b, c] => '0' ≤ b && b ≤ '5' && isAsciiDigit c
  | _ => false

def isSexagesimal (s : List Char) : Bool :=
  match Text.split (· = ':') s with
  | first :: part :: parts => isWhole first && (part :: parts).all isSixtieth
  | _ => false

def isInteger (text : List Char) : Bool :=
  let s := dropSign text
  match s with
  | ['0'] => true
  | '0' :: 'b' :: ds => isRun (fun c => c = '0' || c = '1' || c = '_') ds
  | '0' :: 'x' :: ds => isRun (fun c => isHexDigit c || c = '_') ds
  | '0' :: ds => isRun (fun c => ('0' ≤ c && c ≤ '7') || c = '_') ds
  | _ => isWhole s || isSexagesimal s

def isExponent : List Char → Bool
  | [] => true
  | e :: sign :: ds => (e = 'e' || e = 'E') && (sign = '-' || sign = '+') && isRun isAsciiDigit ds
  | _ => false

def isFraction (s : List Char) : Bool := isExponent (s.dropWhile isDigitOrGap)

def isFloat (text : List Char) : Bool :=
  let s := dropSign text
  let (whole, tail) := s.span (· ≠ '.')
  match tail with
  | '.' :: frac =>
    (isWhole whole && isFraction frac) ||
    (text.head? = some '.' && startsWithDigit frac && isFraction frac) ||
    (isSexagesimal whole && frac.all isDigitOrGap) ||
    (whole.isEmpty && ["inf", "Inf", "INF"].contains (String.ofList frac)) ||
    (text.head? = some '.' && ["nan", "NaN", "NAN"].contains (String.ofList frac))
  | _ => false

structure Stamp where
  year : List Char
  month : List Char
  day : List Char
  /-- Hour, minute, second and fraction. -/
  time : Option (List Char × List Char × List Char × List Char) := none
  /-- Sign, hours and minutes; universal time has no hours. -/
  zone : Option (Char × List Char × List Char) := none

def digits? (least most : Nat) (s : List Char) : Option (List Char × List Char) :=
  let ds := (s.take most).takeWhile isAsciiDigit
  if least ≤ ds.length then some (ds, s.drop ds.length) else none

def expect? (x : Char) : List Char → Option (List Char)
  | c :: s => if c = x then some s else none
  | [] => none

def zone? (s : List Char) : Option (Option (Char × List Char × List Char)) :=
  match s, s.dropWhile Yaml.isSpace with
  | [], _ => some none
  | _, ['Z'] => some (some ('Z', [], []))
  | _, sign :: s => do
    if sign = '-' ∨ sign = '+' then
      let (hours, s) ← digits? 1 2 s
      match s with
      | [] => some (some (sign, hours, []))
      | _ =>
        let (minutes, s) ← digits? 2 2 (← expect? ':' s)
        if s.isEmpty then some (some (sign, hours, minutes)) else none
    else none
  | _, [] => none

def timeStart? (s : List Char) : Option (List Char) :=
  match s with
  | c :: r =>
    if c = 'T' ∨ c = 't' then some r
    else if Yaml.isSpace c then some (r.dropWhile Yaml.isSpace)
    else none
  | [] => none

def stamp? (s : List Char) : Option Stamp := do
  let (year, s) ← digits? 4 4 s
  let (month, s) ← digits? 1 2 (← expect? '-' s)
  let (day, s) ← digits? 1 2 (← expect? '-' s)
  match s with
  | [] => return { year, month, day }
  | _ =>
    let (hour, s) ← digits? 1 2 (← timeStart? s)
    let (minute, s) ← digits? 2 2 (← expect? ':' s)
    let (second, s) ← digits? 2 2 (← expect? ':' s)
    let (fraction, s) := match s with
      | '.' :: r => r.span isAsciiDigit
      | r => ([], r)
    let zone ← zone? s
    return { year, month, day, time := some (hour, minute, second, fraction), zone }

def isTimestamp (s : List Char) : Bool :=
  match stamp? s with
  | none => false
  | some t => t.time.isSome || (t.month.length = 2 && t.day.length = 2)

end Plain

/-- Every pattern may be followed by one line feed. -/
def withoutLastBreak (s : List Char) : List Char :=
  if s.getLast? = some '\n' then s.dropLast else s

def reservedTexts : List String := ["!", "&", "*"]

open Plain in
def Tag.ofPlain (written : List Char) : Tag :=
  let s := withoutLastBreak written
  let text := String.ofList s
  if s.isEmpty && !written.isEmpty then .text
  else if nullTexts.contains text then .null
  else if trueTexts.contains text || falseTexts.contains text then .bool
  else if isInteger s then .int
  else if isFloat s then .float
  else if text = "<<" then .merge
  else if text = "=" then .value
  else if isTimestamp s then .timestamp
  else if reservedTexts.contains text then .unknown
  else .text

end StoredProgram.Yaml
