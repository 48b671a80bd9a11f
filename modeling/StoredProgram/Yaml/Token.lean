import StoredProgram.Yaml.Reading

/-! Tokens of a document, and those whose extent does not depend on what stands around them:
directives, anchors and tags. -/

namespace StoredProgram.Yaml

inductive Token where
  | version (major : Nat)
  | tagHandle (handle lead : String)
  | otherDirective
  | documentStart
  | documentEnd
  | blockSequenceStart
  | blockMappingStart
  | blockEnd
  | flowSequenceStart
  | flowSequenceEnd
  | flowMappingStart
  | flowMappingEnd
  | blockEntry
  | flowEntry
  | key
  | value
  | alias (name : String)
  | anchor (name : String)
  | tag (handle : Option String) (suffix : String)
  | scalar (plain : Bool) (text : List Text.Point)
  deriving DecidableEq

namespace Reading

def isAsciiDigit (c : Char) : Bool := '0' ≤ c && c ≤ '9'

def isHexDigit (c : Char) : Bool :=
  isAsciiDigit c || ('a' ≤ c && c ≤ 'f') || ('A' ≤ c && c ≤ 'F')

def isNameChar (c : Char) : Bool :=
  isAsciiDigit c || ('a' ≤ c && c ≤ 'z') || ('A' ≤ c && c ≤ 'Z') || c = '-' || c = '_'

def isUriChar (c : Char) : Bool := isNameChar c || ";/?:@&=+$,.!~*'()[]".toList.contains c

def name : Reading String := do
  let cs ← takeWhile isNameChar
  if cs.isEmpty then malformed else return String.ofList cs

def endsAnchor (c : Option Char) : Bool :=
  endsWord c || (c.map "?:,]\x7d%@\x60".toList.contains).getD false

def anchorName : Reading String := do
  skip 1
  let n ← name
  need endsAnchor
  return n

def handle : Reading String := do
  needChar '!'
  if (← peek) = some ' ' then return "!"
  else
    let cs ← takeWhile isNameChar
    needChar '!'
    return "!" ++ String.ofList cs ++ "!"

def hexValue (cs : List Char) : Nat := Numeral.ofDigits 16 (cs.filterMap Text.hexDigit?)

def hexDigits (n : Nat) : Reading Nat := do
  let cs := (← get).rest.take n
  demand (min n ((cs.takeWhile isHexDigit).length + 1))
  if cs.length = n && cs.all isHexDigit then return hexValue cs else malformed

def escapedBytes : Nat → Reading (List UInt8)
  | 0 => return []
  | fuel + 1 => do
    if (← peek) ≠ some '%' then return []
    else
      skip 1
      let b ← hexDigits 2
      skip 2
      return UInt8.ofNat b :: (← escapedBytes fuel)

def uriParts : Nat → Reading (List String)
  | 0 => return []
  | fuel + 1 => do
    if (← peek) = some '%' then
      match String.fromUTF8? ⟨(← escapedBytes (fuel + 1)).toArray⟩ with
      | none => malformed
      | some part => return part :: (← uriParts fuel)
    else
      let part ← takeWhile isUriChar
      if part.isEmpty then return []
      else return String.ofList part :: (← uriParts fuel)

def uri : Reading String := do
  let parts ← uriParts (← fuel)
  if parts.isEmpty then malformed else return String.join parts

def hasSecondMark : Reading Bool := do
  let word := (← get).rest.tail.takeWhile fun x => !endsItem (some x)
  if word.contains '!' then return true
  else
    demand (word.length + 2)
    return false

def tagParts : Reading Token := do
  let second ← peekAt 1
  if second = some '<' then
    skip 2
    let suffix ← uri
    needChar '>'
    return .tag none suffix
  else if endsWord second then
    skip 1
    return .tag none "!"
  else if ← hasSecondMark then
    let h ← handle
    return .tag (some h) (← uri)
  else
    skip 1
    return .tag (some "!") (← uri)

def tag : Reading Token := do
  let t ← tagParts
  need endsItem
  return t

def number : Reading Nat := do
  let cs ← takeWhile isAsciiDigit
  if cs.isEmpty then malformed
  else if Numeral.digitLimit < cs.length then throw (.numeral (.tooManyDigits cs.length))
  else return Numeral.ofDigits 10 (cs.filterMap Text.digit?)

def version : Reading Token := do
  skipSpaces
  let major ← number
  needChar '.'
  let _ ← number
  need endsItem
  return .version major

def tagHandle : Reading Token := do
  skipSpaces
  let h ← handle
  need (· = some ' ')
  skipSpaces
  let lead ← uri
  need endsItem
  return .tagHandle h lead

def directive : Reading Token := do
  skip 1
  let n ← name
  need endsItem
  let token ←
    if n = "YAML" then version
    else if n = "TAG" then tagHandle
    else do
      skipWhile fun x => !isBreak x
      pure Token.otherDirective
  finishLine
  return token

end Reading

end StoredProgram.Yaml
