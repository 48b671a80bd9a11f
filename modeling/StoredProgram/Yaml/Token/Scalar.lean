import StoredProgram.Yaml.Token

/-! Texts of scalars: quoted, block and plain. Line ends within a text fold to spaces except where
its style keeps them. -/

namespace StoredProgram.Yaml.Reading

open Text (Point points)

/-- One line end folds to a space, more lose the first; the separators are kept. -/
def fold (first : Char) (others : List Char) : List Char :=
  if first ≠ '\n' then first :: others
  else if others.isEmpty then [' ']
  else others

def quotedBreaks : Nat → Reading (List Char)
  | 0 => malformed
  | fuel + 1 => do
    if ← atDocumentMark then malformed
    else
      skipWhile isSpace
      match ← lineBreak? with
      | some x => return x :: (← quotedBreaks fuel)
      | none => return []

def quotedSpaces : Reading (List Char) := do
  let spaces ← takeWhile isSpace
  if (← peek).isNone then malformed
  else
    match ← lineBreak? with
    | some first => return fold first (← quotedBreaks (← fuel))
    | none => return spaces

def letterEscapes : List (Char × Char) :=
  [('0', '\x00'), ('a', '\x07'), ('b', '\x08'), ('t', '\t'), ('\t', '\t'), ('n', '\n'),
   ('v', '\x0b'), ('f', '\x0c'), ('r', '\r'), ('e', '\x1b'), (' ', ' '), ('"', '"'), ('\\', '\\'),
   ('/', '/'), ('N', '\x85'), ('_', '\u00a0'), ('L', '\u2028'), ('P', '\u2029')]

def escapeWidth? : Char → Option Nat
  | 'x' => some 2
  | 'u' => some 4
  | 'U' => some 8
  | _ => none

def codePoint (n : Nat) : Reading Point :=
  if n < 0x110000 then return .ofNat n
  else if n < 0x80000000 then throw .codePoint
  else throw .codePointOverflow

def escaped : Reading (List Point) := do
  match ← peek with
  | none => malformed
  | some x =>
    match letterEscapes.lookup x, escapeWidth? x with
    | some y, _ =>
      skip 1
      return [.char y]
    | none, some width =>
      skip 1
      let p ← codePoint (← hexDigits width)
      skip width
      return [p]
    | none, none =>
      match ← lineBreak? with
      | some _ => return points (← quotedBreaks (← fuel))
      | none => malformed

def isQuotedText (c : Char) : Bool :=
  !(c = '\'' || c = '"' || c = '\\' || isSpace c || isBreak c)

def quotedMark? (double : Bool) : Reading (Option (List Point)) := do
  match ← peek with
  | some '\'' =>
    if double then
      skip 1
      return some [.char '\'']
    else if (← peekAt 1) = some '\'' then
      skip 2
      return some [.char '\'']
    else return none
  | some '"' =>
    if double then return none
    else
      skip 1
      return some [.char '"']
  | some '\\' =>
    skip 1
    if double then return some (← escaped) else return some [.char '\\']
  | _ => return none

def quotedWord (double : Bool) : Nat → Reading (List Point)
  | 0 => malformed
  | fuel + 1 => do
    let part ← takeWhile isQuotedText
    match ← quotedMark? double with
    | some ps => return points part ++ ps ++ (← quotedWord double fuel)
    | none => return points part

def quotedTail (double : Bool) (mark : Char) : Nat → Reading (List Point)
  | 0 => malformed
  | fuel + 1 => do
    if (← peek) = some mark then return []
    else
      let spaces ← quotedSpaces
      let word ← quotedWord double (← Reading.fuel)
      return points spaces ++ word ++ (← quotedTail double mark fuel)

def quoted (double : Bool) : Reading (List Point) := do
  let mark := if double then '"' else '\''
  skip 1
  let word ← quotedWord double (← fuel)
  let tail ← quotedTail double mark (← fuel)
  skip 1
  return word ++ tail

inductive Chomping where
  | strip
  | clip
  | keep
  deriving DecidableEq

def chompingMark : Reading (Option Chomping) := do
  match ← peek with
  | some '+' =>
    skip 1
    return some .keep
  | some '-' =>
    skip 1
    return some .strip
  | _ => return none

def indentMark : Reading (Option Nat) := do
  match ← peek with
  | none => return none
  | some x =>
    if isAsciiDigit x then
      if x = '0' then malformed
      else
        skip 1
        return some (x.toNat - '0'.toNat)
    else return none

def blockHeader : Reading (Chomping × Option Nat) := do
  let first ← chompingMark
  let increment ← indentMark
  let second ← if first.isNone && increment.isSome then chompingMark else pure none
  need endsItem
  finishLine
  return (((first.or second).getD .clip), increment)

def blockIndentation : Nat → Reading (List Char × Nat)
  | 0 => return ([], 0)
  | fuel + 1 => do
    match ← lineBreak? with
    | some x =>
      let (breaks, width) ← blockIndentation fuel
      return (x :: breaks, width)
    | none =>
      if (← peek) = some ' ' then
        skipSpaces
        let column := (← get).column
        let (breaks, width) ← blockIndentation fuel
        return (breaks, max column width)
      else return ([], 0)

def skipIndent (indent : Nat) : Reading Unit := do
  let c ← get
  let spaces := (c.rest.take (indent - c.column)).takeWhile (· = ' ')
  if !spaces.isEmpty then skip spaces.length

def blockBreaks (indent : Nat) : Nat → Reading (List Char)
  | 0 => return []
  | fuel + 1 => do
    skipIndent indent
    match ← lineBreak? with
    | some x => return x :: (← blockBreaks indent fuel)
    | none => return []

def startsLine (indent : Nat) : Reading Bool := do
  return (← get).column = indent && (← peek).isSome

def startsWithSpace : Reading Bool := return ((← peek).map isSpace).getD false

def blockLines (folded : Bool) (indent : Nat) :
    Nat → Reading (List Char × Option Char × List Char)
  | 0 => malformed
  | fuel + 1 => do
    let spaced ← startsWithSpace
    let line ← takeWhile fun x => !isBreak x
    let lineEnd ← lineBreak?
    let breaks ← blockBreaks indent (← Reading.fuel)
    if ← startsLine indent then
      let joint :=
        if folded && lineEnd = some '\n' && !spaced && !(← startsWithSpace) then
          if breaks.isEmpty then [' '] else []
        else lineEnd.toList
      let (rest, last, tail) ← blockLines folded indent fuel
      return (line ++ joint ++ breaks ++ rest, last, tail)
    else return (line, lineEnd, breaks)

def chomp (chomping : Chomping) (last : Option Char) (tail : List Char) : List Char :=
  match chomping with
  | .strip => []
  | .clip => last.toList
  | .keep => last.toList ++ tail

def block (folded : Bool) (parent : Int) : Reading (List Point) := do
  skip 1
  let (chomping, increment) ← blockHeader
  let least := (max 1 (parent + 1)).toNat
  let (breaks, indent) ← match increment with
    | none => do
      let (breaks, width) ← blockIndentation (← fuel)
      pure (breaks, max least width)
    | some n => do
      let indent := least + n - 1
      pure (← blockBreaks indent (← fuel), indent)
  if ← startsLine indent then
    let (lines, last, tail) ← blockLines folded indent (← fuel)
    return points (breaks ++ lines ++ chomp chomping last tail)
  else return points (chomp chomping none breaks)

def isFlowMark (c : Char) : Bool := c = ',' || c = '[' || c = ']' || c = '\x7b' || c = '\x7d'

def plainLength (flow : Bool) : List Char → Nat
  | [] => 0
  | c :: s =>
    if endsWord (some c) then 0
    else if c = ':' && (endsWord s.head? || (flow && (s.head?.map isFlowMark).getD false)) then 0
    else if flow && (isFlowMark c || c = '?') then 0
    else plainLength flow s + 1

def plainWord (flow : Bool) : Reading (List Char) := do
  let rest := (← get).rest
  let n := plainLength flow rest
  demand (if rest[n]? = some ':' then n + 2 else n + 1)
  skip n
  return rest.take n

def plainBreaks : Nat → Reading (Option (List Char))
  | 0 => return none
  | fuel + 1 => do
    if ← atDocumentMark then return none
    else
      skipSpaces
      match ← lineBreak? with
      | some x => return (← plainBreaks fuel).map (x :: ·)
      | none => return some []

def plainSpaces : Reading (List Char × Bool) := do
  let spaces ← takeWhile (· = ' ')
  match ← lineBreak? with
  | none => return (spaces, false)
  | some first =>
    match ← plainBreaks (← fuel) with
    | none => return ([], true)
    | some others => return (fold first others, true)

def plainFrom (flow : Bool) (indent : Int) (spaces : List Char) (crossed : Bool) :
    Nat → Reading (List Char × Bool)
  | 0 => malformed
  | fuel + 1 => do
    if (← peek) = some '#' then return ([], crossed)
    else
      let word ← plainWord flow
      if word.isEmpty then return ([], crossed)
      else
        let (spaces', crossed') ← plainSpaces
        let column : Int := (← get).column
        if spaces'.isEmpty || (← peek) = some '#' || (!flow && column < indent) then
          return (spaces ++ word, crossed')
        else
          let (rest, last) ← plainFrom flow indent spaces' crossed' fuel
          return (spaces ++ word ++ rest, last)

def plain (flow : Bool) (parent : Int) : Reading (List Point × Bool) := do
  let (text, crossed) ← plainFrom flow (parent + 1) [] false (← fuel)
  return (points text, crossed)

end StoredProgram.Yaml.Reading
