import StoredProgram.Yaml.Token.Scalar

/-! The tokens of a text, one at a time. Indentation opens and closes block collections, and a key
is known as such only at the mark behind it: places where a key may have begun are kept until then,
and tokens from such a place on wait in a queue. -/

namespace StoredProgram.Yaml

/-- A token at which a simple key may have begun, and where it stood. -/
structure Candidate where
  position : Nat
  required : Bool
  index : Nat
  line : Nat
  column : Nat

structure Lexer where
  cursor : Cursor
  queue : List Token := []
  taken : Nat := 0
  done : Bool := false
  flow : Nat := 0
  indent : Int := -1
  indents : List Int := []
  keyAllowed : Bool := true
  /-- At most one candidate for each number of open flow collections. -/
  candidates : List (Nat × Candidate) := []

abbrev Lexing := StateT Lexer (Except Fault)

namespace Lexer

def keyLength : Nat := 1024

def scan {α : Type} (x : Reading α) : Lexing α := do
  let l ← get
  match x l.cursor with
  | .error e => throw e
  | .ok (a, c) =>
    set { l with cursor := c }
    return a

def refuse {α : Type} : Lexing α := throw .document

def emit (t : Token) : Lexing Unit := modify fun l => { l with queue := l.queue ++ [t] }

def column : Lexing Int := return (← get).cursor.column

def inFlow : Lexing Bool := return 0 < (← get).flow

def allowKey (allowed : Bool) : Lexing Unit := modify fun l => { l with keyAllowed := allowed }

def isStale (c : Cursor) (k : Candidate) : Bool :=
  k.line ≠ c.line || keyLength < c.index - k.index

def dropStale : Lexing Unit := do
  let l ← get
  let stale := l.candidates.filter fun e => isStale l.cursor e.2
  if stale.any fun e => e.2.required then refuse
  else if !stale.isEmpty then
    set { l with candidates := l.candidates.filter fun e => !isStale l.cursor e.2 }

def dropCandidate : Lexing Unit := do
  let l ← get
  match l.candidates.lookup l.flow with
  | none => return ()
  | some k =>
    if k.required then refuse
    else set { l with candidates := l.candidates.filter (·.1 ≠ l.flow) }

def noteCandidate : Lexing Unit := do
  if (← get).keyAllowed then
    dropCandidate
    let l ← get
    let c := l.cursor
    let required := l.flow = 0 && l.indent = c.column
    let k : Candidate := ⟨l.taken + l.queue.length, required, c.index, c.line, c.column⟩
    set { l with candidates := (l.flow, k) :: l.candidates }

def closeBlocks (column : Int) : Lexing Unit := do
  let l ← get
  if l.flow = 0 then
    let open' := (l.indent :: l.indents).dropWhile (column < ·)
    let closed := l.indents.length + 1 - open'.length
    set { l with
      indent := open'.headD (-1)
      indents := open'.tail
      queue := l.queue ++ List.replicate closed Token.blockEnd }

def openBlock (column : Int) : Lexing Bool := do
  let l ← get
  if l.indent < column then
    set { l with indent := column, indents := l.indent :: l.indents }
    return true
  else return false

def single (t : Token) : Lexing Unit := do
  scan (Reading.skip 1)
  emit t

def directive : Lexing Unit := do
  closeBlocks (-1)
  dropCandidate
  allowKey false
  emit (← scan Reading.directive)

def documentMark (t : Token) : Lexing Unit := do
  closeBlocks (-1)
  dropCandidate
  allowKey false
  scan (Reading.skip 3)
  emit t

def flowStart (t : Token) : Lexing Unit := do
  noteCandidate
  modify fun l => { l with flow := l.flow + 1 }
  allowKey true
  single t

def flowEnd (t : Token) : Lexing Unit := do
  let opened ← inFlow
  dropCandidate
  modify fun l => { l with flow := l.flow - 1 }
  allowKey false
  single t
  if !opened then refuse

def flowEntry : Lexing Unit := do
  allowKey true
  dropCandidate
  single .flowEntry

def blockMark (start mark : Token) : Lexing Unit := do
  if !(← inFlow) then
    if !(← get).keyAllowed then refuse
    if ← openBlock (← column) then emit start
  dropCandidate
  single mark

def blockEntry : Lexing Unit := do
  blockMark .blockSequenceStart .blockEntry
  allowKey true

def key : Lexing Unit := do
  blockMark .blockMappingStart .key
  allowKey (!(← inFlow))

def insertAt (position : Nat) (t : Token) : Lexing Unit := modify fun l =>
  let (before, after) := l.queue.splitAt (position - l.taken)
  { l with queue := before ++ t :: after }

def value : Lexing Unit := do
  let l ← get
  match l.candidates.lookup l.flow with
  | some k =>
    set { l with candidates := l.candidates.filter (·.1 ≠ l.flow) }
    insertAt k.position .key
    if l.flow = 0 then
      if ← openBlock k.column then insertAt k.position .blockMappingStart
    allowKey false
    single .value
  | none =>
    blockMark .blockMappingStart .value
    allowKey (!(← inFlow))

def keyLike (x : Reading Token) : Lexing Unit := do
  noteCandidate
  allowKey false
  emit (← scan x)

def block (folded : Bool) : Lexing Unit := do
  allowKey true
  dropCandidate
  let l ← get
  emit (.scalar false (← scan (Reading.block folded l.indent)))

def plain : Lexing Unit := do
  noteCandidate
  let l ← get
  let (text, crossed) ← scan (Reading.plain (0 < l.flow) l.indent)
  allowKey crossed
  emit (.scalar true text)

def skipToToken : Nat → Lexing Unit
  | 0 => return ()
  | fuel + 1 => do
    scan Reading.skipSpaces
    scan Reading.skipComment
    match ← scan Reading.lineBreak? with
    | none => return ()
    | some _ =>
      if !(← inFlow) then allowKey true
      skipToToken fuel

def isMark (c : Char) : Bool := "-?:,[]\x7b\x7d#&*!|>'\"%@\x60".toList.contains c

def atMark (c mark : Char) : Lexing Bool := do
  if c = mark && (← column) = 0 then scan (Reading.atMark mark) else return false

/-- Whether one of the marks of an entry, a key or a value stands by itself. In a flow collection
those of a key and a value need not. -/
def standsAlone (c : Char) : Lexing Bool := do
  if c = '-' || (!(← inFlow) && (c = '?' || c = ':')) then
    return endsWord (← scan (Reading.peekAt 1))
  else return c = '?' || c = ':'

def startsPlain (c : Char) (flow : Bool) : Bool :=
  !(endsWord (some c) || isMark c) || c = '-' || (!flow && (c = '?' || c = ':'))

def token (c : Char) : Lexing Unit := do
  let flow ← inFlow
  if c = '%' && (← column) = 0 then directive
  else if ← atMark c '-' then documentMark .documentStart
  else if ← atMark c '.' then documentMark .documentEnd
  else
    let alone ← standsAlone c
    if c = '[' then flowStart .flowSequenceStart
    else if c = '\x7b' then flowStart .flowMappingStart
    else if c = ']' then flowEnd .flowSequenceEnd
    else if c = '\x7d' then flowEnd .flowMappingEnd
    else if c = ',' then flowEntry
    else if c = '-' && alone then blockEntry
    else if c = '?' && alone then key
    else if c = ':' && alone then value
    else if c = '*' then keyLike (.alias <$> Reading.anchorName)
    else if c = '&' then keyLike (.anchor <$> Reading.anchorName)
    else if c = '!' then keyLike Reading.tag
    else if c = '|' && !flow then block false
    else if c = '>' && !flow then block true
    else if c = '\'' then keyLike (.scalar false <$> Reading.quoted false)
    else if c = '"' then keyLike (.scalar false <$> Reading.quoted true)
    else if startsPlain c flow then plain
    else
      scan (Reading.demand 2)
      refuse

def finish : Lexing Unit := do
  closeBlocks (-1)
  dropCandidate
  modify fun l => { l with done := true }

def advance : Lexing Unit := do
  skipToToken (← scan Reading.fuel)
  dropStale
  closeBlocks (← column)
  match ← scan Reading.peek with
  | none => finish
  | some c => token c

def needsMore : Lexing Bool := do
  if (← get).done then return false
  else if (← get).queue.isEmpty then return true
  else
    dropStale
    let l ← get
    return l.candidates.any fun e => e.2.position = l.taken

def fill : Nat → Lexing Unit
  | 0 => refuse
  | fuel + 1 => do
    if ← needsMore then
      advance
      fill fuel

def peek : Lexing (Option Token) := do
  fill ((← scan Reading.fuel) + 1)
  return (← get).queue.head?

def take : Lexing Unit := modify fun l => { l with queue := l.queue.tail, taken := l.taken + 1 }

def start (s : Source) : Lexer := { cursor := .start s }

end Lexer

end StoredProgram.Yaml
