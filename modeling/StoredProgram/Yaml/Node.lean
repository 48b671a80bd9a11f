import StoredProgram.Yaml.Tag
import StoredProgram.Yaml.Token.Lexer

/-! The nodes of a document, built from its tokens by descent. A node is known by its place in a
table, for an alias can name a node that it stands within. -/

namespace StoredProgram.Yaml

inductive Node where
  | scalar (tag : Tag) (text : List Text.Point)
  | sequence (tag : Tag) (items : List Nat)
  | mapping (tag : Tag) (entries : List (Nat × Nat))

structure Document where
  nodes : Array Node
  root : Nat
  aliased : Bool

namespace Node

def tag : Node → Tag
  | .scalar t _ | .sequence t _ | .mapping t _ => t

def absent : Node := .scalar .null []

structure Builder where
  lexer : Lexer
  handles : List (String × String) := []
  anchors : List (String × Nat) := []
  nodes : Array Node := #[]
  aliased : Bool := false
  depth : Nat := 0

abbrev Build := StateT Builder (Except Fault)

def refuse {α : Type} : Build α := throw .document

def lexing {α : Type} (x : Lexing α) : Build α := do
  let b ← get
  match x b.lexer with
  | .error e => throw e
  | .ok (a, l) =>
    set { b with lexer := l }
    return a

def peek : Build (Option Token) := lexing Lexer.peek

def next : Build Unit := lexing Lexer.take

def accept (t : Token) : Build Bool := do
  if (← peek) = some t then
    next
    return true
  else return false

def expect (t : Token) : Build Unit := do
  if !(← accept t) then refuse

def isNext (ts : List Token) : Build Bool := do
  match ← peek with
  | some t => return ts.contains t
  | none => return false

abbrev WrittenTag := Option String × String

def fullTag (tag : WrittenTag) : Build String := do
  match tag with
  | (none, suffix) => return suffix
  | (some handle, suffix) =>
    match (← get).handles.lookup handle with
    | some lead => return lead ++ suffix
    | none => refuse

def tagToken : Build (Option WrittenTag) := do
  match ← peek with
  | some (.tag handle suffix) =>
    next
    return some (handle, suffix)
  | _ => return none

def anchorToken : Build (Option String) := do
  match ← peek with
  | some (.anchor name) =>
    next
    return some name
  | _ => return none

structure Properties where
  anchor : Option String
  tag : Option String

def properties : Build Properties := do
  let anchor ← anchorToken
  let tag ← tagToken
  let anchor ← if anchor.isNone && tag.isSome then anchorToken else pure anchor
  match tag with
  | none => return ⟨anchor, none⟩
  | some t => return ⟨anchor, some (← fullTag t)⟩

def plainTag : String := "!"

def scalarTag (tag : Option String) (plain : Bool) (text : List Text.Point) : Tag :=
  match tag with
  | none => if plain then .ofPlain (Text.chars text) else .text
  | some t => if t = plainTag then .ofPlain (Text.chars text) else .ofName t

def collectionTag (tag : Option String) (standard : Tag) : Tag :=
  match tag with
  | none => standard
  | some t => if t = plainTag then standard else .ofName t

def aliased (name : String) : Build Nat := do
  match (← get).anchors.lookup name with
  | some n =>
    modify fun b => { b with aliased := true }
    return n
  | none => refuse

def add (node : Node) : Build Nat :=
  modifyGet fun b => (b.nodes.size, { b with nodes := b.nodes.push node })

def addAnchored (anchor : Option String) (node : Node) : Build Nat := do
  match anchor with
  | none => add node
  | some name =>
    if ((← get).anchors.lookup name).isSome then refuse
    else
      let n ← add node
      modify fun b => { b with anchors := (name, n) :: b.anchors }
      return n

def addScalar (p : Properties) (plain : Bool) (text : List Text.Point) : Build Nat :=
  addAnchored p.anchor (.scalar (scalarTag p.tag plain text) text)

/-- More collections cannot stand within each other. -/
def depthLimit : Nat := 490

/-- A collection has its place and its name before its parts are read. -/
def addCollection (anchor : Option String) (parts : Build Node) : Build Nat := do
  let n ← addAnchored anchor absent
  modify fun b => { b with depth := b.depth + 1 }
  if depthLimit < (← get).depth then throw .nesting
  let node ← parts
  modify fun b => { b with depth := b.depth - 1, nodes := b.nodes.set! n node }
  return n

def addSequence (p : Properties) (items : Build (List Nat)) : Build Nat :=
  addCollection p.anchor (.sequence (collectionTag p.tag .sequence) <$> items)

def addMapping (p : Properties) (entries : Build (List (Nat × Nat))) : Build Nat :=
  addCollection p.anchor (.mapping (collectionTag p.tag .mapping) <$> entries)

inductive Place where
  | flow
  | block
  | mapped
  deriving DecidableEq

mutual

def node (place : Place) : Nat → Build Nat
  | 0 => refuse
  | fuel + 1 => do
    match ← peek with
    | some (.alias name) =>
      next
      aliased name
    | _ => content place (← properties) fuel

def content (place : Place) (p : Properties) : Nat → Build Nat
  | 0 => refuse
  | fuel + 1 => do
    match ← peek with
    | some (.scalar plain text) =>
      next
      addScalar p plain text
    | some .flowSequenceStart =>
      next
      addSequence p (flowSequence true fuel)
    | some .flowMappingStart =>
      next
      addMapping p (flowMapping true fuel)
    | some .blockSequenceStart =>
      if place = .flow then missing
      else
        next
        addSequence p (blockSequence fuel)
    | some .blockMappingStart =>
      if place = .flow then missing
      else
        next
        addMapping p (blockMapping fuel)
    | some .blockEntry =>
      if place = .mapped then addSequence p (looseSequence fuel) else missing
    | _ => missing
where
  missing : Build Nat :=
    if p.anchor.isSome || p.tag.isSome then addScalar p true [] else refuse

def optional (place : Place) (ends : List Token) : Nat → Build Nat
  | 0 => refuse
  | fuel + 1 => do
    if ← isNext ends then add absent else node place fuel

def blockSequence : Nat → Build (List Nat)
  | 0 => refuse
  | fuel + 1 => do
    if ← accept .blockEntry then
      let n ← optional .block [.blockEntry, .blockEnd] fuel
      return n :: (← blockSequence fuel)
    else
      expect .blockEnd
      return []

def looseSequence : Nat → Build (List Nat)
  | 0 => refuse
  | fuel + 1 => do
    if ← accept .blockEntry then
      let n ← optional .block [.blockEntry, .key, .value, .blockEnd] fuel
      return n :: (← looseSequence fuel)
    else return []

def blockMapping : Nat → Build (List (Nat × Nat))
  | 0 => refuse
  | fuel + 1 => do
    if ← accept .key then
      let ends : List Token := [.key, .value, .blockEnd]
      let k ← optional .mapped ends fuel
      let v ← if ← accept .value then optional .mapped ends fuel else add absent
      return (k, v) :: (← blockMapping fuel)
    else
      expect .blockEnd
      return []

def flowValue (last : Token) : Nat → Build Nat
  | 0 => refuse
  | fuel + 1 => do
    if ← accept .value then optional .flow [.flowEntry, last] fuel else add absent

def flowPair (last : Token) : Nat → Build (Nat × Nat)
  | 0 => refuse
  | fuel + 1 => do
    let k ← optional .flow [.value, .flowEntry, last] fuel
    return (k, ← flowValue last fuel)

def flowSequence (first : Bool) : Nat → Build (List Nat)
  | 0 => refuse
  | fuel + 1 => do
    if ← accept .flowSequenceEnd then return []
    else
      if !first then expect .flowEntry
      if ← accept .key then
        let n ← addMapping ⟨none, none⟩ (do return [← flowPair .flowSequenceEnd fuel])
        return n :: (← flowSequence false fuel)
      else if ← accept .flowSequenceEnd then return []
      else
        let n ← node .flow fuel
        return n :: (← flowSequence false fuel)

def flowMapping (first : Bool) : Nat → Build (List (Nat × Nat))
  | 0 => refuse
  | fuel + 1 => do
    if ← accept .flowMappingEnd then return []
    else
      if !first then expect .flowEntry
      if ← accept .key then
        let e ← flowPair .flowMappingEnd fuel
        return e :: (← flowMapping false fuel)
      else if ← accept .flowMappingEnd then return []
      else
        let k ← node .flow fuel
        let _ ← peek
        let v ← add absent
        return (k, v) :: (← flowMapping false fuel)

end

def standardHandles : List (String × String) := [("!", "!"), ("!!", standardLead)]

def directives (versioned : Bool) (handles : List (String × String)) : Nat → Build Unit
  | 0 => refuse
  | fuel + 1 => do
    match ← peek with
    | some (.version major) =>
      next
      if versioned || major ≠ 1 then refuse else directives true handles fuel
    | some (.tagHandle handle lead) =>
      next
      if (handles.lookup handle).isSome then refuse
      else directives versioned ((handle, lead) :: handles) fuel
    | some .otherDirective =>
      next
      directives versioned handles fuel
    | _ => modify fun b => { b with handles := handles ++ standardHandles }

def startsDirective : Token → Bool
  | .version _ | .tagHandle .. | .otherDirective => true
  | _ => false

def explicitStart (fuel : Nat) : Build Unit := do
  directives false [] fuel
  expect .documentStart

def explicitContent (fuel : Nat) : Build Nat := do
  match ← peek with
  | none | some .documentStart | some .documentEnd => add absent
  | some t => if startsDirective t then add absent else node .block fuel

def skipDocumentEnds : Nat → Build Unit
  | 0 => return ()
  | fuel + 1 => do
    if ← accept .documentEnd then skipDocumentEnds fuel

def document (fuel : Nat) : Build (Option Nat) := do
  match ← peek with
  | none => return none
  | some t =>
    let root ←
      if t = .documentStart || startsDirective t then do
        explicitStart fuel
        explicitContent fuel
      else do
        modify fun b => { b with handles := standardHandles }
        node .block fuel
    skipDocumentEnds fuel
    if (← peek).isNone then return some root
    else
      explicitStart fuel
      refuse

end Node

/-- A token needs few steps of the descent, and a character makes few tokens. -/
def Document.fuel (s : Source) : Nat := 40 * s.text.length + 40

def Document.read (s : Source) : Except Fault (Option Document) := do
  let (root, b) ← (Node.document (fuel s)).run { lexer := .start s }
  return root.map fun n => ⟨b.nodes, n, b.aliased⟩

end StoredProgram.Yaml
