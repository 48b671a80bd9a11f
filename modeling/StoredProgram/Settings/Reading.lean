import StoredProgram.Settings

/-! Settings from decoded data. Numbers may be given as integers or as decimal or hexadecimal text,
and what is left out has its default. -/

namespace StoredProgram.Settings

def refuse {α : Type} (fault : String → Fault) (v : Value) : Except Fault α :=
  match v.display with
  | .ok shown => .error (fault shown)
  | .error e => .error e

def refuseRange {α : Type} (low high : Int) : Except Fault α :=
  match Numeral.write low, Numeral.write high with
  | .ok lo, .ok hi => .error (.speedRange lo hi)
  | .error e, _ | _, .error e => .error (.numeral e)

def isHexText : List Char → Bool
  | '-' :: '0' :: c :: _ | '0' :: c :: _ => c = 'x' || c = 'X'
  | _ => false

def readNumber (text : List Text.Point) : Except Fault Int :=
  let body := Text.trim (fun p => Text.isBlank p.toChar) text
  let cs := Text.chars body
  if isHexText cs then (Numeral.readHex body).mapError .numeral
  else (Numeral.readDecimal body).mapError fun _ => .notAnInteger (String.ofList cs)

/-- Truth values are not numbers here. -/
def readInteger : Value → Except Fault Int
  | .int n => .ok n
  | .text s => readNumber (Text.points s.toList)
  | .points ps => readNumber ps
  | v => refuse .notAnInteger v

def memberOr (default : Value) (key : String) (entries : List (Value × Value)) : Value :=
  (Value.lookup? key entries).getD default

def isPart (part : List Char) : List Char → Bool
  | [] => part.isEmpty
  | c :: s => part.isPrefixOf (c :: s) || isPart part s

def contains (key : String) (v : Value) : Except Fault Bool :=
  let among (xs : List Value) := xs.any (Value.equal (.text key))
  match v.unfold with
  | .map es => .ok (Value.lookup? key es).isSome
  | .list xs | .set xs => .ok (among xs)
  | .pair a b => .ok (among [a, b])
  | .text s => .ok (isPart key.toList s.toList)
  | .points ps => .ok (isPart key.toList (Text.chars ps))
  | _ => .error .wrongKind

def members (v : Value) : Except Fault (List (Value × Value)) :=
  match v.unfold with
  | .map es => .ok es
  | _ => .error .missingMember

def readCell (v : Value) : Except Fault (Int × Int) := do
  let es ← members v
  let address ← readInteger (memberOr .null "address" es)
  let value ← readInteger (memberOr .null "value" es)
  return (address, value)

def readProgram (v : Value) : Except Fault Program := do
  let named ← contains "name" v
  let coded ← contains "code" v
  if !(named && coded) then refuse .incompleteProgram v
  else
    let es ← members v
    let cells ← (memberOr (.list []) "memory_setup" es).elements
    let setup ← cells.mapM readCell
    return {
      name := memberOr .null "name" es
      code := memberOr .null "code" es
      description := memberOr (.text "") "description" es
      memorySetup := setup }

def readPrograms (v : Value) : Except Fault (List Program) :=
  if v.isEmpty then .ok []
  else do (← v.elements).mapM readProgram

def check (s : Settings) : Except Fault Settings :=
  if s.memorySize ≤ 0 then refuse .memoryNotPositive (.int s.memorySize)
  else if ¬(0 < s.minSpeed ∧ s.minSpeed ≤ s.maxSpeed) then
    refuseRange s.minSpeed s.maxSpeed
  else if s.executionSpeed ≤ 0 then refuse .speedNotPositive (.int s.executionSpeed)
  else .ok s

def readNumbers (es : List (Value × Value)) : Except Fault Settings := do
  let defaults : Settings := {}
  let number (key : String) (n : Int) := readInteger (memberOr (.int n) key es)
  let memorySize ← number "memory_size" defaults.memorySize
  let executionSpeed ← number "execution_speed" defaults.executionSpeed
  let minSpeed ← number "min_speed" defaults.minSpeed
  let maxSpeed ← number "max_speed" defaults.maxSpeed
  let maxRunSteps ← number "max_run_steps" defaults.maxRunSteps
  return { memorySize, executionSpeed, minSpeed, maxSpeed, maxRunSteps }

def readEntries (es : List (Value × Value)) : Except Fault Settings := do
  let s ← readNumbers es
  let programs ← readPrograms (memberOr (.list []) "programs" es)
  check { s with programs }

def read (v : Value) : Except Fault Settings :=
  match v.unfold with
  | .map es => readEntries es
  | v => .error (.rootKind v.kindName)

/-- A document that is empty, or zero or false, stands for no settings at all. -/
def readDocument (v : Value) : Except Fault Settings :=
  if v.isEmpty then read (.map []) else read v

end StoredProgram.Settings
