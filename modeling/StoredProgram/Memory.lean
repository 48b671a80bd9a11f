import StoredProgram.Instruction

/-! Memory as a list of cells. The first cell with an address is the one that is read; writing and
highlighting reach every cell with the address, and an address without a cell holds nothing. -/

namespace StoredProgram

inductive Content where
  | number (n : Int)
  | instruction (i : Instruction)
  deriving DecidableEq

/-- Whatever is not a number counts as zero in arithmetic. -/
def Content.value : Option Content → Int
  | some (.number n) => n
  | _ => 0

def Content.text : Content → Except Numeral.Error String
  | .number n => Numeral.write n
  | .instruction i => i.text

inductive Region where
  | instruction
  | data
  deriving DecidableEq

structure Cell where
  address : Int
  content : Content := .number 0
  region : Region := .data
  active : Bool := false
  deriving DecidableEq

abbrev Memory := List Cell

def instructionRegion : Nat := 10

namespace Memory

def regionOf (address : Nat) : Region :=
  if address < instructionRegion then .instruction else .data

def blank (size : Nat) : Memory :=
  (List.range size).map fun a : Nat => { address := a, region := regionOf a }

def cell? (m : Memory) (address : Int) : Option Cell :=
  List.find? (fun c => c.address = address) m

def read? (m : Memory) (address : Int) : Option Content := (cell? m address).map (·.content)

def number (m : Memory) (address : Int) : Int := Content.value (read? m address)

def write (m : Memory) (address : Int) (content : Content) : Memory :=
  List.map (fun c => if c.address = address then { c with content := content } else c) m

/-- Marks the cells with the address, if one is given, and no others. -/
def highlight (m : Memory) (address : Option Int) : Memory :=
  List.map (fun c => { c with active := decide (some c.address = address) }) m

end Memory

end StoredProgram
