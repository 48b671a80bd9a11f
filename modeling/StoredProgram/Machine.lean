import StoredProgram.Fault
import StoredProgram.Memory
import StoredProgram.Value

/-! State of the machine between two phases: memory, registers, bus and flags, and the lines that
it has put out. -/

namespace StoredProgram

inductive Phase where
  | idle
  | fetch
  | decode
  | execute
  deriving DecidableEq

structure Alu where
  input1 : Int := 0
  input2 : Int := 0
  output : Int := 0
  operation : String := ""
  deriving DecidableEq

structure Bus where
  active : Bool := false
  data : Option Content := none
  source : String := ""
  destination : String := ""
  deriving DecidableEq

def Bus.transfer (data : Option Content) (source destination : String) : Bus :=
  ⟨true, data, source, destination⟩

def memoryPort : String := "Memory"

structure Machine where
  memory : Memory
  phase : Phase := .idle
  signals : List String := []
  pc : Int := 0
  ir : Instruction := .empty
  mar : Int := 0
  mdr : Content := .number 0
  acc : Int := 0
  alu : Alu := {}
  bus : Bus := {}
  running : Bool := false
  halted : Bool := false
  speed : Int := 500
  output : List String := []
  deriving DecidableEq

namespace Machine

def greeting : String := "CPU initialized. Ready to load program."

def standardSize : Nat := 20

def fresh (size : Nat) : Machine := { memory := Memory.blank size, output := [greeting] }

def ofSize (size : Int) : Except Fault Machine :=
  if size ≤ 0 then .error .memorySize else .ok (fresh size.toNat)

def ofSizeValue (size : Value) : Except Fault Machine :=
  match size.int? with
  | some n => ofSize n
  | none => .error .memorySize

def print (m : Machine) (line : String) : Machine := { m with output := m.output ++ [line] }

def edit (m : Machine) (address : Int) (content : Content) : Machine :=
  { m with memory := m.memory.write address content }

inductive Shown where
  | number (n : Int)
  | text (s : String)

def registers (m : Machine) : Except Numeral.Error (List (String × Shown)) := do
  return [("PC", .number m.pc), ("IR", .text (← m.ir.text)), ("MAR", .number m.mar),
    ("MDR", .text (← m.mdr.text)), ("ACC", .number m.acc)]

end Machine

end StoredProgram
