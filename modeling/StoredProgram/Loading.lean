import StoredProgram.Assembly.Check
import StoredProgram.DataSetup
import StoredProgram.Log
import StoredProgram.Machine

/-! Loading: a fresh machine receives instructions from address zero on, then the initial data. -/

namespace StoredProgram.Loading

def place (program : List Instruction) (m : Memory) : Memory :=
  (program.take instructionRegion).zipIdx.foldl
    (fun m e => m.write (e.2 : Nat) (.instruction e.1)) m

def fill (data : List (Int × Int)) (m : Memory) : Memory :=
  data.foldl (fun m e => m.write e.1 (.number e.2)) m

def count (n : Nat) : String := String.ofList (Numeral.decimal n)

def loadedLine (n : Nat) : String := s!"Program loaded. {count n} instructions."

def loadedLog (n : Nat) : Log :=
  (if instructionRegion < n then
    Log.warning (s!"Only the first {count instructionRegion} of {count n} " ++
      "instructions fit in instruction memory.")
  else []) ++ Log.info s!"Program loaded: {count n} instructions."

def load (size : Int) (program : List Instruction) (data : DataSetup) :
    Except Fault (Machine × Log) := do
  let m ← Machine.ofSize size
  let entries ← data.entries
  let m := { m with memory := fill entries (place program m.memory) }
  return (m.print (loadedLine program.length), loadedLog program.length)

structure Outcome where
  machine : Option Machine
  problems : List Assembly.Problem
  log : Log

def loadSource (size : Int) (source : String) (data : DataSetup) : Except Fault Outcome := do
  let program ← (Assembly.read source).mapError Fault.numeral
  match Assembly.problems program with
  | [] =>
    let (m, log) ← load size (program.map (·.instruction)) data
    return ⟨some m, [], log⟩
  | ps => return ⟨none, ps, Log.warning s!"Program rejected with {count ps.length} error(s)."⟩

end StoredProgram.Loading
