import StoredProgram.Fault
import StoredProgram.Value.Text

/-! Named programs with their initial data, and the built-in ones. The parts of a program come from
outside and need not be texts until it is loaded. -/

namespace StoredProgram

structure Program where
  name : Value
  code : Value
  description : Value := .text ""
  memorySetup : List (Int × Int) := []

namespace Program

def ofLines (name description : String) (code : List String) (memorySetup : List (Int × Int)) :
    Program :=
  ⟨.text name, .text ("\n".intercalate code), .text description, memorySetup⟩

/-- The code as a text. What is no character in it is read as one that has no meaning. -/
def source (p : Program) : Except Fault String :=
  match p.code with
  | .text s => .ok s
  | .points ps => .ok (String.ofList (Text.chars ps))
  | .bytes _ => .error .wrongKind
  | _ => .error .missingMember

def additionLines : List String :=
  ["// Load the first number from memory address 10",
   "LOAD 10",
   "// Add the second number from memory address 11",
   "ADD 11",
   "// Store the result in memory address 12",
   "STORE 12",
   "// Halt the program",
   "HALT"]

def counterLines : List String :=
  ["// Load counter value from memory",
   "LOAD 10",
   "// Subtract 1 from the counter (address 1)",
   "SUB 11",
   "// Store the updated counter",
   "STORE 10",
   "// If counter is not zero, jump back to the subtraction",
   "JNZ 1",
   "// Halt when counter reaches zero",
   "HALT"]

def fibonacciLines : List String :=
  ["// acc = F(n) + F(n-1)",
   "LOAD 11",
   "ADD 10",
   "STORE 12",
   "// shift F(n) into address 10",
   "LOAD 11",
   "STORE 10",
   "// shift the sum into address 11",
   "LOAD 12",
   "STORE 11",
   "// repeat forever",
   "JUMP 0"]

def addition : Program :=
  ofLines "Simple Addition" "Adds two numbers stored in memory" additionLines [(10, 5), (11, 7)]

def counter : Program :=
  ofLines "Counter" "A simple counter that counts down from 5 to 0" counterLines [(10, 5), (11, 1)]

def fibonacci : Program :=
  ofLines "Fibonacci" "Calculate Fibonacci numbers" fibonacciLines [(11, 1)]

def catalog : List Program := [addition, counter, fibonacci]

/-- The first program with the name, where those of the user come before the catalog. -/
def find (name : Value) (own : List Program) : Except Fault Program :=
  match (own ++ catalog).find? fun p => Value.equal p.name name with
  | some p => .ok p
  | none =>
    match name.display with
    | .ok shown => .error (.unknownProgram shown)
    | .error e => .error e

end Program

end StoredProgram
