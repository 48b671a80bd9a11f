import StoredProgram.Breakpoint
import StoredProgram.Loading
import StoredProgram.Machine.Cycle
import StoredProgram.Settings

/-! A debugging session: the current machine, the machines before it, and the breakpoints that can
interrupt a run. An operation that fails says so and leaves the session as it was, except for a run,
which keeps the steps that it has made. -/

namespace StoredProgram

structure Session where
  settings : Settings
  machine : Machine
  breakpoints : List Breakpoint := []
  /-- The machines before the current one, the latest first. -/
  past : List Machine := []

namespace Session

def withSpeed (m : Machine) (speed : Int) : Machine := { m with speed := speed }

def freshMachine (s : Settings) : Except Fault Machine := do
  return withSpeed (← Machine.ofSize s.memorySize) (s.clampSpeed s.executionSpeed)

def start (settings : Settings) : Except Fault Session := do
  return { settings, machine := ← freshMachine settings }

def replace (s : Session) (m : Machine) : Session :=
  { s with machine := withSpeed m s.machine.speed, past := [] }

def loadProgram (s : Session) (program : List Instruction) (data : DataSetup) :
    Except Fault (Session × Log) := do
  let (m, log) ← Loading.load s.settings.memorySize program data
  return (s.replace m, log)

/-- Problems of the source are reported and logged, and then nothing is loaded. -/
def loadSource (s : Session) (source : String) (data : DataSetup) :
    Except Fault (Session × Log × List Assembly.Problem) := do
  let outcome ← Loading.loadSource s.settings.memorySize source data
  match outcome.machine with
  | some m => return (s.replace m, outcome.log, [])
  | none =>
    let log := outcome.log ++ outcome.problems.flatMap fun p => Log.warning p.text
    return (s, log, outcome.problems)

def loadExample (s : Session) (name : Value) :
    Except Fault (Session × Log × List Assembly.Problem) := do
  let p ← Program.find name s.settings.programs
  s.loadSource (← p.source) (.ofPairs p.memorySetup)

def lastLine (m : Machine) : String := m.output.getLast?.getD ""

/-- One step of the machine. A breakpoint that fires ends the run. -/
def advance (s : Session) : Except Fault (Session × Log) := do
  let before := s.machine
  let after ← before.step
  let past := if before.halted then s.past else before :: s.past
  if after.halted && !before.halted then
    return ({ s with machine := after, past }, Log.info (lastLine after))
  else if after.running && Breakpoint.anyFires s.breakpoints before after then
    return ({ s with machine := { after with running := false }, past },
      Log.info ("Breakpoint hit at PC: " ++ Numeral.text after.pc))
  else return ({ s with machine := after, past }, [])

/-- A single step, which is not taken while running. -/
def step (s : Session) : Except Fault (Session × Log) :=
  if s.machine.running then .ok (s, Log.warning "Step ignored while running.") else s.advance

/-- A step of a run, which is not taken unless running. -/
def tick (s : Session) : Except Fault (Session × Log) :=
  if s.machine.running then s.advance else .ok (s, [])

def stepBack? (s : Session) : Option Session :=
  match s.past with
  | [] => none
  | m :: past => some { s with machine := { m with running := false }, past }

def setRunning (s : Session) (running : Bool) : Session :=
  if running && s.machine.halted then s
  else { s with machine := { s.machine with running := running } }

def toggleRun (s : Session) : Session := s.setRunning (!s.machine.running)

def pause (s : Session) : Session := s.setRunning false

inductive Reply where
  | done
  | problems (ps : List Assembly.Problem)
  | noPast
  deriving DecidableEq

/-- A session after an operation that may fail on the way, with the log up to there. -/
structure Progress where
  session : Session
  log : Log := []
  fault : Option Fault := none
  reply : Reply := .done

def stoppedMessage (steps : Nat) : String :=
  "Run stopped after " ++ Numeral.text steps ++ " steps without halting."

/-- Ticks until the run ends by itself, `left` of them at most; `taken` have been made before. -/
def runFor (taken : Nat) : (left : Nat) → Session → Progress
  | 0, s =>
    if s.machine.running && !s.machine.halted then
      { session := s.pause, log := Log.warning (stoppedMessage taken) }
    else { session := s }
  | left + 1, s =>
    if s.machine.running && !s.machine.halted then
      match s.tick with
      | .error e => { session := s, fault := some e }
      | .ok (s', log) =>
        let p := runFor (taken + 1) left s'
        { p with log := log ++ p.log }
    else { session := s }

def run (s : Session) (limit : Option Int) : Progress :=
  runFor 0 (limit.getD s.settings.maxRunSteps).toNat (s.setRunning true)

def reset (s : Session) : Except Fault (Session × Log) := do
  let m ← freshMachine s.settings
  return (s.replace m, Log.info "Simulator reset.")

def setSpeed (s : Session) (speed : Value) : Except Fault Session :=
  match speed.int? with
  | some n =>
    if 0 < n then .ok { s with machine := withSpeed s.machine (s.settings.clampSpeed n) }
    else refuse speed
  | none => refuse speed
where
  refuse (speed : Value) : Except Fault Session :=
    match speed.display with
    | .ok shown => .error (.sessionSpeed shown)
    | .error e => .error e

def editMemory (s : Session) (address value : Int) : Session × Log :=
  if s.machine.running then
    (s, Log.warning ("Memory edit at " ++ Numeral.text address ++ " ignored while running."))
  else ({ s with machine := s.machine.edit address (.number value) }, [])

def addBreakpoint (s : Session) (b : Breakpoint) : Session :=
  { s with breakpoints := b.add s.breakpoints }

def removeBreakpoint (s : Session) (b : Breakpoint) : Session :=
  { s with breakpoints := b.remove s.breakpoints }

end Session

end StoredProgram
