import StoredProgram.Session

/-! The operations of a session as data, so that one can speak of any sequence of them. -/

namespace StoredProgram.Session

inductive Command where
  | loadProgram (program : List Instruction) (data : DataSetup)
  | loadSource (source : String) (data : DataSetup)
  | loadExample (name : Value)
  | step
  | tick
  | stepBack
  | run (limit : Option Int)
  | setRunning (running : Bool)
  | toggleRun
  | pause
  | reset
  | setSpeed (speed : Value)
  | edit (address value : Int)
  | addBreakpoint (b : Breakpoint)
  | removeBreakpoint (b : Breakpoint)

namespace Progress

/-- An operation that fails leaves the session as it was. -/
def ofResult (s : Session) : Except Fault (Session × Log) → Progress
  | .ok (s', log) => { session := s', log }
  | .error e => { session := s, fault := some e }

def ofLoading (s : Session) :
    Except Fault (Session × Log × List Assembly.Problem) → Progress
  | .ok (s', log, problems) => { session := s', log, reply := .problems problems }
  | .error e => { session := s, fault := some e }

end Progress

def perform (s : Session) : Command → Progress
  | .loadProgram program data => .ofResult s (s.loadProgram program data)
  | .loadSource source data => .ofLoading s (s.loadSource source data)
  | .loadExample name => .ofLoading s (s.loadExample name)
  | .step => .ofResult s s.step
  | .tick => .ofResult s s.tick
  | .stepBack =>
    match s.stepBack? with
    | some s' => { session := s' }
    | none => { session := s, reply := .noPast }
  | .run limit => s.run limit
  | .setRunning running => { session := s.setRunning running }
  | .toggleRun => { session := s.toggleRun }
  | .pause => { session := s.pause }
  | .reset => .ofResult s s.reset
  | .setSpeed speed => .ofResult s ((s.setSpeed speed).map (·, []))
  | .edit address value =>
    let (s', log) := s.editMemory address value
    { session := s', log }
  | .addBreakpoint b => { session := s.addBreakpoint b }
  | .removeBreakpoint b => { session := s.removeBreakpoint b }

def performAll (s : Session) : List Command → Session
  | [] => s
  | c :: cs => (s.perform c).session.performAll cs

end StoredProgram.Session
