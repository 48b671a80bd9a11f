import StoredProgram.Session.Command

/-! Timed running: a timer that is to be active while the session runs, and signals to viewers
after each operation. The timer is a flag and an interval; its ticks are delivered from outside. -/

namespace StoredProgram

structure Timer where
  active : Bool := false
  interval : Int := 0
  deriving DecidableEq

inductive Signal where
  | stateChanged (m : Machine)
  | halted (m : Machine)
  deriving DecidableEq

structure Controller where
  session : Session
  timer : Timer := {}

namespace Controller

def isHalted (c : Controller) : Bool := c.session.machine.halted

structure Progress where
  controller : Controller
  signals : List Signal := []
  log : Log := []
  fault : Option Fault := none
  reply : Session.Reply := .done

/-- The timer is active just when the session runs, and then at the session's speed. -/
def syncTimer (c : Controller) : Controller :=
  let m := c.session.machine
  if m.running && !m.halted then { c with timer := ⟨true, m.speed⟩ }
  else { c with timer := { c.timer with active := false } }

def stopTimer (c : Controller) : Controller :=
  { c with timer := { c.timer with active := false } }

def changed (s : Session) : Signal := .stateChanged s.machine

def haltSignals (before after : Session) : List Signal :=
  if after.machine.halted && !before.machine.halted then [.halted after.machine] else []

def tick (c : Controller) : Progress :=
  match c.session.tick with
  | .error e => { controller := c, fault := some e }
  | .ok (s, log) =>
    { controller := { c with session := s }.syncTimer
      signals := changed s :: haltSignals c.session s
      log }

def publish (c : Controller) (s : Session) : Progress :=
  { controller := { c with session := s }.syncTimer, signals := [changed s] }

def start (c : Controller) : Progress := c.publish (c.session.setRunning true)

def pause (c : Controller) : Progress := c.publish c.session.pause

def toggleRun (c : Controller) : Progress :=
  if c.session.machine.running then c.pause else c.start

/-- A single step does nothing while running, and leaves the timer alone. -/
def step (c : Controller) : Progress :=
  if c.session.machine.running then { controller := c }
  else match c.session.step with
    | .error e => { controller := c, fault := some e }
    | .ok (s, log) =>
      { controller := { c with session := s }
        signals := changed s :: haltSignals c.session s
        log }

def reset (c : Controller) : Progress :=
  match c.session.reset with
  | .error e => { controller := c.stopTimer, fault := some e }
  | .ok (s, log) => { controller := { c with session := s }.stopTimer, signals := [changed s], log }

def setSpeed (c : Controller) (speed : Value) : Progress :=
  match c.session.setSpeed speed with
  | .error e => { controller := c, fault := some e }
  | .ok s => c.publish s

def shutdown (c : Controller) : Progress :=
  let s := if c.session.machine.running then c.session.pause else c.session
  { controller := { c with session := s }.stopTimer }

/-- An operation of the session that the controller does not see. -/
def behind (c : Controller) (command : Session.Command) : Progress :=
  let p := c.session.perform command
  { controller := { c with session := p.session }
    log := p.log
    fault := p.fault
    reply := p.reply }

inductive Command where
  | start
  | pause
  | toggleRun
  | step
  | reset
  | shutdown
  | setSpeed (speed : Value)
  | tick
  | behind (command : Session.Command)

def perform (c : Controller) : Command → Progress
  | .start => c.start
  | .pause => c.pause
  | .toggleRun => c.toggleRun
  | .step => c.step
  | .reset => c.reset
  | .shutdown => c.shutdown
  | .setSpeed speed => c.setSpeed speed
  | .tick => c.tick
  | .behind command => c.behind command

def performAll (c : Controller) : List Command → Controller
  | [] => c
  | x :: xs => (c.perform x).controller.performAll xs

/-- Ticks while the timer is active, up to a limit, with the number of ticks. A tick that fails is the
last and counts as well, although the timer is still active after it. -/
def drive : (limit : Nat) → Controller → Progress × Nat
  | 0, c => ({ controller := c }, 0)
  | limit + 1, c =>
    if c.timer.active then
      let p := c.tick
      match p.fault with
      | some _ => (p, 1)
      | none =>
        let (q, n) := drive limit p.controller
        ({ q with signals := p.signals ++ q.signals, log := p.log ++ q.log }, n + 1)
    else ({ controller := c }, 0)

end Controller

end StoredProgram
