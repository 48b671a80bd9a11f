import StoredProgram.Program

/-! Settings of a simulator. -/

namespace StoredProgram

/-- Speeds are in milliseconds a step. -/
structure Settings where
  memorySize : Int := 20
  executionSpeed : Int := 500
  minSpeed : Int := 100
  maxSpeed : Int := 1000
  maxRunSteps : Int := 10000
  programs : List Program := []

/-- The lower bound wins when the bounds cross. -/
def Settings.clampSpeed (s : Settings) (speed : Int) : Int := max s.minSpeed (min s.maxSpeed speed)

theorem Settings.clampSpeed_mem {s : Settings} (h : s.minSpeed ≤ s.maxSpeed) (speed : Int) :
    s.minSpeed ≤ s.clampSpeed speed ∧ s.clampSpeed speed ≤ s.maxSpeed := by
  unfold Settings.clampSpeed
  omega

end StoredProgram
