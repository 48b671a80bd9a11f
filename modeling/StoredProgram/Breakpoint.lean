import StoredProgram.Machine

/-! Breakpoints, and the steps at which they fire. -/

namespace StoredProgram

inductive Trigger where
  /-- The machine has become ready to fetch from the address. -/
  | pc
  /-- A cell with the address has been written. -/
  | memoryWrite
  deriving DecidableEq

structure Breakpoint where
  trigger : Trigger
  address : Int
  enabled : Bool := true
  deriving DecidableEq

namespace Breakpoint

def fires (b : Breakpoint) (before after : Machine) : Bool :=
  b.enabled &&
    match b.trigger with
    | .pc => after.phase = .fetch && before.phase ≠ .fetch && after.pc = b.address
    | .memoryWrite =>
      before.phase = .execute && after.bus.active && after.bus.destination = memoryPort &&
        after.mar = b.address && (after.memory.cell? b.address).isSome

def anyFires (bs : List Breakpoint) (before after : Machine) : Bool :=
  bs.any fun b => b.fires before after

def add (b : Breakpoint) (bs : List Breakpoint) : List Breakpoint :=
  if b ∈ bs then bs else bs ++ [b]

def remove (b : Breakpoint) (bs : List Breakpoint) : List Breakpoint := bs.erase b

end Breakpoint

end StoredProgram
