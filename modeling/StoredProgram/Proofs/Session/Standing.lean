import StoredProgram.Proofs.Session.Invariant

/-! What the place of a machine in its session determines: its phase, when it can have halted, and
all that it has put out. -/

namespace StoredProgram
variable {i : Nat} {m m' : Machine} {loaded : Option Nat}

def Phase.inCycle (r : Nat) : Phase := if r = 0 then .fetch else if r = 1 then .decode else .execute

def Phase.atPlace : Nat → Phase
  | 0 => .idle
  | i + 1 => .inCycle (i % 3)

theorem Phase.atPlace_eq_idle_iff : Phase.atPlace i = .idle ↔ i = 0 := by
  cases i with
  | zero => exact iff_of_true rfl rfl
  | succ i =>
    refine iff_of_false (fun h => ?_) (Nat.succ_ne_zero i)
    rw [atPlace, inCycle] at h
    split_ifs at h

theorem Phase.atPlace_eq_execute (h : Phase.atPlace i = .execute) : 3 ≤ i ∧ i % 3 = 0 := by
  cases i with
  | zero => cases h
  | succ i =>
    rw [atPlace, inCycle] at h
    split_ifs at h
    omega

theorem Phase.atPlace_succ (i : Nat) : Phase.atPlace (i + 1) = (Phase.atPlace i).next := by
  cases i with
  | zero => rfl
  | succ i =>
    have h : i % 3 = 0 ∧ (i + 1) % 3 = 1 ∨ i % 3 = 1 ∧ (i + 1) % 3 = 2 ∨
        i % 3 = 2 ∧ (i + 1) % 3 = 0 := by omega
    rw [atPlace, atPlace]
    rcases h with ⟨h, h'⟩ | ⟨h, h'⟩ | ⟨h, h'⟩ <;> rw [h, h'] <;> rfl

namespace Machine

/-- What a machine has put out before it halts: a greeting and, after a load, the size of the
program. -/
def opening (loaded : Option Nat) : List String :=
  greeting :: (loaded.map Loading.loadedLine).toList

/-- The state of a machine that has made `i` steps since the latest new start. -/
structure Standing (loaded : Option Nat) (i : Nat) (m : Machine) : Prop where
  running : m.running = true → m.halted = false
  phase : m.halted = false → m.phase = Phase.atPlace i
  halted : m.halted = true →
    4 ≤ i ∧ (i - 1) % 3 = 0 ∧ m.phase = .idle ∧ m.ir.opcode = haltOpcode
  output : m.output =
    opening loaded ++ if m.halted then [haltMessage (Numeral.text m.acc)] else []

namespace Standing

theorem of_idle (hh : m.halted = false) (hp : m.phase = .idle) (ho : m.output = opening loaded) :
    Standing loaded 0 m where
  running _ := hh
  phase _ := hp
  halted h := absurd (hh.symm.trans h) Bool.false_ne_true
  output := by rw [ho, hh, if_neg Bool.false_ne_true, List.append_nil]

theorem idle_iff (h : Standing loaded i m) : m.phase = .idle ∧ m.halted = false ↔ i = 0 := by
  constructor
  · rintro ⟨hp, hh⟩
    exact Phase.atPlace_eq_idle_iff.mp ((h.phase hh).symm.trans hp)
  · intro hi
    have hh : m.halted = false := by
      refine Bool.eq_false_iff.mpr fun hh => ?_
      have := (h.halted hh).1
      omega
    exact ⟨(h.phase hh).trans (Phase.atPlace_eq_idle_iff.mpr hi), hh⟩

theorem output_of_not_halted (h : Standing loaded i m) (hh : m.halted = false) :
    m.output = opening loaded := by
  rw [h.output, hh, if_neg Bool.false_ne_true, List.append_nil]

theorem goesOn (h : Standing loaded i m) (hh : m.halted = false) (hg : GoesOn m m') :
    Standing loaded (i + 1) m' := by
  have hh' : m'.halted = false := hg.halted.trans hh
  have hp : m'.phase = Phase.atPlace (i + 1) := by rw [hg.phase, h.phase hh, Phase.atPlace_succ]
  have ho : m'.output = opening loaded := hg.output.trans (h.output_of_not_halted hh)
  refine ⟨fun _ => hh', fun _ => hp, fun hm => absurd (hh'.symm.trans hm) Bool.false_ne_true, ?_⟩
  rw [ho, hh', if_neg Bool.false_ne_true, List.append_nil]

theorem stopped (h : Standing loaded i m) (hm : Halting m) :
    Standing loaded (i + 1) m.stopped := by
  obtain ⟨hh, hp, ho⟩ := hm
  -- an execution is at least the third step, and every third step is one
  obtain ⟨hi, hr⟩ := Phase.atPlace_eq_execute ((h.phase hh).symm.trans hp)
  have hs : m.output = opening loaded := h.output_of_not_halted hh
  exact
    { running := fun hm => absurd hm Bool.false_ne_true
      phase := fun hm => absurd hm.symm Bool.false_ne_true
      halted := fun _ => ⟨Nat.succ_le_succ hi, hr, rfl, ho⟩
      output := congrArg (· ++ [haltMessage (Numeral.text m.acc)]) hs }

theorem edit (h : Standing loaded i m) (a : Int) (c : Content) :
    Standing loaded i (m.edit a c) := ⟨h.running, h.phase, h.halted, h.output⟩

end Standing
end Machine

namespace Session
open Machine
variable {s s' : Session} {c : Command}

theorem carried_standing (loaded : Option Nat) : Carried (Standing loaded) where
  step h hh hs := by
    rcases step_ok hh hs with hg | ⟨hm, rfl⟩
    · exact h.goesOn hh hg
    · exact h.stopped hm
  running b h hb := ⟨hb, h.phase, h.halted, h.output⟩
  speed _ h := ⟨h.running, h.phase, h.halted, h.output⟩

theorem standing_of_load {size speed : Int} {program : List Instruction} {data : DataSetup}
    {log : Log} (h : Loading.load size program data = .ok (m, log)) :
    Standing (some program.length) 0 (withSpeed m speed) := by
  obtain ⟨entries, _, _, rfl⟩ := Loading.load_ok h
  exact .of_idle rfl rfl rfl

theorem standing_of_freshMachine {settings : Settings} (h : freshMachine settings = .ok m)
    (speed : Int) : Standing none 0 (withSpeed m speed) := by
  obtain ⟨_, rfl⟩ := freshMachine_ok h
  exact .of_idle rfl rfl rfl

theorem invariant_standing (settings : Settings) : Invariant settings Standing where
  fresh := standing_of_freshMachine
  load h _ := standing_of_load h
  carried := carried_standing
  edit h a n := h.edit a (.number n)

theorem along_start {settings : Settings} (h : start settings = .ok s) :
    Along (Standing none) s := (invariant_standing settings).start h

theorem Along.performAll (h : Along (Standing loaded) s) (cs : List Command) :
    Along (Standing (s.loadedSince loaded cs)) (s.performAll cs) :=
  (invariant_standing s.settings).performAll h cs

/-- Whatever is done in a session, every one of its machines, past or current, stands as its place
says. -/
theorem timeline_standing {settings : Settings} (h : start settings = .ok s) (cs : List Command)
    {i : Nat} {m : Machine} (hi : (s.performAll cs).timeline[i]? = some m) :
    Standing (s.loadedSince none cs) i m ∧ (m.phase = .idle ∧ m.halted = false ↔ i = 0) := by
  have hm := ((along_start h).performAll cs).of_timeline hi
  exact ⟨hm, hm.idle_iff⟩

theorem timeline_standing_halted :
    let s : Session := { settings := {}, machine := withSpeed (Machine.fresh 20) 500 }
    let cs : List Command := [.loadSource "HALT" (.items []), .run none, .edit 0 7]
    let s' := s.performAll cs
    start {} = .ok s ∧ s'.timeline[4]? = some s'.machine ∧ s'.machine.halted = true ∧
      Standing (some 1) 4 s'.machine := by
  intro s cs s'
  have hs : start {} = .ok s := rfl
  have hi : s'.timeline[4]? = some s'.machine := by decide +kernel
  have hh : s'.machine.halted = true := by decide +kernel
  have hk : s.loadedSince none cs = some 1 := by decide +kernel
  have ht := (timeline_standing hs cs hi).1
  rw [hk] at ht
  exact ⟨hs, hi, hh, ht⟩

end Session
end StoredProgram
