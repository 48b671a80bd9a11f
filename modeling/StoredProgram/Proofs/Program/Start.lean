import StoredProgram.Proofs.Loading.Contents
import StoredProgram.Proofs.Machine.Dispatch
import StoredProgram.Proofs.Machine.View
import StoredProgram.Proofs.Session.Run

/-! How a loaded program begins, by itself and in a session, and when a run of a session without
breakpoints halts it. -/

namespace StoredProgram

structure Machine.Begins (m : Machine) (v : View) : Prop where
  halted : m.halted = false
  phase : m.phase = .idle
  view : m.view = v

namespace Machine
variable {m m' : Machine} {v w : View} {n : Nat}

namespace Begins

theorem exists_steps (h : m.Begins v) (hl : View.Leads n v w) :
    ∃ m', m.steps (3 * n + 1) = .ok m' ∧ m'.Shows w := by
  have hs : m.startCycle.Shows v := ⟨h.halted, rfl, h.view⟩
  obtain ⟨m', hm, hw⟩ := hs.exists_steps hl
  exact ⟨m', (steps_succ_of_ok (step_of_phase_idle h.halted h.phase)).trans hm, hw⟩

theorem not_halted_before (h : m.Begins v) (hl : View.Leads n v w) {j : Nat} (hj : j < 3 * n + 4) :
    ∃ m', m.steps j = .ok m' ∧ m'.halted = false := by
  obtain ⟨m₁, hm₁, hs⟩ := h.exists_steps hl
  have h2 : m.steps (3 * n + 1 + 2) = .ok m₁.fetch.decode := by
    rw [steps_add, hm₁]
    exact Isa.steps_two hs.halted hs.phase
  have hh := Isa.halted_fetch_decode hs.halted hs.phase
  exact not_halted_of_steps (Nat.le_of_lt_succ hj) h2 hh

theorem exists_halted (h : m.Begins v) (hl : View.Leads n v w) (ho : w.operation? = some .halt)
    (hu : ¬ Numeral.Unwritable w.acc) :
    ∃ m', m.steps (3 * n + 4) = .ok m' ∧ m'.halted = true ∧ m'.view = w ∧
      m'.output.getLast? = some (haltMessage (Numeral.text w.acc)) := by
  obtain ⟨m₁, hm₁, hs⟩ := h.exists_steps hl
  obtain ⟨m', hm', hh⟩ := hs.exists_halted ho hu
  refine ⟨m', ?_, hh⟩
  rw [show 3 * n + 4 = 3 * n + 1 + 3 from rfl, steps_add, hm₁]
  exact hm'

theorem never_halted (h : m.Begins v) (hl : ∀ n, ∃ k w, n ≤ k ∧ View.Leads k v w) (j : Nat) :
    ∃ m', m.steps j = .ok m' ∧ m'.halted = false := by
  obtain ⟨k, w, hk, hl⟩ := hl j
  exact h.not_halted_before hl (by omega)

end Begins
end Machine

def Assembly.assembled (source : String) : Except Numeral.Error (List Instruction × List Problem) :=
  (read source).map fun program => (program.map Statement.instruction, problems program)

namespace Loading
variable {source : String} {data : DataSetup} {code : List Instruction}
  {entries : List (Int × Int)} {size : Int}

def content? (size : Int) (code : List Instruction) (entries : List (Int × Int)) :
    Int → Option Content :=
  (Memory.ofContents size.toNat (contentAt code entries)).read?

theorem exists_begins_load (hs : 0 < size) (code : List Instruction)
    (he : data.entries = .ok entries) :
    ∃ m log, load size code data = .ok (m, log) ∧ m.Begins ⟨0, 0, content? size code entries⟩ :=
  ⟨_, _, load_eq hs code he, rfl, rfl, rfl⟩

theorem exists_begins (hs : 0 < size) (hr : Assembly.assembled source = .ok (code, []))
    (he : data.entries = .ok entries) :
    ∃ m log, loadSource size source data = .ok ⟨some m, [], log⟩ ∧
      m.Begins ⟨0, 0, content? size code entries⟩ := by
  obtain ⟨program, hr, hp⟩ := Except.map_eq_ok_iff.mp hr
  obtain ⟨hi, hp⟩ := Prod.mk.inj hp
  obtain ⟨m, log, hl, hb⟩ := exists_begins_load hs code he
  refine ⟨m, log, ?_, hb⟩
  simp only [loadSource, hr, hp, Except.mapError, Except.ok_bind]
  rw [hi, hl]
  rfl

theorem holds_content? (hc : code.length ≤ 10) (hs : code.length ≤ size)
    (he : ∀ e ∈ entries, e.1 < 0 ∨ code.length ≤ e.1) :
    View.Holds code (content? size code entries) := by
  intro k i hk
  have hl : k < code.length := (List.getElem?_eq_some_iff.mp hk).1
  have hn : ∀ e ∈ entries, e.1 ≠ k := fun e hm => by
    have := he e hm
    omega
  rw [content?, Memory.read?_ofContents (by omega), contentAt_of_getElem? (by omega) hk hn]

theorem content?_of_data {k : Nat} (hs : k < size) (hc : min 10 code.length ≤ k) :
    content? size code entries k = some (.number ((last? entries k).getD 0)) := by
  rw [content?, Memory.read?_ofContents (by omega), contentAt, dif_neg (Nat.not_lt.mpr hc)]
  cases last? entries (k : Int) <;> rfl

end Loading

namespace Session
variable {s : Session} {m : Machine} {v : View} {source : String} {data : DataSetup} {log : Log}

theorem loadSource_of_machine
    (h : Loading.loadSource s.settings.memorySize source data = .ok ⟨some m, [], log⟩) :
    s.loadSource source data = .ok (s.replace m, log, []) := by
  rw [loadSource, h]
  rfl

theorem begins_started (s : Session) (h : m.Begins v) : (s.replace m).started.Begins v :=
  ⟨h.halted, h.phase, h.view⟩

theorem halted_of_stopsAt {m : Machine} {k : Nat} (h : StopsAt [] m k) :
    ∃ m', m.steps k = .ok m' ∧ m'.halted = true := by
  obtain ⟨i, before, after, rfl, hb, ha, hs⟩ := h
  refine ⟨after, ?_, hs.resolve_right Bool.false_ne_true⟩
  rw [Machine.steps_succ_last, hb]
  exact ha

theorem halted_run_iff (hb : s.breakpoints = []) (hh : s.machine.halted = false)
    (h : ∀ j, ∃ m, s.started.steps j = .ok m) (limit : Option Int) :
    (s.run limit).session.machine.halted = true ↔
      ∃ j ≤ s.stepLimit limit, ∃ m, s.started.steps j = .ok m ∧ m.halted = true := by
  obtain ⟨k, hk, hl⟩ :=
    runFor_leaves (s := { s with machine := s.started }) 0 (s.stepLimit limit) rfl hh
  obtain ⟨m, hm⟩ := h k
  obtain ⟨ms, log, _, hr, _⟩ := hl.ok m hm
  have hrun : (s.run limit).session.machine.halted = m.halted := by
    rw [run, setRunning_of_not_halted hh]
    exact congrArg (fun p : Progress => p.session.machine.halted) hr
  rw [hrun]
  constructor
  · intro hmh
    exact ⟨k, hk.le, m, hm, hmh⟩
  · rintro ⟨j, hj, m', hm', hh'⟩
    rcases Nat.lt_or_ge k j with hlt | hle
    · -- before its limit a run stops only for a halt
      have hs : StopsAt [] s.started k := hb ▸ hk.last (Nat.lt_of_lt_of_le hlt hj)
      obtain ⟨m'', hm'', hh''⟩ := halted_of_stopsAt hs
      rwa [← Except.ok.inj (hm''.symm.trans hm)]
    · obtain ⟨d, rfl⟩ := Nat.exists_eq_add_of_le hle
      have hs : s.started.steps (j + d) = .ok m' := by
        rw [Machine.steps_add, hm']
        exact Machine.steps_of_halted hh' d
      rwa [← Except.ok.inj (hs.symm.trans hm)]

end Session
end StoredProgram
