import Mathlib.Data.Nat.Fib.Basic
import StoredProgram.Program
import StoredProgram.Proofs.Program.StraightLine

/-! The Fibonacci program carries two numbers on by their sum, in straight-line code with a jump back
at its end. Each pass takes eight instructions and moves the recurrence on by one place, and the
program never halts. -/

namespace StoredProgram.Program
open View

def addAndShift : List Operation :=
  [.load 11, .add 10, .store 12, .load 11, .store 10, .load 12, .store 11]

def fibonacciCode : List Instruction :=
  addAndShift.map Operation.instruction ++ [(Operation.jump 0).instruction]

def recurrence (a b : Int) : Nat → Int
  | 0 => a
  | 1 => b
  | j + 2 => recurrence a b (j + 1) + recurrence a b j

structure Carries (content : Int → Option Content) (a b : Int) : Prop where
  code : Holds fibonacciCode content
  earlier : content 10 = some (.number a)
  later : content 11 = some (.number b)
  sum : ∃ c, content 12 = some c

theorem recurrence_zero_one (j : Nat) : recurrence 0 1 j = Nat.fib j := by
  induction j using Nat.twoStepInduction with
  | zero => rfl
  | one => rfl
  | more j h0 h1 =>
    have hs : recurrence 0 1 (j + 2) = recurrence 0 1 (j + 1) + recurrence 0 1 j := rfl
    rw [hs, h0, h1, Nat.fib_add_two, Int.natCast_add, Int.add_comm]

section View
variable {content : Int → Option Content} {a b acc : Int}

def shifted (content : Int → Option Content) (a b : Int) : Int → Option Content :=
  put (put (put content 12 (b + a)) 10 b) 11 (b + a)

theorem Carries.shifted_sum (h : Carries content a b) :
    shifted content a b 12 = some (.number (b + a)) := by
  have hs : put content 12 (b + a) 12 = some (.number (b + a)) := put_self h.sum
  rw [shifted, put_of_ne (by decide), put_of_ne (by decide), hs]

theorem Carries.shift (h : Carries content a b) : Carries (shifted content a b) b (b + a) where
  code := by
    apply Holds.put (Holds.put (Holds.put h.code _) _)
    all_goals exact .inr (by decide)
  earlier := by
    have hc : put content 12 (b + a) 10 = some (.number a) := (put_of_ne (by decide)).trans h.earlier
    exact (put_of_ne (by decide)).trans (put_self ⟨_, hc⟩)
  later := by
    have hc : put content 12 (b + a) 11 = some (.number b) := (put_of_ne (by decide)).trans h.later
    exact put_self ⟨_, (put_of_ne (by decide)).trans hc⟩
  sum := ⟨_, h.shifted_sum⟩

theorem Carries.foldl_addAndShift (h : Carries content a b) (acc : Int) :
    addAndShift.foldl View.act ⟨0, acc, content⟩ = ⟨7, b + a, shifted content a b⟩ := by
  have hlater : put content 12 (b + a) 11 = some (.number b) :=
    (put_of_ne (by decide)).trans h.later
  have hsum : put (put content 12 (b + a)) 10 b 12 = some (.number (b + a)) :=
    (put_of_ne (by decide)).trans (put_self h.sum)
  simp only [addAndShift, List.foldl_cons, List.foldl_nil, act, h.earlier, h.later, hlater, hsum,
    Content.value]
  rfl

theorem Carries.pass (h : Carries content a b) (acc : Int) :
    Leads 8 ⟨0, acc, content⟩ ⟨0, b + a, shifted content a b⟩ := by
  have hl : Leads 7 ⟨0, acc, content⟩ ⟨7, b + a, shifted content a b⟩ := by
    have hs : ∀ op ∈ addAndShift, op.Straight := by decide
    have hst : ∀ a : Int, .store a ∈ addAndShift → a < 0 ∨ fibonacciCode.length ≤ a := by
      simp [addAndShift, fibonacciCode]
    rw [← h.foldl_addAndShift acc]
    exact Holds.leads_foldl h.code rfl (List.prefix_append _ _) hs hst
  have hj : Leads 1 ⟨7, b + a, shifted content a b⟩ ⟨0, b + a, shifted content a b⟩ :=
    Leads.one (o := .jump 0) (h.shift.code 7 _ rfl) rfl nofun
  exact hl.trans hj

theorem Carries.passes (h : Carries content a b) (acc : Int) (j : Nat) :
    ∃ acc' content', Leads (8 * j) ⟨0, acc, content⟩ ⟨0, acc', content'⟩ ∧
      Carries content' (recurrence a b j) (recurrence a b (j + 1)) ∧
      (1 ≤ j → content' 12 = some (.number (recurrence a b (j + 1)))) := by
  induction j with
  | zero => exact ⟨acc, content, .refl, h, fun hj => absurd hj (by decide)⟩
  | succ j ih =>
    obtain ⟨acc', content', hl, hc, _⟩ := ih
    exact ⟨_, _, hl.trans (hc.pass acc'), hc.shift, fun _ => hc.shifted_sum⟩

end View

section Machine
variable {m : Machine} {content : Int → Option Content} {a b acc : Int}

theorem exists_steps_passes (hb : m.Begins ⟨0, acc, content⟩) (h : Carries content a b) (j : Nat) :
    ∃ m', m.steps (1 + 24 * j) = .ok m' ∧ m'.phase = .fetch ∧ m'.pc = 0 ∧
      m'.memory.read? 10 = some (.number (recurrence a b j)) ∧
      m'.memory.read? 11 = some (.number (recurrence a b (j + 1))) ∧
      (1 ≤ j → m'.memory.read? 12 = some (.number (recurrence a b (j + 1)))) := by
  obtain ⟨acc', content', hl, hc, hsum⟩ := h.passes acc j
  obtain ⟨m', hm, hs⟩ := hb.exists_steps hl
  have hr : m'.memory.read? = content' := congrArg View.content hs.view
  refine ⟨m', ?_, hs.phase, congrArg View.pc hs.view, ?_, ?_, ?_⟩
  · rw [show 1 + 24 * j = 3 * (8 * j) + 1 by omega]
    exact hm
  · rw [hr, hc.earlier]
  · rw [hr, hc.later]
  · rw [hr]
    exact hsum

theorem goes_on (hb : m.Begins ⟨0, acc, content⟩) (h : Carries content a b) (n : Nat) :
    ∃ m', m.steps n = .ok m' ∧ m'.halted = false := by
  refine hb.never_halted (fun j => ?_) n
  obtain ⟨acc', content', hl, _⟩ := h.passes acc j
  exact ⟨8 * j, _, by omega, hl⟩

end Machine

/-- Whatever the data, if they leave the code alone, the program carries on from the integers that
they have for its two cells, or from zero where they have none: after the first step and twenty-four
more for each pass it is back at its beginning with the next two numbers of the recurrence, and it
never halts. With the data of the catalog these are the Fibonacci numbers. -/
theorem fibonacci_recurs {size : Int} (hs : 13 ≤ size) {data : DataSetup}
    {entries : List (Int × Int)} (he : data.entries = .ok entries)
    (hdata : ∀ e ∈ entries, e.1 < 0 ∨ 8 ≤ e.1) {a b : Int}
    (ha : (Loading.last? entries 10).getD 0 = a) (hb : (Loading.last? entries 11).getD 0 = b) :
    ∃ code m₀ log, fibonacci.source = .ok code ∧
      Loading.loadSource size code data = .ok ⟨some m₀, [], log⟩ ∧
      (∀ j, ∃ m, m₀.steps (1 + 24 * j) = .ok m ∧ m.phase = .fetch ∧ m.pc = 0 ∧
        m.memory.read? 10 = some (.number (recurrence a b j)) ∧
        m.memory.read? 11 = some (.number (recurrence a b (j + 1))) ∧
        (1 ≤ j → m.memory.read? 12 = some (.number (recurrence a b (j + 1))))) ∧
      (∀ n, ∃ m, m₀.steps n = .ok m ∧ m.halted = false) ∧
      (data = .ofPairs fibonacci.memorySetup → ∀ j, recurrence a b j = Nat.fib j) := by
  have hr : Assembly.assembled ("\n".intercalate fibonacciLines) = .ok (fibonacciCode, []) := by
    decide +kernel
  have h0 : 0 < size := by omega
  have hc : (fibonacciCode.length : Int) ≤ size := le_trans (by decide) hs
  have h10 : ((10 : Nat) : Int) < size := by omega
  have h11 : ((11 : Nat) : Int) < size := by omega
  have h12 : ((12 : Nat) : Int) < size := by omega
  obtain ⟨m₀, log, hl, hbegins⟩ := Loading.exists_begins h0 hr he
  have h : Carries (Loading.content? size fibonacciCode entries) a b := by
    subst ha hb
    exact ⟨Loading.holds_content? (by decide) hc hdata, Loading.content?_of_data h10 (by decide),
      Loading.content?_of_data h11 (by decide), _, Loading.content?_of_data h12 (by decide)⟩
  refine ⟨_, m₀, log, rfl, hl, exists_steps_passes hbegins h, goes_on hbegins h, fun hcat => ?_⟩
  rw [hcat] at he
  obtain rfl : [(11, 1)] = entries := Except.ok.inj he
  obtain rfl : 0 = a := ha
  obtain rfl : 1 = b := hb
  exact recurrence_zero_one

theorem fibonacci_recurs_catalog :
    (13 : Int) ≤ 20 ∧
    (DataSetup.ofPairs fibonacci.memorySetup).entries = .ok [(11, 1)] ∧
    (∃ code m₀ log m, fibonacci.source = .ok code ∧
      Loading.loadSource 20 code (.ofPairs fibonacci.memorySetup) = .ok ⟨some m₀, [], log⟩ ∧
      m₀.steps 241 = .ok m ∧ m.memory.read? 10 = some (.number 55) ∧
      m.memory.read? 12 = some (.number 89)) ∧
    (DataSetup.table [(.int 12, .int 4), (.int 11, .int 7), (.int 10, .int (-9))]).entries =
      .ok [(12, 4), (11, 7), (10, -9)] ∧
    ∃ code m₀ log m, fibonacci.source = .ok code ∧
      Loading.loadSource 13 code (.table [(.int 12, .int 4), (.int 11, .int 7), (.int 10, .int (-9))])
        = .ok ⟨some m₀, [], log⟩ ∧
      m₀.steps 49 = .ok m ∧ m.memory.read? 10 = some (.number (-2)) ∧
      m.memory.read? 11 = some (.number 5) ∧ ∃ m, m₀.steps 1000 = .ok m ∧ m.halted = false := by
  have he : (DataSetup.ofPairs fibonacci.memorySetup).entries = .ok [(11, 1)] := rfl
  have he' : (DataSetup.table [(.int 12, .int 4), (.int 11, .int 7), (.int 10, .int (-9))]).entries =
      .ok [(12, 4), (11, 7), (10, -9)] := rfl
  have hs : (13 : Int) ≤ 20 := by decide
  refine ⟨hs, he, ?_, he', ?_⟩
  · obtain ⟨code, m₀, log, hc, hl, hj, _, hfib⟩ := fibonacci_recurs hs he (by decide) rfl rfl
    obtain ⟨m, hm, _, _, h10, _, h12⟩ := hj 10
    rw [hfib rfl] at h10 h12
    exact ⟨code, m₀, log, m, hc, hl, hm, h10, h12 (by decide)⟩
  · obtain ⟨code, m₀, log, hc, hl, hj, hn, _⟩ :=
      fibonacci_recurs (le_refl 13) he' (by decide) rfl rfl
    obtain ⟨m, hm, _, _, h10, h11, _⟩ := hj 2
    exact ⟨code, m₀, log, m, hc, hl, hm, h10, h11, hn 1000⟩

end StoredProgram.Program
