import Mathlib.Order.Bounds.Basic
import Mathlib.Order.Lattice.Nat
import StoredProgram.Program
import StoredProgram.Proofs.Program.Start

/-! The counter takes the step from the count until the count is zero. It halts just when the count
is a positive multiple of the step, after three instructions for each pass. -/

namespace StoredProgram.Program
open View

def counterCode : List Instruction :=
  [⟨"LOAD", some 10⟩, ⟨"SUB", some 11⟩, ⟨"STORE", some 10⟩, ⟨"JNZ", some 1⟩, ⟨"HALT", none⟩]

structure Counts (content : Int → Option Content) (count step : Int) : Prop where
  code : ∀ (k : Nat) i, counterCode[k]? = some i → content k = some (.instruction i)
  count : content 10 = some (.number count)
  step : content 11 = some (.number step)

def zeroAfter (count step : Int) : Set Nat := {k | 1 ≤ k ∧ count = k * step}

section View
variable {content : Int → Option Content} {n d acc : Int}

theorem Counts.put (h : Counts content n d) (n' : Int) : Counts (View.put content 10 n') n' d where
  code := Holds.put h.code (.inr (by decide))
  count := put_self ⟨_, h.count⟩
  step := (put_of_ne (by decide)).trans h.step

theorem Counts.first (h : Counts content n d) (acc : Int) :
    Leads 1 ⟨0, acc, content⟩ ⟨1, n, content⟩ := by
  have hv : Content.value (content 10) = n := by rw [h.count, Content.value]
  rw [← hv]
  exact Leads.one (o := .load 10) (h.code 0 _ rfl) (by decide) nofun

theorem Counts.pass (h : Counts content n d) :
    Leads 3 ⟨1, n, content⟩
      ⟨if n - d ≠ 0 then 1 else 4, n - d, View.put content 10 (n - d)⟩ := by
  have h1 : Leads 1 ⟨1, n, content⟩ ⟨2, n - d, content⟩ := by
    have hv : Content.value (content 11) = d := by rw [h.step, Content.value]
    rw [← hv]
    exact Leads.one (o := .sub 11) (h.code 1 _ rfl) (by decide) nofun
  have h2 : Leads 1 ⟨2, n - d, content⟩ ⟨3, n - d, View.put content 10 (n - d)⟩ :=
    Leads.one (o := .store 10) (h.code 2 _ rfl) (by decide) nofun
  have h3 : Leads 1 ⟨3, n - d, View.put content 10 (n - d)⟩
      ⟨if n - d ≠ 0 then 1 else 4, n - d, View.put content 10 (n - d)⟩ :=
    Leads.one (o := .jumpNonzero 1) ((h.put (n - d)).code 3 _ rfl) (by decide) nofun
  exact (h1.trans h2).trans h3

theorem sub_mul_succ (n d : Int) (i : Nat) : n - i * d - d = n - (i + 1 : Nat) * d := by
  rw [Int.natCast_succ, Int.add_mul, Int.one_mul]
  omega

theorem Counts.passes (h : Counts content n d) {i : Nat} (hi : ∀ j ≤ i, j ∉ zeroAfter n d) :
    Leads (3 * i) ⟨1, n, content⟩ ⟨1, n - i * d, View.put content 10 (n - i * d)⟩ := by
  induction i with
  | zero =>
    rw [Int.natCast_zero, Int.zero_mul, Int.sub_zero, put_of_eq h.count]
    exact .refl
  | succ i ih =>
    have hp := (h.put (n - i * d)).pass
    have hz : n - (i + 1 : Nat) * d ≠ 0 := fun hz =>
      hi (i + 1) (Nat.le_refl _) ⟨Nat.succ_pos i, by omega⟩
    rw [sub_mul_succ, put_put, if_pos hz] at hp
    exact (ih fun j hj => hi j (Nat.le_succ_of_le hj)).trans hp

theorem Counts.last (h : Counts content n d) {k : Nat} (hk : IsLeast (zeroAfter n d) k) :
    Leads (3 * k) ⟨1, n, content⟩ ⟨4, 0, View.put content 10 0⟩ := by
  obtain ⟨hpos, hn⟩ := hk.1
  obtain ⟨i, rfl⟩ := Nat.exists_eq_succ_of_ne_zero (Nat.ne_of_gt hpos)
  have hi := h.passes (i := i) fun j hj hm => Nat.not_succ_le_self i ((hk.2 hm).trans hj)
  have hp := (h.put (n - i * d)).pass
  have hz : n - (i + 1 : Nat) * d = 0 := Int.sub_eq_zero.mpr hn
  rw [sub_mul_succ, put_put, hz, if_neg (not_not_intro rfl)] at hp
  exact hi.trans hp

end View

section Machine
variable {m : Machine} {content : Int → Option Content} {n d acc : Int} {i j k : Nat}

theorem exists_steps_pass (hb : m.Begins ⟨0, acc, content⟩) (h : Counts content n d)
    (hi : ∀ j ≤ i, j ∉ zeroAfter n d) :
    ∃ m', m.steps (9 * i + 4) = .ok m' ∧
      m'.Shows ⟨1, n - i * d, View.put content 10 (n - i * d)⟩ := by
  have hs := hb.exists_steps ((h.first acc).trans (h.passes hi))
  rwa [show 3 * (1 + 3 * i) + 1 = 9 * i + 4 by omega] at hs

theorem exists_steps_last (hb : m.Begins ⟨0, acc, content⟩) (h : Counts content n d)
    (hk : IsLeast (zeroAfter n d) k) :
    ∃ m', m.steps (9 * k + 4) = .ok m' ∧ m'.Shows ⟨4, 0, View.put content 10 0⟩ := by
  have hs := hb.exists_steps ((h.first acc).trans (h.last hk))
  rwa [show 3 * (1 + 3 * k) + 1 = 9 * k + 4 by omega] at hs

theorem exists_steps_passed (hb : m.Begins ⟨0, acc, content⟩) (h : Counts content n d)
    (hk : IsLeast (zeroAfter n d) k) (hi : i ≤ k) :
    ∃ m', m.steps (9 * i + 4) = .ok m' ∧
      m'.Shows ⟨if i < k then 1 else 4, n - i * d, View.put content 10 (n - i * d)⟩ := by
  rcases Nat.lt_or_eq_of_le hi with hlt | rfl
  · rw [if_pos hlt]
    exact exists_steps_pass hb h fun j hj hz =>
      Nat.not_le_of_lt (Nat.lt_of_le_of_lt hj hlt) (hk.2 hz)
  · have hz : n - i * d = 0 := Int.sub_eq_zero.mpr hk.1.2
    rw [if_neg (Nat.lt_irrefl i), hz]
    exact exists_steps_last hb h hk

theorem Counts.operation?_last (h : Counts content n d) :
    (⟨4, 0, View.put content 10 0⟩ : View).operation? = some .halt :=
  (operation?_eq ((h.put 0).code 4 _ rfl)).trans rfl

theorem exists_steps_halted (hb : m.Begins ⟨0, acc, content⟩) (h : Counts content n d)
    (hk : IsLeast (zeroAfter n d) k) :
    ∃ m', m.steps (9 * k + 7) = .ok m' ∧ m'.halted = true ∧
      m'.view = ⟨4, 0, View.put content 10 0⟩ := by
  have hz : ¬ Numeral.Unwritable 0 := by decide +kernel
  obtain ⟨m', hm', hh, hv, _⟩ :=
    hb.exists_halted ((h.first acc).trans (h.last hk)) h.operation?_last hz
  rw [show 3 * (1 + 3 * k) + 4 = 9 * k + 7 by omega] at hm'
  exact ⟨m', hm', hh, hv⟩

theorem not_halted_before (hb : m.Begins ⟨0, acc, content⟩) (h : Counts content n d)
    (hk : IsLeast (zeroAfter n d) k) (hj : j < 9 * k + 7) :
    ∃ m', m.steps j = .ok m' ∧ m'.halted = false :=
  hb.not_halted_before ((h.first acc).trans (h.last hk)) (by omega)

theorem never_halted (hb : m.Begins ⟨0, acc, content⟩) (h : Counts content n d)
    (hn : ∀ k, k ∉ zeroAfter n d) (j : Nat) : ∃ m', m.steps j = .ok m' ∧ m'.halted = false :=
  hb.never_halted (fun i => ⟨_, _, by omega, (h.first acc).trans (h.passes (i := i) fun k _ => hn k)⟩) j

theorem exists_least (hk : k ∈ zeroAfter n d) : ∃ k, IsLeast (zeroAfter n d) k :=
  ⟨_, isLeast_csInf ⟨k, hk⟩⟩

theorem exists_steps (hb : m.Begins ⟨0, acc, content⟩) (h : Counts content n d) (j : Nat) :
    ∃ m', m.steps j = .ok m' ∧
      (m'.halted = true ↔ ∃ k, IsLeast (zeroAfter n d) k ∧ 9 * k + 7 ≤ j) := by
  by_cases hn : ∃ k, k ∈ zeroAfter n d
  · obtain ⟨k, hk⟩ := exists_least hn.choose_spec
    rcases Nat.lt_or_ge j (9 * k + 7) with hlt | hge
    · obtain ⟨m', hm', hh⟩ := not_halted_before hb h hk hlt
      refine ⟨m', hm', iff_of_false (Bool.eq_false_iff.mp hh) ?_⟩
      rintro ⟨k', hk', hle⟩
      obtain rfl := hk'.unique hk
      exact Nat.not_le_of_lt hlt hle
    · obtain ⟨m', hm', hh, _⟩ := exists_steps_halted hb h hk
      obtain ⟨e, rfl⟩ := Nat.exists_eq_add_of_le hge
      refine ⟨m', ?_, iff_of_true hh ⟨k, hk, hge⟩⟩
      rw [Machine.steps_add, hm']
      exact Machine.steps_of_halted hh e
  · obtain ⟨m', hm', hh⟩ := never_halted hb h (not_exists.mp hn) j
    exact ⟨m', hm', iff_of_false (Bool.eq_false_iff.mp hh) fun ⟨k, hk, _⟩ => hn ⟨k, hk.1⟩⟩

theorem halted_iff (hb : m.Begins ⟨0, acc, content⟩) (h : Counts content n d) (j : Nat) :
    (∃ i ≤ j, ∃ m', m.steps i = .ok m' ∧ m'.halted = true) ↔
      ∃ k, IsLeast (zeroAfter n d) k ∧ 9 * k + 7 ≤ j := by
  constructor
  · rintro ⟨i, hi, m', hm', hh⟩
    obtain ⟨m'', hm'', hh'⟩ := exists_steps hb h i
    obtain rfl := Except.ok.inj (hm'.symm.trans hm'')
    obtain ⟨k, hk, hle⟩ := hh'.mp hh
    exact ⟨k, hk, Nat.le_trans hle hi⟩
  · rintro ⟨k, hk, hle⟩
    obtain ⟨m', hm', hh, _⟩ := exists_steps_halted hb h hk
    exact ⟨_, hle, m', hm', hh⟩

theorem run_halted_iff {s : Session} (hbs : s.breakpoints = []) (hh : s.machine.halted = false)
    (hb : s.started.Begins ⟨0, acc, content⟩) (h : Counts content n d) (limit : Int) :
    (s.run (some limit)).session.machine.halted = true ↔
      ∃ k : Nat, IsLeast (zeroAfter n d) k ∧ 9 * k + 7 ≤ limit := by
  have hok : ∀ j, ∃ m, s.started.steps j = .ok m := fun j =>
    (exists_steps hb h j).imp fun _ => And.left
  rw [Session.halted_run_iff hbs hh hok, halted_iff hb h]
  refine exists_congr fun k => and_congr_right fun _ => ?_
  show 9 * k + 7 ≤ limit.toNat ↔ _
  omega

end Machine

section Load
variable {size n d : Int}

theorem exists_begins (hs : 12 ≤ size) (n d : Int) :
    ∃ code m content log, counter.source = .ok code ∧
      Loading.loadSource size code (.ofPairs [(10, n), (11, d)]) = .ok ⟨some m, [], log⟩ ∧
      m.Begins ⟨0, 0, content⟩ ∧ Counts content n d := by
  have hr : Assembly.assembled ("\n".intercalate counterLines) = .ok (counterCode, []) := by
    decide +kernel
  have he : (DataSetup.ofPairs [(10, n), (11, d)]).entries = .ok [(10, n), (11, d)] := rfl
  have hn : ∀ e ∈ [(10, n), (11, d)], e.1 < 0 ∨ (counterCode.length : Int) ≤ e.1 := by
    simp [counterCode]
  have hc : (counterCode.length : Int) ≤ size := le_trans (by decide) hs
  have h0 : 0 < size := by omega
  have h10 : ((10 : Nat) : Int) < size := by omega
  have h11 : ((11 : Nat) : Int) < size := by omega
  obtain ⟨m, log, hl, hb⟩ := Loading.exists_begins h0 hr he
  exact ⟨_, m, _, log, rfl, hl, hb, Loading.holds_content? (by decide) hc hn,
    Loading.content?_of_data h10 (by decide), Loading.content?_of_data h11 (by decide)⟩

end Load

/-- With any integers as count and step, the counter halts just when the count is a positive multiple
of the step, and then after nine steps for each pass and seven others, with nothing left. In every
other case it goes on forever. A run of a session without breakpoints halts it if its limit allows
for these steps. -/
theorem counter_halts_iff {size : Int} (hs : 12 ≤ size) (n d : Int) :
    ∃ code m₀ log, counter.source = .ok code ∧
      Loading.loadSource size code (.ofPairs [(10, n), (11, d)]) = .ok ⟨some m₀, [], log⟩ ∧
      ((∃ j m, m₀.steps j = .ok m ∧ m.halted = true) ↔ ∃ k : Nat, 1 ≤ k ∧ n = k * d) ∧
      (∀ k, IsLeast (zeroAfter n d) k →
        (∃ m, m₀.steps (9 * k + 7) = .ok m ∧ m.halted = true ∧ m.acc = 0 ∧ m.pc = 4 ∧
          m.memory.read? 10 = some (.number 0) ∧ m.memory.read? 11 = some (.number d)) ∧
        (∀ j < 9 * k + 7, ∃ m, m₀.steps j = .ok m ∧ m.halted = false) ∧
        ∀ i ≤ k, ∃ m, m₀.steps (9 * i + 4) = .ok m ∧ m.phase = .fetch ∧
          m.pc = (if i < k then 1 else 4) ∧
          m.memory.read? 10 = some (.number (n - i * d))) ∧
      ((¬ ∃ k : Nat, 1 ≤ k ∧ n = k * d) → ∀ j, ∃ m, m₀.steps j = .ok m ∧ m.halted = false) ∧
      ∀ s : Session, s.settings.memorySize = size → s.breakpoints = [] →
        ∃ s', s.loadSource code (.ofPairs [(10, n), (11, d)]) = .ok (s', log, []) ∧
          ∀ L : Int, (s'.run (some L)).session.machine.halted = true ↔
            ∃ k : Nat, IsLeast (zeroAfter n d) k ∧ 9 * k + 7 ≤ L := by
  obtain ⟨code, m₀, content, log, hsource, hl, hb, h⟩ := exists_begins hs n d
  refine ⟨code, m₀, log, hsource, hl, ?_, fun k hk => ⟨?_, ?_, ?_⟩, ?_, ?_⟩
  · constructor
    · rintro ⟨j, m, hm, hh⟩
      obtain ⟨k, hk, _⟩ := (halted_iff hb h j).mp ⟨j, Nat.le_refl j, m, hm, hh⟩
      exact ⟨k, hk.1⟩
    · rintro ⟨k, hk⟩
      obtain ⟨k, hk⟩ := exists_least hk
      obtain ⟨m, hm, hh, _⟩ := exists_steps_halted hb h hk
      exact ⟨_, m, hm, hh⟩
  · obtain ⟨m, hm, hh, hv⟩ := exists_steps_halted hb h hk
    have hr : m.memory.read? = View.put content 10 0 := congrArg View.content hv
    refine ⟨m, hm, hh, congrArg View.acc hv, congrArg View.pc hv, ?_, ?_⟩
    · rw [hr, (h.put 0).count]
    · rw [hr, (h.put 0).step]
  · exact fun j hj => not_halted_before hb h hk hj
  · intro i hi
    obtain ⟨m, hm, hs⟩ := exists_steps_passed hb h hk hi
    have hr : m.memory.read? = View.put content 10 (n - i * d) := congrArg View.content hs.view
    refine ⟨m, hm, hs.phase, congrArg View.pc hs.view, ?_⟩
    rw [hr, (h.put _).count]
  · exact fun hn => never_halted hb h (not_exists.mp hn)
  · rintro s rfl hbs
    refine ⟨s.replace m₀, Session.loadSource_of_machine hl, fun L => ?_⟩
    exact run_halted_iff (s := s.replace m₀) hbs hb.halted (s.begins_started hb) h L

theorem counter_halts_iff_catalog :
    (12 : Int) ≤ 20 ∧
    (∃ code m₀ log, counter.source = .ok code ∧
      Loading.loadSource 20 code (.ofPairs counter.memorySetup) = .ok ⟨some m₀, [], log⟩ ∧
      (∃ m, m₀.steps 52 = .ok m ∧ m.halted = true ∧ m.memory.read? 10 = some (.number 0)) ∧
      ∃ m, m₀.steps 51 = .ok m ∧ m.halted = false) ∧
    ∃ code m₀ log, counter.source = .ok code ∧
      Loading.loadSource 20 code (.ofPairs [(10, 3), (11, 2)]) = .ok ⟨some m₀, [], log⟩ ∧
      ∀ j, ∃ m, m₀.steps j = .ok m ∧ m.halted = false := by
  have hs : (12 : Int) ≤ 20 := by decide
  refine ⟨hs, ?_, ?_⟩
  · obtain ⟨code, m₀, log, hc, hl, _, hk, _⟩ := counter_halts_iff hs 5 1
    have h5 : IsLeast (zeroAfter 5 1) 5 :=
      ⟨⟨by decide, by decide⟩, fun k ⟨_, hn⟩ => by omega⟩
    obtain ⟨⟨m, hm, hh, _, _, hr, _⟩, hb, _⟩ := hk 5 h5
    exact ⟨code, m₀, log, hc, hl, ⟨m, hm, hh, hr⟩, hb 51 (by decide)⟩
  · obtain ⟨code, m₀, log, hc, hl, _, _, hn, _⟩ := counter_halts_iff hs 3 2
    exact ⟨code, m₀, log, hc, hl, hn fun ⟨k, _, h⟩ => by omega⟩

end StoredProgram.Program
