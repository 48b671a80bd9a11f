import StoredProgram.Proofs.Loading

/-! Which initial data can be taken for addresses and values. An item that cannot turns down the
whole, wherever it stands. -/

namespace StoredProgram

def Value.Integral : Value → Prop
  | .bool _ | .int _ | .float (.finite ..) => True
  | .text s => ∃ n, Numeral.readDecimal (Text.points s.toList) = .ok n
  | .points ps => ∃ n, Numeral.readDecimal ps = .ok n
  | .bytes bs => ∃ n, Numeral.readDecimal (bs.map DataSetup.ofByte) = .ok n
  | _ => False

namespace DataSetup
variable {data : DataSetup} {v : Value} {e : Value × Value}

def Fits : DataSetup → Prop
  | .items xs => ∀ x ∈ xs, ∃ a v, x.elements = .ok [a, v] ∧ a.Integral ∧ v.Integral
  | .table es => ∀ e ∈ es, e.1.Integral ∧ e.2.Integral

theorem integer_ok_iff : (∃ n, integer v = .ok n) ↔ v.Integral := by
  cases v with
  | bool b => exact iff_of_true ⟨_, rfl⟩ trivial
  | int n => exact iff_of_true ⟨n, rfl⟩ trivial
  | float x =>
    cases x with
    | finite s m e => exact iff_of_true ⟨_, rfl⟩ trivial
    | infinite s => exact iff_of_false nofun id
    | nan => exact iff_of_false nofun id
  | text s => exact exists_congr fun n => Except.mapError_eq_ok_iff
  | points ps => exact exists_congr fun n => Except.mapError_eq_ok_iff
  | bytes bs => exact exists_congr fun n => Except.mapError_eq_ok_iff
  | _ => exact iff_of_false nofun id

theorem entry_ok_iff : (∃ p, entry e = .ok p) ↔ e.1.Integral ∧ e.2.Integral := by
  rw [← integer_ok_iff, ← integer_ok_iff]
  constructor
  · rintro ⟨p, h⟩
    obtain ⟨a, ha, h⟩ := Except.bind_eq_ok_iff.mp h
    obtain ⟨n, hn, _⟩ := Except.bind_eq_ok_iff.mp h
    exact ⟨⟨a, ha⟩, n, hn⟩
  · rintro ⟨⟨a, ha⟩, n, hn⟩
    refine ⟨(a, n), ?_⟩
    rw [entry, ha, hn]
    rfl

theorem pair_eq_ok_iff : pair v = .ok e ↔ v.elements = .ok [e.1, e.2] := by
  unfold pair
  rw [Except.bind_eq_ok_iff]
  constructor
  · rintro ⟨xs, hx, h⟩
    rw [hx]
    match xs, h with
    | [a, b], h =>
      obtain rfl := Except.ok.inj h
      rfl
  · intro h
    exact ⟨_, h, rfl⟩

theorem entries_ok_iff : (∃ es, data.entries = .ok es) ↔ data.Fits := by
  cases data with
  | items xs =>
    refine Except.mapM_ok_iff.trans (forall₂_congr fun x _ => ?_)
    constructor
    · rintro ⟨p, h⟩
      obtain ⟨⟨a, v⟩, hx, he⟩ := Except.bind_eq_ok_iff.mp h
      exact ⟨a, v, pair_eq_ok_iff.mp hx, entry_ok_iff.mp ⟨p, he⟩⟩
    · rintro ⟨a, v, hx, hi⟩
      obtain ⟨p, he⟩ := entry_ok_iff (e := (a, v)).mpr hi
      exact ⟨p, Except.bind_eq_ok_iff.mpr ⟨_, pair_eq_ok_iff.mpr hx, he⟩⟩
  | table es => exact Except.mapM_ok_iff.trans (forall₂_congr fun e _ => entry_ok_iff)

theorem fits_ofPairs (pairs : List (Int × Int)) : (ofPairs pairs).Fits := by
  intro x hx
  obtain ⟨p, _, rfl⟩ := List.mem_map.mp hx
  exact ⟨.int p.1, .int p.2, rfl, trivial, trivial⟩

end DataSetup

namespace Loading

theorem load_ok_iff {size : Int} (hs : 0 < size) (program : List Instruction) (data : DataSetup) :
    (∃ r, load size program data = .ok r) ↔ data.Fits := by
  rw [← DataSetup.entries_ok_iff]
  constructor
  · rintro ⟨⟨m, log⟩, h⟩
    obtain ⟨es, _, he, _⟩ := load_ok h
    exact ⟨es, he⟩
  · rintro ⟨es, he⟩
    rw [load, Machine.ofSize_of_pos hs, he]
    exact ⟨_, rfl⟩

end Loading

end StoredProgram
