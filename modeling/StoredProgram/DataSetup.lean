import StoredProgram.Fault
import StoredProgram.Value

/-! Initial data of a program: addresses and values, given as a list of pairs or as a table, in any
form that can be taken for two integers. -/

namespace StoredProgram

inductive DataSetup where
  | items (items : List Value)
  | table (entries : List (Value × Value))

namespace DataSetup

def ofPairs (pairs : List (Int × Int)) : DataSetup :=
  .items (pairs.map fun p => .list [.int p.1, .int p.2])

def pair (item : Value) : Except Fault (Value × Value) := do
  match ← item.elements with
  | [a, v] => .ok (a, v)
  | [] => .error (.tooFewItems 0)
  | [_] => .error (.tooFewItems 1)
  | _ => .error .tooManyItems

def readText (ps : List Text.Point) : Except Fault Int := (Numeral.readDecimal ps).mapError .numeral

def ofByte (b : UInt8) : Text.Point :=
  .char (if b < 0x80 then Char.ofNat b.toNat else '\ufffd')

def readBytes (bs : List UInt8) : Except Fault Int :=
  (Numeral.readDecimal (bs.map ofByte)).mapError fun
    | .malformed .. => .malformedBytes bs
    | e => .numeral e

def integer : Value → Except Fault Int
  | .bool b => .ok (if b then 1 else 0)
  | .int n => .ok n
  | .float (.finite s m e) => .ok (Binary64.truncate s m e)
  | .float (.infinite _) => .error .infinityAsInteger
  | .float .nan => .error .nanAsInteger
  | .text s => readText (Text.points s.toList)
  | .points ps => readText ps
  | .bytes bs => readBytes bs
  | _ => .error .wrongKind

def entry (p : Value × Value) : Except Fault (Int × Int) := do
  let a ← integer p.1
  let v ← integer p.2
  return (a, v)

def entries : DataSetup → Except Fault (List (Int × Int))
  | .items xs => xs.mapM fun x => pair x >>= entry
  | .table es => es.mapM entry

end DataSetup

end StoredProgram
