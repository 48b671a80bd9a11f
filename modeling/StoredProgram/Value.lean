import StoredProgram.Binary64
import StoredProgram.Calendar
import StoredProgram.Fault

/-! Decoded data of any shape: what a document, a program's fields or a setup table may hold.
Truth values count as the integers 1 and 0 wherever a number is compared or expected. A list or a
map may contain itself; it is then named, and its name stands for it within. -/

namespace StoredProgram

open Text (Point points)

inductive Value where
  | null
  | bool (b : Bool)
  | int (n : Int)
  | float (x : Binary64)
  | text (s : String)
  /-- A text that is no string. -/
  | points (ps : List Point)
  | bytes (bs : List UInt8)
  | list (items : List Value)
  | pair (first second : Value)
  | set (items : List Value)
  | map (entries : List (Value × Value))
  | day (d : Calendar.Day)
  | moment (t : Calendar.Moment)
  | named (name : Nat) (v : Value)
  | again (name : Nat)

namespace Value

def ofPoints (ps : List Point) : Value :=
  if ps.all Point.isChar then .text (String.ofList (Text.chars ps)) else .points ps

def int? : Value → Option Int
  | .bool b => some (if b then 1 else 0)
  | .int n => some n
  | _ => none

/-- Null, false, zero and whatever is empty. -/
def isEmpty : Value → Bool
  | .null => true
  | .bool b => !b
  | .int n => n = 0
  | .float x => x.isZero
  | .text s => s.isEmpty
  | .points ps => ps.isEmpty
  | .bytes bs => bs.isEmpty
  | .list xs | .set xs => xs.isEmpty
  | .map es => es.isEmpty
  | .pair .. | .day _ | .moment _ | .named .. | .again _ => false

mutual

def bind (name : Nat) (w : Value) : Value → Value
  | .again n => if n = name then w else .again n
  | .named n v => if n = name then .named n v else .named n (bind name w v)
  | .list xs => .list (bindAll name w xs)
  | .pair a b => .pair (bind name w a) (bind name w b)
  | .map es => .map (bindEntries name w es)
  | v => v

def bindAll (name : Nat) (w : Value) : List Value → List Value
  | [] => []
  | x :: xs => bind name w x :: bindAll name w xs

def bindEntries (name : Nat) (w : Value) : List (Value × Value) → List (Value × Value)
  | [] => []
  | (k, v) :: es => (bind name w k, bind name w v) :: bindEntries name w es

end

/-- A named list or map as one whose parts hold it whole. -/
def unfold : Value → Value
  | .named n v => bind n (.named n v) v
  | v => v

def atomsEqual : Value → Value → Bool
  | .null, .null => true
  | .text s, .text t => s = t
  | .points ps, .points qs => ps = qs
  | .bytes bs, .bytes cs => bs = cs
  | .day d, .day e => d = e
  | .moment t, .moment u => t.same u
  | .float x, .float y => x.equal y
  | .float x, v | v, .float x => (v.int?.map x.equalsInt).getD false
  | v, w => match v.int?, w.int? with
    | some n, some m => n = m
    | _, _ => false

mutual

/-- Lists are equal item by item, maps as sets of entries. -/
def equal : Value → Value → Bool
  | .list xs, .list ys => listsEqual xs ys
  | .pair a b, .pair c d => equal a c && equal b d
  | .set xs, .set ys => xs.length = ys.length && itemsAmong xs ys
  | .map es, .map fs => es.length = fs.length && entriesAmong es fs
  | v, w => atomsEqual v w

def listsEqual : List Value → List Value → Bool
  | [], [] => true
  | x :: xs, y :: ys => equal x y && listsEqual xs ys
  | _, _ => false

def itemsAmong : List Value → List Value → Bool
  | [], _ => true
  | x :: xs, ys => ys.any (fun y => equal x y) && itemsAmong xs ys

def entriesAmong : List (Value × Value) → List (Value × Value) → Bool
  | [], _ => true
  | (k, v) :: es, fs => fs.any (fun f => equal k f.1 && equal v f.2) && entriesAmong es fs

end

def insert (k v : Value) : List (Value × Value) → List (Value × Value)
  | [] => [(k, v)]
  | (l, w) :: es => if equal k l then (l, v) :: es else (l, w) :: insert k v es

def ofEntries (es : List (Value × Value)) : Value :=
  .map (es.foldl (fun m e => insert e.1 e.2 m) [])

def lookup? (key : String) (es : List (Value × Value)) : Option Value :=
  (es.find? fun e => equal (.text key) e.1).map (·.2)

/-- What a loop over a value runs through: the items of a list, the characters of a text, the keys
of a map. -/
def elements (v : Value) : Except Fault (List Value) :=
  match v.unfold with
  | .list xs | .set xs => .ok xs
  | .pair a b => .ok [a, b]
  | .text s => .ok (s.toList.map fun c => .text (String.singleton c))
  | .points ps => .ok (ps.map fun p => .ofPoints [p])
  | .bytes bs => .ok (bs.map fun b => .int b.toNat)
  | .map es => .ok (es.map (·.1))
  | _ => .error .wrongKind

end Value

end StoredProgram
