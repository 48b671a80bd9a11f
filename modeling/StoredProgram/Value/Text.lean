import StoredProgram.Binary64.Text
import StoredProgram.Text.Quoted
import StoredProgram.Value

/-! Text of values. A text by itself is shown as it is, inside a list or a map it is quoted. An
integer beyond the limit of decimal text cannot be shown, nor can what stands too deep. -/

namespace StoredProgram.Value

def quotedText (ps : List Text.Point) : String := String.ofList (Text.quoted ps)

def bracketed (left : String) (items : List String) (right : String) : String :=
  left ++ ", ".intercalate items ++ right

def ellipsis : Value → String
  | .list _ => "[...]"
  | _ => "\x7b...\x7d"

/-- No value is shown that stands within so many others. -/
def depthLimit : Nat := 990

mutual

/-- The names are those of the lists and maps around, with what stands for these, and the number is
how much deeper values may stand. The items of a set are shown as those of a list within it. -/
def literalWithin (names : List (Nat × String)) : Nat → Value → Except Fault String
  | 0, _ => .error .nesting
  | _ + 1, .null => .ok "None"
  | _ + 1, .bool b => .ok (if b then "True" else "False")
  | _ + 1, .int n => (Numeral.write n).mapError .numeral
  | _ + 1, .float x => .ok x.text
  | _ + 1, .text s => .ok (quotedText (Text.points s.toList))
  | _ + 1, .points ps => .ok (quotedText ps)
  | _ + 1, .bytes bs => .ok (String.ofList (Text.quotedBytes bs))
  | depth + 1, .list xs => return bracketed "[" (← literals names depth xs) "]"
  | depth + 1, .pair a b =>
    return bracketed "(" [← literalWithin names depth a, ← literalWithin names depth b] ")"
  | _ + 1, .set [] => .ok "set()"
  | depth + 1, .set (x :: xs) => do
    let first ← literalWithin names (depth - 1) x
    return bracketed "\x7b" (first :: (← literals names (depth - 1) xs)) "\x7d"
  | depth + 1, .map es => return bracketed "\x7b" (← entryLiterals names depth es) "\x7d"
  | _ + 1, .day d => .ok d.call
  | _ + 1, .moment t => .ok t.call
  | depth + 1, .named n v =>
    match names.lookup n with
    | some shown => .ok shown
    | none => literalWithin ((n, ellipsis v) :: names) (depth + 1) v
  | _ + 1, .again n => .ok ((names.lookup n).getD "...")

def literals (names : List (Nat × String)) (depth : Nat) : List Value → Except Fault (List String)
  | [] => .ok []
  | x :: xs => return (← literalWithin names depth x) :: (← literals names depth xs)

def entryLiterals (names : List (Nat × String)) (depth : Nat) :
    List (Value × Value) → Except Fault (List String)
  | [] => .ok []
  | (k, v) :: es => do
    let key ← literalWithin names depth k
    let value ← literalWithin names depth v
    return (key ++ ": " ++ value) :: (← entryLiterals names depth es)

end

def literal (v : Value) : Except Fault String := v.literalWithin [] depthLimit

def display : Value → Except Fault String
  | .text s => .ok s
  | .points ps => .ok (String.ofList (Text.chars ps))
  | .day d => .ok d.text
  | .moment t => .ok t.text
  | v => literal v

def kindName : Value → String
  | .null => "NoneType"
  | .bool _ => "bool"
  | .int _ => "int"
  | .float _ => "float"
  | .text _ | .points _ => "str"
  | .bytes _ => "bytes"
  | .list _ => "list"
  | .pair .. => "tuple"
  | .set _ => "set"
  | .map _ => "dict"
  | .day _ => "date"
  | .moment _ => "datetime"
  | .named _ v => v.kindName
  | .again _ => "dict"

end StoredProgram.Value
