import StoredProgram.Settings.Reading
import StoredProgram.Text.Stretch
import StoredProgram.Yaml.Value

/-! Settings from the text of a document or from the bytes of a file. A file is read only as far as
the document is understood, so that of several faults in it an early one is found first. -/

namespace StoredProgram.Settings

open Text (File)

def readText (text : String) : Except Fault Settings := do readDocument (← Yaml.readText text)

def stretch : Nat := 4096

def readStretch (f : File) : Option (List Char × File) := f.read stretch (f.bytes.length + 3)

def sourceFrom (f : File) : Nat → Yaml.Source
  | 0 => { text := [] }
  | fuel + 1 =>
    match readStretch f with
    | none => { text := [], fault := some .encoding }
    | some ([], _) => { text := [] }
    | some (cs, g) =>
      if cs.all Yaml.isPermitted then
        let s := sourceFrom g fuel
        { s with text := cs ++ s.text }
      else { text := [], fault := some .document }

/-- The first two stretches are read before anything else. -/
def source (bytes : List UInt8) : Except Fault Yaml.Source := do
  let some (first, f) := readStretch { bytes } | throw .encoding
  let some (second, g) := readStretch f | throw .encoding
  let opening := first ++ second
  if opening.all Yaml.isPermitted then
    let s := sourceFrom g (bytes.length + 1)
    return { s with text := opening ++ s.text }
  else throw .document

def readBytes : Option ByteArray → Except Fault Settings
  | none => .error .noSuchFile
  | some bytes => do readDocument (← Yaml.read (← source bytes.data.toList))

end StoredProgram.Settings
