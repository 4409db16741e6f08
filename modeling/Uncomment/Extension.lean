import Uncomment.Path.Basic
import Uncomment.Text.Blank

namespace Uncomment

namespace Extension

/-! Which files are selected by their extension. -/

def defaults : List Text :=
  ["rs", "c", "h", "cpp", "hpp", "cc", "js", "ts", "java", "go", "cs", "swift",
    "kt"].map String.toList

def normalize (value : Text) : Text :=
  (value.trim.dropWhile (· == '.')).map Char.toLower

example : normalize " ..Rs ".toList = "rs".toList := by decide +kernel

def select? (values : List Text) : Option (List Text) :=
  if values.isEmpty then
    some defaults
  else
    let wanted := (values.map normalize).filter (!·.isEmpty)
    if wanted.isEmpty then none else some wanted

def accepts (wanted : List Text) (path : Path) : Bool :=
  match path.extension?.bind Utf8.decode? with
  | some extension => wanted.contains (extension.map Char.toLower)
  | none => false

end Extension

end Uncomment
