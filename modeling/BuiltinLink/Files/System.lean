import BuiltinLink.Files.Failure
import BuiltinLink.Files.Path

/-!
Reading files. Which paths can be read, what they hold and why a read fails is the system's matter
and left open: files are known only as states of a system that reads.
-/

namespace BuiltinLink

open Text

/-- A system with files, on its states `σ`. -/
class FileSystem (σ : Type) where
  read : σ → Path → Except FileError Bytes

/-- The contents of a file that holds a text. -/
def FileSystem.readText {σ : Type} [FileSystem σ] (files : σ) (p : Path) :
    Except FileError String := do
  match decode? (← read files p) with
  | some s => return String.ofList s
  | none => throw .notText

end BuiltinLink
