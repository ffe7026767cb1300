import BuiltinLink.Library.Key
import BuiltinLink.Text.Utf8

/-!
Library images and how they are encoded.
-/

namespace BuiltinLink

open Text

/-- The encodings of an image. -/
inductive ImageFormat where
  | bitcode
  | text
deriving DecidableEq, Repr

instance : Vocabulary ImageFormat where
  members := [.bitcode, .text]
  name
    | .bitcode => "bitcode"
    | .text => "text"
  mem_members a := by cases a <;> decide
  name_injective a b := by cases a <;> cases b <;> decide

namespace ImageFormat

/-- The four bytes that a raw bitcode image begins with. -/
def rawMagic : Bytes := [0x42, 0x43, 0xC0, 0xDE]

/-- The four bytes that a wrapped bitcode image begins with. -/
def wrapperMagic : Bytes := [0xDE, 0xC0, 0x17, 0x0B]

/-- The encoding of an image: what does not begin as bitcode is text. -/
def detect (image : Bytes) : ImageFormat :=
  if image.take 4 = rawMagic ∨ image.take 4 = wrapperMagic then bitcode else text

end ImageFormat

/-- A library that has been loaded. -/
structure Library where
  key : LibraryKey
  image : Bytes
deriving DecidableEq, Repr

namespace Library

def name (l : Library) : String :=
  l.key.libraryName

def format (l : Library) : ImageFormat :=
  .detect l.image

end Library

end BuiltinLink
