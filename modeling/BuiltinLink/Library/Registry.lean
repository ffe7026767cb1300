import BuiltinLink.Files.System
import BuiltinLink.Library.Image
import BuiltinLink.Link.Error

/-!
The registry of libraries. Each registration opens a slot; the current slot of a key is the one
opened last. The image of a slot is loaded when it is first asked for and kept; a load that fails
leaves the slot empty, so that the next request tries again.

A request has two parts that other requests and registrations may come between: the current slot of
the key is looked up, then the image of that slot is taken or loaded.
-/

namespace BuiltinLink

open Text

variable {σ : Type} [FileSystem σ]

/-- Where an image comes from. -/
inductive Source where
  | memory (image : Bytes)
  | file (path : Path)
deriving DecidableEq, Repr

namespace Source

/-- Reads the image. -/
def read (files : σ) : Source → Except (Path × FileError) Bytes
  | memory image => .ok image
  | file path => (FileSystem.read files path).mapError fun e => (path, e)

end Source

/-- A registration with the library that was loaded for it. -/
structure Slot where
  key : LibraryKey
  source : Source
  loaded : Option Library := none
deriving DecidableEq, Repr

namespace Slot

/-- Reads the library of a slot. -/
def read (files : σ) (s : Slot) : Except LinkError Library :=
  match s.source.read files with
  | .ok image => .ok ⟨s.key, image⟩
  | .error (path, e) => .error (.cause (.libraryIo s.key.libraryName path e))

end Slot

/-- The slots of a registry in the order of registration, and the number of images loaded so far. -/
structure Registry where
  slots : List Slot := []
  loads : Nat := 0
deriving DecidableEq, Repr

/-- A library together with the slot that holds it. Requests that find the same slot share the
library. -/
structure Resolved where
  slot : Nat
  library : Library
deriving DecidableEq, Repr

namespace Registry

def register (r : Registry) (key : LibraryKey) (source : Source) : Registry :=
  { r with slots := r.slots ++ [⟨key, source, none⟩] }

@[simp] theorem slots_register (r : Registry) (key : LibraryKey) (source : Source) :
    (r.register key source).slots = r.slots ++ [⟨key, source, none⟩] := rfl

/-- The keys that have been registered, each once. -/
def keys (r : Registry) : List LibraryKey :=
  (r.slots.map Slot.key).eraseDups

def contains (r : Registry) (key : LibraryKey) : Bool :=
  r.slots.any fun s => s.key = key

def length (r : Registry) : Nat :=
  r.keys.length

def isEmpty (r : Registry) : Bool :=
  r.length = 0

/-- The number of the last slot of a key, if it has one. -/
def lastSlot? (key : LibraryKey) : List Slot → Option Nat
  | [] => none
  | s :: rest =>
    match lastSlot? key rest with
    | some i => some (i + 1)
    | none => if s.key = key then some 0 else none

theorem lastSlot?_lt {key : LibraryKey} {l : List Slot} {i : Nat} (h : lastSlot? key l = some i) :
    i < l.length := by
  induction l generalizing i with
  | nil => simp [lastSlot?] at h
  | cons s rest ih =>
    simp only [lastSlot?] at h
    split at h
    · rename_i j hj
      cases h
      exact Nat.succ_lt_succ (ih hj)
    · split at h
      · cases h
        exact Nat.zero_lt_succ _
      · simp at h

/-- Looks up the current slot of a key. -/
def fetch? (r : Registry) (key : LibraryKey) : Option Nat :=
  lastSlot? key r.slots

theorem fetch?_lt {r : Registry} {key : LibraryKey} {i : Nat} (h : r.fetch? key = some i) :
    i < r.slots.length :=
  lastSlot?_lt h

/-- Keeps the library that was loaded for a slot. -/
def store (r : Registry) (i : Nat) (l : Library) : Registry :=
  ⟨r.slots.modify i fun s => { s with loaded := some l }, r.loads + 1⟩

/-- Takes the library of a slot, and loads it if it has not been loaded. -/
def fill (files : σ) (r : Registry) (i : Nat) (h : i < r.slots.length) :
    Registry × Except LinkError Resolved :=
  match r.slots[i].loaded with
  | some l => (r, .ok ⟨i, l⟩)
  | none =>
    match r.slots[i].read files with
    | .ok l => (r.store i l, .ok ⟨i, l⟩)
    | .error e => (r, .error e)

/-- The library for a key. -/
def resolve (files : σ) (r : Registry) (key : LibraryKey) :
    Registry × Except LinkError Resolved :=
  match h : r.fetch? key with
  | some i => r.fill files i (fetch?_lt h)
  | none => (r, .error (.cause (.missingLibrary key)))

/-- The answers to a number of requests for the same key, one after the other. Requests at one time
have the same answers: whichever comes first loads the library for all. -/
def resolveTimes (files : σ) (key : LibraryKey) :
    Nat → Registry → Registry × List (Except LinkError Resolved)
  | 0, r => (r, [])
  | n + 1, r =>
    let first := resolve files r key
    let rest := resolveTimes files key n first.1
    (rest.1, first.2 :: rest.2)

end Registry

end BuiltinLink
