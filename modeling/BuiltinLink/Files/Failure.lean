/-!
Why reading or writing a file fails.
-/

namespace BuiltinLink

/-- The causes an operating system numbers. -/
inductive SystemError where
  | notPermitted
  | noEntry
  | interrupted
  | inputOutput
  | denied
  | fileExists
  | notDirectory
  | isDirectory
  | nameTooLong
deriving DecidableEq, Repr

namespace SystemError

def all : List SystemError :=
  [notPermitted, noEntry, interrupted, inputOutput, denied, fileExists, notDirectory, isDirectory,
    nameTooLong]

def number : SystemError → Nat
  | notPermitted => 1
  | noEntry => 2
  | interrupted => 4
  | inputOutput => 5
  | denied => 13
  | fileExists => 17
  | notDirectory => 20
  | isDirectory => 21
  | nameTooLong => 36

def ofNumber? (n : Nat) : Option SystemError :=
  all.find? fun e => e.number = n

def text : SystemError → String
  | notPermitted => "Operation not permitted"
  | noEntry => "No such file or directory"
  | interrupted => "Interrupted system call"
  | inputOutput => "Input/output error"
  | denied => "Permission denied"
  | fileExists => "File exists"
  | notDirectory => "Not a directory"
  | isDirectory => "Is a directory"
  | nameTooLong => "File name too long"

end SystemError

/-- Why an operation on a file fails. -/
inductive FileError where
  | system (cause : SystemError)
  /-- The path holds a zero byte. -/
  | zeroInPath
  /-- A file read as a text does not hold one. -/
  | notText
  | other (text : String)
deriving DecidableEq, Repr

def FileError.message : FileError → String
  | system cause => cause.text ++ " (os error " ++ toString cause.number ++ ")"
  | zeroInPath => "file name contained an unexpected NUL byte"
  | notText => "stream did not contain valid UTF-8"
  | other text => text

end BuiltinLink
