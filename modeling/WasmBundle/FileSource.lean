import WasmBundle.Bytes
import WasmBundle.Path

/-!
# Sources of files

All that resolution asks of a file system: whether a path is a file, what a file holds, and which
artifacts a directory holds. A source has finitely many contents, which is why a walk over its files
ends. Each question asked can be recorded as a consultation.
-/

namespace WasmBundle

inductive IoError where
  | notPermitted
  | noEntry
  | argumentTooLong
  | notExecutable
  | badDescriptor
  | accessDenied
  | busy
  | alreadyExists
  | notDirectory
  | isDirectory
  | invalidArgument
  | noSpace
  | nameTooLong
  | notEmpty
  | tooManyLevels
  | notText
  | nulInPath
  | nulInCommand
  | notFound (path : Path)
  | denied
  deriving DecidableEq, Repr

namespace IoError

/-- What went wrong, in words. -/
def reason : IoError → String
  | .notPermitted => "Operation not permitted"
  | .noEntry => "No such file or directory"
  | .argumentTooLong => "Argument list too long"
  | .notExecutable => "Exec format error"
  | .badDescriptor => "Bad file descriptor"
  | .accessDenied => "Permission denied"
  | .busy => "Device or resource busy"
  | .alreadyExists => "File exists"
  | .notDirectory => "Not a directory"
  | .isDirectory => "Is a directory"
  | .invalidArgument => "Invalid argument"
  | .noSpace => "No space left on device"
  | .nameTooLong => "File name too long"
  | .notEmpty => "Directory not empty"
  | .tooManyLevels => "Too many levels of symbolic links"
  | .notText => "stream did not contain valid UTF-8"
  | .nulInPath => "file name contained an unexpected NUL byte"
  | .nulInCommand => "nul byte found in provided data"
  | .notFound path => path.text ++ " not found"
  | .denied => "denied"

/-- The number of an error that the operating system reports. -/
def number? : IoError → Option Nat
  | .notPermitted => some 1
  | .noEntry => some 2
  | .argumentTooLong => some 7
  | .notExecutable => some 8
  | .badDescriptor => some 9
  | .accessDenied => some 13
  | .busy => some 16
  | .alreadyExists => some 17
  | .notDirectory => some 20
  | .isDirectory => some 21
  | .invalidArgument => some 22
  | .noSpace => some 28
  | .nameTooLong => some 36
  | .notEmpty => some 39
  | .tooManyLevels => some 40
  | _ => none

def message (e : IoError) : String :=
  match e.number? with
  | some n => e.reason ++ " (os error " ++ toString n ++ ")"
  | none => e.reason

end IoError

structure FileSource where
  isFile : Path → Bool
  read : Path → Except IoError Bytes
  /-- The files directly in a directory whose name ends in a dot and the extension. -/
  artifacts : Path → String → Except IoError (List Path)
  /-- What the files hold, in any order. -/
  contents : List Bytes
  mem_contents : ∀ p b, read p = .ok b → b ∈ contents

/-- A question asked of a source. -/
inductive Consultation where
  | probe (path : Path)
  | listing (dir : Path)
  | reading (path : Path)
  deriving DecidableEq, Repr

/-- The paths asked for existence, in order. -/
def probes (trace : List Consultation) : List Path :=
  trace.filterMap fun
    | .probe p => some p
    | _ => none

namespace FileSource

/-- The source with reads of the first paths and listings of the second ones denied. A path is
denied under exactly the spelling given. -/
def denying (src : FileSource) (reads listings : List Path) : FileSource where
  isFile := src.isFile
  read p := if p ∈ reads then .error .denied else src.read p
  artifacts dir extension :=
    if dir ∈ listings then .error .denied else src.artifacts dir extension
  contents := src.contents
  mem_contents p b h := by
    split at h
    · cases h
    · exact src.mem_contents p b h

end FileSource

end WasmBundle
