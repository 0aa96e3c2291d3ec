import WasmBundle.Compilation
import WasmBundle.Config
import WasmBundle.Container.Field
import WasmBundle.Walk.Machine

/-!
# Failures of commands

A failure is told as an account: what went wrong, then what caused it, then what caused that. Each
text stands for itself, so one that quotes its cause is followed by the same words again.
-/

namespace WasmBundle

def ConfigError.account (e : ConfigError) : List String :=
  match e with
  | .unreadable cause => [e.message, cause.message]
  | _ => [e.message]

def CompileError.account (e : CompileError) : List String :=
  match e with
  | .spawn _ cause => [e.message, cause.message]
  | .failed _ _ => [e.message]
  | .output _ cause => [e.message, cause.message]

def Wasm.Malformed.account (e : Wasm.Malformed) : List String := [e.message, e.detail]

def WalkError.account (e : WalkError) : List String :=
  match e with
  | .malformed _ fault => e.message :: fault.account
  | .unresolved _ => [e.message]
  | .unreadable _ cause => [e.message, cause.message]
  | .listing failure => [e.message, failure.cause.message]

namespace CommandLine

inductive Failure where
  | config (path : Path) (cause : ConfigError)
  | setting (cause : ConfigError)
  | unreadable (path : Path) (cause : IoError)
  | unreadableShim (path : Path) (cause : IoError)
  | unwritable (path : Path) (cause : IoError)
  | compilation (cause : CompileError)
  | walk (cause : WalkError)
  | malformed (path : Path) (fault : Wasm.Malformed)
  | tooLarge (cause : Container.EncodeError)
  | noContainer (path : Path) (cause : Container.DecodeError)
  deriving DecidableEq, Repr

namespace Failure

def account : Failure → List String
  | .config path cause => ("Failed to load " ++ path.text) :: cause.account
  | .setting cause => cause.account
  | .unreadable path cause => ["Failed to read " ++ path.text, cause.message]
  | .unreadableShim path cause => ["Failed to read runtime shim " ++ path.text, cause.message]
  | .unwritable path cause => ["Failed to write " ++ path.text, cause.message]
  | .compilation cause => cause.account
  | .walk cause => cause.account
  | .malformed path fault => ("Failed to scan " ++ path.text) :: fault.account
  | .tooLarge cause => [cause.message]
  | .noContainer path cause => ["Invalid bundle " ++ path.text, cause.message]

def message (f : Failure) : String := ": ".intercalate f.account

end Failure

end CommandLine

end WasmBundle
