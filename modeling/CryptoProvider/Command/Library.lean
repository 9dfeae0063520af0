import CryptoProvider.Platform.Module

/-! The library that marshals commands: a module with all four entry points of a context's life. -/

set_option autoImplicit false

namespace CryptoProvider.Command

structure Library (ω : Type) where
  opened : OpenModule ω
  contextSize : (maximum : Nat) → StateM ω Nat
  start : CommandContext → AbiVersion → StateM ω Nat
  nestedTransport : CommandContext → StateM ω (Nat × Option Nat)
  finalize : CommandContext → StateM ω Unit

namespace Library

variable {ω : Type}

/-- Resolves the entry points of a module; `none` if one is missing. -/
def resolve? (opened : OpenModule ω) : Option (Library ω) := do
  let symbols := opened.exports.command
  return {
    opened
    contextSize := ← symbols.contextSize
    start := ← symbols.start
    nestedTransport := ← symbols.nestedTransport
    finalize := ← symbols.finalize }

def openAt (loader : ModuleLoader ω) (path : String) :
    StateM (Platform ω) (Except Error (Library ω)) := do
  match ← OpenModule.open? loader path with
  | none => return .error (.commandLibraryUnavailable path)
  | some opened =>
    match resolve? opened with
    | some library => return .ok library
    | none =>
      Platform.note (.entryPointsMissing path)
      opened.close
      return .error (.commandLibraryUnavailable path)

def close (library : Library ω) : StateM (Platform ω) Unit :=
  library.opened.close

end Library

end CryptoProvider.Command
