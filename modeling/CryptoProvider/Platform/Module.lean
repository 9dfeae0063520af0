import CryptoProvider.Platform.State

/-! Opening and closing native modules. -/

set_option autoImplicit false

namespace CryptoProvider

structure OpenModule (ω : Type) where
  number : Nat
  path : String
  reported : Bool
  exports : NativeModule ω

namespace OpenModule

variable {ω : Type}

def open? (loader : ModuleLoader ω) (path : String) :
    StateM (Platform ω) (Option (OpenModule ω)) := do
  match ← Platform.consult (loader.find path) with
  | none =>
    Platform.record loader.reported (.moduleMissed path)
    return none
  | some found =>
    let number ← Platform.fresh
    Platform.record loader.reported (.moduleOpened number path)
    return some ⟨number, path, loader.reported, found⟩

def close (opened : OpenModule ω) : StateM (Platform ω) Unit :=
  Platform.record opened.reported (.moduleClosed opened.number opened.path)

end OpenModule

end CryptoProvider
