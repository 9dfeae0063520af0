import CryptoProvider.Error
import CryptoProvider.Text.Split

/-!
Which transport to load, written `name` or `name:configuration`. Reading takes all after the first
colon as configuration; writing (`render`) is its inverse.
-/

set_option autoImplicit false

namespace CryptoProvider.Transport

structure Spec where
  name : String
  /-- What the plugin's start routine is given; an empty text differs from none. -/
  config : Option String
  deriving DecidableEq, Repr

namespace Spec

def parse (text : String) : Except Error Spec :=
  let (name, config) := match Text.splitAtFirst ':' text.toList with
    | some (name, config) => (name, some config)
    | none => (text.toList, none)
  if name.isEmpty then .error (.invalidParameter (.emptyTransportName text))
  else if config.any (·.contains '\x00') then .error (.invalidParameter .nulInTransportConfig)
  else .ok ⟨String.ofList name, config.map String.ofList⟩

def render (spec : Spec) : String :=
  match spec.config with
  | none => spec.name
  | some config => String.ofList (spec.name.toList ++ ':' :: config.toList)

end Spec

/-- Longest file name of a transport library, its terminator included. -/
def pathLimit : Nat := 4096

/-- The conventional file name of a transport's library; `none` if it would be too long. -/
def libraryName? (name : String) : Option String :=
  let path := "libtss2-tcti-" ++ name ++ ".so.0"
  if path.utf8ByteSize < pathLimit then some path else none

end CryptoProvider.Transport
