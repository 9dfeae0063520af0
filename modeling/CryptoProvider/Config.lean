import CryptoProvider.Notice
import CryptoProvider.Transport.Spec
import CryptoProvider.Text.Utf8

/-!
Configuration read from named variables. A variable that is unset or malformed keeps the default of
its setting; every malformed one but the library name is noticed, in the order they are read.
-/

set_option autoImplicit false

namespace CryptoProvider

namespace Engine

/-- An alternate suite engine and the control command sent to it. -/
structure SuiteConfig where
  id : String
  control : Option (String × String)
  deriving DecidableEq, Repr

def SuiteConfig.gost : SuiteConfig :=
  ⟨"gost", some ("CRYPT_PARAMS", "id-Gost28147-89-CryptoPro-A-ParamSet")⟩

end Engine

structure Config where
  /-- The transport to bring up; `none` disables hardware support. -/
  transport : Option Transport.Spec
  commandLibrary : String
  hardwareRandom : Bool
  alternateSuite : Option Engine.SuiteConfig
  compliance : Bool
  deriving DecidableEq, Repr

namespace Config

def transportVariable : String := "AZIHSM_FACTORY_TCTI"
def libraryVariable : String := "AZIHSM_FACTORY_SYS_LIB"
def randomVariable : String := "AZIHSM_FACTORY_RDRAND"
def engineVariable : String := "AZIHSM_FACTORY_ALT_ENGINE"
def controlVariable : String := "AZIHSM_FACTORY_ALT_ENGINE_PARAMS"
def complianceVariable : String := "AZIHSM_FACTORY_FIPS"

def standard : Config where
  transport := some ⟨"tabrmd", none⟩
  commandLibrary := "libtss2-sys.so.1"
  hardwareRandom := true
  alternateSuite := some Engine.SuiteConfig.gost
  compliance := false

/-- Whether a value switches its setting off. -/
def disables (value : String) : Bool :=
  Text.equalsIgnoringCase value "none"

def flag? (value : String) : Option Bool :=
  let is := Text.equalsIgnoringCase value
  if is "1" || is "true" || is "on" || is "yes" then some true
  else if is "0" || is "false" || is "off" || is "no" then some false
  else none

def control? (value : String) : Option (String × String) :=
  match Text.splitAtFirst '=' value.toList with
  | none => none
  | some (command, argument) =>
    if command.isEmpty || command.contains '\x00' || argument.contains '\x00' then none
    else some (String.ofList command, String.ofList argument)

/-- A setting and what the operator is told about its variable. -/
abbrev Reading (α : Type) := α × List Notice

def readTransport : Option String → Reading (Option Transport.Spec)
  | none => (standard.transport, [])
  | some value =>
    if disables value then (none, [])
    else match Transport.Spec.parse value with
      | .ok spec => (some spec, [])
      | .error cause => (standard.transport, [.malformedTransport transportVariable cause])

def readLibrary : Option String → String
  | none => standard.commandLibrary
  | some value => if value.isEmpty then standard.commandLibrary else value

def readFlag (name : String) (usual : Bool) : Option String → Reading Bool
  | none => (usual, [])
  | some value =>
    match flag? value with
    | some b => (b, [])
    | none => (usual, [.malformedFlag name value])

/-- The engine setting before its control command is read. Only the standard engine has a control
command of its own. -/
def readEngine : Option String → Reading (Option Engine.SuiteConfig)
  | none => (standard.alternateSuite, [])
  | some value =>
    if disables value then (none, [])
    else if value.toList.contains '\x00' then
      (standard.alternateSuite, [.malformedEngine engineVariable])
    else if value = Engine.SuiteConfig.gost.id then (some Engine.SuiteConfig.gost, [])
    else (some ⟨value, none⟩, [])

def readControl (engine : Option Engine.SuiteConfig) (value : Option String) :
    Reading (Option Engine.SuiteConfig) :=
  match engine, value with
  | some engine, some value =>
    if disables value then (some { engine with control := none }, [])
    else match control? value with
      | some control => (some { engine with control := some control }, [])
      | none => (some engine, [.malformedControl controlVariable])
  | engine, _ => (engine, [])

def ofLookup (lookup : String → Option String) : Reading Config :=
  let (transport, first) := readTransport (lookup transportVariable)
  let (hardwareRandom, second) :=
    readFlag randomVariable standard.hardwareRandom (lookup randomVariable)
  let (compliance, third) :=
    readFlag complianceVariable standard.compliance (lookup complianceVariable)
  let (engine, fourth) := readEngine (lookup engineVariable)
  let (alternateSuite, fifth) := readControl engine (lookup controlVariable)
  ({ transport, hardwareRandom, compliance, alternateSuite
     commandLibrary := readLibrary (lookup libraryVariable) },
    first ++ second ++ third ++ fourth ++ fifth)

/-- The configuration that an environment of raw values describes; a value that is not well-formed
text counts as unset. -/
def ofEnvironment (environment : List (String × Bytes)) : Reading Config :=
  ofLookup fun name => (environment.lookup name).bind Text.decode?

end Config

end CryptoProvider
