import CryptoProvider.Kind

/-!
Failures, by cause. Each cause has one text (`Error.message`) and one class, which says how far it
reaches (`Error.severity`).
-/

set_option autoImplicit false

namespace CryptoProvider

inductive KeyOperation where
  | signing
  | verification
  | derivation
  deriving DecidableEq, Repr

namespace KeyOperation

def phrase : KeyOperation → String
  | signing => "signing"
  | verification => "verification"
  | derivation => "key derivation"

end KeyOperation

inductive ParameterFault where
  | emptyTransportName (spec : String)
  | nulInTransportConfig
  | emptyHmacKey
  | keySize (algorithm : String) (size : Nat)
  | modeNotSupported (cipher : CipherKind) (mode : CipherMode)
  | ivSize (expected given : Nat)
  | ivMissing
  | outputTooSmall (room needed : Nat)
  | operationNotSupported (scheme : SchemeKind) (operation : KeyOperation)
  | notCurveBased (scheme : SchemeKind)
  | curveNeeded (scheme : SchemeKind)
  | edwardsCurveNeeded
  | fixedParameterSet
  | reported (text : String)
  deriving DecidableEq, Repr

namespace ParameterFault

def text : ParameterFault → String
  | emptyTransportName spec => s!"empty transport name in \"{spec}\""
  | nulInTransportConfig => "NUL in transport config"
  | emptyHmacKey => "empty HMAC key"
  | keySize algorithm size => s!"invalid {algorithm} key size {size}"
  | modeNotSupported cipher mode => s!"{cipher.label} does not support {mode.label} mode"
  | ivSize expected given => s!"IV must be {expected} bytes, got {given}"
  | ivMissing => "IV required"
  | outputTooSmall room needed => s!"output buffer too small: {room} < {needed}"
  | operationNotSupported scheme operation =>
    s!"{scheme.label} does not support {operation.phrase}"
  | notCurveBased scheme => s!"{scheme.label} keys are not curve based"
  | curveNeeded scheme => s!"{scheme.label} keys need a named curve"
  | edwardsCurveNeeded => "EdDSA supports Ed25519 and Ed448 only"
  | fixedParameterSet => "GOST keys use the CryptoPro-A parameter set"
  | reported text => text

end ParameterFault

inductive StateFault where
  | hashNotStarted
  | reported (text : String)
  deriving DecidableEq, Repr

namespace StateFault

def text : StateFault → String
  | hashNotStarted => "hash not initialized"
  | reported text => text

end StateFault

/-- A failure and what is known of its cause. Status codes are those of the collaborator. -/
inductive Error where
  | lockPoolSize (count : Int)
  | lockPoolAllocation (count : Nat)
  | transportOccupied
  | transportNotFound (name : String)
  | transportSymbolMissing (symbol name : String)
  | transportInfoInvalid (name : String)
  | transportSizeQuery (name : String) (status : Nat)
  | transportStart (name : String) (status : Nat)
  | contextAllocation (size : Nat)
  | commandLibraryUnavailable (library : String)
  | commandContextStart (status : Nat)
  | engineUnavailable (engine : String)
  | engineStep (engine step : String)
  | complianceRefused
  | unsupportedKind (kind : String)
  | generatorUnavailable
  | instanceReset
  | invalidParameter (fault : ParameterFault)
  | invalidState (fault : StateFault)
  | logFile (detail : String)
  /-- The cryptographic library refused; it keeps its reasons on a stack of its own. -/
  | cryptoLibrary
  deriving DecidableEq, Repr

/-- How far a failure reaches. -/
inductive Severity where
  | configuration
  | pluginLoad
  | engine
  | unsupportedKind
  | fatalConstruction
  | crypto
  | invalidUsage
  deriving DecidableEq, Repr

namespace Error

def severity : Error → Severity
  | lockPoolSize _ | lockPoolAllocation _ | commandContextStart _ | contextAllocation _
  | logFile _ => .configuration
  | transportOccupied | transportNotFound _ | transportSymbolMissing _ _ | transportInfoInvalid _
  | transportSizeQuery _ _ | transportStart _ _ | commandLibraryUnavailable _ => .pluginLoad
  | engineUnavailable _ | engineStep _ _ | complianceRefused => .engine
  | unsupportedKind _ => .unsupportedKind
  | generatorUnavailable => .fatalConstruction
  | cryptoLibrary => .crypto
  | invalidParameter _ | invalidState _ | instanceReset => .invalidUsage

def message : Error → String
  | lockPoolSize count => s!"invalid lock pool size {count}"
  | lockPoolAllocation count => s!"could not allocate {count} locks"
  | transportOccupied => "a TCTI transport is already loaded"
  | transportNotFound name => s!"could not open TCTI library \"{name}\""
  | transportSymbolMissing symbol name => s!"symbol \"{symbol}\" not found in library \"{name}\""
  | transportInfoInvalid name => s!"TCTI library \"{name}\" returned an invalid info structure"
  | transportSizeQuery name status =>
    s!"TCTI init setup routine failed for library \"{name}\": {hexNumber status}"
  | transportStart name status =>
    s!"TCTI init allocation routine failed for library \"{name}\": {hexNumber status}"
  | contextAllocation size => s!"could not allocate a {size} byte context buffer"
  | commandLibraryUnavailable library => s!"command library \"{library}\" is unavailable"
  | commandContextStart status => s!"command context initialization failed: {hexNumber status}"
  | engineUnavailable engine => s!"engine \"{engine}\" is unavailable"
  | engineStep engine step => s!"engine \"{engine}\" failed to {step}"
  | complianceRefused => "can't enter into FIPS mode"
  | unsupportedKind kind => s!"Unknown algorithm '{kind}'"
  | generatorUnavailable => "random generator unavailable"
  | instanceReset => "crypto factory instance was reset"
  | invalidParameter fault => s!"invalid parameter: {fault.text}"
  | invalidState fault => s!"invalid state: {fault.text}"
  | logFile detail => s!"could not create log file: {detail}"
  | cryptoLibrary => "OpenSSL error"

end Error

end CryptoProvider
