import CryptoProvider.Error

/-! What the library tells the operator: every notice by cause, with its level and its text. -/

set_option autoImplicit false

namespace CryptoProvider

inductive Level where
  | error
  | warn
  | info
  deriving DecidableEq, Repr

def Level.label : Level → String
  | .error => "ERROR"
  | .warn => "WARN"
  | .info => "INFO"

/-- Something the operator is told. -/
inductive Notice where
  | malformedTransport (name : String) (cause : Error)
  | malformedFlag (name value : String)
  | malformedEngine (name : String)
  | malformedControl (name : String)
  | unheldLock (index : Int)
  | noLockPool
  | lockOutOfRange (size : Nat) (index : Int) (file : String) (line : Int)
  | callbackAlreadyInstalled
  | callbackChangedHands
  | lockBridgeFailed (cause : Error)
  | complianceRefused
  | complianceEntered
  | degraded
  | engineMissing (engine : String)
  | engineStepFailed (engine step : String)
  | hardwareRandomReady
  | engineReady (engine : String)
  | hardwareRandomUnavailable (cause : Error)
  | alternateSuiteUnavailable (cause : Error)
  | engineInUse (engine : String)
  | generatorFailed (cause : Error)
  | transportOccupied (name : String)
  | transportNameTooLong (bytes : Nat)
  | transportNotFound (name : String)
  | transportSymbolMissing (symbol name : String)
  | transportSizeQueryFailed (name : String) (status : Nat)
  | transportStartFailed (name : String) (status : Nat)
  | entryPointsMissing (library : String)
  | commandContextBound (transport : String)
  | commandContextUnallocated (cause : Error)
  | commandContextRefused (status : Nat)
  | nestedTransportUnread (status : Nat)
  | foreignTransport
  | transportNotFinalized
  | hardwareUnavailable (cause : Error)
  | usedAfterReset
  | unknownAlgorithm (kind : String)
  | unknownGenerator (kind : String)
  | engineNeeded (kind : String)
  | resetWithHandles (count : Nat)
  deriving DecidableEq, Repr

namespace Notice

def level : Notice → Level
  | malformedTransport _ _ | malformedFlag _ _ | malformedEngine _ | malformedControl _
  | unheldLock _ | callbackChangedHands | engineMissing _ | engineStepFailed _ _
  | hardwareRandomUnavailable _ | alternateSuiteUnavailable _ | engineInUse _
  | nestedTransportUnread _ | foreignTransport | transportNotFinalized | resetWithHandles _ => .warn
  | callbackAlreadyInstalled | complianceEntered | hardwareRandomReady | engineReady _
  | commandContextBound _ => .info
  | noLockPool | lockOutOfRange _ _ _ _ | lockBridgeFailed _ | complianceRefused | degraded
  | generatorFailed _ | transportOccupied _ | transportNameTooLong _ | transportNotFound _
  | transportSymbolMissing _ _ | transportSizeQueryFailed _ _ | transportStartFailed _ _
  | entryPointsMissing _ | commandContextUnallocated _ | commandContextRefused _
  | hardwareUnavailable _ | usedAfterReset | unknownAlgorithm _ | unknownGenerator _
  | engineNeeded _ => .error

def text : Notice → String
  | malformedTransport name cause => s!"ignoring {name}: {cause.message}"
  | malformedFlag name value => s!"ignoring {name}={value}: expected a boolean"
  | malformedEngine name => s!"ignoring {name}: embedded NUL"
  | malformedControl name => s!"ignoring {name}: expected CMD=ARG"
  | unheldLock index => s!"release of unheld lock {index}"
  | noLockPool => "locking callback invoked without a lock pool"
  | lockOutOfRange size index file line =>
    s!"out of range [0..{size}[ lock {index} at {file}:{line}"
  | callbackAlreadyInstalled => "locking callback already installed, leaving it in place"
  | callbackChangedHands => "locking callback changed hands after setup, leaving it in place"
  | lockBridgeFailed cause => s!"could not set up the locking callback: {cause.message}"
  | complianceRefused => "can't enter into FIPS mode"
  | complianceEntered => "FIPS mode enabled"
  | degraded => "crypto factory left in a degraded state"
  | engineMissing engine => s!"can't get the {engine} engine"
  | engineStepFailed engine step => s!"can't {step} the {engine} engine"
  | hardwareRandomReady => "using the rdrand engine for random generation"
  | engineReady engine => s!"{engine} engine ready"
  | hardwareRandomUnavailable cause => s!"hardware RNG unavailable: {cause.message}"
  | alternateSuiteUnavailable cause => s!"alternate suite unavailable: {cause.message}"
  | engineInUse engine => s!"{engine} engine in use during teardown"
  | generatorFailed cause => s!"could not create the random generator: {cause.message}"
  | transportOccupied name => s!"a TCTI transport is already loaded, refusing \"{name}\""
  | transportNameTooLong bytes => s!"transport name too long: {bytes} bytes"
  | transportNotFound name => s!"Could not open TCTI library \"{name}\""
  | transportSymbolMissing symbol name => s!"Symbol \"{symbol}\" not found in library \"{name}\""
  | transportSizeQueryFailed name status =>
    s!"TCTI init setup routine failed for library \"{name}\": {hexNumber status}"
  | transportStartFailed name status =>
    s!"TCTI init allocation routine failed for library \"{name}\": {hexNumber status}"
  | entryPointsMissing library => s!"command library \"{library}\" lacks context entry points"
  | commandContextBound transport => s!"TPM command context bound to TCTI \"{transport}\""
  | commandContextUnallocated cause =>
    s!"could not allocate the command context: {cause.message}"
  | commandContextRefused status =>
    s!"could not initialize the command context: {hexNumber status}"
  | nestedTransportUnread status => s!"could not retrieve TCTI context: {hexNumber status}"
  | foreignTransport => "command context reported a foreign TCTI context"
  | transportNotFinalized => "TCTI context not finalized"
  | hardwareUnavailable cause => s!"TPM support unavailable: {cause.message}"
  | usedAfterReset => "crypto factory used after reset"
  | unknownAlgorithm kind => s!"Unknown algorithm '{kind}'"
  | unknownGenerator kind => s!"Unknown RNG '{kind}'"
  | engineNeeded kind => s!"{kind} needs the alternate suite engine, which is not loaded"
  | resetWithHandles count => s!"crypto factory reset with {count} outstanding handles"

end Notice

end CryptoProvider
