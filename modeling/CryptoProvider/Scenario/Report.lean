import CryptoProvider.Platform.Trace

/-! The event report: one line for each notice and for each call that is reported. -/

set_option autoImplicit false

namespace CryptoProvider

def reportConfig : Option String → String
  | none => "-"
  | some config => s!"={config}"

namespace Locking.Callback

def report : Option Callback → String
  | none => "none"
  | some .bridge => "bridge"
  | some (.foreign _) => "foreign"

end Locking.Callback

namespace Call

/-- The line of a call, if the report has one for it. -/
def report? : Call → Option String
  | moduleOpened _ path => s!"open {path}"
  | moduleMissed path => s!"open miss {path}"
  | moduleClosed _ path => s!"close {path}"
  | transportInfo _ _ => none
  | transportSize _ plugin config status =>
    s!"{plugin} size {reportConfig config} rc={hexNumber status}"
  | transportStart _ plugin _ config size zeroed status =>
    s!"{plugin} init {reportConfig config} size={size} zeroed={zeroed} rc={hexNumber status}"
  | transportFinalize plugin _ magic loaded => s!"{plugin} finalize magic={magic} loaded={loaded}"
  | commandSize maximum size => s!"sys size max={maximum} -> {size}"
  | commandStart _ size zeroed _ abi status =>
    let version := s!"{abi.creator}.{abi.family}.{abi.level}.{abi.version}"
    s!"sys init size={size} zeroed={zeroed} tcti=true abi={version} rc={hexNumber status}"
  | commandTransport _ status _ => s!"sys get_tcti rc={hexNumber status}"
  | commandFinalize _ => "sys finalize"
  | engineLoad flags => s!"engine load {hexNumber flags}"
  | engineFind id _ => s!"engine by_id {id}"
  | engineStart engine _ => s!"engine init {engine.id}"
  | engineSetDefault engine methods => s!"engine set_default {engine.id} {hexNumber methods}"
  | engineDigest engine algorithm => s!"engine digest {engine.id} {algorithm}"
  | engineRegisterKeys engine => s!"engine asn1 {engine.id}"
  | engineControl engine command argument => s!"engine ctrl {engine.id} {command}={argument}"
  | engineFinish engine => s!"engine finish {engine.id}"
  | engineFree engine => s!"engine free {engine.id}"
  | engineKey engine algorithm parameters =>
    let shown := parameters.map fun (name, value) => s!" {name}={value}"
    s!"engine keygen {engine.id} {algorithm}{String.join shown}"
  | engineKeyResumes _ => "keygen resumes"
  | complianceQuery enabled => s!"compliance is_enabled {enabled}"
  | complianceEnable done => s!"compliance enable {done}"
  | complianceReseed => "compliance reinit_rand"
  | lockCount _ count => s!"host num_locks {count}"
  | callbackSet _ callback => s!"host set_callback {Locking.Callback.report callback}"
  | foreignCallback _ mode index line => s!"foreign callback {mode} {index} {line}"
  | generatorCreate none => none
  | generatorCreate (some _) => "rng create"
  | generate _ count => s!"rng generate {count}"
  | generateResumes _ => "rng resumes"
  | generatorDrop _ => "rng drop"

end Call

namespace Event

def report? : Event → Option String
  | .call reported made => if reported then made.report? else none
  | .change _ => none
  | .notice given => s!"log {given.level.label} {given.text}"

end Event

end CryptoProvider
