import CryptoProvider.Digest.Sha256
import CryptoProvider.Platform.Memory

/-!
A small outside world to rehearse the library in: three transport plugins and a command library with
settings that can be changed between calls, compliance modules, counting generators and a source of
random bits.
-/

set_option autoImplicit false

namespace CryptoProvider.Scenario

structure PluginSettings where
  sizeStatus : Nat
  startStatus : Nat
  size : Nat
  nullInfo : Bool
  noStart : Bool
  version : Nat
  name : Option Bytes
  description : Option Bytes
  configHelp : Option Bytes
  headerVersion : Nat
  finalizer : Bool
  deriving DecidableEq, Repr

def PluginSettings.standard : PluginSettings where
  sizeStatus := 0
  startStatus := 0
  size := 128
  nullInfo := false
  noStart := false
  version := 2
  name := none
  description := none
  configHelp := none
  headerVersion := 1
  finalizer := true

/-- Which transport context a command context names as its own. -/
inductive NestedPointer where
  | same
  | null
  | foreign
  deriving DecidableEq, Repr

structure CommandSettings where
  size : Nat
  startStatus : Nat
  nestedStatus : Nat
  nested : NestedPointer
  deriving DecidableEq, Repr

def CommandSettings.standard : CommandSettings :=
  ⟨64, 0, 0, .same⟩

structure ComplianceSettings where
  enabled : Bool
  accepts : Bool
  deriving DecidableEq, Repr

def ComplianceSettings.standard : ComplianceSettings :=
  ⟨false, true⟩

structure Stage where
  plugins : List PluginSettings
  command : CommandSettings
  /-- The transport context that a command context was last made over. -/
  lastTransport : Option Nat
  compliance : List ComplianceSettings
  given : List Nat
  seed : Nat
  deriving DecidableEq, Repr

/-- The stage has memory for all that a rehearsal needs, and refuses what no machine has to give. -/
instance : Memory Stage where
  grants size := return decide (size < 0x4000000000000000)

namespace Stage

def standard : Stage where
  plugins := List.replicate 3 PluginSettings.standard
  command := CommandSettings.standard
  lastTransport := none
  compliance := []
  given := []
  seed := 0

def plugin (s : Stage) (number : Nat) : PluginSettings :=
  s.plugins.getD number PluginSettings.standard

def modifyPlugin (number : Nat) (change : PluginSettings → PluginSettings) : StateM Stage Unit :=
  modify fun s => { s with plugins := s.plugins.modify number change }

def addCompliance (settings : ComplianceSettings) : StateM Stage Nat := fun s =>
  (s.compliance.length, { s with compliance := s.compliance ++ [settings] })

def nextSeed : StateM Stage Nat := fun s =>
  (s.seed, { s with seed := s.seed + 1 })

/-- Thirty-two bytes of the source of random bits for each number. -/
def randomBlocks (seed : Nat) : (blocks : Nat) → Bytes
  | 0 => []
  | blocks + 1 =>
    randomBlocks seed blocks ++
      Digest.sha256.hash (Bytes.bigEndian 8 seed ++ Bytes.bigEndian 8 blocks)

def randomBytes (count : Nat) : StateM Stage Bytes := do
  let seed ← nextSeed
  return (randomBlocks seed (count / 32 + 1)).take count

end Stage

end CryptoProvider.Scenario
