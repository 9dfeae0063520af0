import CryptoProvider.Scenario.Session

/-! Steps that change how the world outside behaves. What a step does not mention stays as it is. -/

set_option autoImplicit false

namespace CryptoProvider.Scenario

inductive PluginChange where
  | sizeStatus (value : Nat)
  | startStatus (value : Nat)
  | size (value : Nat)
  | nullInfo (value : Bool)
  | noStart (value : Bool)
  | version (value : Nat)
  | name (value : Option Bytes)
  | description (value : Option Bytes)
  | configHelp (value : Option Bytes)
  | headerVersion (value : Nat)
  | finalizer (value : Bool)

inductive CommandChange where
  | size (value : Nat)
  | startStatus (value : Nat)
  | nestedStatus (value : Nat)
  | nested (value : NestedPointer)

def PluginChange.apply (settings : PluginSettings) : PluginChange → PluginSettings
  | sizeStatus value => { settings with sizeStatus := value }
  | startStatus value => { settings with startStatus := value }
  | size value => { settings with size := value }
  | nullInfo value => { settings with nullInfo := value }
  | noStart value => { settings with noStart := value }
  | version value => { settings with version := value }
  | name value => { settings with name := value }
  | description value => { settings with description := value }
  | configHelp value => { settings with configHelp := value }
  | headerVersion value => { settings with headerVersion := value }
  | finalizer value => { settings with finalizer := value }

def CommandChange.apply (settings : CommandSettings) : CommandChange → CommandSettings
  | size value => { settings with size := value }
  | startStatus value => { settings with startStatus := value }
  | nestedStatus value => { settings with nestedStatus := value }
  | nested value => { settings with nested := value }

inductive SettingStep where
  | plugin (number : Nat) (changes : List PluginChange)
  | command (changes : List CommandChange)

namespace SettingStep

open Session

def run : SettingStep → StateM Session Outcome
  | plugin number changes => do
    actOnStage (Stage.modifyPlugin number fun settings => changes.foldl PluginChange.apply settings)
    return .answered .done
  | command changes => do
    actOnStage (modify fun s =>
      { s with command := changes.foldl CommandChange.apply s.command })
    return .answered .done

end SettingStep

end CryptoProvider.Scenario
