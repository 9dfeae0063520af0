import CryptoProvider.Proofs.Likeness.Process

/-!
Building an instance and taking one down, in the course of time and on processes that are alike.
What the platform does is alike already; what is left is the shelves, the instances and the slot.
-/

set_option autoImplicit false

namespace CryptoProvider.Factory

variable {ω : Type}

theorem regular_setUpBridge [Memory ω] (registry : Nat) :
    Regular (ω := ω) (setUpBridge registry) := by
  unfold setUpBridge
  apply Regular.bind (.onPlatform (Locking.Bridge.oblivious_setup registry))
  intro bridge
  cases bridge with
  | ok bridge => exact .pure _
  | error cause => exact .bind (.note _) fun _ => .pure _

theorem regular_enterCompliance (options : Options ω) : Regular (enterCompliance options) := by
  unfold enterCompliance
  split
  · apply Regular.bind (.onPlatform (Compliance.oblivious_enter _))
    intro entered
    cases entered with
    | ok _ => exact .pure _
    | error cause => exact .bind (.note _) fun _ => .pure _
  · exact .pure _

theorem regular_attachHardwareRandom (options : Options ω) :
    Regular (attachHardwareRandom options) := by
  unfold attachHardwareRandom
  split
  · apply Regular.bind (.onPlatform (Engine.HardwareRandom.oblivious_attach _))
    intro attached
    cases attached with
    | ok random => exact .pure _
    | error cause => exact .bind (.note _) fun _ => .pure _
  · exact .pure _

theorem regular_createGenerator (source : GeneratorSource ω) :
    Regular (createGenerator source) := by
  unfold createGenerator
  apply Regular.bind (.onPlatform (Platform.oblivious_consult _))
  intro created
  cases created with
  | ok generator =>
    apply Regular.bind (.onPlatform Platform.oblivious_fresh)
    intro number
    apply Regular.bind (.onPlatform (Platform.oblivious_record _ _))
    exact fun _ => .bind (regular_shareGenerator generator number) fun _ => .pure _
  | error cause =>
    apply Regular.bind (.onPlatform (Platform.oblivious_record _ _))
    exact fun _ => .bind (.note _) fun _ => .pure _

theorem regular_bringUpHardware [Memory ω] (options : Options ω) :
    Regular (bringUpHardware options) := by
  unfold bringUpHardware
  cases options.config.transport with
  | none => exact .pure _
  | some spec =>
    apply Regular.bind (.onPlatform (Command.Hardware.oblivious_bringUp _ _ spec))
    intro hardware
    cases hardware with
    | ok hardware => exact .pure _
    | error cause => exact .bind (.note _) fun _ => .pure _

theorem regular_attachSuite (options : Options ω) : Regular (attachSuite options) := by
  unfold attachSuite
  cases options.config.alternateSuite with
  | none => exact .pure _
  | some config =>
    apply Regular.bind (.onPlatform (Engine.Suite.oblivious_attach _ config))
    intro attached
    cases attached with
    | ok suite => exact .bind (regular_shareSuite suite) fun _ => .pure _
    | error cause => exact .bind (.note _) fun _ => .pure _

theorem regular_build [Memory ω] (options : Options ω) : Regular (build options) := by
  unfold build
  apply Regular.bind (regular_setUpBridge _)
  intro lockBridge
  apply Regular.bind (regular_enterCompliance options)
  intro compliant
  cases compliant with
  | none => exact .pure _
  | some compliant =>
    apply Regular.bind (regular_attachHardwareRandom options)
    intro hardwareRandom
    apply Regular.bind (regular_createGenerator _)
    intro generator
    cases generator with
    | none => exact .pure _
    | some generator =>
      apply Regular.bind (regular_bringUpHardware options)
      exact fun _ => .bind (regular_attachSuite options) fun _ => .pure _

theorem regular_dismissSuite (number : Nat) : Regular (ω := ω) (dismissSuite number) := by
  unfold dismissSuite
  apply Regular.read
  · intro s t alike
    rw [alike.suites]
  · intro s
    cases s.suites[number]? with
    | none => exact .pure _
    | some shared =>
      dsimp only
      split
      · exact .bind (.note _) fun _ => regular_releaseSuite number
      · exact regular_releaseSuite number

theorem regular_destroy (owned : Subsystems ω) : Regular (destroy owned) := by
  unfold destroy
  apply Regular.bind (.forM regular_dismissSuite)
  intro _
  apply Regular.bind (.forM fun hardware => .onPlatform hardware.oblivious_drop)
  intro _
  apply Regular.bind (.forM regular_releaseGenerator)
  intro _
  apply Regular.bind (.forM fun random => .onPlatform random.handle.oblivious_drop)
  intro _
  exact .forM fun bridge => .onPlatform (.bind bridge.oblivious_teardown fun _ => .pure _)

theorem alike_changeHandles (number : Nat) (change : Nat → Nat) (s : Process ω) :
    Process.Alike s (changeHandles number change s).2 where
  platform := .refl _
  suites := rfl
  generators := rfl
  length := (List.length_modify _ _ _).symm
  owned := funext fun other => (subsystems?_changeHandles s number other change).symm
  current := rfl

theorem regular_changeHandles (number : Nat) (change : Nat → Nat) :
    Regular (ω := ω) (changeHandles number change) :=
  .of_alike (alike_changeHandles number change)

theorem regular_adopt (owned : Subsystems ω) :
    Regular (modifyGet fun s => (s.instances.length, adopt owned s)) where
  oblivious := by
    intro s t alike
    refine ⟨alike.length, alike.platform, alike.suites, alike.generators, ?_, ?_, ?_⟩
    · change (s.instances ++ _).length = (t.instances ++ _).length
      rw [List.length_append, List.length_append, alike.length]
    · funext number
      change subsystems? (adopt owned s) number = subsystems? (adopt owned t) number
      rw [subsystems?_adopt, subsystems?_adopt, alike.length, alike.owned]
    · exact congrArg some alike.length
  later s := by
    refine ⟨.refl _, .refl _, ?_, fun number bound parts owns => ?_⟩
    · change s.instances.length ≤ (s.instances ++ _).length
      rw [List.length_append]
      exact Nat.le_add_right _ _
    · have same : subsystems? (adopt owned s) number = subsystems? s number := by
        rw [subsystems?_adopt, if_neg (Nat.ne_of_lt bound)]
      exact same ▸ owns

theorem regular_construct [Memory ω] (options : Options ω) : Regular (construct options) :=
  .bind (regular_build options) regular_adopt

theorem regular_demand [Memory ω] {options : StateM (Process ω) (Options ω)}
    (regular : Regular options) :
    Regular (demand options) := by
  unfold demand
  apply Regular.read
  · intro s t alike
    rw [alike.current]
  · intro s
    cases s.current with
    | some number => exact .bind (regular_changeHandles _ _) fun _ => .pure _
    | none => exact .bind regular fun options => .bind (regular_construct options) fun _ => .pure _

theorem regular_vacate : Regular (ω := ω) (modify fun s => { s with current := none }) where
  oblivious _ _ alike :=
    ⟨rfl, alike.platform, alike.suites, alike.generators, alike.length, alike.owned, rfl⟩
  later _ := .of_shelves (.refl _) (.refl _) rfl

theorem subsystems?_strip (s : Process ω) (number other : Nat) :
    subsystems? { s with
        instances := s.instances.modify number fun i => { i with subsystems := none } } other =
      if other = number then none else subsystems? s other :=
  subsystems?_detach s number other

theorem regular_strip (number : Nat) : Regular (ω := ω) (modify fun s =>
    { s with
      instances := s.instances.modify number fun i => { i with subsystems := none } }) where
  oblivious := by
    intro s t alike
    refine ⟨rfl, alike.platform, alike.suites, alike.generators, ?_, ?_, alike.current⟩
    · change (s.instances.modify number _).length = (t.instances.modify number _).length
      rw [List.length_modify, List.length_modify, alike.length]
    · funext other
      refine (subsystems?_strip s number other).trans ?_
      rw [alike.owned]
      exact (subsystems?_strip t number other).symm
  later s := by
    refine ⟨.refl _, .refl _, ?_, fun other _ owned owns => ?_⟩
    · exact Nat.le_of_eq (List.length_modify _ _ _).symm
    · have had := (subsystems?_strip s number other).symm.trans owns
      split at had
      · cases had
      · exact had

theorem regular_shutDown (number : Nat) : Regular (ω := ω) (shutDown number) := by
  unfold shutDown
  apply Regular.read
  · intro s t alike
    rw [alike.owned]
  · exact fun s => .bind (regular_strip number) fun _ => .forM regular_destroy

/-- What the operator is told when an instance is reset. -/
def tellHandles (number : Nat) : StateM (Process ω) PUnit := do
  let handles := ((← get).instances[number]?.map Instance.handles).getD 0
  if 0 < handles then Process.onPlatform (Platform.note (.resetWithHandles handles))

-- The handles of an instance are looked at only to tell how many are left.
theorem alike_tellHandles (number : Nat) (s : Process ω) :
    Process.Alike s (tellHandles number s).2 := by
  by_cases held : 0 < (s.instances[number]?.map Instance.handles).getD 0
  · have told : (tellHandles number s).2 = (Process.onPlatform (Platform.note
        (.resetWithHandles ((s.instances[number]?.map Instance.handles).getD 0))) s).2 := by
      simp only [tellHandles, bind, StateT.bind, get, getThe, MonadStateOf.get, StateT.get, pure]
      rw [if_pos held]
    rw [told]
    exact (Process.Alike.refl s).onPlatform (Platform.alike_note _ _)
  · have silent : (tellHandles number s).2 = s := by
      simp only [tellHandles, bind, StateT.bind, get, getThe, MonadStateOf.get, StateT.get, pure]
      rw [if_neg held]
      rfl
    rw [silent]
    exact .refl s

theorem reset_tells : reset (ω := ω) = (do
    match (← get).current with
    | none => pure ()
    | some number =>
      modify fun s => { s with current := none }
      tellHandles number
      shutDown number) := by
  unfold reset tellHandles
  congr 1
  funext s
  cases s.current with
  | none => rfl
  | some number =>
    dsimp only
    congr 1
    funext _ t
    by_cases held : 0 < (t.instances[number]?.map Instance.handles).getD 0
    · simp only [bind, StateT.bind, get, getThe, MonadStateOf.get, StateT.get, pure, held, if_true]
    · simp only [bind, StateT.bind, get, getThe, MonadStateOf.get, StateT.get, pure, held, if_false]
      rfl

theorem regular_reset : Regular (reset (ω := ω)) := by
  rw [reset_tells]
  apply Regular.read
  · intro s t alike
    rw [alike.current]
  · intro s
    cases s.current with
    | none => exact .pure _
    | some number =>
      apply Regular.bind regular_vacate
      intro _
      exact .bind (.of_alike (alike_tellHandles number)) fun _ => regular_shutDown number

end CryptoProvider.Factory
