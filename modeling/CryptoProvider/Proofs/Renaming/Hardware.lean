import CryptoProvider.Command.Hardware
import CryptoProvider.Proofs.Renaming.Transport

/-!
The hardware context in two runs. What the command library answers may depend on the size of a
context, but not on where it is; and the transport context that it reports is the one it was given
in both runs, or another in both.
-/

set_option autoImplicit false

namespace CryptoProvider

variable {ω : Type}

/-- Pointers that are null both or neither, and are both the pointer that is looked for or neither.
-/
structure Command.PointsAlike (own other : Nat) (first second : Option Nat) : Prop where
  null : first.isSome = second.isSome
  own : first = some own ↔ second = some other

section

variable (worlds : ω → ω → Prop)

/-- A command library answers alike in related worlds, wherever the contexts are. -/
structure Command.Library.Steady (library : Command.Library ω) : Prop where
  contextSize : ∀ maximum, Agree worlds (library.contextSize maximum) (library.contextSize maximum)
  start : ∀ size a b own other abi,
    Agree worlds (library.start ⟨a, size, own⟩ abi) (library.start ⟨b, size, other⟩ abi)
  nestedTransport : ∀ size a b own other,
    Pair worlds (library.nestedTransport ⟨a, size, own⟩) (library.nestedTransport ⟨b, size, other⟩)
      fun first second v w =>
        (second.1 = first.1 ∧ Command.PointsAlike own other first.2 second.2) ∧ worlds v w
  finalize : ∀ size a b own other,
    Agree worlds (library.finalize ⟨a, size, own⟩) (library.finalize ⟨b, size, other⟩)

/-- All that a module loader leads to answers alike. -/
structure ModuleLoader.AllSteady (loader : ModuleLoader ω) : Prop extends
    ModuleLoader.Steady worlds loader where
  commands : ∀ opened library, loader.Offers opened.exports →
    Command.Library.resolve? opened = some library → library.Steady worlds

/-- A hardware context whose collaborators answer alike, and whose parts belong together. -/
structure Command.Hardware.Steady (hardware : Command.Hardware ω) : Prop where
  library : hardware.library.Steady worlds
  transport : ∀ context, hardware.transport = some context → context.Steady worlds
  bound : ∀ command context, hardware.command = some command →
    hardware.transport = some context → command.transport = context.number

end

/-- A comparison that overlooks which transport context a command library reports. -/
def Comparison.Overlooks (c : Comparison ω) : Prop :=
  ∀ reported context status first second, Option.isSome first = Option.isSome second →
    c.view (.call reported (.commandTransport context status first)) =
      c.view (.call reported (.commandTransport context status second))

variable {c : Comparison ω} {outset : Outset}

namespace Command

namespace Library

def rename (naming : Nat → Nat) (library : Library ω) : Library ω :=
  { library with opened := library.opened.rename naming }

theorem resolve?_rename (naming : Nat → Nat) (opened : OpenModule ω) :
    resolve? (opened.rename naming) = (resolve? opened).map (rename naming) := by
  obtain ⟨_, _, _, _, contextSize, start, nested, finalize⟩ := opened
  cases contextSize <;> cases start <;> cases nested <;> cases finalize <;> rfl

theorem paired_openAt {loader : ModuleLoader ω} (steady : loader.AllSteady c.worlds)
    (path : String) :
    Pair (Parallel c outset) (openAt loader path) (openAt loader path) fun opened other s t =>
      other = opened.map (rename c.naming) ∧
        (∀ library, opened = .ok library → library.Steady c.worlds) ∧ Parallel c outset s t := by
  unfold openAt
  refine Pair.bind_map (OpenModule.paired_open? path (steady.find path)) fun opened? =>
    Pair.given fun offered => ?_
  cases opened? with
  | none => exact .pure fun _ _ parallel => ⟨rfl, nofun, parallel⟩
  | some opened =>
    dsimp only [Option.map_some]
    rw [resolve?_rename]
    cases fit : resolve? opened with
    | some library =>
      refine .pure fun _ _ parallel => ⟨rfl, ?_, parallel⟩
      rintro _ ⟨⟩
      exact steady.commands opened library (offered opened rfl) fit
    | none =>
      refine Pair.bind Parallel.note fun _ _ => Pair.bind opened.paired_close fun _ _ => ?_
      exact .pure fun _ _ parallel => ⟨rfl, nofun, parallel⟩

theorem paired_close (library : Library ω) :
    Pair (Parallel c outset) library.close (library.rename c.naming).close fun _ _ =>
      Parallel c outset :=
  library.opened.paired_close

end Library

namespace Hardware

def rename (naming : Nat → Nat) (hardware : Hardware ω) : Hardware ω where
  library := hardware.library.rename naming
  command := hardware.command.map (CommandContext.rename naming)
  transport := hardware.transport.map (Transport.Context.rename naming)

variable {library : Library ω}

theorem paired_bind [Memory ω] (memory : Memory.Steady c.worlds)
    (steady : library.Steady c.worlds) (transport : Transport.Context ω) :
    Pair (Parallel c outset) (bind library transport)
      (bind (library.rename c.naming) (transport.rename c.naming)) fun bound other s t =>
        other = bound.map (CommandContext.rename c.naming) ∧
          (∀ command, bound = .ok command → command.transport = transport.number) ∧
          Parallel c outset s t := by
  unfold bind
  refine Pair.bind_map (Parallel.consult (steady.contextSize 0)) fun size => ?_
  refine Pair.bind (Parallel.record rfl) fun _ _ => ?_
  refine Pair.bind_map (Parallel.allocate memory size) fun allocated => ?_
  cases allocated with
  | error cause =>
    exact Pair.bind Parallel.note fun _ _ => .pure fun _ _ parallel => ⟨rfl, nofun, parallel⟩
  | ok buffer =>
    refine Pair.bind_map Parallel.fresh_number fun number => ?_
    refine Pair.bind_map (Parallel.consult (steady.start _ _ _ _ _ _)) fun status => ?_
    refine Pair.bind (Parallel.record rfl) fun _ _ => Pair.ite (fun _ => ?_) fun _ => ?_
    · exact Pair.bind Parallel.note fun _ _ => .pure fun _ _ parallel => ⟨rfl, nofun, parallel⟩
    · refine .pure fun _ _ parallel => ⟨rfl, ?_, parallel⟩
      rintro _ ⟨⟩
      rfl

theorem paired_bringUp [Memory ω] (memory : Memory.Steady c.worlds) {loader : ModuleLoader ω}
    (steady : loader.AllSteady c.worlds) (path : String) (spec : Transport.Spec) :
    Pair (Parallel c outset) (bringUp loader path spec) (bringUp loader path spec)
      fun built other s t =>
        other = built.map (rename c.naming) ∧
          (∀ hardware, built = .ok hardware → hardware.Steady c.worlds) ∧
          Parallel c outset s t := by
  have failed (cause : Error) : Pair (Parallel c outset)
      (Pure.pure (.error cause : Except Error (Hardware ω)))
      (Pure.pure (.error cause : Except Error (Hardware ω)))
      fun built other s t =>
        other = built.map (rename c.naming) ∧
          (∀ hardware, built = .ok hardware → hardware.Steady c.worlds) ∧
          Parallel c outset s t := by
    refine .pure fun _ _ parallel => ⟨rfl, ?_, parallel⟩
    rintro _ ⟨⟩
  unfold bringUp
  refine Pair.bind_map (Library.paired_openAt steady path) fun opened => Pair.given fun fit => ?_
  cases opened with
  | error cause => exact failed cause
  | ok library =>
    refine Pair.bind_map (Transport.paired_load memory steady.toSteady spec.name spec.config)
      fun loaded => Pair.given fun carried => ?_
    cases loaded with
    | error cause => exact Pair.bind library.paired_close fun _ _ => failed cause
    | ok transport =>
      refine Pair.bind_map (paired_bind memory (fit library rfl) transport) fun bound =>
        Pair.given fun own => ?_
      cases bound with
      | error cause =>
        refine Pair.bind_map (Transport.Context.paired_finalize (carried transport rfl))
          fun finalized => Pair.given fun _ => ?_
        refine Pair.bind Transport.paired_unload fun _ _ => ?_
        exact Pair.bind library.paired_close fun _ _ => failed cause
      | ok command =>
        refine Pair.bind Parallel.note fun _ _ => .pure fun _ _ parallel => ⟨rfl, ?_, parallel⟩
        rintro _ ⟨⟩
        refine ⟨fit library rfl, ?_, ?_⟩
        · rintro _ ⟨⟩
          exact carried transport rfl
        · rintro _ _ ⟨⟩ ⟨⟩
          exact own command rfl

theorem paired_nestedTransport (overlooks : c.Overlooks) (steady : library.Steady c.worlds)
    (command : CommandContext) :
    Pair (Parallel c outset) (nestedTransport library command)
      (nestedTransport (library.rename c.naming) (command.rename c.naming))
      fun found other s t =>
        PointsAlike command.transport (c.naming command.transport) found other ∧
          Parallel c outset s t := by
  unfold nestedTransport
  refine Pair.bind (Parallel.compare (steady.nestedTransport _ _ _ _ _)) ?_
  rintro ⟨_, found⟩ ⟨status, other⟩
  refine Pair.given fun ⟨same, alike⟩ => ?_
  obtain rfl : status = _ := same
  have recorded : c.view ((Event.call library.opened.reported
        (.commandTransport command.number status found)).rename c.naming) =
      c.view (.call library.opened.reported
        (.commandTransport (c.naming command.number) status other)) := by
    refine overlooks _ _ _ _ _ ?_
    rw [Option.isSome_map]
    exact alike.null
  refine Pair.bind (Parallel.record recorded) fun _ _ => Pair.ite (fun _ => ?_) fun _ => ?_
  · refine Pair.bind Parallel.note fun _ _ => .pure fun _ _ parallel => ⟨⟨rfl, ?_⟩, parallel⟩
    exact iff_of_false nofun nofun
  · exact .pure fun _ _ parallel => ⟨alike, parallel⟩

theorem paired_releaseTransport {transport : Transport.Context ω}
    (steady : transport.Steady c.worlds) {found other : Option Nat}
    (alike : PointsAlike transport.number (c.naming transport.number) found other) :
    Pair (Parallel c outset) (releaseTransport transport found)
      (releaseTransport (transport.rename c.naming) other) fun _ _ => Parallel c outset := by
  have finalized : Pair (Parallel c outset)
      (do
        let _ ← transport.finalize
        return ())
      (do
        let _ ← (transport.rename c.naming).finalize
        return ()) fun _ _ => Parallel c outset :=
    Pair.bind_map (Transport.Context.paired_finalize steady) fun _ => Pair.given fun _ =>
      .pure fun _ _ parallel => parallel
  cases found with
  | none =>
    obtain rfl : other = none := Option.not_isSome_iff_eq_none.mp (by simp [← alike.null])
    exact Parallel.note
  | some number =>
    obtain ⟨second, rfl⟩ := Option.isSome_iff_exists.mp alike.null.symm
    -- The pointers differ, but both are or neither is the one at hand; so both runs branch alike.
    have own : number ≠ transport.number ↔ second ≠ c.naming transport.number := by
      simpa using not_congr alike.own
    refine Pair.branch own (fun _ => ?_) fun _ => finalized
    exact Pair.bind Parallel.note fun _ _ => finalized

theorem paired_teardown (overlooks : c.Overlooks) {hardware : Hardware ω}
    (steady : hardware.Steady c.worlds) :
    Pair (Parallel c outset) hardware.teardown (hardware.rename c.naming).teardown
      fun left other s t =>
        left.library = hardware.library ∧ other.library = hardware.library.rename c.naming ∧
          Parallel c outset s t := by
  obtain ⟨library, command, transport⟩ := hardware
  unfold teardown rename
  cases command with
  | none => exact .pure fun _ _ parallel => ⟨rfl, rfl, parallel⟩
  | some command =>
    refine Pair.bind (paired_nestedTransport overlooks steady.library command) fun found other =>
      Pair.given fun alike => ?_
    refine Pair.bind (Parallel.record rfl) fun _ _ => ?_
    refine Pair.bind_map (Parallel.consult (steady.library.finalize _ _ _ _ _)) fun _ => ?_
    have emptied : Pair (Parallel c outset)
        (do
          Transport.unload
          return (⟨library, none, none⟩ : Hardware ω))
        (do
          Transport.unload
          return (⟨library.rename c.naming, none, none⟩ : Hardware ω)) fun left other s t =>
        left.library = library ∧ other.library = library.rename c.naming ∧
          Parallel c outset s t :=
      Pair.bind Transport.paired_unload fun _ _ =>
        .pure fun _ _ parallel => ⟨rfl, rfl, parallel⟩
    cases transport with
    | none => exact emptied
    | some transport =>
      dsimp only [Option.map_some]
      rw [steady.bound command transport rfl rfl] at alike
      exact Pair.bind (paired_releaseTransport (steady.transport transport rfl) alike)
        fun _ _ => emptied

theorem paired_drop (overlooks : c.Overlooks) {hardware : Hardware ω}
    (steady : hardware.Steady c.worlds) :
    Pair (Parallel c outset) hardware.drop (hardware.rename c.naming).drop fun _ _ =>
      Parallel c outset := by
  refine Pair.bind (paired_teardown overlooks steady) fun left other => ?_
  refine Pair.given fun same => Pair.given fun renamed => ?_
  rw [same, renamed]
  exact hardware.library.paired_close

end Hardware

end Command

end CryptoProvider
