import CryptoProvider.Proofs.Renaming.Platform
import CryptoProvider.Transport.Loader

/-!
The transport loader in two runs. It asks the same of module loaders and plugins in both, and hands
out the same contexts, under the renaming.
-/

set_option autoImplicit false

namespace CryptoProvider

variable {ω : Type}

def OpenModule.rename (naming : Nat → Nat) (opened : OpenModule ω) : OpenModule ω :=
  { opened with number := naming opened.number }

def Transport.Context.rename (naming : Nat → Nat) (context : Transport.Context ω) :
    Transport.Context ω :=
  { context with number := naming context.number }

/-! What it takes for a collaborator to answer alike in related worlds. -/

section

variable (worlds : ω → ω → Prop)

def StartRoutine.Steady (routine : StartRoutine ω) : Prop :=
  ∀ context size config, Agree worlds (routine context size config) (routine context size config) ∧
    ∀ world header finalizer, (routine context size config world).1.header = some header →
      header.value.finalizer = some finalizer → Agree worlds finalizer finalizer

structure TransportPlugin.Steady (plugin : TransportPlugin ω) : Prop where
  info : Agree worlds plugin.info plugin.info
  start : ∀ world info routine, (plugin.info world).1 = some info → info.value.start = some routine →
    StartRoutine.Steady worlds routine

/-- Some path leads to a module with these exports. -/
def ModuleLoader.Offers (loader : ModuleLoader ω) (exports : NativeModule ω) : Prop :=
  ∃ path world, (loader.find path world).1 = some exports

structure ModuleLoader.Steady (loader : ModuleLoader ω) : Prop where
  find : ∀ path, Agree worlds (loader.find path) (loader.find path)
  plugins : ∀ exports plugin, loader.Offers exports → exports.transport = some plugin →
    plugin.Steady worlds

/-- The finalizer that a context carries answers alike. -/
def Transport.Context.Steady (context : Transport.Context ω) : Prop :=
  ∀ magic finalizer, context.finalizer? = some (magic, finalizer) → Agree worlds finalizer finalizer

end

-- In one and the same world everybody answers as they do.
theorem ModuleLoader.steady_eq (loader : ModuleLoader ω) : loader.Steady Eq where
  find _ := .eq _
  plugins _ _ _ _ :=
    ⟨.eq _, fun _ _ _ _ _ _ _ _ => ⟨.eq _, fun _ _ _ _ _ => .eq _⟩⟩

variable {c : Comparison ω} {outset : Outset}

theorem OpenModule.paired_open? {loader : ModuleLoader ω} (path : String)
    (find : Agree c.worlds (loader.find path) (loader.find path)) :
    Pair (Parallel c outset) (open? loader path) (open? loader path) fun opened? other? s t =>
      other? = opened?.map (OpenModule.rename c.naming) ∧
        (∀ opened ∈ opened?, loader.Offers opened.exports) ∧ Parallel c outset s t := by
  unfold open?
  refine Pair.bind_map (Parallel.answer find) fun found? => Pair.given fun ⟨world, answered⟩ => ?_
  cases found? with
  | none => exact .bind (.record rfl) fun _ _ => .pure fun _ _ parallel => ⟨rfl, nofun, parallel⟩
  | some found =>
    refine Pair.bind_map Parallel.fresh_number fun number => ?_
    refine Pair.bind (Parallel.record rfl) fun _ _ => .pure fun _ _ parallel => ⟨rfl, ?_, parallel⟩
    rintro _ ⟨⟩
    exact ⟨path, world, answered⟩

theorem OpenModule.paired_close (opened : OpenModule ω) :
    Pair (Parallel c outset) opened.close (opened.rename c.naming).close fun _ _ =>
      Parallel c outset :=
  Parallel.record rfl

namespace Transport

theorem paired_openConventional {loader : ModuleLoader ω} (steady : loader.Steady c.worlds)
    (name : String) :
    Pair (Parallel c outset) (openConventional loader name) (openConventional loader name)
      fun opened? other? s t =>
        other? = opened?.map (OpenModule.rename c.naming) ∧
          (∀ opened ∈ opened?, loader.Offers opened.exports) ∧ Parallel c outset s t := by
  unfold openConventional
  cases libraryName? name with
  | none => exact .bind .note fun _ _ => .pure fun _ _ parallel => ⟨rfl, nofun, parallel⟩
  | some path => exact OpenModule.paired_open? path (steady.find path)

theorem paired_locate {loader : ModuleLoader ω} (steady : loader.Steady c.worlds)
    (name : String) :
    Pair (Parallel c outset) (locate loader name) (locate loader name) fun opened? other? s t =>
      other? = opened?.map (OpenModule.rename c.naming) ∧
        (∀ opened ∈ opened?, loader.Offers opened.exports) ∧ Parallel c outset s t := by
  unfold locate
  refine Pair.bind_map (OpenModule.paired_open? name (steady.find name)) fun opened? =>
    Pair.given fun offered => ?_
  cases opened? with
  | none => exact paired_openConventional steady name
  | some opened => exact .pure fun _ _ parallel => ⟨rfl, offered, parallel⟩

namespace Context

theorem header_of_finalizer? {context : Context ω} {magic : Nat} {finalizer : StateM ω Unit}
    (carried : context.finalizer? = some (magic, finalizer)) :
    ∃ header, context.buffer.header = some header ∧ header.value.finalizer = some finalizer := by
  simp only [finalizer?, Header.finalizer?, header?, Option.bind_eq_bind, Option.bind_eq_some_iff,
    Option.ite_none_left_eq_some, Option.ite_none_right_eq_some] at carried
  obtain ⟨header, ⟨-, written⟩, other, pointed, -, same⟩ := carried
  cases same
  exact ⟨header, written, pointed⟩

variable {opened : OpenModule ω} {plugin : TransportPlugin ω} {routine : StartRoutine ω}

theorem paired_querySize (steady : StartRoutine.Steady c.worlds routine) (name : String)
    (config : Option String) :
    Pair (Parallel c outset) (querySize opened plugin routine name config)
      (querySize (opened.rename c.naming) plugin routine name config) fun size other s t =>
        other = size ∧ Parallel c outset s t := by
  unfold querySize
  refine Pair.bind_map (Parallel.consult (steady none 0 config).1) fun reply => ?_
  refine Pair.bind (Parallel.record rfl) fun _ _ => ?_
  refine Pair.ite (fun _ => Pair.bind Parallel.note fun _ _ => ?_) fun _ => ?_
  · exact .pure fun _ _ parallel => ⟨rfl, parallel⟩
  · exact .pure fun _ _ parallel => ⟨rfl, parallel⟩

theorem paired_fill [Memory ω] (memory : Memory.Steady c.worlds)
    (steady : StartRoutine.Steady c.worlds routine) (name : String) (config : Option String)
    (size : Nat) :
    Pair (Parallel c outset) (fill opened plugin routine name config size)
      (fill (opened.rename c.naming) plugin routine name config size) fun filled other s t =>
        other = filled.map (Context.rename c.naming) ∧
          (∀ context, filled = .ok context → context.Steady c.worlds) ∧ Parallel c outset s t := by
  unfold fill
  refine Pair.bind_map (Parallel.allocate memory size) fun allocated => ?_
  cases allocated with
  | error cause => exact .pure fun _ _ parallel => ⟨rfl, nofun, parallel⟩
  | ok buffer =>
    refine Pair.bind_map Parallel.fresh_number fun number => ?_
    refine Pair.bind_map (Parallel.answer (steady (some buffer) size config).1) fun reply =>
      Pair.given fun ⟨world, answered⟩ => ?_
    refine Pair.bind (Parallel.record rfl) fun _ _ => ?_
    refine Pair.ite (fun _ => Pair.bind Parallel.note fun _ _ => ?_) fun _ => ?_
    · exact .pure fun _ _ parallel => ⟨rfl, nofun, parallel⟩
    · refine .pure fun _ _ parallel => ⟨rfl, ?_, parallel⟩
      rintro _ ⟨⟩ magic finalizer carried
      obtain ⟨header, written, pointed⟩ := header_of_finalizer? carried
      exact (steady _ _ _).2 world header finalizer (answered ▸ written) pointed

theorem paired_finalize {context : Context ω} (steady : context.Steady c.worlds) :
    Pair (Parallel c outset) context.finalize (context.rename c.naming).finalize
      fun finalized other s t =>
        other = finalized.rename c.naming ∧ finalized.finalizer? = context.finalizer? ∧
          Parallel c outset s t := by
  have unchanged : (context.rename c.naming).finalizer? = context.finalizer? := rfl
  rw [finalize_eq, finalize_eq]
  refine Pair.ite (fun _ => .pure fun _ _ parallel => ⟨rfl, rfl, parallel⟩) fun _ => ?_
  rw [unchanged]
  cases carried : context.finalizer? with
  | none => exact .pure fun _ _ parallel => ⟨rfl, carried, parallel⟩
  | some finalizer =>
    refine Pair.bind Pair.get fun first second => Pair.given fun parallel => ?_
    have recorded : Pair (Parallel c outset)
        (Platform.record context.reported
          (.transportFinalize context.plugin context.number finalizer.1 first.transport.isSome))
        (Platform.record context.reported
          (.transportFinalize context.plugin (c.naming context.number) finalizer.1
            second.transport.isSome)) fun _ _ => Parallel c outset := by
      rw [← parallel.occupied]
      exact Parallel.record rfl
    refine Pair.bind recorded fun _ _ => ?_
    refine Pair.bind_map (Parallel.consult (steady _ _ carried)) fun _ => ?_
    exact .pure fun _ _ parallel => ⟨rfl, carried, parallel⟩

end Context

theorem paired_start [Memory ω] (memory : Memory.Steady c.worlds) {loader : ModuleLoader ω}
    (steady : loader.Steady c.worlds) {opened : OpenModule ω}
    (offered : loader.Offers opened.exports) (name : String) (config : Option String) :
    Pair (Parallel c outset) (start opened name config)
      (start (opened.rename c.naming) name config) fun started other s t =>
        other = started.map (fun made => (made.1, made.2.rename c.naming)) ∧
          (∀ made, started = .ok made → made.2.Steady c.worlds) ∧ Parallel c outset s t := by
  have plugins := steady.plugins opened.exports
  have failed (cause : Error) : Pair (Parallel c outset)
      (Pure.pure (.error cause : Except Error (Static ω (TransportInfo ω) × Context ω)))
      (Pure.pure (.error cause : Except Error (Static ω (TransportInfo ω) × Context ω)))
      fun started other s t =>
        other = started.map (fun made => (made.1, made.2.rename c.naming)) ∧
          (∀ made, started = .ok made → made.2.Steady c.worlds) ∧ Parallel c outset s t :=
    .pure fun _ _ parallel => ⟨rfl, nofun, parallel⟩
  unfold start OpenModule.rename
  dsimp only
  cases exported : opened.exports.transport with
  | none => exact .bind .note fun _ _ => failed _
  | some plugin =>
    have calm := plugins plugin offered exported
    refine Pair.bind_map (Parallel.answer calm.info) fun info? =>
      Pair.given fun ⟨world, answered⟩ => ?_
    refine Pair.bind (Parallel.record rfl) fun _ _ => ?_
    cases info? with
    | none => exact failed _
    | some info =>
      simp only [Platform.peek_eq, pure_bind]
      cases begins : info.value.start with
      | none => exact failed _
      | some routine =>
        have same := calm.start world info routine answered begins
        refine Pair.bind_map (Context.paired_querySize same name config) fun size => ?_
        cases size with
        | error cause => exact failed _
        | ok size =>
          refine Pair.bind_map (Context.paired_fill memory same name config size) fun filled =>
            Pair.given fun carried => ?_
          cases filled with
          | error cause => exact failed _
          | ok context =>
            refine .pure fun _ _ parallel => ⟨rfl, ?_, parallel⟩
            rintro _ ⟨⟩
            exact carried context rfl

theorem paired_load [Memory ω] (memory : Memory.Steady c.worlds) {loader : ModuleLoader ω}
    (steady : loader.Steady c.worlds) (name : String) (config : Option String) :
    Pair (Parallel c outset) (load loader name config) (load loader name config)
      fun loaded other s t =>
        other = loaded.map (Context.rename c.naming) ∧
          (∀ context, loaded = .ok context → context.Steady c.worlds) ∧ Parallel c outset s t := by
  unfold load
  refine Pair.bind Pair.get fun first second => Pair.given fun parallel => ?_
  rw [← parallel.occupied]
  refine Pair.ite (fun _ => ?_) fun _ => ?_
  · exact .bind .note fun _ _ => .pure fun _ _ parallel => ⟨rfl, nofun, parallel⟩
  · refine Pair.bind_map (paired_locate steady name) fun opened? => Pair.given fun offered => ?_
    cases opened? with
    | none => exact .bind .note fun _ _ => .pure fun _ _ parallel => ⟨rfl, nofun, parallel⟩
    | some opened =>
      refine Pair.bind_map (paired_start memory steady (offered opened rfl) name config)
        fun started => Pair.given fun carried => ?_
      cases started with
      | error cause =>
        refine Pair.bind opened.paired_close fun _ _ => ?_
        exact .pure fun _ _ parallel => ⟨rfl, nofun, parallel⟩
      | ok made =>
        refine Pair.bind (Parallel.setTransport rfl rfl) fun _ _ => ?_
        refine .pure fun _ _ parallel => ⟨rfl, ?_, parallel⟩
        rintro _ ⟨⟩
        exact carried made rfl

theorem paired_unload :
    Pair (Parallel c outset) unload unload fun _ _ => Parallel c outset := by
  unfold unload
  refine Pair.bind Pair.get fun first second => Pair.given fun parallel => ?_
  rw [← parallel.occupied]
  refine Pair.ite (fun _ => Parallel.setTransport rfl rfl) fun _ => ?_
  exact .pure fun _ _ parallel => parallel

theorem paired_isPresent {loader : ModuleLoader ω} (steady : loader.Steady c.worlds)
    (name : String) :
    Pair (Parallel c outset) (isPresent loader name) (isPresent loader name)
      fun present other s t => other = present ∧ Parallel c outset s t := by
  unfold isPresent
  refine Pair.bind_map (paired_openConventional steady name) fun opened? => Pair.given fun _ => ?_
  cases opened? with
  | none => exact .pure fun _ _ parallel => ⟨rfl, parallel⟩
  | some opened =>
    exact .bind opened.paired_close fun _ _ => .pure fun _ _ parallel => ⟨rfl, parallel⟩

end Transport

end CryptoProvider
