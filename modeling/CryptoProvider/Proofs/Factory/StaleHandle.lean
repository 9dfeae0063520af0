import CryptoProvider.Proofs.Factory.Run

/-!
Handles on an instance that was torn down. Numbers are not used twice, so such a handle never
comes to name a later instance; what dispatch answers to it is always the same refusal, but for an
unknown generator, which is refused before the instance is looked at.
-/

set_option autoImplicit false

namespace CryptoProvider.Factory

variable {ω : Type}

-- An instance that was torn down owns nothing in any later state.
theorem subsystems?_of_gone [Memory ω] (outside : ω) (hosts : List Locking.Host)
    (before later : List (Step ω)) (number : Nat)
    (built : number < (after before (Process.launch outside hosts)).instances.length)
    (gone : (after before (Process.launch outside hosts)).current ≠ some number) :
    subsystems? (after (before ++ later) (Process.launch outside hosts)) number = none := by
  have start : Steady false [] (Process.launch outside hosts) := steady_launch outside hosts
  have early : Steady false [] (after before (Process.launch outside hosts)) :=
    steady_after (by simp) start
  rw [after_append]
  have late : Steady false [] (after later (after before (Process.launch outside hosts))) :=
    steady_after (by simp) early
  have still :
      (after later (after before (Process.launch outside hosts))).current ≠ some number := by
    intro current
    rcases (succeeds_after early fun _ _ _ => rfl).current number current with kept | ⟨_, new⟩
    · exact gone kept
    · exact Nat.lt_irrefl _ (Nat.lt_of_lt_of_le built new)
  -- Only the current instance has its parts, so this one has none.
  have dead := (not_congr (late.standing.live number)).mpr still
  exact Option.not_isSome_iff_eq_none.mp dead

/-- A call that is refused because of the reset, whenever an instance is gone. -/
def Refused {α : Type} (number : Nat) (call : StateM (Process ω) (Except Error α)) : Prop :=
  Ensures (fun s => subsystems? s number = none) call fun answer _ =>
    answer = .error .instanceReset

theorem refused_live (number : Nat) : Refused (ω := ω) number (live number) := by
  have told : ∀ s : Process ω,
      Ensures (· = s) (Process.onPlatform (Platform.note .usedAfterReset)) fun _ _ => True :=
    fun _ _ _ => trivial
  unfold Refused live
  refine Ensures.read fun s gone => ?_
  rw [gone]
  exact Ensures.bind (told s) fun _ => Ensures.pure fun _ _ => rfl

-- What looks at the instance first stops there, whatever it would go on with.
theorem Refused.of_live {α : Type} {number : Nat}
    {rest : Except Error (Subsystems ω) → StateM (Process ω) (Except Error α)}
    (stops : ∀ cause, rest (.error cause) = pure (.error cause)) :
    Refused number (live number >>= rest) := by
  refine Ensures.bind (refused_live number) fun answer => ?_
  rintro s rfl
  rw [stops]
  rfl

theorem Refused.wrap {α : Type} {number : Nat} {call : StateM (Process ω) (Except Error α)}
    (refused : Refused number call) (make : α → Made) :
    Refused number (do return (← call).map make) := by
  refine Ensures.bind refused fun answer => ?_
  rintro s rfl
  rfl

theorem refused_cipher (number : Nat) (kind : CipherKind) :
    Refused (ω := ω) number (cipher number kind) :=
  Refused.of_live fun _ => rfl

theorem refused_scheme (number : Nat) (kind : SchemeKind) :
    Refused (ω := ω) number (scheme number kind) :=
  Refused.of_live fun _ => rfl

theorem refused_hash (number : Nat) (kind : HashKind) :
    Refused (ω := ω) number (hash number kind) :=
  Refused.of_live fun _ => rfl

theorem refused_mac (number : Nat) (kind : MacKind) :
    Refused (ω := ω) number (mac number kind) :=
  Refused.of_live fun _ => rfl

theorem refused_random (number : Nat) : Refused (ω := ω) number (random number .standard) :=
  Refused.of_live fun _ => rfl

theorem dispatch_refused (number : Nat) (request : Request) :
    Ensures (fun s : Process ω => subsystems? s number = none) (dispatch number request)
      fun answer _ => answer =
        .error (if request = .random .unknown then .unsupportedKind GeneratorKind.unknown.label
          else .instanceReset) := by
  cases request with
  | cipher kind => exact (refused_cipher number kind).wrap _
  | scheme kind => exact (refused_scheme number kind).wrap _
  | hash kind => exact (refused_hash number kind).wrap _
  | mac kind => exact (refused_mac number kind).wrap _
  | random kind =>
    cases kind with
    | standard => exact (refused_random number).wrap _
    | unknown =>
      -- The name is refused before the instance is looked at.
      intro s _
      rfl

/-- Every request to an instance that was torn down is refused because it was; but one for an
unknown generator is refused for its name. -/
theorem dispatch_of_gone [Memory ω] (outside : ω) (hosts : List Locking.Host)
    (before later : List (Step ω)) (number : Nat)
    (built : number < (after before (Process.launch outside hosts)).instances.length)
    (gone : (after before (Process.launch outside hosts)).current ≠ some number)
    (request : Request) :
    (dispatch number request (after (before ++ later) (Process.launch outside hosts))).1 =
      .error (if request = .random .unknown then .unsupportedKind GeneratorKind.unknown.label
        else .instanceReset) :=
  dispatch_refused number request _
    (subsystems?_of_gone outside hosts before later number built gone)

theorem dispatch_of_gone_willing :
    (0 < (after [Willing.demand, .reset] (Process.launch () [Willing.host])).instances.length ∧
      (after [Willing.demand, .reset] (Process.launch () [Willing.host])).current ≠ some 0) ∧
      (dispatch 0 (.hash .sha256)
        (after ([Willing.demand, .reset] ++ [Willing.demand]) (Process.launch () [Willing.host]))).1 =
          .error .instanceReset := by
  have built : 0 < (after [Willing.demand, .reset]
    (Process.launch () [Willing.host])).instances.length := by decide
  have gone : (after [Willing.demand, .reset] (Process.launch () [Willing.host])).current ≠
    some 0 := by decide
  exact ⟨⟨built, gone⟩, dispatch_of_gone () [Willing.host] [Willing.demand, .reset]
    [Willing.demand] 0 built gone (.hash .sha256)⟩

-- An unknown generator is not refused because of the reset.
theorem unknown_generator_of_gone :
    (after [Willing.demand] (Process.launch () [Willing.host])).current = some 0 ∧
      (after [Willing.demand, .reset] (Process.launch () [Willing.host])).current = none ∧
      (dispatch 0 (.random .unknown)
        (after [Willing.demand, .reset] (Process.launch () [Willing.host]))).1 ≠
          .error .instanceReset := by
  refine ⟨rfl, rfl, fun same => ?_⟩
  cases same

end CryptoProvider.Factory
