import CryptoProvider.Proofs.Factory.StaleHandle

/-!
Where products come from. Only an instance that has its parts gives any, and a product knows which of
these parts it needs: the suite, the generator, or none.
-/

set_option autoImplicit false

namespace CryptoProvider.Factory

variable {ω : Type}

/-- What is dispatched from the parts of an instance: products that need none of them, and products
that need its suite or its generator. -/
inductive Made.MadeOf (owned : Subsystems ω) : Made → Prop where
  | cipher (product : Product.Cipher) : MadeOf owned (.cipher product)
  | scheme (product : Product.Scheme) (builtin : product.kind ≠ .gost) :
      MadeOf owned (.scheme product)
  | suiteScheme (digest : Digest) (place : Nat) (part : owned.suite = some place) :
      MadeOf owned (.scheme (.gost ⟨digest, some place⟩))
  | hash (kind : HashKind) (digest : Digest) (builtin : kind ≠ .gost) :
      MadeOf owned (.hash ⟨kind, .builtin digest, none⟩)
  | suiteHash (digest : Digest) (place : Nat) (part : owned.suite = some place) :
      MadeOf owned (.hash ⟨.gost, ⟨digest, some place⟩, none⟩)
  | hmac (kind : MacKind) (digest : Digest) (builtin : kind ≠ .hmacGost) :
      MadeOf owned (.mac (.hmac kind (.builtin digest)))
  | cmac (family : Product.CmacFamily) : MadeOf owned (.mac (.cmac family))
  | suiteHmac (digest : Digest) (place : Nat) (part : owned.suite = some place) :
      MadeOf owned (.mac (.hmac .hmacGost ⟨digest, some place⟩))
  | random (place : Nat) (part : owned.generator = some place) : MadeOf owned (.random ⟨place⟩)

/-- Every product that a request gives, if it gives one, has a property. -/
def Gives {α : Type} (s : Process ω) (request : StateM (Process ω) (Except Error α))
    (property : α → Prop) : Prop :=
  ∀ product, (request s).1 = .ok product → property product

section

variable {s : Process ω} {number : Nat} {owned : Subsystems ω}

theorem gives_pure {α : Type} {property : α → Prop} {product : α} (holds : property product) :
    Gives s (pure (.ok product)) property := by
  rintro _ ⟨⟩
  exact holds

theorem gives_error {α : Type} {property : α → Prop}
    {request : StateM (Process ω) (Except Error α)} {cause : Error}
    (refused : (request s).1 = .error cause) : Gives s request property := by
  intro product given
  rw [refused] at given
  cases given

theorem gives_fromSuite {α : Type} {label : String} {make : Nat → Engine.Suite ω → α}
    {property : α → Prop}
    (holds : ∀ place suite, owned.suite = some place → property (make place suite)) :
    Gives s (fromSuite owned label make) property := by
  intro product given
  unfold fromSuite at given
  cases found : owned.suite.bind fun number => s.suites[number]?.map fun shared =>
      (number, shared) with
  | none =>
    simp only [bind, StateT.bind, get, getThe, MonadStateOf.get, StateT.get, pure, found] at given
    cases given
  | some pair =>
    simp only [bind, StateT.bind, get, getThe, MonadStateOf.get, StateT.get, pure, found] at given
    obtain ⟨number, part, viewed⟩ := Option.bind_eq_some_iff.mp found
    obtain ⟨_, _, rfl⟩ := Option.map_eq_some_iff.mp viewed
    cases given
    exact holds _ _ part

theorem live_of_owns (owns : subsystems? s number = some owned) :
    live number s = (.ok owned, s) := by
  simp only [live, bind, StateT.bind, get, getThe, MonadStateOf.get, StateT.get, pure, owns]
  rfl

-- A request that looks at the instance first gives nothing without its parts.
theorem gives_whenLive {α : Type} {property : α → Prop}
    {rest : Except Error (Subsystems ω) → StateM (Process ω) (Except Error α)}
    (owns : subsystems? s number = some owned) (given : Gives s (rest (.ok owned)) property) :
    Gives s (live number >>= rest) property := by
  have same : (live number >>= rest) s = rest (.ok owned) s := by
    change rest (live number s).1 (live number s).2 = _
    rw [live_of_owns owns]
  intro product answer
  rw [same] at answer
  exact given product answer

theorem gives_map {α : Type} {property : Made → Prop} {make : α → Made}
    {request : StateM (Process ω) (Except Error α)}
    (given : Gives s request fun product => property (make product)) :
    Gives s (do return (← request).map make) property := by
  intro made answer
  change (request s).1.map make = .ok made at answer
  cases found : (request s).1 with
  | error cause =>
    rw [found] at answer
    cases answer
  | ok product =>
    rw [found] at answer
    cases answer
    exact given product found

theorem gives_dispatch (owns : subsystems? s number = some owned) (request : Request) :
    Gives s (dispatch number request) (Made.MadeOf owned) := by
  cases request with
  | cipher kind =>
    refine gives_map (gives_whenLive owns ?_)
    cases kind with
    | unknown => exact gives_error rfl
    | _ => exact gives_pure (.cipher _)
  | scheme kind =>
    refine gives_map (gives_whenLive owns ?_)
    cases kind with
    | unknown => exact gives_error rfl
    | gost => exact gives_fromSuite fun place suite part => .suiteScheme _ _ part
    | _ => exact gives_pure (.scheme _ nofun)
  | hash kind =>
    refine gives_map (gives_whenLive owns ?_)
    cases kind with
    | unknown => exact gives_error rfl
    | gost => exact gives_fromSuite fun place suite part => .suiteHash _ _ part
    | _ => exact gives_pure (.hash _ _ nofun)
  | mac kind =>
    refine gives_map (gives_whenLive owns ?_)
    cases kind with
    | unknown => exact gives_error rfl
    | hmacGost => exact gives_fromSuite fun place suite part => .suiteHmac _ _ part
    | cmacDes => exact gives_pure (.cmac _)
    | cmacAes => exact gives_pure (.cmac _)
    | _ => exact gives_pure (.hmac _ _ nofun)
  | random kind =>
    cases kind with
    | unknown => exact gives_error rfl
    | standard =>
      refine gives_map (gives_whenLive owns ?_)
      dsimp only
      cases part : owned.generator with
      | none => exact gives_error rfl
      | some place => exact gives_pure (.random _ part)

/-- Only an instance with its parts gives products, and they are made of these parts. -/
theorem madeOf_of_dispatch {request : Request} {made : Made}
    (obtained : (dispatch number request s).1 = .ok made) :
    ∃ owned, subsystems? s number = some owned ∧ made.MadeOf owned := by
  cases owns : subsystems? s number with
  | none =>
    have refused := dispatch_refused number request s owns
    rw [obtained] at refused
    cases refused
  | some owned => exact ⟨owned, rfl, gives_dispatch owns request made obtained⟩

end

end CryptoProvider.Factory
