import CryptoProvider.Key.Standard
import CryptoProvider.Proofs.Key.Rsa
import CryptoProvider.Proofs.Product.Streaming
import Mathlib.NumberTheory.LucasLehmer

/-!
What a scheme signs, the scheme verifies. Schemes do not look at the type of a key: all that they
tell the library of key operations is which digest to take, and they tell it the same when they sign
and when they verify. So as far as the library keeps to its own word, every signature verifies, and
schemes that come to the same digest verify each other's.
-/

set_option autoImplicit false

namespace CryptoProvider

variable {ω : Type}

namespace Key

/-- Whether keys of this type sign a digest of the data, and not the data themselves. -/
def Private.signsDigests : Private → Bool
  | .rsa .. | .ec .. | .dsa .. => true
  | .dh .. | .edwards .. | .x25519 .. => false

/-- A library's word for one key: the public half can be written and is read back, it verifies
whatever the key signed, with whatever nonce, and if no digest is named for a key that signs digests,
SHA-256 is meant. -/
structure Library.Honours (library : Library) (key : Private) (half : Public) : Prop where
  encodes : ∃ encoded, library.encodePublic key = some encoded
  preserves : ∀ encoded, library.encodePublic key = some encoded →
    library.decodePublic encoded = some half
  verifies : ∀ digest data seed signature, library.sign key digest data seed = some signature →
    library.verify half digest data signature = some true
  ordinary : key.signsDigests = true → ∀ data signature,
    library.verify half none data signature = library.verify half (some Digest.sha256) data signature

/-- The library that comes with this one keeps its word for every consistent RSA key whose public half
can be read back. -/
theorem Library.standard_honours {exponent secret p q : Nat} (rsa : Rsa exponent secret p q)
    (read : Public.decode? (Public.encode (.rsa (p * q) exponent)) =
      some (.rsa (p * q) exponent)) :
    Library.standard.Honours (.rsa (p * q) exponent secret p q) (.rsa (p * q) exponent) where
  encodes := ⟨Public.encode (.rsa (p * q) exponent), rfl⟩
  preserves encoded written := by
    have same : Public.encode (.rsa (p * q) exponent) = encoded := Option.some.inj written
    rw [← same]
    -- the library is opened first, or `read` would be matched by computing the encoding
    simp only [Library.standard]
    exact read
  verifies _ _ _ _ signed := congrArg some (Signature.verifyRsa_signRsa rsa signed)
  ordinary _ _ _ := rfl

/-- It signs with every RSA key whose modulus has room for the padded digest. -/
theorem Library.exists_standard_sign {d : Digest} {data : Bytes} {modulus : Nat}
    (room : (Signature.namedValue d data).length + 11 ≤ Bytes.widthOf modulus)
    (exponent secret p q seed : Nat) :
    ∃ signature, Library.standard.sign (.rsa modulus exponent secret p q) (some d) data seed =
      some signature :=
  Signature.exists_signRsa secret room

/-- What undoes the exponent 65537 for the primes `mersenne 127` and `mersenne 521`. -/
def secretMersenne : Nat := (1 + 10880 * ((mersenne 127 - 1) * (mersenne 521 - 1))) / 65537

theorem rsa_mersenne : Rsa 65537 secretMersenne (mersenne 127) (mersenne 521) where
  prime_left := lucas_lehmer_sufficiency _ (by simp) (by norm_num)
  prime_right := lucas_lehmer_sufficiency _ (by simp) (by norm_num)
  apart := by decide +kernel
  positive := by decide +kernel
  left := by decide +kernel
  right := by decide +kernel

theorem Library.honours_mersenne :
    Library.standard.Honours
      (.rsa (mersenne 127 * mersenne 521) 65537 secretMersenne (mersenne 127) (mersenne 521))
      (.rsa (mersenne 127 * mersenne 521) 65537) :=
  Library.standard_honours rsa_mersenne (by decide +kernel)

theorem Library.exists_mersenne_sign (data : Bytes) (seed : Nat) :
    ∃ signature, Library.standard.sign
      (.rsa (mersenne 127 * mersenne 521) 65537 secretMersenne (mersenne 127) (mersenne 521))
      (some Digest.sha256) data seed = some signature := by
  refine Library.exists_standard_sign ?room 65537 secretMersenne (mersenne 127) (mersenne 521) seed
  rw [Signature.length_namedValue_sha256]
  decide +kernel

end Key

namespace Product

open Factory

namespace Scheme

/-- How a scheme that signs names a digest to the library: not at all, or this one. -/
def digest? (scheme : Scheme) : Option (Option Digest) :=
  scheme.signing?.map (Option.map Source.digest)

/-- Whether the suite that a scheme needs, if it needs one, is still held. -/
def available (scheme : Scheme) (s : Process ω) : Bool :=
  match scheme with
  | gost source => source.available s
  | _ => true

/-- The schemes that sign without a suite. -/
def suiteless : List Scheme := [rsa, dsa, ecdsa, eddsa]

variable {scheme : Scheme} {choice : Option Digest} {library : Key.Library} {key : Key.Private}
  {half : Key.Public} {data signature : Bytes} {seed : Nat} {s : Process ω}

theorem answered_eq_ok {α : Type} {result : Option α} {value : α} :
    answered result = .ok value ↔ result = some value := by
  cases result <;> simp [answered]

/-- A scheme names its digest, if it can be used, and leaves the rest to the library. -/
theorem withDigest_eq {α : Type} (named : scheme.digest? = some choice)
    (operation : KeyOperation) (run : Option Digest → Option α) (s : Process ω) :
    scheme.withDigest operation run s =
      (if scheme.available s then answered (run choice) else .error .instanceReset, s) := by
  cases scheme with
  | rsa | dsa | ecdsa | eddsa =>
    cases named
    rfl
  | gost source =>
    cases named
    exact source.during_eq _ s
  | dh | ecdh => cases named

theorem withDigest_of_none {α : Type} (unnamed : scheme.digest? = none)
    (operation : KeyOperation) (run : Option Digest → Option α) (s : Process ω) :
    scheme.withDigest operation run s =
      (.error (.invalidParameter (.operationNotSupported scheme.kind operation)), s) := by
  cases scheme with
  | dh | ecdh => rfl
  | rsa | dsa | ecdsa | eddsa | gost source => cases unnamed

/-- A signature is the library's for the digest that the scheme names, and nothing happens. -/
theorem sign_eq_ok :
    (scheme.sign library seed key data s).1 = .ok signature ↔
      ∃ choice, scheme.digest? = some choice ∧ scheme.available s = true ∧
        library.sign key choice data seed = some signature := by
  unfold sign
  cases named : scheme.digest? with
  | none => simp [withDigest_of_none named]
  | some choice =>
    rw [withDigest_eq named]
    cases usable : scheme.available s with
    | false => simp
    | true => simp [answered_eq_ok]

theorem sign_idle (scheme : Scheme) (library : Key.Library) (seed : Nat) (key : Key.Private)
    (data : Bytes) (s : Process ω) : (scheme.sign library seed key data s).2 = s := by
  unfold sign
  cases named : scheme.digest? with
  | none => rw [withDigest_of_none named]
  | some choice => rw [withDigest_eq named]

theorem sign_eq (named : scheme.digest? = some choice) (usable : scheme.available s = true) :
    scheme.sign library seed key data s = (answered (library.sign key choice data seed), s) := by
  unfold sign
  rw [withDigest_eq named, if_pos usable]

theorem verify_eq (named : scheme.digest? = some choice) (usable : scheme.available s = true) :
    scheme.verify library half data signature s =
      (answered (library.verify half choice data signature), s) := by
  unfold verify
  rw [withDigest_eq named, if_pos usable]

/-- A signature verifies with the public half, wherever a scheme that comes to the same digest for
the key can be used. -/
theorem verify_of_sign {maker checker : Scheme} (honoured : library.Honours key half)
    (signed : (maker.sign library seed key data s).1 = .ok signature)
    (same : checker.digest? = maker.digest?) {t : Process ω} (usable : checker.available t = true) :
    checker.verify library half data signature t = (.ok true, t) := by
  obtain ⟨choice, named, _, given⟩ := sign_eq_ok.mp signed
  rw [verify_eq (same.trans named) usable, honoured.verifies choice data seed signature given]
  rfl

/-- For a key that signs digests, all schemes without a suite come to SHA-256. -/
theorem verify_suiteless (honoured : library.Honours key half)
    (digests : key.signsDigests = true) {checker : Scheme} (member : checker ∈ suiteless)
    (data signature : Bytes) (t : Process ω) :
    checker.verify library half data signature t =
      (answered (library.verify half (some Digest.sha256) data signature), t) := by
  have ordinary := honoured.ordinary digests data signature
  simp only [suiteless, List.mem_cons, List.not_mem_nil, or_false] at member
  rcases member with rfl | rfl | rfl | rfl
  · rfl
  · rfl
  · rfl
  · exact congrArg (fun verdict => (answered verdict, t)) ordinary

theorem verify_of_sign_suiteless (honoured : library.Honours key half)
    (digests : key.signsDigests = true) {maker checker : Scheme} (first : maker ∈ suiteless)
    (second : checker ∈ suiteless)
    (signed : (maker.sign library seed key data s).1 = .ok signature) (t : Process ω) :
    checker.verify library half data signature t = (.ok true, t) := by
  obtain ⟨_, _, usable, _⟩ := sign_eq_ok.mp signed
  have own := verify_of_sign honoured signed rfl usable
  rw [verify_suiteless honoured digests first] at own
  rw [verify_suiteless honoured digests second, (Prod.mk.inj own).1]

end Scheme

theorem publicHalf_of_honours {library : Key.Library} {key : Key.Private} {half : Key.Public}
    (honoured : library.Honours key half) : publicHalf library key = .ok half := by
  obtain ⟨encoded, written⟩ := honoured.encodes
  have read := honoured.preserves encoded written
  simp only [publicHalf, Key.Library.publicHalf, written, Option.bind_some, read, Scheme.answered]

end Product

namespace Factory

open Product

/-- A scheme made for a caller can be used; one of the suite as long as its instance is not reset. -/
theorem available_given [Memory ω] {s : Process ω} (steady : Steady false [] s) {number : Nat}
    {kind : SchemeKind} {product : Scheme}
    (obtained : (dispatch number (.scheme kind) s).1 = .ok (.scheme product))
    (steps : List (Step ω)) :
    product.available (after steps s) = (kind ≠ .gost || !isReset (after steps s) number) := by
  obtain rfl : product.kind = kind :=
    Request.scheme.inj (request_of_dispatch steady obtained)
  obtain ⟨owned, owns, madeOf⟩ := madeOf_of_dispatch obtained
  cases madeOf with
  | scheme _ builtin =>
    cases product with
    | gost source => exact absurd rfl builtin
    | _ => rfl
  | suiteScheme digest place part => exact available_after steady owns part digest steps

end Factory

namespace Product

open Factory

/-- As far as the library of key operations keeps its word for a key: if a scheme signs with the key,
the process is as it was, the public half is obtained from the key, and the scheme verifies the
signature with it in every process in which the scheme can be used. If the key signs digests, each
scheme without a suite verifies what any of them signed. The choice of the digest is all that
matters: schemes that name the same one give the same verdicts, and the same signatures where the
library's random source is in the same state. A scheme made by an instance can be used for ever, but
one of the suite only until the instance is reset. -/
theorem signatures_verify [Memory ω] {library : Key.Library} {key : Key.Private} {half : Key.Public}
    (honoured : library.Honours key half) (data : Bytes) :
    (∀ (scheme : Scheme) (seed : Nat) (signature : Bytes) (s : Process ω),
      (scheme.sign library seed key data s).1 = .ok signature →
      (scheme.sign library seed key data s).2 = s ∧ scheme.available s = true ∧
      publicHalf library key = .ok half ∧
      ∀ t : Process ω, scheme.available t = true →
        scheme.verify library half data signature t = (.ok true, t)) ∧
    (key.signsDigests = true →
      ∀ maker ∈ Scheme.suiteless, ∀ checker ∈ Scheme.suiteless,
      ∀ (seed : Nat) (signature : Bytes) (s t : Process ω),
        (maker.sign library seed key data s).1 = .ok signature →
        checker.verify library half data signature t = (.ok true, t)) ∧
    (∀ (first second : Scheme) (choice : Option Digest) (s t : Process ω),
      first.digest? = some choice → second.digest? = some choice →
      first.available s = true → second.available t = true →
      (∀ seed, (first.sign library seed key data s).1 = (second.sign library seed key data t).1) ∧
      ∀ signature, (first.verify library half data signature s).1 =
        (second.verify library half data signature t).1) ∧
    (∀ (outside : ω) (hosts : List Locking.Host) (before later : List (Step ω)) (number : Nat)
      (kind : SchemeKind) (product : Scheme),
      let s := after before (Process.launch outside hosts)
      (dispatch number (.scheme kind) s).1 = .ok (.scheme product) →
      product.available (after later s) = (kind ≠ .gost || !isReset (after later s) number)) := by
  refine ⟨?signed, ?across, ?digest, ?made⟩
  case signed =>
    intro scheme seed signature s signed
    obtain ⟨_, _, usable, _⟩ := Scheme.sign_eq_ok.mp signed
    exact ⟨scheme.sign_idle library seed key data s, usable, publicHalf_of_honours honoured,
      fun _ => Scheme.verify_of_sign honoured signed rfl⟩
  case across =>
    intro digests maker first checker second seed signature s t signed
    exact Scheme.verify_of_sign_suiteless honoured digests first second signed t
  case digest =>
    intro first second choice s t firstNamed secondNamed firstUsable secondUsable
    refine ⟨fun seed => ?_, fun signature => ?_⟩
    · rw [Scheme.sign_eq firstNamed firstUsable, Scheme.sign_eq secondNamed secondUsable]
    · rw [Scheme.verify_eq firstNamed firstUsable, Scheme.verify_eq secondNamed secondUsable]
  case made =>
    intro outside hosts before later number kind product s obtained
    have steady : Steady false [] s := steady_after (by simp) (steady_launch outside hosts)
    exact available_given steady obtained later

-- A key of two Mersenne primes: signed by the suite's scheme, and by one scheme for another.
theorem signatures_verify_mersenne :
    let library := Key.Library.standard
    let key := Key.Private.rsa (mersenne 127 * mersenne 521) 65537 Key.secretMersenne
      (mersenne 127) (mersenne 521)
    let half := Key.Public.rsa (mersenne 127 * mersenne 521) 65537
    let s := after [Willing.demand] (Process.launch () [Willing.host])
    let gost := Scheme.gost ⟨Digest.sha256, some 0⟩
    library.Honours key half ∧ (dispatch 0 (.scheme .gost) s).1 = .ok (.scheme gost) ∧
      publicHalf library key = .ok half ∧
      (∃ signature, (gost.sign library 0 key [1, 2, 3] s).1 = .ok signature ∧
        gost.verify library half [1, 2, 3] signature s = (.ok true, s)) ∧
      ∃ signature, (Scheme.eddsa.sign library 0 key [1, 2, 3] s).1 = .ok signature ∧
        Scheme.dsa.verify library half [1, 2, 3] signature s = (.ok true, s) := by
  intro library key half s gost
  have honoured : library.Honours key half := Key.Library.honours_mersenne
  obtain ⟨signature, signed⟩ := Key.Library.exists_mersenne_sign [1, 2, 3] 0
  obtain ⟨own, across, digest, made⟩ := signatures_verify (ω := Unit) honoured [1, 2, 3]
  have usable : gost.available s = true :=
    made () [Willing.host] [Willing.demand] [] 0 .gost gost rfl
  have bySuite : (gost.sign library 0 key [1, 2, 3] s).1 = .ok signature :=
    Scheme.sign_eq_ok.mpr ⟨_, rfl, usable, signed⟩
  have plain : (Scheme.eddsa.sign library 0 key [1, 2, 3] s).1 = .ok signature :=
    Scheme.sign_eq_ok.mpr ⟨none, rfl, rfl, signed⟩
  obtain ⟨-, -, obtained, verifies⟩ := own gost 0 signature s bySuite
  exact ⟨honoured, rfl, obtained, ⟨signature, bySuite, verifies s usable⟩, signature, plain,
    across rfl .eddsa (by simp [Scheme.suiteless]) .dsa (by simp [Scheme.suiteless]) 0 signature s
      s plain⟩

end Product

end CryptoProvider
