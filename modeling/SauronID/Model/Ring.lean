import Mathlib.Algebra.Module.Basic
import Mathlib.Tactic.Module
import SauronID.Lib.Cycle
import SauronID.Model.Env

/-!
# Linkable ring signatures

`ring.rs` over the group it works in. `sign` fills in the circle of challenges from the place
of the signer and closes it there with the secret; `verify` goes around from place 0.
`verify_sign` says that an honest signature verifies, in any group, for any member of any
ring. The bytes that requests carry are the encodings of points and scalars.
-/

namespace SauronID.Ring

open Text

/-- What `ring.rs` takes from the curve: the group `P` with its scalars `S`, their encodings,
and the hashes into them. -/
structure Ristretto (S P : Type) [CommRing S] [AddCommGroup P] [Module S P] where
  basepoint : P
  compress : P → Bytes
  decompress : Bytes → Option P
  /-- `RistrettoPoint::hash_from_bytes::<Sha512>`. -/
  hashFromBytes : Bytes → P
  /-- `Scalar::from_hash` of SHA-512. -/
  scalarFromHash : Bytes → S
  scalarBytes : S → Bytes
  scalarOf : Bytes → Option S
  decompress_compress : ∀ p, decompress (compress p) = some p
  /-- Every point has one encoding. -/
  compress_decompress : ∀ {bytes p}, decompress bytes = some p → compress p = bytes
  scalarOf_scalarBytes : ∀ c, scalarOf (scalarBytes c) = some c

/-- A ring signature, decoded. -/
structure Signature (S P : Type) where
  c0 : S
  responses : List S
  keyImage : P

variable {S P : Type} [CommRing S] [AddCommGroup P] [Module S P] (K : Ristretto S P)

namespace Ristretto

def hashToPoint (p : P) : P := K.hashFromBytes (K.compress p)

def challenge (msg : Bytes) (l r : P) : S :=
  K.scalarFromHash (utf8 "SAURON_RING_CHALLENGE:" ++ msg ++ K.compress l ++ K.compress r)

/-- `Identity::from_scalar`: the public key of a secret. -/
def publicKey (secret : S) : P := secret • K.basepoint

/-- `Identity::key_image`. -/
def keyImage (secret : S) : P := secret • K.hashToPoint (K.publicKey secret)

/-- The challenge that follows the challenge `c` at place `i`. -/
def round (msg : Bytes) (ring : List P) (responses : List S) (keyImage : P) (i : ℕ) (c : S) : S :=
  let member := ring.getD i 0
  let response := responses.getD i 0
  K.challenge msg (response • K.basepoint + c • member)
    (response • K.hashToPoint member + c • keyImage)

/-- The body of the loop of `sign`. -/
def signStep (msg : Bytes) (ring : List P) (responses : List S) (keyImage : P) (signerIdx : ℕ)
    (challenges : List S) (offset : ℕ) : List S :=
  let n := ring.length
  let i := (signerIdx + offset) % n
  let next := (i + 1) % n
  let c := K.round msg ring responses keyImage i (challenges.getD i 0)
  if next ≠ signerIdx then challenges.set next c else challenges.set signerIdx c

/-- `sign`; `draw` is the random source: a response for each member, then `alpha`. -/
def sign (msg : Bytes) (ring : List P) (secret : S) (signerIdx : ℕ) (draw : ℕ → S) :
    Signature S P :=
  let n := ring.length
  let responses := (List.range n).map draw
  let keyImage := K.keyImage secret
  let alpha := draw n
  let lInit := alpha • K.basepoint
  let rInit := alpha • K.hashToPoint (ring.getD signerIdx 0)
  let first := (List.replicate n 0).set ((signerIdx + 1) % n) (K.challenge msg lInit rInit)
  let challenges := (List.range' 1 (n - 1)).foldl
    (K.signStep msg ring responses keyImage signerIdx) first
  { c0 := challenges.getD 0 0
    responses := responses.set signerIdx (alpha - challenges.getD signerIdx 0 * secret)
    keyImage := keyImage }

/-- The challenges of the circle that `sign` fills in. -/
def circle (msg : Bytes) (ring : List P) (secret : S) (signerIdx : ℕ) (draw : ℕ → S) : List S :=
  let n := ring.length
  Cycle.fill n (K.round msg ring ((List.range n).map draw) (K.keyImage secret)) 0 signerIdx
    (K.challenge msg (draw n • K.basepoint) (draw n • K.hashToPoint (ring.getD signerIdx 0)))
    (n - 1)

/-- `verify` -/
def verify [DecidableEq S] (msg : Bytes) (ring : List P) (sig : Signature S P) : Bool :=
  let n := ring.length
  -- over an empty ring the loop would accept any signature
  if n = 0 ∨ sig.responses.isEmpty then false
  else if sig.responses.length ≠ n then false
  else
    let c := (List.range n).foldl
      (fun c i => K.round msg ring sig.responses sig.keyImage i c) sig.c0
    decide (c = sig.c0)

/-! ## On the wire -/

/-- A signature by the encodings of its parts. -/
def encode (sig : Signature S P) : RingSignature where
  c0 := K.scalarBytes sig.c0
  responses := sig.responses.map K.scalarBytes
  keyImage := K.compress sig.keyImage

def decode (sig : RingSignature) : Option (Signature S P) := do
  let c0 ← K.scalarOf sig.c0
  let responses ← sig.responses.mapM K.scalarOf
  let keyImage ← K.decompress sig.keyImage
  return ⟨c0, responses, keyImage⟩

/-- `verify` on the encodings of a ring and a signature. -/
def verifyEncoded [DecidableEq S] (msg : Bytes) (ring : List Bytes) (sig : RingSignature) : Bool :=
  match ring.mapM K.decompress, K.decode sig with
  | some ring, some sig => K.verify msg ring sig
  | _, _ => false

theorem mapM_map_of_inverse {α β : Type} {f : α → β} {g : β → Option α}
    (h : ∀ a, g (f a) = some a) (l : List α) : (l.map f).mapM g = some l := by
  induction l with
  | nil => rfl
  | cons a l ih => simp [h, ih]

theorem decode_encode (sig : Signature S P) : K.decode (K.encode sig) = some sig := by
  simp [decode, encode, K.scalarOf_scalarBytes, K.decompress_compress,
    mapM_map_of_inverse K.scalarOf_scalarBytes]

theorem verifyEncoded_encode [DecidableEq S] (msg : Bytes) (ring : List P) (sig : Signature S P) :
    K.verifyEncoded msg (ring.map K.compress) (K.encode sig) = K.verify msg ring sig := by
  simp [verifyEncoded, decode_encode, mapM_map_of_inverse K.decompress_compress]

/-! ## Completeness -/

section Completeness

variable {K}

/-- The loop of `sign` fills in the circle. -/
theorem signStep_eq (msg : Bytes) (ring : List P) (responses : List S) (keyImage : P)
    (signerIdx : ℕ) : K.signStep msg ring responses keyImage signerIdx =
      Cycle.fillStep ring.length (K.round msg ring responses keyImage) 0 signerIdx := by
  funext challenges offset
  simp only [signStep, Cycle.fillStep]
  split
  · rfl
  · next hnext => rw [not_not.1 hnext]

theorem sign_eq (msg : Bytes) (ring : List P) (secret : S) (signerIdx : ℕ) (draw : ℕ → S) :
    K.sign msg ring secret signerIdx draw =
      { c0 := (K.circle msg ring secret signerIdx draw).getD 0 0
        responses := ((List.range ring.length).map draw).set signerIdx
          (draw ring.length - (K.circle msg ring secret signerIdx draw).getD signerIdx 0 * secret)
        keyImage := K.keyImage secret } := by
  simp only [sign, signStep_eq]
  rfl

variable {signerIdx : ℕ}

/-- Off the place of the signer a response is as it was drawn. -/
theorem round_set (msg : Bytes) (ring : List P) (responses : List S) (keyImage : P)
    {i : ℕ} (hi : i ≠ signerIdx) (response : S) :
    K.round msg ring (responses.set signerIdx response) keyImage i =
      K.round msg ring responses keyImage i := by
  funext c
  simp [round, List.getD_eq_getElem?_getD, Ne.symm hi]

variable {ring : List P} {secret : S}

/-- At the place of the signer the secret cancels the challenge. -/
theorem round_signer (msg : Bytes) {responses : List S}
    (hring : ring.getD signerIdx 0 = K.publicKey secret) (hlen : signerIdx < responses.length)
    (alpha c : S) :
    K.round msg ring (responses.set signerIdx (alpha - c * secret)) (K.keyImage secret)
        signerIdx c =
      K.challenge msg (alpha • K.basepoint) (alpha • K.hashToPoint (ring.getD signerIdx 0)) := by
  have hresponse : (responses.set signerIdx (alpha - c * secret)).getD signerIdx 0 =
      alpha - c * secret := by
    simp [List.getD_eq_getElem?_getD, hlen]
  simp only [round, hresponse, hring, keyImage]
  congr 1
  · rw [publicKey]
    module
  · module

/-- **Completeness.** A signature of a member of the ring verifies. -/
theorem verify_sign [DecidableEq S] (msg : Bytes)
    (hsigner : ring[signerIdx]? = some (K.publicKey secret)) (draw : ℕ → S) :
    K.verify msg ring (K.sign msg ring secret signerIdx draw) = true := by
  obtain ⟨hidx, -⟩ := List.getElem?_eq_some_iff.1 hsigner
  have hmember : ring.getD signerIdx 0 = K.publicKey secret := by
    rw [List.getD_eq_getElem?_getD, hsigner, Option.getD_some]
  have hn : ring.length ≠ 0 := by omega
  unfold verify
  simp only [sign, List.isEmpty_iff, List.length_set, List.length_map, List.length_range,
    signStep_eq, ← List.length_eq_zero_iff, hn, or_self, if_false, ne_eq, not_true_eq_false,
    decide_eq_true_eq]
  -- the circle filled in by `sign` is closed for the rounds of the finished signature
  refine (Cycle.closed_fill (d := 0) hidx (fun i hi => ?_) ?_).goAround_eq
  · exact round_set _ _ _ _ hi _
  · exact round_signer msg hmember (by simpa using hidx) _ _

end Completeness

end Ristretto

end SauronID.Ring
