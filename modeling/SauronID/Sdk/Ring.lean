import Mathlib.Data.List.GetD
import SauronID.Action.Pseudonym

/-!
# The ring signatures of the TypeScript SDK

`ring.ts` derives the pseudonym of an agent and signs with big integers reduced by the order
`L` of the group, over a curve library whose `multiply` refuses a scalar that is zero or not
reduced. `signRing_eq` says that, off that refusal, it computes what `sign` of the server
computes, so that the server verifies it.
-/

namespace SauronID.Sdk

open Text SauronID.Ring

/-- `bytesToScalarLE` -/
def bytesToScalarLE (b : Bytes) : ℕ := b.foldr (fun byte x => x * 256 + byte.toNat) 0

/-! ## Hexadecimal -/

/-- The white space that `parseInt` skips. -/
def isJsSpace (c : Char) : Bool := (isWhiteSpace c && c.toNat != 0x85) || c.toNat == 0xFEFF

/-- `parseInt(_, 16)`: the value of the longest run of digits, or NaN. -/
def parseIntHex (text : List Char) : Option ℤ :=
  let text := text.dropWhile isJsSpace
  let (sign, text) := match text with
    | '-' :: rest => ((-1 : ℤ), rest)
    | '+' :: rest => (1, rest)
    | _ => (1, text)
  let text := match text with
    | '0' :: 'x' :: rest | '0' :: 'X' :: rest => rest
    | _ => text
  match text.takeWhile isAsciiHexdigit with
  | [] => none
  | digits => some (sign * digits.foldl (fun n c => n * 16 + (hexValue c).getD 0) 0)

/-- Two digits at a time, each stored in a byte; NaN is stored as zero. -/
def hexPairs : List Char → Bytes
  | hi :: lo :: rest => UInt8.ofInt ((parseIntHex [hi, lo]).getD 0) :: hexPairs rest
  | _ => []

/-- `hexToBytes` -/
def hexToBytes (hex : String) : Except String Bytes :=
  let clean := match hex.toList with
    | '0' :: 'x' :: rest => rest
    | text => text
  if clean.length % 2 ≠ 0 then .error ("odd-length hex: " ++ toString clean.length)
  else .ok (hexPairs clean)

/-! ## Curve -/

/-- What `ring.ts` takes from its libraries, and how it is related to the curve of the server:
`sha512`, the map from 64 uniform bytes to a point, and scalars of 32 bytes, least significant
first. -/
structure Noble (L : ℕ) {P : Type} [AddCommGroup P] [Module (ZMod L) P]
    (K : Ristretto (ZMod L) P) where
  sha512 : Bytes → Bytes
  deriveToCurve : Bytes → P
  scalarFromHash : ∀ bytes, K.scalarFromHash bytes = (bytesToScalarLE (sha512 bytes) : ZMod L)
  hashFromBytes : ∀ bytes, K.hashFromBytes bytes = deriveToCurve (sha512 bytes)
  scalarBytes : ∀ c, K.scalarBytes c = leBytes 32 c.val

/-- A key pair of the SDK. -/
structure Pseudonym (P : Type) where
  secret : ℤ
  point : P
  pointHex : String

namespace Noble

variable {L : ℕ} {P : Type} [AddCommGroup P] [Module (ZMod L) P] {K : Ristretto (ZMod L) P}
  (N : Noble L K)

/-- `Point.multiply`: only scalars from 1 to `L - 1`. -/
def multiply (_ : Noble L K) (p : P) (k : ℤ) : Except String P :=
  if 1 ≤ k ∧ k < L then .ok ((k : ZMod L) • p)
  else .error "invalid scalar: expected 1 <= sc < curve.n"

/-- `Point.fromBytes(hexToBytes(hex))` -/
def pointFromHex (_ : Noble L K) (hex : String) : Except String P := do
  match K.decompress (← hexToBytes hex) with
  | some p => .ok p
  | none => .error "invalid ristretto255 encoding"

/-- `scalarFromWide` -/
def scalarFromWide (_ : Noble L K) (digest64 : Bytes) : ℤ := (bytesToScalarLE digest64 : ℤ).tmod L

/-- `scalarFromSecretHex` -/
def scalarFromSecretHex (_ : Noble L K) (hex : String) : Except String ℤ := do
  return (bytesToScalarLE (← hexToBytes hex) : ℤ).tmod L

/-- `scalarToBytesLE` -/
def scalarToBytesLE (_ : Noble L K) (s : ℤ) : Bytes := leBytes 32 ((s.tmod L + L).tmod L).toNat

def hashToPoint (p : P) : P := N.deriveToCurve (N.sha512 (K.compress p))

def challenge (msg : Bytes) (l r : P) : ℤ :=
  N.scalarFromWide
    (N.sha512 (utf8 "SAURON_RING_CHALLENGE:" ++ msg ++ K.compress l ++ K.compress r))

def keyImage (secret : ℤ) (publicPoint : P) : Except String P :=
  N.multiply (N.hashToPoint publicPoint) (secret.tmod L)

def derivePseudonym (masterSecretHex operatorTrapdoorPubHex ringId : String) :
    Except String (Pseudonym P) := do
  let a ← N.scalarFromSecretHex masterSecretHex
  let t ← N.pointFromHex operatorTrapdoorPubHex
  let shared ← N.multiply t a
  let hR := N.scalarFromWide (N.sha512
    (utf8 "SAURON_RING_PSEUDONYM:" ++ K.compress shared ++ utf8 "|" ++ utf8 ringId))
  let xR := (a + hR).tmod L
  let pR ← N.multiply K.basepoint xR
  return ⟨xR, pR, hexEncode (K.compress pR)⟩

/-- The body of the loop of `signRing`. -/
def ringStep (msg : Bytes) (ring : List P) (responses : List ℤ) (image : P) (signerIdx : ℕ)
    (challenges : List ℤ) (offset : ℕ) : Except String (List ℤ) := do
  let n := ring.length
  let i := (signerIdx + offset) % n
  let next := (i + 1) % n
  let l := (← N.multiply K.basepoint (responses.getD i 0)) +
    (← N.multiply (ring.getD i 0) (challenges.getD i 0))
  let r := (← N.multiply (N.hashToPoint (ring.getD i 0)) (responses.getD i 0)) +
    (← N.multiply image (challenges.getD i 0))
  return challenges.set next (N.challenge msg l r)

/-- `signRing`; `random` are the bytes that `randomScalar` fetches, a response for each member
and then `alpha`. -/
def signRing [DecidableEq P] (msg : Bytes) (ring : List P) (secret : ℤ) (signerIdx : ℤ)
    (random : ℕ → Bytes) : Except String RingSignature := do
  let n := ring.length
  if n = 0 then throw "ring is empty; a signature over no members verifies nothing"
  if signerIdx < 0 ∨ signerIdx ≥ n then
    throw ("signerIdx " ++ toString signerIdx ++ " outside ring of " ++ toString n)
  let signerIdx := signerIdx.toNat
  let x := secret.tmod L
  let expected ← N.multiply K.basepoint x
  if expected ≠ ring.getD signerIdx 0 then
    throw ("secret does not match ring[" ++ toString signerIdx ++
      "] — check the pseudonym derivation and the ring order")
  let responses := (List.range n).map fun k => N.scalarFromWide (random k)
  let image ← N.keyImage x (ring.getD signerIdx 0)
  let alpha := N.scalarFromWide (random n)
  let lInit ← N.multiply K.basepoint alpha
  let rInit ← N.multiply (N.hashToPoint (ring.getD signerIdx 0)) alpha
  let challenges := (List.replicate n 0).set ((signerIdx + 1) % n) (N.challenge msg lInit rInit)
  let challenges ← (List.range' 1 (n - 1)).foldlM (N.ringStep msg ring responses image signerIdx)
    challenges
  let responses := responses.set signerIdx
    (((alpha - challenges.getD signerIdx 0 * x).tmod L + L).tmod L)
  return {
    c0 := N.scalarToBytesLE (challenges.getD 0 0)
    responses := responses.map N.scalarToBytesLE
    keyImage := K.compress image }

/-! ## Integers that stand for scalars -/

/-- The integer is reduced and stands for the scalar. -/
def Stands (k : ℤ) (c : ZMod L) : Prop := 0 ≤ k ∧ k < L ∧ (k : ZMod L) = c

/-- The integers stand for the scalars, place by place. -/
structure StandFor (ks : List ℤ) (cs : List (ZMod L)) : Prop where
  length : ks.length = cs.length
  getD : ∀ i, Stands (ks.getD i 0) (cs.getD i 0)

variable {N}

section Scalars

variable [NeZero L]

theorem stands_zero : Stands (0 : ℤ) (0 : ZMod L) :=
  ⟨le_rfl, by exact_mod_cast NeZero.pos L, Int.cast_zero⟩

variable {k : ℤ}

/-- A non-negative integer, reduced. -/
theorem stands_tmod (hk : 0 ≤ k) : Stands (k.tmod L) (k : ZMod L) := by
  have hL : (0 : ℤ) < L := by exact_mod_cast NeZero.pos L
  rw [Int.tmod_eq_emod_of_nonneg hk]
  refine ⟨Int.emod_nonneg _ hL.ne', Int.emod_lt_of_pos _ hL, ?_⟩
  rw [ZMod.intCast_mod]

/-- Any integer, reduced in two steps. -/
theorem stands_tmod_add (k : ℤ) : Stands ((k.tmod L + L).tmod L) (k : ZMod L) := by
  have hL : (0 : ℤ) < L := by exact_mod_cast NeZero.pos L
  have hlo : 0 ≤ k.tmod L + L := by
    have := Int.lt_tmod_of_pos k hL
    omega
  have hcast : ((k.tmod L + L : ℤ) : ZMod L) = (k : ZMod L) := by
    have hdiv := congrArg (Int.cast : ℤ → ZMod L) (Int.mul_tdiv_add_tmod k L)
    push_cast at hdiv ⊢
    simpa using hdiv
  rw [← hcast]
  exact stands_tmod hlo

variable {c : ZMod L}

theorem Stands.tmod (h : Stands k c) : Stands (k.tmod L) c := by
  have htmod := stands_tmod (L := L) h.1
  rwa [h.2.2] at htmod

theorem Stands.eq_val (h : Stands k c) : k = c.val := by
  obtain ⟨hlo, hhi, rfl⟩ := h
  rw [ZMod.val_intCast, Int.emod_eq_of_lt hlo hhi]

/-- What is written on the wire for an integer is what is written for its scalar. -/
theorem Stands.scalarToBytesLE (h : Stands k c) : N.scalarToBytesLE k = K.scalarBytes c := by
  have hstands := stands_tmod_add (L := L) k
  rw [h.2.2] at hstands
  rw [Noble.scalarToBytesLE, N.scalarBytes, hstands.eq_val, Int.toNat_natCast]

omit [NeZero L] in
theorem Stands.multiply (h : Stands k c) (hne : c ≠ 0) (p : P) : N.multiply p k = .ok (c • p) := by
  obtain ⟨hlo, hhi, rfl⟩ := h
  have hpos : k ≠ 0 := by
    rintro rfl
    exact hne Int.cast_zero
  rw [Noble.multiply, if_pos ⟨by omega, hhi⟩]

theorem stands_scalarFromWide (digest64 : Bytes) :
    Stands (N.scalarFromWide digest64) (bytesToScalarLE digest64 : ZMod L) := by
  have h := stands_tmod (L := L) (Int.natCast_nonneg (bytesToScalarLE digest64))
  rwa [Int.cast_natCast] at h

theorem stands_challenge (msg : Bytes) (l r : P) :
    Stands (N.challenge msg l r) (K.challenge msg l r) := by
  rw [Ristretto.challenge, N.scalarFromHash]
  exact stands_scalarFromWide _

omit [NeZero L] in
theorem hashToPoint_eq (p : P) : N.hashToPoint p = K.hashToPoint p :=
  (N.hashFromBytes _).symm

variable {ks : List ℤ} {cs : List (ZMod L)}

theorem StandFor.set (h : StandFor ks cs) (hk : Stands k c) (i : ℕ) :
    StandFor (ks.set i k) (cs.set i c) := by
  refine ⟨by simp [h.length], fun j => ?_⟩
  have hj := h.getD j
  simp only [List.getD_eq_getElem?_getD, List.getElem?_set, h.length] at hj ⊢
  by_cases hij : i = j
  · by_cases hlt : j < cs.length
    · simpa [hij, hlt] using hk
    · simpa [hij, hlt] using stands_zero
  · simpa [hij] using hj

theorem standFor_map {α : Type} {f : α → ℤ} {g : α → ZMod L} (h : ∀ a, Stands (f a) (g a))
    (l : List α) : StandFor (l.map f) (l.map g) := by
  refine ⟨by simp, fun i => ?_⟩
  simp only [List.getD_eq_getElem?_getD, List.getElem?_map]
  cases l[i]? with
  | none => exact stands_zero
  | some a => exact h a

theorem standFor_replicate (n : ℕ) :
    StandFor (List.replicate n 0) (List.replicate n (0 : ZMod L)) := by
  have h := standFor_map (f := fun _ => 0) (g := fun _ => (0 : ZMod L)) (fun _ => stands_zero)
    (List.range n)
  simpa using h

/-- Integers on the wire. -/
theorem StandFor.map_scalarToBytesLE (h : StandFor ks cs) :
    ks.map N.scalarToBytesLE = cs.map K.scalarBytes := by
  refine List.ext_getElem (by simp [h.length]) fun i hi₁ hi₂ => ?_
  have hi := h.getD i
  rw [List.length_map] at hi₁ hi₂
  rw [List.getD_eq_getElem _ _ hi₁, List.getD_eq_getElem _ _ hi₂] at hi
  rw [List.getElem_map, List.getElem_map]
  exact hi.scalarToBytesLE

end Scalars

/-! ## The signature -/

section Signature

variable [NeZero L] (msg : Bytes) {ring : List P} {responses : List ℤ} {rs : List (ZMod L)}
  (image : P) {signerIdx : ℕ}

/-- One turn of the loop writes the challenge that `sign` of the server writes. -/
theorem ringStep_eq (hrs : StandFor responses rs) {challenges : List ℤ} {cs : List (ZMod L)}
    (hcs : StandFor challenges cs) {offset : ℕ}
    (hr : rs.getD ((signerIdx + offset) % ring.length) 0 ≠ 0)
    (hc : cs.getD ((signerIdx + offset) % ring.length) 0 ≠ 0) :
    ∃ challenges', N.ringStep msg ring responses image signerIdx challenges offset =
        .ok challenges' ∧ StandFor challenges'
        (Cycle.fillStep ring.length (K.round msg ring rs image) 0 signerIdx cs offset) := by
  set i := (signerIdx + offset) % ring.length with hi
  refine ⟨_, ?_, hcs.set (stands_challenge (N := N) msg
    (rs.getD i 0 • K.basepoint + cs.getD i 0 • ring.getD i 0)
    (rs.getD i 0 • K.hashToPoint (ring.getD i 0) + cs.getD i 0 • image)) _⟩
  simp only [ringStep, ← hi, (hrs.getD i).multiply hr, (hcs.getD i).multiply hc, hashToPoint_eq]
  rfl

/-- The loop fills in the circle. -/
theorem foldlM_ringStep_eq (hrs : StandFor responses rs) {k : ℤ} {c : ZMod L} (hk : Stands k c)
    (hr : ∀ r ∈ rs, r ≠ 0) (hlen : rs.length = ring.length) (hidx : signerIdx < ring.length)
    (hc : ∀ i < ring.length, i ≠ signerIdx →
      (Cycle.fill ring.length (K.round msg ring rs image) 0 signerIdx c (ring.length - 1)).getD i 0
        ≠ 0) {m : ℕ} (hm : m ≤ ring.length - 1) :
    ∃ challenges, (List.range' 1 m).foldlM (N.ringStep msg ring responses image signerIdx)
        ((List.replicate ring.length 0).set ((signerIdx + 1) % ring.length) k) = .ok challenges ∧
      StandFor challenges (Cycle.fill ring.length (K.round msg ring rs image) 0 signerIdx c m) := by
  have hn : 0 < ring.length := by omega
  induction m with
  | zero => exact ⟨_, rfl, (standFor_replicate _).set hk _⟩
  | succ m ih =>
    obtain ⟨challenges, hrun, hcs⟩ := ih (by omega)
    -- the place read in this turn is not the signer's, and what it holds stays to the end
    have hplace : (signerIdx + (m + 1)) % ring.length < ring.length := Nat.mod_lt _ hn
    have hother : (signerIdx + (m + 1)) % ring.length ≠ signerIdx := by
      have hne := Cycle.mod_ne_of_lt (n := ring.length) (a := signerIdx) (b := signerIdx + (m + 1))
        (by omega) (by omega)
      rw [Nat.mod_eq_of_lt hidx] at hne
      exact hne.symm
    have hread := hc _ hplace hother
    rw [Cycle.getD_fill_of_le _ _ _ _ (by omega) le_rfl (show m ≤ ring.length - 1 by omega)
      (by omega)] at hread
    have hresponse : rs.getD ((signerIdx + (m + 1)) % ring.length) 0 ≠ 0 := by
      rw [List.getD_eq_getElem _ _ (by omega)]
      exact hr _ (List.getElem_mem _)
    obtain ⟨challenges', hstep, hcs'⟩ := ringStep_eq (N := N) msg image hrs hcs hresponse hread
    refine ⟨challenges', ?_, ?_⟩
    · rw [List.range'_1_concat, List.foldlM_append, hrun, Nat.add_comm 1 m]
      simp only [List.foldlM_cons, List.foldlM_nil, bind_pure]
      exact hstep
    · rwa [Cycle.fill_succ]

end Signature

/-- The scalars by which a signer multiplies a point are not zero: its secret, what it draws,
and the challenges at the places of the others. -/
structure NonZero (K : Ristretto (ZMod L) P) (msg : Bytes) (ring : List P) (x : ZMod L)
    (signerIdx : ℕ) (draw : ℕ → ZMod L) : Prop where
  secret : x ≠ 0
  draws : ∀ k ≤ ring.length, draw k ≠ 0
  challenges : ∀ i < ring.length, i ≠ signerIdx →
    (K.circle msg ring x signerIdx draw).getD i 0 ≠ 0

theorem ok_bind {α β : Type} (a : α) (f : α → Except String β) : (Except.ok a >>= f) = f a := rfl

/-- What the SDK draws, as scalars. -/
def drawn (L : ℕ) (random : ℕ → Bytes) (k : ℕ) : ZMod L := bytesToScalarLE (random k)

/-- **The two signers.** Off the scalars its library refuses, the SDK computes the signature of
the server. -/
theorem signRing_eq [NeZero L] [DecidableEq P] {msg : Bytes} {ring : List P} {secret : ℤ}
    {x : ZMod L} (hx : Stands secret x) {signerIdx : ℕ}
    (hring : ring[signerIdx]? = some (K.publicKey x)) {random : ℕ → Bytes}
    (hne : NonZero K msg ring x signerIdx (drawn L random)) :
    N.signRing msg ring secret signerIdx random =
      .ok (K.encode (K.sign msg ring x signerIdx (drawn L random))) := by
  obtain ⟨hidx, -⟩ := List.getElem?_eq_some_iff.1 hring
  have hmember : ring.getD signerIdx 0 = K.publicKey x := by
    rw [List.getD_eq_getElem?_getD, hring, Option.getD_some]
  have hrs : StandFor ((List.range ring.length).map fun k => N.scalarFromWide (random k))
      ((List.range ring.length).map (drawn L random)) :=
    standFor_map (fun k => stands_scalarFromWide (random k)) _
  have halpha : Stands (N.scalarFromWide (random ring.length)) (drawn L random ring.length) :=
    stands_scalarFromWide _
  have halpha₀ := hne.draws ring.length le_rfl
  have hdraws : ∀ r ∈ (List.range ring.length).map (drawn L random), r ≠ 0 := by
    simp only [List.mem_map, List.mem_range]
    rintro r ⟨k, hk, rfl⟩
    exact hne.draws k hk.le
  obtain ⟨challenges, hrun, hcs⟩ := foldlM_ringStep_eq (N := N) msg (K.keyImage x) hrs
    (stands_challenge (N := N) msg (drawn L random ring.length • K.basepoint)
      (drawn L random ring.length • K.hashToPoint (ring.getD signerIdx 0)))
    hdraws (by simp) hidx hne.challenges le_rfl
  change StandFor challenges (K.circle msg ring x signerIdx (drawn L random)) at hcs
  have hn : ring.length ≠ 0 := by omega
  have hrange : ¬((signerIdx : ℤ) < 0 ∨ (signerIdx : ℤ) ≥ ring.length) := by omega
  have hmul : N.multiply K.basepoint (secret.tmod L) = .ok (ring.getD signerIdx 0) := by
    rw [hx.tmod.multiply hne.secret, hmember]
    rfl
  have himage : N.keyImage (secret.tmod L) (ring.getD signerIdx 0) = .ok (K.keyImage x) := by
    rw [keyImage, hx.tmod.tmod.multiply hne.secret, hashToPoint_eq, hmember]
    rfl
  have hclose : Stands (((N.scalarFromWide (random ring.length) -
      challenges.getD signerIdx 0 * secret.tmod L).tmod L + L).tmod L)
      (drawn L random ring.length -
        (K.circle msg ring x signerIdx (drawn L random)).getD signerIdx 0 * x) := by
    rw [← halpha.2.2, ← (hcs.getD signerIdx).2.2, ← hx.tmod.2.2]
    exact_mod_cast stands_tmod_add (L := L) _
  rw [Ristretto.sign_eq]
  simp only [signRing, hn, hrange, if_false, Int.toNat_natCast, hmul, himage,
    halpha.multiply halpha₀, hashToPoint_eq, ok_bind, hrun, ne_eq, not_true_eq_false]
  rw [Ristretto.encode, (hcs.getD 0).scalarToBytesLE,
    (hrs.set hclose signerIdx).map_scalarToBytesLE]
  rfl

/-- **The two derivations.** Off the scalars its library refuses, the SDK derives the secret of
the agent in the ring. -/
theorem derivePseudonym_eq [NeZero L] {masterSecretHex operatorTrapdoorPubHex : String} {k : ℤ}
    {a t : ZMod L} (hk : N.scalarFromSecretHex masterSecretHex = .ok k) (ha : (k : ZMod L) = a)
    (ht : N.pointFromHex operatorTrapdoorPubHex = .ok (K.publicKey t)) (ringId : String)
    (ha₀ : a ≠ 0)
    (hx₀ : K.agentPerRingSecret a (Ristretto.sharedSecretAgent a (K.publicKey t)) ringId ≠ 0) :
    ∃ pseudonym, N.derivePseudonym masterSecretHex operatorTrapdoorPubHex ringId = .ok pseudonym ∧
      Stands pseudonym.secret
        (K.agentPerRingSecret a (Ristretto.sharedSecretAgent a (K.publicKey t)) ringId) := by
  have hstands : Stands k a := by
    unfold scalarFromSecretHex at hk
    obtain ⟨bytes, -, hbytes⟩ := exists_of_bind_eq_ok hk
    cases hbytes
    rw [← ha]
    obtain ⟨hrange, hcong, -⟩ := stands_scalarFromWide (N := N) bytes
    exact ⟨hrange, hcong, rfl⟩
  generalize hshared : Ristretto.sharedSecretAgent a (K.publicKey t) = shared at hx₀ ⊢
  have hmul : N.multiply (K.publicKey t) k = .ok shared := by
    rw [hstands.multiply ha₀, ← hshared]
    rfl
  set offset := N.scalarFromWide (N.sha512 (K.offsetInput shared ringId)) with hoffset
  have hsum : Stands ((k + offset).tmod L) (K.agentPerRingSecret a shared ringId) := by
    have hR : Stands offset (K.ringOffset shared ringId) := by
      rw [Ristretto.ringOffset, N.scalarFromHash]
      exact stands_scalarFromWide _
    have h := stands_tmod (L := L) (add_nonneg hstands.1 hR.1)
    rwa [Int.cast_add, hstands.2.2, hR.2.2] at h
  refine ⟨⟨(k + offset).tmod L, K.publicKey (K.agentPerRingSecret a shared ringId),
    hexEncode (K.compress (K.publicKey (K.agentPerRingSecret a shared ringId)))⟩, ?_, hsum⟩
  have hpoint : N.multiply K.basepoint ((k + offset).tmod L) =
      .ok (K.publicKey (K.agentPerRingSecret a shared ringId)) := hsum.multiply hx₀ _
  rw [hoffset, Ristretto.offsetInput] at hpoint ⊢
  simp only [derivePseudonym, hk, ht, ok_bind, hmul, hpoint]
  rfl

end Noble

section Completeness

variable {F : Type} [Float64 F] {L : ℕ} [NeZero L] {P : Type} [AddCommGroup P] [Module (ZMod L) P]
  [DecidableEq P] {K : Ristretto (ZMod L) P}

/-- **An agent signs for its pseudonym.** In a ring that contains, at place `i`, the point that
`subscribe` stored for the agent, the signature of the server's signer under the identity of
the agent in the ring verifies, for all it may draw, and so does the signature of the SDK
under the pseudonym it derives, unless it comes upon a scalar that is zero. The key image of
both is the one of that identity. -/
theorem pseudonym_signs (N : Noble L K) (hlen : ∀ p, (K.compress p).length = 32) (t a : ZMod L)
    (tenantId ringId : String) {agentMasterPubHex : String}
    (hpub : K.parsePointHex agentMasterPubHex = .ok (K.publicKey a)) {s s' : World F}
    {pointHex : String}
    (hsub : (K.subscribe tenantId t agentMasterPubHex ringId).exec s = (.ok pointHex, s')) {p : P}
    (hp : K.parsePointHex pointHex = .ok p) {ring : List P} {i : ℕ} (hi : ring[i]? = some p)
    (msg : Bytes) :
    let identity :=
      K.agentRingIdentity a (Ristretto.sharedSecretAgent a (K.publicKey t)) ringId
    let image := K.perRingKeyImage identity.secret identity.publicKey
    (∀ draw, K.verify msg ring (K.sign msg ring identity.secret i draw) = true ∧
        (K.sign msg ring identity.secret i draw).keyImage = image) ∧
      ∀ (masterSecretHex operatorTrapdoorPubHex : String) (k : ℤ) (random : ℕ → Bytes),
        N.scalarFromSecretHex masterSecretHex = .ok k → (k : ZMod L) = a →
        N.pointFromHex operatorTrapdoorPubHex = .ok (K.publicKey t) → a ≠ 0 →
        Noble.NonZero K msg ring identity.secret i (Noble.drawn L random) →
        ∃ pseudonym sig,
          N.derivePseudonym masterSecretHex operatorTrapdoorPubHex ringId = .ok pseudonym ∧
          N.signRing msg ring pseudonym.secret i random = .ok sig ∧
          K.verifyEncoded msg (ring.map K.compress) sig = true ∧
          sig.keyImage = K.compress image := by
  intro identity image
  obtain ⟨⟨A, hA, rfl⟩, -⟩ := Ristretto.subscribe_brings _ _ hsub
  cases hpub.symm.trans hA
  rw [Ristretto.deriveMemberPointHex_eq, Ristretto.parsePointHex_hexEncode hlen] at hp
  cases hp
  constructor
  · intro draw
    exact ⟨Ristretto.verify_sign msg hi draw, rfl⟩
  · intro masterSecretHex operatorTrapdoorPubHex k random hk ha ht ha₀ hne
    obtain ⟨pseudonym, hderive, hstands⟩ := Noble.derivePseudonym_eq hk ha ht ringId ha₀ hne.secret
    refine ⟨pseudonym, _, hderive, Noble.signRing_eq hstands hi hne, ?_, rfl⟩
    rw [Ristretto.verifyEncoded_encode]
    exact Ristretto.verify_sign msg hi _

end Completeness

/-! ## In a small group -/

/-- The libraries of the SDK over the sample group. -/
def sampleNoble : Noble 13 sampleCurve where
  sha512 bytes := [byteSum bytes]
  deriveToCurve bytes := bytesToScalarLE bytes
  scalarFromHash bytes := by simp [sampleCurve, bytesToScalarLE]
  hashFromBytes bytes := by simp [sampleCurve, bytesToScalarLE]
  scalarBytes _ := rfl

/-- The agent with the master secret 3 in a ring of the operator with the trapdoor 2. -/
def sampleIdentity : Identity (ZMod 13) (ZMod 13) :=
  sampleCurve.agentRingIdentity (3 : ℕ)
    (Ristretto.sharedSecretAgent ((3 : ℕ) : ZMod 13) (sampleCurve.publicKey (2 : ℕ))) "payments"

/-- A ring that it is in twice. -/
def sampleRing : List (ZMod 13) := [sampleIdentity.publicKey, 4, sampleIdentity.publicKey]

def sampleRandom (k : ℕ) : Bytes := [UInt8.ofNat (k + 1)]

/-- The agent is subscribed, and signs with the server's signer and with the SDK. -/
theorem sample_agent_signs :
    ∃ (pointHex : String) (s : World ℚ),
      (sampleCurve.subscribe "acme" 2 samplePubHex "payments").exec (sampleWorld 0) =
        (.ok pointHex, s) ∧
      sampleCurve.verify [1, 2] sampleRing
        (sampleCurve.sign [1, 2] sampleRing sampleIdentity.secret 0 fun k => k) = true ∧
      ∃ pseudonym sig,
        sampleNoble.derivePseudonym "03" (hexEncode (sampleCurve.compress 2)) "payments" =
          .ok pseudonym ∧
        sampleNoble.signRing [1, 2] sampleRing pseudonym.secret 0 sampleRandom = .ok sig ∧
        sampleCurve.verifyEncoded [1, 2] (sampleRing.map sampleCurve.compress) sig = true := by
  have hlen : ∀ p, (sampleCurve.compress p).length = 32 := fun _ => List.length_replicate
  have hpub : sampleCurve.parsePointHex samplePubHex = .ok (sampleCurve.publicKey 3) :=
    Ristretto.parsePointHex_hexEncode hlen _
  obtain ⟨pointHex, s, hsub⟩ : ∃ (pointHex : String) (s : World ℚ),
      (sampleCurve.subscribe "acme" 2 samplePubHex "payments").exec (sampleWorld 0) =
        (.ok pointHex, s) := ⟨_, _, rfl⟩
  have hpoint : sampleCurve.parsePointHex pointHex = .ok sampleIdentity.publicKey := by
    obtain ⟨⟨A, hA, rfl⟩, -⟩ := Ristretto.subscribe_brings _ _ hsub
    cases hpub.symm.trans hA
    rw [Ristretto.deriveMemberPointHex_eq, Ristretto.parsePointHex_hexEncode hlen]
    rfl
  have hring : sampleRing[0]? = some sampleIdentity.publicKey := rfl
  obtain ⟨hserver, hsdk⟩ := pseudonym_signs sampleNoble hlen 2 3 "acme" "payments" hpub hsub hpoint
    hring [1, 2]
  have hnonzero : Noble.NonZero sampleCurve [1, 2] sampleRing sampleIdentity.secret 0
      (Noble.drawn 13 sampleRandom) := by
    constructor <;> decide +kernel
  obtain ⟨pseudonym, sig, hderive, hsign, hverify, -⟩ := hsdk "03"
    (hexEncode (sampleCurve.compress 2)) 3 sampleRandom rfl rfl (by decide +kernel) (by decide)
    hnonzero
  exact ⟨pointHex, s, hsub, (hserver _).1, pseudonym, sig, hderive, hsign, hverify⟩

end SauronID.Sdk
