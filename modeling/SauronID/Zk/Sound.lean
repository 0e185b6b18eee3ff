import SauronID.Action.Signed
import SauronID.Lib.MerkleTree
import SauronID.Zk.Guest

/-!
# A complete batch cannot be misreported

The statistics guest commits to a Merkle root and to a value. If the root is that of a batch
of receipts, the guest has read the receipts of that batch, all of them and in order, with
the envelopes their agents signed: the root binds the leaves (`messages_eq_of_root`), a leaf
its receipt, and the action hash of a receipt its envelope.

SHA-256 cannot be injective on all byte strings. It is assumed to be so on a set `S` of
messages that has those hashed for the two batches.
-/

namespace SauronID.Zk

open Text SauronID.Action

variable {F : Type}

/-! ## Metrics -/

/-- What a metric says, in thousandths and without limits on numbers. -/
def metricValue (metricId : String) (records : List PrivateStatsRecord) : ℤ :=
  match metricId with
  | "success_rate" => records.countP (fun r => isSuccess r.receipt.status) * 1000 / records.length
  | "error_rate" => records.countP (fun r => !isSuccess r.receipt.status) * 1000 / records.length
  | "tool_call_count" => records.countP (fun r => !(trim r.envelope.action).isEmpty) * 1000
  | "cost_total" => (records.map fun r => r.envelope.amountMinor * 10).sum
  | _ => 0

variable {v : ℤ}

theorem checkedI64_eq_ok {overflow : String} {i : ℤ} :
    checkedI64 overflow i = .ok v ↔ satI64 i = i ∧ v = i := by
  by_cases h : satI64 i = i <;> simp [checkedI64, h, eq_comm]

variable {records : List PrivateStatsRecord}

theorem sum_of_addCost {total : ℤ} (h : records.foldlM addCost total = .ok v) :
    v = total + (records.map fun r => r.envelope.amountMinor * 10).sum := by
  induction records generalizing total with
  | nil =>
    cases h
    simp
  | cons r records ih =>
    rw [List.foldlM_cons] at h
    obtain ⟨total', hadd, h⟩ := exists_of_bind_eq_ok h
    rw [addCost, refuseIf_bind_eq_ok, refuseIf_bind_eq_ok] at hadd
    obtain ⟨-, -, hadd⟩ := hadd
    obtain ⟨milli, hmilli, hadd⟩ := exists_of_bind_eq_ok hadd
    obtain ⟨-, rfl⟩ := checkedI64_eq_ok.1 hmilli
    obtain ⟨-, rfl⟩ := checkedI64_eq_ok.1 hadd
    rw [ih h, List.map_cons, List.sum_cons]
    ring

/-- A metric that is computed is what it says. -/
theorem computedMetric_eq_metricValue {metricId : String}
    (h : computedMetric metricId records = .ok v) : v = metricValue metricId records := by
  have hdiv : ∀ n : ℕ, ((n : ℤ) * 1000).tdiv records.length = n * 1000 / records.length :=
    fun n => Int.tdiv_eq_ediv_of_nonneg (by positivity)
  unfold computedMetric at h
  obtain ⟨n, hn, h⟩ := exists_of_bind_eq_ok h
  obtain ⟨-, rfl⟩ := checkedI64_eq_ok.1 hn
  split at h
  · obtain ⟨k, hk, h⟩ := exists_of_bind_eq_ok h
    obtain ⟨-, rfl⟩ := checkedI64_eq_ok.1 hk
    cases h
    exact hdiv _
  · obtain ⟨k, hk, h⟩ := exists_of_bind_eq_ok h
    obtain ⟨-, rfl⟩ := checkedI64_eq_ok.1 hk
    cases h
    exact hdiv _
  · exact (checkedI64_eq_ok.1 h).2
  · rw [sum_of_addCost h, zero_add]
    rfl
  · cases h

/-! ## Envelopes -/

/-- The text of a string ends by itself: it can be read off whatever follows. -/
def JsonStrReads (env : Env F) : Prop :=
  ∀ {s s' x y : String}, env.jsonStr s ++ x = env.jsonStr s' ++ y → s = s' ∧ x = y

/-- The JSON of an envelope determines it, as on the server. -/
theorem envelopeJson_injective {env : Env F} (hjson : JsonStrReads env) :
    Function.Injective (envelopeJson env) := by
  intro e e' h
  rw [envelopeJson_eq, envelopeJson_eq] at h
  exact canonicalEnvelopeJson_injective hjson h

/-! ## Receipts -/

/-- What is hashed for a leaf. -/
def leafMessage (r : AnchoredReceiptV2) : Bytes := canonicalFields leafDomain (leafFields r)

theorem map_leafHash (env : Env F) (rs : List AnchoredReceiptV2) :
    rs.map (leafHash env) = (rs.map leafMessage).map env.sha256 := by
  rw [List.map_map]
  rfl

/-- A leaf is longer than two hashes: its field names alone are. -/
theorem length_leafMessage (r : AnchoredReceiptV2) : 64 < (leafMessage r).length := by
  simp only [leafMessage, canonicalFields, leafFields, lengthPrefixed, beBytes,
    List.flatMap_cons, List.length_append, List.length_reverse, length_leBytes]
  omega

/-- A leaf determines its receipt. -/
theorem eq_of_leafMessage {r r' : AnchoredReceiptV2} (hr : FieldsFit (leafFields r))
    (hr' : FieldsFit (leafFields r')) (h : leafMessage r = leafMessage r') : r = r' := by
  have hdomain : Fits (utf8 leafDomain) := by decide +kernel
  have hfields := (canonicalFields_inj hdomain hdomain hr hr' h).2
  simp only [leafFields, List.cons.injEq, Prod.mk.injEq, true_and, and_true] at hfields
  obtain ⟨htenant, hid, hhash, hagent, hring, hpolicy, hjti, hjkt, hstatus, hsig, hcreated, hringId,
    hconfig⟩ := hfields
  have hcreated' : r.createdAt = r'.createdAt := Int.repr_injective hcreated
  cases r
  cases r'
  simp_all

/-! ## Soundness -/

/-- The hash has 32 bytes and no collisions among the messages of `S`. -/
structure HashLaws (env : Env F) (S : Set Bytes) : Prop where
  length_sha256 : ∀ m, (env.sha256 m).length = 32
  injOn : Set.InjOn env.sha256 S

/-- What is hashed for the tree over a batch of receipts. -/
def batchMessages (env : Env F) (receipts : List AnchoredReceiptV2) : List Bytes :=
  treeMessages env.sha256 (receipts.map leafMessage)

variable {env : Env F} {S : Set Bytes}

/-- The root of a batch binds its receipts. -/
theorem HashLaws.receipts_eq (laws : HashLaws env S) {rs rs' : List AnchoredReceiptV2}
    {root : Bytes} (hfit : ∀ r ∈ rs, FieldsFit (leafFields r))
    (hfit' : ∀ r ∈ rs', FieldsFit (leafFields r)) (hS : ∀ m ∈ batchMessages env rs, m ∈ S)
    (hS' : ∀ m ∈ batchMessages env rs', m ∈ S)
    (h : merkleRoot (parentNode env) (rs.map (leafHash env)) = some root)
    (h' : merkleRoot (parentNode env) (rs'.map (leafHash env)) = some root) : rs = rs' := by
  have hlong : ∀ rs : List AnchoredReceiptV2, ∀ m ∈ rs.map leafMessage, m.length ≠ 32 + 32 := by
    intro rs
    exact List.forall_mem_map.2 fun r _ => (length_leafMessage r).ne'
  rw [map_leafHash] at h h'
  have hmessages : rs.map leafMessage = rs'.map leafMessage :=
    messages_eq_of_root laws.length_sha256 laws.injOn (hlong rs) (hlong rs') hS hS' h h'
  have hinj : Set.InjOn leafMessage {r | FieldsFit (leafFields r)} :=
    fun r hr r' hr' h => eq_of_leafMessage hr hr' h
  exact eq_of_map_eq hinj hfit hfit' hmessages

/-- **Soundness.** When the statistics guest commits to the root of a batch of receipts, its
records are that batch, with the envelopes that the receipts commit to and no others, and
the value is the metric over them. -/
theorem stats_proof_sound (laws : HashLaws env S) (hjson : JsonStrReads env)
    {input : StatsProofInput} {journal : TransparentJournal} {st : StatsStatement}
    (hrun : statsGuest env input = .ok journal) (hst : journal.statement = .stats st)
    {receipts : List AnchoredReceiptV2} {leaves : List Bytes} {root : Bytes}
    (hleaves : receipts.mapM (receiptLeaf env "canonical field length exceeds u32") = .ok leaves)
    (hroot : guestMerkleRoot env leaves = .ok root) (hcommits : st.merkleRoot = hexEncode root)
    (hS : ∀ m ∈ batchMessages env receipts, m ∈ S)
    (hS' : ∀ m ∈ batchMessages env (input.records.map (·.receipt)), m ∈ S)
    (hS'' : ∀ record ∈ input.records, utf8 (envelopeJson env record.envelope) ∈ S) :
    leaves.length = st.treeSize ∧
      input.records.map (·.receipt) = receipts ∧
      (∀ record ∈ input.records, record.receipt.actionHash = guestActionHash env record.envelope ∧
        ∀ e, utf8 (envelopeJson env e) ∈ S →
          record.receipt.actionHash = guestActionHash env e → e = record.envelope) ∧
      st.claimedValue = metricValue st.metricId input.records := by
  obtain ⟨hok, -, value, hvalue, rfl⟩ := statsGuest_eq_ok.1 hrun
  obtain rfl := TransparentStatement.stats.inj hst
  obtain ⟨hfit, rfl⟩ := (mapM_eq_ok_iff (fun _ _ => receiptLeaf_eq_ok) receipts leaves).1 hleaves
  have hcommitted : merkleRoot (parentNode env) ((input.records.map (·.receipt)).map
      (leafHash env)) = some root := by
    have hbatch := hok.rebuilds
    rw [show expectedRoot input.expectedMerkleRoot = hexEncode root from hcommits] at hbatch
    obtain ⟨root', hroot', hhex⟩ := Option.map_eq_some_iff.1 hbatch
    rw [List.map_map, ← hexEncode_injective hhex]
    exact hroot'
  have hfit' : ∀ r ∈ input.records.map (·.receipt), FieldsFit (leafFields r) :=
    List.forall_mem_map.2 fun record hrecord => (hok.recordOk record hrecord).fits
  have hreceipts : input.records.map (·.receipt) = receipts :=
    laws.receipts_eq hfit' hfit hS' hS hcommitted (guestMerkleRoot_eq_ok.1 hroot)
  refine ⟨?_, hreceipts, fun record hrecord => ⟨(hok.recordOk record hrecord).preimage, ?_⟩,
    computedMetric_eq_metricValue hvalue⟩
  · rw [List.length_map, ← hreceipts, List.length_map]
  · intro e he hhash
    rw [(hok.recordOk record hrecord).preimage] at hhash
    have hbytes := laws.injOn (hS'' record hrecord) he (hexEncode_injective hhash)
    exact (envelopeJson_injective hjson (utf8_injective hbytes)).symm

/-! ## A batch of two receipts -/

/-- The hash tells lengths apart. -/
def lengthEnv : Env ℚ :=
  { sampleEnv ℚ with sha256 := fun m => List.replicate 31 0 ++ [UInt8.ofNat m.length] }

theorem lengthEnv_jsonStr : JsonStrReads lengthEnv := quoted_jsonStrings.reads

/-- A record of an action on so many widgets. -/
def sampleRecord (receiptId resource : String) : PrivateStatsRecord :=
  let envelope : AgentActionEnvelope :=
    ⟨"agt_1", "owner", "buy", resource, "", 100, "USD", "n", 50, "p", "j"⟩
  { envelope := envelope
    receipt := ⟨"t", receiptId, guestActionHash lengthEnv envelope, "agt_1", "k", "v", "j", "jkt",
      "accepted", "s", 5, "", ""⟩ }

def twoRecords : List PrivateStatsRecord := [sampleRecord "r1" "", sampleRecord "r10" "widgets"]

def twoReceipts : List AnchoredReceiptV2 := twoRecords.map (·.receipt)

def twoRecordsInput : StatsProofInput where
  tenantId := "t"
  checkpointId := "c"
  actionAnchorId := "a"
  expectedMerkleRoot := (batchRootHex lengthEnv twoRecords).getD ""
  agentIdOrNone := none
  metricId := "tool_call_count"
  periodStart := 0
  periodEnd := 10
  records := twoRecords

/-- The messages that are hashed. -/
def twoRecordsMessages : List Bytes :=
  batchMessages lengthEnv twoReceipts ++
    twoRecords.map fun record => utf8 (envelopeJson lengthEnv record.envelope)

theorem lengthEnv_laws : HashLaws lengthEnv {m | m ∈ twoRecordsMessages} where
  length_sha256 _ := by simp [lengthEnv]
  injOn m hm m' hm' h := by
    have hnodup : (twoRecordsMessages.map lengthEnv.sha256).Nodup := by decide +kernel
    exact List.inj_on_of_nodup_map hnodup hm hm' h

theorem two_records_sound :
    statsGuest lengthEnv twoRecordsInput = .ok (statsJournal twoRecordsInput 2000) ∧
      metricValue "tool_call_count" twoRecords = 2000 ∧
      ∀ record ∈ twoRecords, ∀ e, utf8 (envelopeJson lengthEnv e) ∈ twoRecordsMessages →
        record.receipt.actionHash = guestActionHash lengthEnv e → e = record.envelope := by
  have hrun : statsGuest lengthEnv twoRecordsInput = .ok (statsJournal twoRecordsInput 2000) := by
    decide +kernel
  have hleaves : twoReceipts.mapM (receiptLeaf lengthEnv "canonical field length exceeds u32") =
      .ok (twoReceipts.map (leafHash lengthEnv)) := by
    decide +kernel
  obtain ⟨root, hroot⟩ : ∃ root, merkleRoot (parentNode lengthEnv)
      (twoReceipts.map (leafHash lengthEnv)) = some root := ⟨_, rfl⟩
  have hcommits : expectedRoot twoRecordsInput.expectedMerkleRoot = hexEncode root := by
    have hbatch : (merkleRoot (parentNode lengthEnv) (twoReceipts.map
        (leafHash lengthEnv))).map hexEncode =
          some (expectedRoot twoRecordsInput.expectedMerkleRoot) := by
      rw [twoReceipts, List.map_map]
      exact (statsGuest_eq_ok.1 hrun).1.rebuilds
    rw [hroot] at hbatch
    exact (Option.some.inj hbatch).symm
  obtain ⟨-, -, henvelopes, hvalue⟩ := stats_proof_sound lengthEnv_laws lengthEnv_jsonStr hrun rfl
    hleaves (guestMerkleRoot_eq_ok.2 hroot) hcommits
    (fun m hm => List.mem_append_left _ hm) (fun m hm => List.mem_append_left _ hm)
    (fun record hrecord => List.mem_append_right _ (List.mem_map.2 ⟨record, hrecord, rfl⟩))
  exact ⟨hrun, hvalue.symm, fun record hrecord => (henvelopes record hrecord).2⟩

end SauronID.Zk
