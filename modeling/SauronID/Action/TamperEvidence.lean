import Mathlib
import SauronID.Action.ReceiptChain

/-!
# The receipt chain shows every change

The chain hash of a receipt commits to all its fields but the signature, in one of two
encodings: with an owner mandate and without. Both put every field behind its length and
start with the name of the encoding, so the hash determines the fields. Whoever has kept
the hash of the last receipt can therefore tell whether any receipt before it was removed,
added, moved or edited: `receipt_chain_tamper_evident`.
-/

namespace SauronID.Action

open Conc Text

variable {F : Type} {env : Env F}

/-! ## The chain hash -/

/-- The fields of a receipt that its chain hash commits to: all but the signature. -/
def chained (r : ActionReceipt) : ActionReceipt := { r with signature := "" }

theorem receiptChainHash_chained (r : ActionReceipt) :
    receiptChainHash env (chained r) = receiptChainHash env r := rfl

/-- The receipt can be hashed: no field is four gibibytes or longer. -/
def ChainEncodable (r : ActionReceipt) : Prop :=
  FieldsFit (chainFields r ++ [("owner_mandate_hash", r.ownerMandateHash)])

instance (r : ActionReceipt) : Decidable (ChainEncodable r) :=
  inferInstanceAs (Decidable (FieldsFit _))

variable {r r' : ActionReceipt}

theorem chainFields_inj (h : chainFields r = chainFields r')
    (hmandate : r.ownerMandateHash = r'.ownerMandateHash) : chained r = chained r' := by
  simp only [chainFields, List.cons.injEq, Prod.mk.injEq, true_and, and_true] at h
  obtain ⟨hseq, hprev, htenant, hid, haction, hagent, hki, hpolicy, hjti, hjkt, htime, hstatus⟩ := h
  have hseq' : r.seq = r'.seq := Int.repr_injective hseq
  have htime' : r.timestamp = r'.timestamp := Int.repr_injective htime
  simp only [chained, ActionReceipt.mk.injEq]
  tauto

/-- The chain hash determines what it commits to, across both encodings. -/
theorem receiptChainHash_inj (hsha : Function.Injective env.sha256)
    (hr : ChainEncodable r) (hr' : ChainEncodable r')
    (h : receiptChainHash env r = receiptChainHash env r') : chained r = chained r' := by
  have hv1 : Fits (utf8 "sauron.agent-action-receipt-chain.v1") := by decide +kernel
  have hv2 : Fits (utf8 "sauron.agent-action-receipt-chain.v2") := by decide +kernel
  have hfields : ∀ {r}, ChainEncodable r → FieldsFit (chainFields r) :=
    fun hr p hp => hr p (List.mem_append_left _ hp)
  have hbytes := hsha (hexEncode_injective h)
  split at hbytes <;> split at hbytes
  · next hempty hempty' =>
    refine chainFields_inj (canonicalFields_inj hv1 hv1 (hfields hr) (hfields hr') hbytes).2 ?_
    rw [String.isEmpty_iff.1 hempty, String.isEmpty_iff.1 hempty']
  · exact absurd (canonicalFields_inj hv1 hv2 (hfields hr) hr' hbytes).1 (by decide)
  · exact absurd (canonicalFields_inj hv2 hv1 hr (hfields hr') hbytes).1 (by decide)
  · obtain ⟨hcommon, hmandate⟩ := List.append_inj (canonicalFields_inj hv2 hv2 hr hr' hbytes).2 rfl
    exact chainFields_inj hcommon (by simpa using hmandate)

/-! ## Verified chains -/

variable {tenant : String} {w : World F} {n : ℤ}

/-- A walk that succeeds has found a chain. -/
theorem linkedFrom_of_verifyChainFrom {rows : List ReceiptRow} {db : Db F} (hdb : w.db = db)
    {k m : ℤ} {b : String} (hload : ∀ r ∈ rows, findReceipt db r.receiptId = some r.toActionReceipt)
    (h : ((verifyChainFrom env tenant (rows.map fun r => r.receiptId) k b n).exec w).1 = .ok m) :
    LinkedFrom (fun r : ReceiptRow => r.seq) (fun r => r.prevHash)
      (fun r => receiptChainHash env r.toActionReceipt) k b rows ∧ m = n + rows.length := by
  induction rows generalizing w k b n with
  | nil =>
    cases h
    simp [LinkedFrom]
  | cons r rest ih =>
    have hfind := hload r List.mem_cons_self
    simp only [List.map_cons, verifyChainFrom, loadReceipt, Srv.select, Prog.step_bind,
      Prog.exec_step] at h
    cases hfault : w.fault with
    | some e =>
      rw [hfault] at h
      cases h
    | none =>
      rw [hfault] at h
      simp only [Prog.pure_eq, Prog.done_ok_bind, hdb, hfind] at h
      split at h
      · cases h
      · next hseq =>
        split at h
        · cases h
        · next hprev =>
          obtain ⟨hlinked, hm⟩ := ih (w := w.spendFault) hdb
            (fun x hx => hload x (List.mem_cons_of_mem _ hx)) h
          refine ⟨⟨not_not.1 hseq, not_not.1 hprev, hlinked⟩, ?_⟩
          rw [hm, List.length_cons]
          push_cast
          ring

/-- A table whose chain verifies has its receipts linked, and as many as the count. -/
theorem linkedFrom_of_verifyReceiptChain (hkey : (w.db.receipts.map fun r => r.receiptId).Nodup)
    (h : ((verifyReceiptChain env tenant).exec w).1 = .ok n) :
    LinkedFrom (fun r : ReceiptRow => r.seq) (fun r => r.prevHash)
      (fun r => receiptChainHash env r.toActionReceipt) 1 "" (chainOf tenant w.db.receipts) ∧
      n = (chainOf tenant w.db.receipts).length := by
  simp only [verifyReceiptChain, Srv.select, Prog.step_bind, Prog.exec_step] at h
  cases hfault : w.fault with
  | some e =>
    rw [hfault] at h
    cases h
  | none =>
    rw [hfault] at h
    simp only [Prog.pure_eq, Prog.done_ok_bind] at h
    obtain ⟨hlinked, hn⟩ := linkedFrom_of_verifyChainFrom (World.spendFault_db w)
      (fun r hr => findReceipt_of_mem hkey (mem_chainOf.1 hr).1) h
    exact ⟨hlinked, by simpa using hn⟩

/-- **Tamper evidence of receipts.** If the tenant's chain verifies in two tables with one
count, and its last receipts have one hash, then the chained receipts agree, one by one, on
everything the chain hash commits to. -/
theorem receipt_chain_tamper_evident (env : Env F) (hsha : Function.Injective env.sha256)
    (tenant : String) {w w' : World F} {n : ℤ}
    (hkey : (w.db.receipts.map fun r => r.receiptId).Nodup)
    (hkey' : (w'.db.receipts.map fun r => r.receiptId).Nodup)
    (hfits : ∀ r ∈ chainOf tenant w.db.receipts, ChainEncodable r.toActionReceipt)
    (hfits' : ∀ r ∈ chainOf tenant w'.db.receipts, ChainEncodable r.toActionReceipt)
    (hok : ((verifyReceiptChain env tenant).exec w).1 = .ok n)
    (hok' : ((verifyReceiptChain env tenant).exec w').1 = .ok n)
    (hhead : ∀ r ∈ chainOf tenant w.db.receipts, ∀ r' ∈ chainOf tenant w'.db.receipts,
      r.seq = n → r'.seq = n →
        receiptChainHash env r.toActionReceipt = receiptChainHash env r'.toActionReceipt) :
    (chainOf tenant w.db.receipts).map (fun r => chained r.toActionReceipt) =
        (chainOf tenant w'.db.receipts).map (fun r => chained r.toActionReceipt) ∧
      (chainOf tenant w.db.receipts).map (fun r => r.seq) =
        (List.range n.toNat).map fun k : ℕ => 1 + (k : ℤ) := by
  obtain ⟨hlinked, hn⟩ := linkedFrom_of_verifyReceiptChain hkey hok
  obtain ⟨hlinked', hn'⟩ := linkedFrom_of_verifyReceiptChain hkey' hok'
  have hlen : (chainOf tenant w.db.receipts).length = (chainOf tenant w'.db.receipts).length := by
    omega
  have hend := hlinked.end_snd_eq hlinked' hlen fun r hr r' hr' hseq hseq' =>
    hhead r hr r' hr' (by omega) (by omega)
  refine ⟨hlinked.map_eq hlinked' hlen hend fun r hr r' hr' hhash => ?_, ?_⟩
  · have hchained := receiptChainHash_inj hsha (hfits r hr) (hfits' r' hr') hhash
    exact ⟨hchained, by simpa [chained] using congrArg ActionReceipt.prevHash hchained⟩
  · rw [hlinked.map_seq, hn, Int.toNat_natCast]

/-! ## Two tables -/

/-- The hash keeps its input. -/
def plainHashEnv : Env ℚ := { sampleEnv ℚ with sha256 := id }

/-- An accepted receipt of one agent, under an owner mandate or none. -/
def linkReceipt (seq : ℤ) (prevHash mandate signature : String) : ActionReceipt :=
  { tenantId := "default", receiptId := toString seq, actionHash := "", agentId := "agt_1",
    ringKeyImageHex := "", policyVersion := "", ajwtJti := "", popJkt := "", timestamp := 5,
    status := "accepted", signature := signature, seq := seq, prevHash := prevHash,
    ownerMandateHash := mandate }

/-- Two linked receipts under a signature, the first without an owner mandate. -/
def twoLinks (signature : String) : World ℚ :=
  let first := linkReceipt 1 "" "" signature
  World.steady { Db.empty ℚ with receipts := [
    { first with ringId := none, configDigest := none },
    { linkReceipt 2 (receiptChainHash plainHashEnv first) "m" signature with
      ringId := none, configDigest := none }] } 0

theorem chainOk_twoLinks (signature : String) :
    ChainOk plainHashEnv "default" (twoLinks signature).db.receipts where
  nonneg := by simp [twoLinks, linkReceipt]
  linked := ⟨rfl, rfl, rfl, rfl, trivial⟩

theorem chainEncodable_twoLinks (signature : String) :
    ∀ r ∈ chainOf "default" (twoLinks signature).db.receipts, ChainEncodable r.toActionReceipt := by
  have hname : Fits (utf8 "prev_hash") := by decide +kernel
  have hhash : Fits (utf8 (receiptChainHash plainHashEnv (linkReceipt 1 "" "" signature))) := by
    have hbytes : receiptChainHash plainHashEnv (linkReceipt 1 "" "" signature) =
        hexEncode (canonicalFields "sauron.agent-action-receipt-chain.v1"
          (chainFields (linkReceipt 1 "" "" ""))) := rfl
    rw [hbytes, fits_utf8, utf8ByteSize_hexEncode]
    decide +kernel
  intro r hr p hp
  have hrow := (mem_chainOf.1 hr).1
  simp only [twoLinks, World.steady_db, List.mem_cons, List.not_mem_nil, or_false] at hrow
  generalize receiptChainHash plainHashEnv (linkReceipt 1 "" "" signature) = hash at hhash hrow
  rcases hrow with rfl | rfl <;>
    simp only [chainFields, linkReceipt, List.cons_append, List.nil_append, List.mem_cons,
      List.not_mem_nil, or_false] at hp <;>
    rcases hp with rfl | rfl | rfl | rfl | rfl | rfl | rfl | rfl | rfl | rfl | rfl | rfl | rfl <;>
    first
    | exact ⟨hname, hhash⟩
    | decide +kernel

theorem receipt_chain_agrees :
    ((verifyReceiptChain plainHashEnv "default").exec (twoLinks "s")).1 = .ok 2 ∧
      (chainOf "default" (twoLinks "s").db.receipts).map (fun r => chained r.toActionReceipt) =
        (chainOf "default" (twoLinks "s'").db.receipts).map
          (fun r => chained r.toActionReceipt) := by
  have hok := fun signature => verifyReceiptChain_exec (w := twoLinks signature) rfl
    (by simp [twoLinks, linkReceipt]) (chainOk_twoLinks signature)
  refine ⟨hok "s", (receipt_chain_tamper_evident plainHashEnv Function.injective_id "default"
    (by simp [twoLinks, linkReceipt]) (by simp [twoLinks, linkReceipt])
    (chainEncodable_twoLinks _) (chainEncodable_twoLinks _)
    (hok "s") (hok "s'") fun r hr r' hr' hseq hseq' => ?_).1⟩
  have hrow := (mem_chainOf.1 hr).1
  have hrow' := (mem_chainOf.1 hr').1
  simp only [twoLinks, World.steady_db, List.mem_cons, List.not_mem_nil, or_false] at hrow hrow'
  rcases hrow with rfl | rfl
  · cases hseq
  · rcases hrow' with rfl | rfl
    · cases hseq'
    · rfl

end SauronID.Action
