import Mathlib.Data.List.Range
import Mathlib.Tactic.Ring

/-!
# Hash-linked sequences

A chain is a list of records with a sequence number, a link to the record before
and a digest of their own. `LinkedFrom seq prev digest k b` says that the numbers
count up from `k` and that every record holds the digest of its predecessor, the
first one `b`; `chainEnd` is where the next record goes.
-/

namespace SauronID

variable {α β : Type} (seq : α → ℤ) (prev digest : α → β)

/-- Consecutive numbers from `k`, each record linked to the one before, the first to `b`. -/
def LinkedFrom : ℤ → β → List α → Prop
  | _, _, [] => True
  | k, b, a :: as => seq a = k ∧ prev a = b ∧ LinkedFrom (k + 1) (digest a) as

/-- The number and the link the next record has to carry. -/
def chainEnd : ℤ → β → List α → ℤ × β
  | k, b, [] => (k, b)
  | _, _, a :: as => chainEnd (seq a + 1) (digest a) as

variable {seq prev digest} {k : ℤ} {b : β} {as : List α} {a : α}

section

variable (h : LinkedFrom seq prev digest k b as)

include h

/-- A record that carries the end of a chain extends it. -/
theorem LinkedFrom.concat (ha : (seq a, prev a) = chainEnd seq digest k b as) :
    LinkedFrom seq prev digest k b (as ++ [a]) := by
  induction as generalizing k b with
  | nil =>
    obtain ⟨hs, hp⟩ := Prod.mk.inj ha
    exact ⟨hs, hp, trivial⟩
  | cons x xs ih =>
    obtain ⟨hs, hp, hrest⟩ := h
    subst hs
    exact ⟨rfl, hp, ih hrest ha⟩

/-- The numbers of a chain are the integers from `k` on. -/
theorem LinkedFrom.map_seq : as.map seq = (List.range as.length).map fun n : ℕ => k + n := by
  induction as generalizing k b with
  | nil => rfl
  | cons x xs ih =>
    obtain ⟨hs, -, hrest⟩ := h
    rw [List.map_cons, ih hrest, List.length_cons, List.range_succ_eq_map, List.map_cons,
      List.map_map, hs]
    refine congrArg₂ _ (by simp) (List.map_congr_left fun n _ => ?_)
    simp only [Function.comp_apply, Nat.succ_eq_add_one]
    push_cast
    ring

theorem LinkedFrom.le_seq (ha : a ∈ as) : k ≤ seq a := by
  have hmem : seq a ∈ as.map seq := List.mem_map_of_mem ha
  rw [h.map_seq] at hmem
  obtain ⟨n, -, hn⟩ := List.mem_map.1 hmem
  omega

/-- The end of a chain is past its records. -/
theorem LinkedFrom.seq_lt_end (ha : a ∈ as) : seq a < (chainEnd seq digest k b as).1 := by
  induction as generalizing k b a with
  | nil => cases ha
  | cons x xs ih =>
    obtain ⟨hs, -, hrest⟩ := h
    subst hs
    rcases List.mem_cons.1 ha with rfl | ha
    · cases xs with
      | nil => simp [chainEnd]
      | cons y ys =>
        have hy := ih hrest (List.mem_cons_self)
        have hle := hrest.le_seq (List.mem_cons_self)
        exact lt_trans (by omega) hy
    · exact ih hrest ha

/-- Every number from `k` to the end of a chain is that of a record. -/
theorem LinkedFrom.exists_seq {j : ℤ} (hk : k ≤ j)
    (ha : a ∈ as) (hj : j ≤ seq a) : ∃ x ∈ as, seq x = j := by
  induction as generalizing k b with
  | nil => cases ha
  | cons x xs ih =>
    obtain ⟨hs, -, hrest⟩ := h
    by_cases hjk : j = k
    · exact ⟨x, List.mem_cons_self, hs.trans hjk.symm⟩
    · rcases List.mem_cons.1 ha with rfl | ha
      · omega
      · obtain ⟨y, hy, hyj⟩ := ih hrest (by omega) ha
        exact ⟨y, List.mem_cons_of_mem _ hy, hyj⟩

theorem LinkedFrom.le_end : k ≤ (chainEnd seq digest k b as).1 := by
  cases as with
  | nil => exact le_rfl
  | cons x xs => exact (h.le_seq List.mem_cons_self).trans (h.seq_lt_end List.mem_cons_self).le

/-- The record with the largest number is the last one. -/
theorem LinkedFrom.end_eq (ha : a ∈ as)
    (hmax : ∀ x ∈ as, seq x ≤ seq a) : chainEnd seq digest k b as = (seq a + 1, digest a) := by
  induction as generalizing k b with
  | nil => cases ha
  | cons x xs ih =>
    obtain ⟨hs, -, hrest⟩ := h
    subst hs
    rcases List.mem_cons.1 ha with rfl | ha
    · cases xs with
      | nil => rfl
      | cons y ys =>
        have hle := hrest.le_seq (List.mem_cons_self)
        have hge := hmax y (by simp)
        omega
    · exact ih hrest ha fun y hy => hmax y (List.mem_cons_of_mem _ hy)

/-- The first record holds the link the chain starts with. -/
theorem LinkedFrom.prev_first (ha : a ∈ as) (hk : seq a = k) : prev a = b := by
  cases as with
  | nil => cases ha
  | cons x xs =>
    obtain ⟨-, hp, hrest⟩ := h
    rcases List.mem_cons.1 ha with rfl | ha
    · exact hp
    · have := hrest.le_seq ha
      omega

/-- Every other record holds the digest of the record numbered one less. -/
theorem LinkedFrom.prev_eq {a' : α} (ha : a ∈ as)
    (ha' : a' ∈ as) (hseq : seq a' = seq a + 1) : prev a' = digest a := by
  induction as generalizing k b with
  | nil => cases ha
  | cons x xs ih =>
    obtain ⟨hs, -, hrest⟩ := h
    rcases List.mem_cons.1 ha with hx | hxs <;> rcases List.mem_cons.1 ha' with hx' | hxs'
    · subst hx hx'
      omega
    · subst hx
      exact hrest.prev_first hxs' (by omega)
    · subst hx'
      have := hrest.le_seq hxs
      omega
    · exact ih hrest hxs hxs'

/-- A link is where the chain starts or the digest of a record. -/
theorem LinkedFrom.prev_cases (ha : a ∈ as) : prev a = b ∨ ∃ x ∈ as, prev a = digest x := by
  induction as generalizing k b with
  | nil => cases ha
  | cons x xs ih =>
    obtain ⟨-, hp, hrest⟩ := h
    rcases List.mem_cons.1 ha with rfl | ha
    · exact .inl hp
    · rcases ih hrest ha with h | ⟨y, hy, h⟩
      · exact .inr ⟨x, List.mem_cons_self, h⟩
      · exact .inr ⟨y, List.mem_cons_of_mem _ hy, h⟩

/-- Editing records outside their number, link and digest keeps a chain. -/
theorem LinkedFrom.map {f : α → α}
    (hf : ∀ a ∈ as, seq (f a) = seq a ∧ prev (f a) = prev a ∧ digest (f a) = digest a) :
    LinkedFrom seq prev digest k b (as.map f) := by
  induction as generalizing k b with
  | nil => trivial
  | cons x xs ih =>
    obtain ⟨hs, hp, hrest⟩ := h
    obtain ⟨hseq, hprev, hdigest⟩ := hf x List.mem_cons_self
    refine ⟨hseq.trans hs, hprev.trans hp, ?_⟩
    rw [hdigest]
    exact ih hrest fun a ha => hf a (List.mem_cons_of_mem _ ha)

end

/-! ## Tamper evidence -/

theorem chainEnd_concat (k : ℤ) (b : β) (as : List α) (a : α) :
    chainEnd seq digest k b (as ++ [a]) = (seq a + 1, digest a) := by
  induction as generalizing k b with
  | nil => rfl
  | cons x xs ih => exact ih _ _

/-- The last record of a chain carries the end of the records before it. -/
theorem LinkedFrom.of_concat (h : LinkedFrom seq prev digest k b (as ++ [a])) :
    LinkedFrom seq prev digest k b as ∧ (seq a, prev a) = chainEnd seq digest k b as := by
  induction as generalizing k b with
  | nil => exact ⟨trivial, Prod.ext h.1 h.2.1⟩
  | cons x xs ih =>
    obtain ⟨hs, hp, hrest⟩ := h
    subst hs
    obtain ⟨hlinked, hend⟩ := ih hrest
    exact ⟨⟨rfl, hp, hlinked⟩, hend⟩

theorem LinkedFrom.end_fst (h : LinkedFrom seq prev digest k b as) :
    (chainEnd seq digest k b as).1 = k + as.length := by
  induction as generalizing k b with
  | nil => simp [chainEnd]
  | cons x xs ih =>
    obtain ⟨hs, -, hrest⟩ := h
    subst hs
    rw [chainEnd, ih hrest, List.length_cons]
    push_cast
    ring

variable {as' : List α}

/-- Chains of one length whose last records have one digest end in the same link. -/
theorem LinkedFrom.end_snd_eq (h : LinkedFrom seq prev digest k b as)
    (h' : LinkedFrom seq prev digest k b as') (hlen : as.length = as'.length)
    (hlast : ∀ a ∈ as, ∀ a' ∈ as', seq a + 1 = k + as.length → seq a' + 1 = k + as.length →
      digest a = digest a') : (chainEnd seq digest k b as).2 = (chainEnd seq digest k b as').2 := by
  have hfst := h.end_fst
  have hfst' := h'.end_fst
  rcases List.eq_nil_or_concat as with rfl | ⟨xs, x, rfl⟩
  · rw [List.length_eq_zero_iff.1 hlen.symm]
  · rcases List.eq_nil_or_concat as' with rfl | ⟨xs', x', rfl⟩
    · simp at hlen
    simp only [List.concat_eq_append, chainEnd_concat] at hfst hfst' hlen hlast ⊢
    exact hlast x (by simp) x' (by simp) hfst (hfst'.trans (by rw [hlen]))

/-- **Tamper evidence.** Two chains of one length that end in the same link agree on all
that the digest of a record commits to, if that includes the link to the record before. -/
theorem LinkedFrom.map_eq {γ : Type} {view : α → γ} (h : LinkedFrom seq prev digest k b as)
    (h' : LinkedFrom seq prev digest k b as') (hlen : as.length = as'.length)
    (hend : (chainEnd seq digest k b as).2 = (chainEnd seq digest k b as').2)
    (hinj : ∀ a ∈ as, ∀ a' ∈ as', digest a = digest a' → view a = view a' ∧ prev a = prev a') :
    as.map view = as'.map view := by
  -- from the last record back: its link is the end of the chain before it
  induction as using List.reverseRecOn generalizing as' with
  | nil => rw [List.length_eq_zero_iff.1 hlen.symm]
  | append_singleton xs x ih =>
    rcases List.eq_nil_or_concat as' with rfl | ⟨xs', x', rfl⟩
    · simp at hlen
    rw [List.concat_eq_append] at h' hlen hend hinj ⊢
    rw [chainEnd_concat, chainEnd_concat] at hend
    obtain ⟨hview, hprev⟩ := hinj x (by simp) x' (by simp) hend
    obtain ⟨hxs, hx⟩ := h.of_concat
    obtain ⟨hxs', hx'⟩ := h'.of_concat
    have hlink : (chainEnd seq digest k b xs).2 = (chainEnd seq digest k b xs').2 := by
      rw [← hx, ← hx']
      exact hprev
    have hrec := ih hxs hxs' (by simpa using hlen) hlink fun a ha a' ha' =>
      hinj a (List.mem_append_left _ ha) a' (List.mem_append_left _ ha')
    rw [List.map_append, List.map_append, hrec, List.map_singleton, List.map_singleton, hview]

end SauronID
