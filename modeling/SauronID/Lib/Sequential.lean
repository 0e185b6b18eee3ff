import SauronID.Lib.Trace

/-!
# Requests one after another

A run is a sequence of requests when no request is interrupted: the entry before any entry
of a request that has begun is its own. What the statements of one request keep then holds
between each of its entries and the present, however the clock moves.
-/

namespace SauronID.Conc

variable {ℓ σ : Type}

/-- The request of the entry begins with it, or is the one that ran last. -/
def uninterrupted (e : Entry ℓ σ) (older : List (Entry ℓ σ)) : Bool :=
  older.all (fun e' => e'.thread != e.thread) || older.head?.any fun e' => e'.thread == e.thread

/-- The request that ran last has kept `rel` since each of its entries. -/
def KeptByLast (rel : ℕ → σ → σ → Prop) (s : σ) (log : List (Entry ℓ σ)) : Prop :=
  ∀ last ∈ log.head?, ∀ e ∈ log, e.thread = last.thread → rel last.thread e.before s

variable {rel : ℕ → σ → σ → Prop}

/-- Of a request that is not interrupted, all entries are those of the request that ran last. -/
theorem KeptByLast.before {s : σ} {log : List (Entry ℓ σ)} (h : KeptByLast rel s log) {i : ℕ}
    {lbl : ℓ} {s₀ : σ} (hrun : uninterrupted ⟨i, lbl, s₀⟩ log = true) {e : Entry ℓ σ} (he : e ∈ log)
    (hi : e.thread = i) : rel i e.before s := by
  subst hi
  rcases Bool.or_eq_true_iff.1 hrun with hnew | hlast
  · have hne := List.all_eq_true.1 hnew e he
    simp at hne
  · cases hhead : log.head? with
    | none =>
      rw [List.head?_eq_none_iff.1 hhead] at he
      cases he
    | some last =>
      have hthread : last.thread = e.thread := by simpa [hhead] using hlast
      have hkept := h last hhead e he hthread.symm
      rwa [hthread] at hkept

theorem keptByLast_invariant [Clocked σ] {R : ℕ → Rules ℓ σ}
    (htrans : ∀ i {s₁ s₂ s₃}, rel i s₁ s₂ → rel i s₂ s₃ → rel i s₁ s₃)
    (htick : ∀ i d s, rel i s (Clocked.advance d s))
    (hstep : ∀ i {t lbl s s'}, (R i).effect lbl s s' → (R i).may t lbl s → rel i s s') :
    TraceInvariant R (fun e older => uninterrupted e older = true) (KeptByLast rel) where
  tick d h last hlast e he hthread := htrans _ (h last hlast e he hthread) (htick _ d _)
  step := by
    rintro s log i lbl s' h hrun heff hmay last hlast e he hthread
    cases hlast
    have hnow := hstep i heff hmay
    rcases List.mem_cons.1 he with rfl | he
    · exact hnow
    · exact htrans i (h.before hrun he hthread) hnow

end SauronID.Conc
