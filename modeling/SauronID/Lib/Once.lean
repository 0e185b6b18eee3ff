import SauronID.Lib.Trace

/-!
# Rows that mark a key as used

A key is used up by storing a row for it, which fails when the row is there. Rows are
deleted again when they are no longer needed, so a key can be used twice unless the row
outlives it: every use must come while the row, if it was ever stored, cannot have been
deleted. `OnceRules` collects what has to be shown of the statements for one key, and
`OnceRules.invariant` derives that no log has two uses of it.
-/

namespace SauronID.Conc

variable {ℓ σ : Type} [Clocked σ]

/-- What the statements do for one key. `uses` are its successful uses, `stored` says that
its row is in the table, `live` that the row may not be deleted yet. `J` is what is known
of the state and the log besides. -/
structure OnceRules (R : ℕ → Rules ℓ σ) (C : Entry ℓ σ → List (Entry ℓ σ) → Prop)
    (J : σ → List (Entry ℓ σ) → Prop) (uses : Entry ℓ σ → Prop) (live stored : σ → Prop) :
    Prop where
  live_of_tick : ∀ {s} (d : ℕ), live (Clocked.advance d s) → live s
  tick_stored : ∀ {s} (d : ℕ), stored s → stored (Clocked.advance d s)
  live_of_step : ∀ {i lbl s s'}, (R i).effect lbl s s' → live s' → live s
  step_stored : ∀ {s log i lbl s'}, J s log → (R i).effect lbl s s' →
    (R i).may (threadTrace i log) lbl s → live s → stored s → stored s'
  uses_stored : ∀ {i lbl s s'}, (R i).effect lbl s s' → uses ⟨i, lbl, s⟩ → stored s'
  uses_live : ∀ {s log i lbl}, J s log → C ⟨i, lbl, s⟩ log →
    (R i).may (threadTrace i log) lbl s → uses ⟨i, lbl, s⟩ → (∃ e ∈ log, uses e) → live s
  uses_fresh : ∀ {s log i lbl}, J s log → (R i).may (threadTrace i log) lbl s → live s →
    uses ⟨i, lbl, s⟩ → ¬stored s

/-- After a use the row is there while it is live, and there are no two uses. -/
def Once (J : σ → List (Entry ℓ σ) → Prop) (uses : Entry ℓ σ → Prop) (live stored : σ → Prop)
    (s : σ) (log : List (Entry ℓ σ)) : Prop :=
  J s log ∧ (∀ e ∈ log, uses e → live s → stored s) ∧
    log.Pairwise fun e e' => ¬(uses e ∧ uses e')

variable {R : ℕ → Rules ℓ σ} {C : Entry ℓ σ → List (Entry ℓ σ) → Prop}
  {J : σ → List (Entry ℓ σ) → Prop} {uses : Entry ℓ σ → Prop} {live stored : σ → Prop}

theorem OnceRules.invariant (h : OnceRules R C J uses live stored) (hJ : TraceInvariant R C J) :
    TraceInvariant R C (Once J uses live stored) where
  tick d := by
    rintro ⟨hj, hstored, hpair⟩
    refine ⟨hJ.tick d hj, fun e he huse hlive => ?_, hpair⟩
    exact h.tick_stored d (hstored e he huse (h.live_of_tick d hlive))
  step := by
    rintro s log i lbl s' ⟨hj, hstored, hpair⟩ hC heff hmay
    refine ⟨hJ.step hj hC heff hmay, fun e he huse hlive => ?_, List.pairwise_cons.2 ⟨?_, hpair⟩⟩
    · rcases List.mem_cons.1 he with rfl | he
      · exact h.uses_stored heff huse
      · have hlive' := h.live_of_step heff hlive
        exact h.step_stored hj heff hmay hlive' (hstored e he huse hlive')
    · -- A second use would find the row of the first.
      rintro e he ⟨huse, huse'⟩
      have hlive := h.uses_live hj hC hmay huse ⟨e, he, huse'⟩
      exact h.uses_fresh hj hmay hlive huse (hstored e he huse' hlive)

omit [Clocked σ] in
/-- Two uses are one. -/
theorem Once.eq {s : σ} {log : List (Entry ℓ σ)} (h : Once J uses live stored s log)
    {e e' : Entry ℓ σ} (he : e ∈ log) (he' : e' ∈ log) (huse : uses e) (huse' : uses e') :
    e = e' := by
  by_contra hne
  have hsymm : Std.Symm fun e e' : Entry ℓ σ => ¬(uses e ∧ uses e') :=
    ⟨fun _ _ hnot hboth => hnot hboth.symm⟩
  exact h.2.2.forall he he' hne ⟨huse, huse'⟩

end SauronID.Conc
