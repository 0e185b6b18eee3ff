import SauronID.Lib.Prog

/-!
# Two runs side by side

`Prog.Alike` compares a program run alone from one state with a program run alone from
another: both succeed or both fail, and the results and final states are related. The rules
follow the two programs together, statement by statement, so that what one run sees and the
other does not has to be accounted for where it is read. `Prog.Follows.exec_keeps` is the
companion for one run: what a protocol keeps, the run alone keeps.
-/

namespace SauronID.Conc.Prog

variable {ℓ σ ε ε' α α' β β' L : Type}

/-- Outcomes that are both a success, in `Q`, or both a failure, in `E`. -/
inductive OutcomesAlike (Q : α → β → σ → σ → Prop) (E : σ → σ → Prop) :
    Except ε α × σ → Except ε' β × σ → Prop
  | ok {a : α} {b : β} {t₁ t₂ : σ} : Q a b t₁ t₂ → OutcomesAlike Q E (.ok a, t₁) (.ok b, t₂)
  | error {e : ε} {e' : ε'} {t₁ t₂ : σ} : E t₁ t₂ → OutcomesAlike Q E (.error e, t₁) (.error e', t₂)

/-- `p₁` from `s₁` and `p₂` from `s₂` both succeed, in `Q`, or both fail, in `E`. -/
def Alike (p₁ : Prog ℓ σ ε α) (s₁ : σ) (p₂ : Prog ℓ σ ε β) (s₂ : σ)
    (Q : α → β → σ → σ → Prop) (E : σ → σ → Prop) : Prop :=
  OutcomesAlike Q E (p₁.exec s₁) (p₂.exec s₂)

section Rules

variable {s₁ s₂ : σ} {Q : α → β → σ → σ → Prop} {E : σ → σ → Prop}
  {Q' : α' → β' → σ → σ → Prop}

theorem alike_pure {a : α} {b : β} (h : Q a b s₁ s₂) :
    (pure a : Prog ℓ σ ε α).Alike s₁ (pure b) s₂ Q E := .ok h

variable {p₁ : Prog ℓ σ ε α} {p₂ : Prog ℓ σ ε β}

/-- Sequencing: the second parts go on from where the first ones ended. -/
theorem Alike.bind {f₁ : α → Prog ℓ σ ε α'} {f₂ : β → Prog ℓ σ ε β'}
    (h : p₁.Alike s₁ p₂ s₂ (fun a b t₁ t₂ => (f₁ a).Alike t₁ (f₂ b) t₂ Q' E) E) :
    (p₁ >>= f₁).Alike s₁ (p₂ >>= f₂) s₂ Q' E := by
  unfold Alike at h ⊢
  rw [exec_bind, exec_bind]
  generalize p₁.exec s₁ = o₁ at h
  generalize p₂.exec s₂ = o₂ at h
  cases h with
  | ok h => exact h
  | error h => exact .error h

theorem Alike.mapErr {g : ε → ε'}
    (h : p₁.Alike s₁ p₂ s₂ Q E) : (p₁.mapErr g).Alike s₁ (p₂.mapErr g) s₂ Q E := by
  unfold Alike at h ⊢
  rw [exec_mapErr, exec_mapErr]
  generalize p₁.exec s₁ = o₁ at h
  generalize p₂.exec s₂ = o₂ at h
  cases h with
  | ok h => exact .ok h
  | error h => exact .error h

/-- The same check in both. -/
theorem Alike.rejectIf {p : Prop} [Decidable p] {e : ε} {f₁ : Unit → Prog ℓ σ ε α}
    {f₂ : Unit → Prog ℓ σ ε β} (herr : E s₁ s₂) (h : ¬p → (f₁ ()).Alike s₁ (f₂ ()) s₂ Q E) :
    (Prog.rejectIf p e >>= f₁).Alike s₁ (Prog.rejectIf p e >>= f₂) s₂ Q E := by
  by_cases hp : p
  · simp only [Prog.rejectIf, if_pos hp]
    exact .error herr
  · simp only [Prog.rejectIf, if_neg hp]
    exact h hp

variable {f₁ : α' → Prog ℓ σ ε α} {f₂ : α' → Prog ℓ σ ε β}

/-- The same pure function in both. -/
theorem Alike.ofExcept {r : Except ε α'}
    (herr : E s₁ s₂) (h : ∀ a, r = .ok a → (f₁ a).Alike s₁ (f₂ a) s₂ Q E) :
    (Prog.ofExcept r >>= f₁).Alike s₁ (Prog.ofExcept r >>= f₂) s₂ Q E := by
  cases r with
  | error e => exact .error herr
  | ok a => exact h a rfl

/-- One statement at the head of both. -/
theorem Alike.atomic {lbl : ℓ} {upd : σ → σ} {out : σ → α'}
    (h : (f₁ (out s₁)).Alike (upd s₁) (f₂ (out s₂)) (upd s₂) Q E) :
    (Prog.atomic lbl upd out >>= f₁).Alike s₁ (Prog.atomic lbl upd out >>= f₂) s₂ Q E := h

/-- Both relations may be weakened. -/
theorem OutcomesAlike.imp {Q₀ : α → β → σ → σ → Prop} {E₀ : σ → σ → Prop} {o₁ : Except ε α × σ}
    {o₂ : Except ε' β × σ} (h : OutcomesAlike Q₀ E₀ o₁ o₂)
    (hQ : ∀ a b t₁ t₂, Q₀ a b t₁ t₂ → Q a b t₁ t₂) (hE : ∀ t₁ t₂, E₀ t₁ t₂ → E t₁ t₂) :
    OutcomesAlike Q E o₁ o₂ := by
  cases h with
  | ok h => exact .ok (hQ _ _ _ _ h)
  | error h => exact .error (hE _ _ h)

theorem Alike.mono {Q₀ : α → β → σ → σ → Prop} (h : p₁.Alike s₁ p₂ s₂ Q₀ E)
    (hQ : ∀ a b t₁ t₂, Q₀ a b t₁ t₂ → Q a b t₁ t₂) : p₁.Alike s₁ p₂ s₂ Q E :=
  OutcomesAlike.imp h hQ fun _ _ => id

theorem Alike.mono_error {E₀ : σ → σ → Prop} (h : p₁.Alike s₁ p₂ s₂ Q E₀)
    (hE : ∀ t₁ t₂, E₀ t₁ t₂ → E t₁ t₂) : p₁.Alike s₁ p₂ s₂ Q E :=
  OutcomesAlike.imp h (fun _ _ _ _ => id) hE

/-- Programs that run alike have the same verdict, and their final states are related. -/
theorem Alike.verdict {R : σ → σ → Prop} (h : p₁.Alike s₁ p₂ s₂ (fun _ _ => R) R) :
    (p₁.exec s₁).1.isOk = (p₂.exec s₂).1.isOk ∧ R (p₁.exec s₁).2 (p₂.exec s₂).2 := by
  unfold Alike at h
  generalize p₁.exec s₁ = o₁ at h
  generalize p₂.exec s₂ = o₂ at h
  cases h with
  | ok h => exact ⟨rfl, h⟩
  | error h => exact ⟨rfl, h⟩

end Rules

/-- What every transition of a protocol keeps, a program that follows it and runs alone
keeps, and it ends as the protocol says. -/
theorem Follows.exec_keeps {T : L → ℓ → σ → σ → L → Prop} {I : L → σ → Prop}
    (hI : ∀ l lbl s s' l', I l s → T l lbl s s' l' → I l' s') {p : Prog ℓ σ ε α} {l : L}
    {Q : L → Except ε α → Prop} (h : p.Follows T l Q) {s : σ} (hs : I l s) :
    ∃ l', I l' (p.exec s).2 ∧ Q l' (p.exec s).1 := by
  induction p generalizing l s with
  | done r => exact ⟨l, hs, follows_done.1 h⟩
  | step lbl upd next ih =>
    obtain ⟨l', hT, hnext⟩ := follows_step.1 h s
    exact ih s hnext (hI l lbl s (upd s) l' hs hT)

end SauronID.Conc.Prog
