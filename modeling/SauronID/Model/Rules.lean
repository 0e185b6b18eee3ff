import SauronID.Lib.Trace
import SauronID.Model.Server

/-!
# The rules of the server's statements

What every statement of the server does to the world, as rules on the history of a
request: reads, the clock and the marks change no table, a data-changing statement
does what it says or fails. Which data-changing statements a request may send, after
what, is left to the component that states its own `may`.
-/

namespace SauronID

open Conc

variable {F : Type} [Float64 F]

/-- The effect of a statement on the world. -/
def Label.Effect : Label F → World F → World F → Prop
  | .select _, s, s' => s' = s.spendFault ∨ s' = s.spendTie
  | .write w, s, s' => s' = s.afterWrite w
  | .draw, s, s' => s' = { s with drawn := s.drawn + 1 }
  | .publish network _, s, s' => s' = s.afterPublish network
  | .clock, s, s' | .clockMs, s, s' | .judged _ _ _ _, s, s' | .forward _ _ _, s, s' => s' = s

/-- The table a statement writes; publishers write their own. -/
def Label.table : Label F → Table
  | .write w => w.table
  | _ => .providers

variable {lbl : Label F} {s s' : World F}

section

variable (h : lbl.Effect s s')

include h

/-- A statement changes no table but its own. -/
theorem Label.Effect.sameOff : Db.SameOff lbl.table s.db s'.db := by
  cases lbl with
  | select q =>
    rcases h with rfl | rfl
    · exact .rfl _ _
    · exact .rfl _ _
  | write w =>
    cases h
    exact World.afterWrite_sameOff s w
  | publish network root =>
    cases h
    unfold World.afterPublish
    split <;> constructor <;> simp
  | _ =>
    cases h
    exact .rfl _ _

/-- A statement on a table of the server failed and left the database, or did what it
says. -/
theorem Label.Effect.written (htable : lbl.table ≠ .providers) :
    ∃ w, lbl = .write w ∧ ((∃ e, s.writeResult w = .error e ∧ s'.db = s.db) ∨
      ∃ db n, s.fault = none ∧ w.apply s.db = .ok (db, n) ∧ s.writeResult w = .ok n ∧
        s'.db = db) := by
  cases lbl with
  | write w =>
    cases h
    exact ⟨w, rfl, World.afterWrite_cases s w⟩
  | _ => exact absurd rfl htable

/-- To one table a statement does nothing, or it is a statement on the table and did what it
says. -/
theorem Label.Effect.onTable (t : Table) (ht : t ≠ .providers) :
    (∃ t' ≠ t, Db.SameOff t' s.db s'.db) ∨ ∃ w db n, lbl = .write w ∧ w.table = t ∧
      w.apply s.db = .ok (db, n) ∧ s.writeResult w = .ok n ∧ s'.db = db := by
  by_cases htable : lbl.table = t
  swap
  · exact .inl ⟨lbl.table, htable, h.sameOff⟩
  subst htable
  obtain ⟨w, rfl, ⟨e, -, hdb⟩ | ⟨db, n, -, happly, hn, hdb⟩⟩ := h.written ht
  · refine .inl ⟨.providers, ht.symm, ?_⟩
    rw [hdb]
    exact .rfl _ _
  · exact .inr ⟨w, db, n, rfl, rfl, happly, hn, hdb⟩

/-- No statement moves the clock. -/
theorem Label.Effect.clockMs_eq : s'.clockMs = s.clockMs := by
  cases lbl with
  | select q => rcases h with rfl | rfl <;> rfl
  | write w =>
    cases h
    exact World.afterWrite_clockMs s w
  | publish network root =>
    cases h
    exact World.afterPublish_clockMs s network
  | _ =>
    cases h
    rfl

/-- Random identifiers are drawn and not put back. -/
theorem Label.Effect.drawn_le : s.drawn ≤ s'.drawn := by
  cases lbl with
  | select q => rcases h with rfl | rfl <;> exact le_rfl
  | write w =>
    cases h
    simp
  | publish network root =>
    cases h
    unfold World.afterPublish
    split <;> exact le_rfl
  | _ =>
    cases h
    simp

end

/-- The history of a request. -/
abbrev History (F : Type) := Trace (Label F) (World F)

/-- Which data-changing statements a request may send, after what. -/
abbrev May (F : Type) := History F → Write F → World F → Prop

/-- The last statement of the history has used up a capability for this call. -/
def JustUsed (t : History F) (method url : String) : Prop :=
  ∃ now tokenHashHex tenant agentId bodyHashHex s t',
    t = (.write (.useCapability now tokenHashHex tenant agentId method url bodyHashHex), s) :: t' ∧
    s.writeResult (.useCapability now tokenHashHex tenant agentId method url bodyHashHex) = .ok 1

/-- The rules of a component: `may t w s` says that a request with history `t` may send
the statement `w` in the world `s`. A call leaves the gateway only right after a capability
for it was used up. -/
def srvRules (may : May F) : Rules (Label F) (World F) where
  effect := Label.Effect
  may t lbl s :=
    match lbl with
    | .write w => may t w s
    | .forward method url _ => JustUsed t method url
    | _ => True

/-- The tables on which a component may bind the statements of its requests. -/
def Table.guarded : Table → Bool
  | .agents | .paymentAuths | .usedJtis | .checksumInputs | .checksumAudit => true
  | _ => false

section

omit [Float64 F]

/-- The rules bind only the statements on guarded tables. -/
def Unguarded (may : May F) : Prop :=
  ∀ t w s, w.table.guarded = false → may t w s

/-- The rules allow every statement on a table. -/
def MayWrite (table : Table) (may : May F) : Prop :=
  ∀ t w s, w.table = table → may t w s

variable {may : May F} {table : Table}

theorem Unguarded.mayWrite (h : Unguarded may) (htable : table.guarded = false) :
    MayWrite table may :=
  fun t w s hw => h t w s (hw ▸ htable)

theorem Unguarded.mayClaim (h : Unguarded may)
    (t : History F) (id : String) (now : ℤ) (s : World F) : may t (.claimAttestation id now) s :=
  h t _ s rfl

/-- The rules bind only the statements on guarded tables, on receipts and on capabilities. -/
def UnguardedElsewhere (may : May F) : Prop :=
  ∀ t w s, w.table.guarded = false → w.table ≠ .receipts → w.table ≠ .capabilities → may t w s

theorem Unguarded.elsewhere (h : Unguarded may) : UnguardedElsewhere may :=
  fun t w s hfree _ _ => h t w s hfree

theorem UnguardedElsewhere.mayWrite (h : UnguardedElsewhere may) (htable : table.guarded = false)
    (hreceipts : table ≠ .receipts) (hcaps : table ≠ .capabilities) : MayWrite table may :=
  fun t w s hw => h t w s (hw ▸ htable) (hw ▸ hreceipts) (hw ▸ hcaps)

/-- The request has read the clock, and it said `now`. -/
def ReadsNow (t : History F) (now : ℤ) : Prop := ∃ s, (.clock, s) ∈ t ∧ now = s.nowSecs

/-- After the history `t₁` the request has read the clock, and it said `now`. -/
def ReadsNowAfter (t₁ t : History F) (now : ℤ) : Prop :=
  ∃ s, ((.clock, s) :: t₁).Sublist t ∧ now = s.nowSecs

theorem ReadsNowAfter.readsNow {t₁ t : History F} {now : ℤ} (h : ReadsNowAfter t₁ t now) :
    ReadsNow t now := by
  obtain ⟨s, hs, hnow⟩ := h
  exact ⟨s, hs.subset (.head _), hnow⟩

end

/-- The clock has read `lo` or more throughout the run, and never more than now. -/
def ClockFrom (lo : ℤ) (s : World F) (log : RunLog F) : Prop :=
  lo ≤ s.clockMs ∧ ∀ e ∈ log, lo ≤ e.before.clockMs ∧ e.before.clockMs ≤ s.clockMs

omit [Float64 F] in
/-- What a request has read from the clock is past. -/
theorem ClockFrom.readsNow_le {lo now : ℤ} {i : ℕ} {log : RunLog F} (h : ClockFrom lo s log)
    (hnow : ReadsNow (threadTrace i log) now) : now ≤ s.nowSecs := by
  obtain ⟨s₀, hs₀, rfl⟩ := hnow
  exact World.nowSecs_mono (h.2 _ (mem_threadTrace.1 hs₀)).2

theorem clockFrom_invariant (lo : ℤ) (may : ℕ → May F) (C : LogEntry F → RunLog F → Prop) :
    TraceInvariant (fun i => srvRules (may i)) C (ClockFrom lo) where
  tick {s log} d h := by
    have hle : s.clockMs ≤ (Clocked.advance d s).clockMs := by simp
    exact ⟨h.1.trans hle, fun e he => ⟨(h.2 e he).1, (h.2 e he).2.trans hle⟩⟩
  step := by
    rintro s log i lbl s' ⟨hnow, hlog⟩ - heff -
    rw [ClockFrom, Label.Effect.clockMs_eq heff]
    refine ⟨hnow, fun e he => ?_⟩
    rcases List.mem_cons.1 he with rfl | he
    · exact ⟨hnow, le_rfl⟩
    · exact hlog e he

/-- The two statements do not draw the same number. -/
def DrawsApart (e e' : LogEntry F) : Prop :=
  e.label = .draw → e'.label = .draw → e.before.drawn ≠ e'.before.drawn

omit [Float64 F] in
instance : Std.Symm (DrawsApart (F := F)) :=
  ⟨fun _ _ h hdraw hdraw' => (h hdraw' hdraw).symm⟩

/-- The random identifiers of the run are numbered from `lo` on, and no number is drawn
twice. -/
structure Drawing (lo : ℕ) (s : World F) (log : RunLog F) : Prop where
  le : lo ≤ s.drawn
  past : ∀ e ∈ log, e.label = .draw → lo ≤ e.before.drawn ∧ e.before.drawn < s.drawn
  apart : log.Pairwise DrawsApart

theorem drawing_invariant (lo : ℕ) (may : ℕ → May F) (C : LogEntry F → RunLog F → Prop) :
    TraceInvariant (fun i => srvRules (may i)) C (Drawing lo) where
  tick _ h := ⟨h.le, h.past, h.apart⟩
  step := by
    intro s log i lbl s' h _ heff _
    have hle : s.drawn ≤ s'.drawn := Label.Effect.drawn_le heff
    refine ⟨h.le.trans hle, fun e he hdraw => ?_, List.pairwise_cons.2 ⟨?_, h.apart⟩⟩
    · rcases List.mem_cons.1 he with rfl | he
      · cases hdraw
        cases heff
        exact ⟨h.le, Nat.lt_succ_self _⟩
      · exact ⟨(h.past e he hdraw).1, (h.past e he hdraw).2.trans_le hle⟩
    · intro e he _ hdraw
      exact (h.past e he hdraw).2.ne'

namespace Srv

variable {ε α β : Type} {may : May F} {t : History F} {P : History F → α → Prop}
  {Q : History F → β → Prop} {q : Query}

theorem yields_select {f : Db F → α}
    (h : ∀ s : World F, s.fault = none → P ((.select q, s) :: t) (f s.db)) :
    (select q f).Yields (srvRules may) t P :=
  follows_select fun s => ⟨_, ⟨.inl rfl, trivial, rfl⟩, fun hf a ha => by cases ha; exact h s hf,
    fun _ _ => nofun⟩

variable {k : Except String α → Srv F ε β}

/-- A read whose failure is handled. -/
theorem yields_trySelect {f : Db F → α} (h : ∀ (s : World F) (r : Except String α),
      (k r).Yields (srvRules may) ((.select q, s) :: t) Q) :
    ((select q f).attempt >>= k).Yields (srvRules may) t Q :=
  .bind (.attempt (follows_select fun s =>
    ⟨_, ⟨.inl rfl, trivial, rfl⟩, fun _ => h s _, fun _ _ => h s _⟩))

theorem yields_selectTop {f : Db F → ℕ → α}
    (h : ∀ s : World F, s.fault = none → P ((.select q, s) :: t) (f s.db s.tie)) :
    (selectTop q f).Yields (srvRules may) t P :=
  follows_selectTop fun s => ⟨_, ⟨.inr rfl, trivial, rfl⟩, fun hf a ha => by cases ha; exact h s hf,
    fun _ _ => nofun⟩

/-- A read whose failure is handled. -/
theorem yields_trySelectTop {f : Db F → ℕ → α}
    (h : ∀ (s : World F) (r : Except String α), (∀ a, r = .ok a → a = f s.db s.tie) →
      (k r).Yields (srvRules may) ((.select q, s) :: t) Q) :
    ((selectTop q f).attempt >>= k).Yields (srvRules may) t Q :=
  .bind (.attempt (follows_selectTop fun s => ⟨_, ⟨.inr rfl, trivial, rfl⟩,
    fun _ => h s _ fun _ ha => by cases ha; rfl, fun _ _ => h s _ nofun⟩))

variable {f : Db F → Option α}

theorem yields_require {e : ε} {k : α → Srv F ε β}
    (h : ∀ (s : World F) (a : α), s.fault = none → f s.db = some a →
      (k a).Yields (srvRules may) ((.select q, s) :: t) Q) :
    (require q f e >>= k).Yields (srvRules may) t Q :=
  follows_require fun s => ⟨_, ⟨.inl rfl, trivial, rfl⟩, nofun, fun a hf ha => h s a hf ha⟩

variable {d : α}

/-- The value a `scalar_or` read returns. -/
theorem yields_scalarOr_eq
    (h : ∀ s : World F, P ((.select q, s) :: t) (if s.fault = none then (f s.db).getD d else d)) :
    (scalarOr q f d : Srv F ε α).Yields (srvRules may) t P :=
  follows_scalarOr fun s => ⟨_, ⟨.inl rfl, trivial, rfl⟩, fun a ha => by cases ha; exact h s⟩

theorem yields_scalarOr (h : ∀ (s : World F) (a : α), (s.fault = none → a = (f s.db).getD d) →
      P ((.select q, s) :: t) a) : (scalarOr q f d : Srv F ε α).Yields (srvRules may) t P :=
  yields_scalarOr_eq fun s => h s _ fun hf => if_pos hf

variable {w : Write F}

theorem yields_execute {P : History F → ℕ → Prop}
    (h : ∀ s : World F, may t w s ∧ ∀ n, s.writeResult w = .ok n → P ((.write w, s) :: t) n) :
    (execute w).Yields (srvRules may) t P :=
  follows_execute fun s => ⟨_, ⟨rfl, (h s).1, rfl⟩, (h s).2⟩

/-- A statement whose failure is ignored. -/
theorem yields_tryExecute {k : Except String ℕ → Srv F ε β}
    (h : ∀ s : World F, may t w s ∧ ∀ r, (k r).Yields (srvRules may) ((.write w, s) :: t) Q) :
    ((execute w).attempt >>= k).Yields (srvRules may) t Q :=
  .bind (.attempt (follows_execute fun s => ⟨_, ⟨rfl, (h s).1, rfl⟩, (h s).2 _⟩))

theorem yields_nowSecs {k : ℤ → Srv F ε β}
    (h : ∀ s : World F, (k s.nowSecs).Yields (srvRules may) ((.clock, s) :: t) Q) :
    (nowSecs >>= k).Yields (srvRules may) t Q :=
  .atomic fun s => ⟨rfl, trivial, h s⟩

theorem yields_nowMs {k : ℤ → Srv F ε β}
    (h : ∀ s : World F, (k s.clockMs).Yields (srvRules may) ((.clockMs, s) :: t) Q) :
    (nowMs >>= k).Yields (srvRules may) t Q :=
  .atomic fun s => ⟨rfl, trivial, h s⟩

theorem yields_random {rand : ℕ → String} {k : String → Srv F ε β}
    (h : ∀ s : World F, (k (rand s.drawn)).Yields (srvRules may) ((.draw, s) :: t) Q) :
    (random rand >>= k).Yields (srvRules may) t Q :=
  .atomic fun s => ⟨rfl, trivial, h s⟩

theorem yields_forward {method url : String} {body : Option String} {answer : Except ε α}
    (hused : JustUsed t method url)
    (h : ∀ (s : World F) (a : α), answer = .ok a → P ((.forward method url body, s) :: t) a) :
    (forward method url body answer).Yields (srvRules may) t P :=
  Prog.follows_step.2 fun s => ⟨_, ⟨rfl, hused, rfl⟩, Prog.follows_done.2 fun a ha => h s a ha⟩

theorem yields_judged {tenant agentId policyId : String} {allowed : Bool} {k : Unit → Srv F ε β}
    (h : ∀ s : World F, (k ()).Yields (srvRules may)
      ((.judged tenant agentId policyId allowed, s) :: t) Q) :
    (judged tenant agentId policyId allowed >>= k).Yields (srvRules may) t Q :=
  .atomic fun s => ⟨rfl, trivial, h s⟩

end Srv

end SauronID
