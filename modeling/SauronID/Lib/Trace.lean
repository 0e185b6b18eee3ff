import Mathlib.Data.List.Pairwise
import SauronID.Lib.Pool

/-!
# Protocols on a program's own history

A protocol whose ghost state is the list of the statements the program has executed
so far needs no ghost state of its own: in a pool, the history of a program is the
part of the log that it wrote. `Rules` says what each statement does to the shared
state and when a program may execute it, given its history. `Prog.Yields` is the
judgement about one program: it keeps to the rules, and if it succeeds, then with a
result and a history that meet the postcondition. A failure promises nothing more.

`TraceInvariant.run` is the run rule for pools of such programs. Its invariants are
about the shared state and the log.
-/

namespace SauronID.Conc

variable {ℓ σ ε ε' α β : Type}

/-- The statements a program has executed, newest first, each with the state it saw. -/
abbrev Trace (ℓ σ : Type) := List (ℓ × σ)

/-- The history of the `i`-th program. -/
def threadTrace (i : ℕ) (log : List (Entry ℓ σ)) : Trace ℓ σ :=
  (log.filter fun e => e.thread == i).map fun e => (e.label, e.before)

theorem threadTrace_cons_self (i : ℕ) (lbl : ℓ) (s : σ) (log : List (Entry ℓ σ)) :
    threadTrace i (⟨i, lbl, s⟩ :: log) = (lbl, s) :: threadTrace i log := by
  simp [threadTrace]

variable {i : ℕ}

theorem threadTrace_cons_of_ne {j : ℕ} (h : j ≠ i) (lbl : ℓ) (s : σ)
    (log : List (Entry ℓ σ)) : threadTrace i (⟨j, lbl, s⟩ :: log) = threadTrace i log := by
  simp [threadTrace, h]

variable {lbl : ℓ} {s : σ} {log : List (Entry ℓ σ)}

theorem mem_threadTrace : (lbl, s) ∈ threadTrace i log ↔ ⟨i, lbl, s⟩ ∈ log := by
  simp only [threadTrace, List.mem_map, List.mem_filter, beq_iff_eq, Prod.mk.injEq]
  constructor
  · rintro ⟨e, ⟨he, rfl⟩, rfl, rfl⟩
    exact he
  · intro he
    exact ⟨_, ⟨he, rfl⟩, rfl, rfl⟩

variable {t : Trace ℓ σ}

/-- A statement of a history is an entry of the log, on top of what went before it. -/
theorem exists_suffix_of_threadTrace (h : (lbl, s) :: t <:+ threadTrace i log) :
    ∃ older, ⟨i, lbl, s⟩ :: older <:+ log ∧ threadTrace i older = t := by
  induction log with
  | nil => cases List.suffix_nil.1 h
  | cons e log ih =>
    have hlater : (lbl, s) :: t <:+ threadTrace i log →
        ∃ older, ⟨i, lbl, s⟩ :: older <:+ e :: log ∧ threadTrace i older = t := by
      intro h
      obtain ⟨older, hsuffix, ht⟩ := ih h
      exact ⟨older, hsuffix.trans (List.suffix_cons _ _), ht⟩
    by_cases hi : e.thread = i
    · subst hi
      rw [threadTrace_cons_self] at h
      rcases List.suffix_cons_iff.1 h with heq | h
      · cases heq
        exact ⟨log, List.suffix_refl _, rfl⟩
      · exact hlater h
    · rw [threadTrace_cons_of_ne hi] at h
      exact hlater h

variable {older : List (Entry ℓ σ)}

theorem threadTrace_suffix (h : older <:+ log) (i : ℕ) :
    threadTrace i older <:+ threadTrace i log := by
  obtain ⟨newer, rfl⟩ := h
  simp [threadTrace]

/-- What holds between each entry of a log and those before it holds between any two. -/
theorem pairwise_of_suffix {R : Entry ℓ σ → Entry ℓ σ → Prop}
    (h : ∀ e older, e :: older <:+ log → ∀ e' ∈ older, R e e') : log.Pairwise R := by
  induction log with
  | nil => exact .nil
  | cons e log ih =>
    refine List.pairwise_cons.2 ⟨h e log (List.suffix_refl _), ih fun e' older hsuffix => ?_⟩
    exact h e' older (hsuffix.trans (List.suffix_cons _ _))

/-- A statement that is not among the last ones of a history comes before them. -/
theorem suffix_of_append {x : ℓ × σ} {l last : Trace ℓ σ} (h : x :: l <:+ last ++ t)
    (hx : x ∉ last) : x :: l <:+ t := by
  induction last with
  | nil => exact h
  | cons a last ih =>
    rcases List.suffix_cons_iff.1 h with heq | h
    · exact absurd (List.cons.inj heq).1 (List.ne_of_not_mem_cons hx)
    · exact ih h (List.not_mem_of_not_mem_cons hx)

variable {e : Entry ℓ σ}

/-- What holds between any two entries of the log holds between a statement `m` near the end
of a history and a statement `m'` before an entry that is older than `m`. -/
theorem pairwise_ahead {R : Entry ℓ σ → Entry ℓ σ → Prop} [hsymm : Std.Symm R] (hR : log.Pairwise R)
    (last : Trace ℓ σ) (m m' : ℓ × σ) (ht : threadTrace i log = last ++ m :: t)
    (he : e :: older <:+ log) (hm' : m' ∈ threadTrace e.thread older)
    (hlast : (e.label, e.before) ∉ last ++ [m]) : R ⟨i, m.1, m.2⟩ ⟨e.thread, m'.1, m'.2⟩ := by
  have hm : m ∈ threadTrace i log := by simp [ht]
  by_cases hi : e.thread = i
  · -- in one history, `m'` lies before the entry and the entry before `m`
    subst hi
    have htrace : (threadTrace e.thread log).Pairwise fun a b =>
        R ⟨e.thread, a.1, a.2⟩ ⟨e.thread, b.1, b.2⟩ := by
      rw [threadTrace, List.pairwise_map]
      refine (hR.filter _).imp_of_mem fun {a b} ha hb hab => ?_
      have ha' : a.thread = e.thread := by simpa using (List.mem_filter.1 ha).2
      have hb' : b.thread = e.thread := by simpa using (List.mem_filter.1 hb).2
      cases a
      cases b
      cases ha'
      cases hb'
      exact hab
    have hbefore := threadTrace_suffix he e.thread
    rw [threadTrace_cons_self, ht, List.append_cons] at hbefore
    have hmem : m' ∈ t := (suffix_of_append hbefore hlast).subset (.tail _ hm')
    rw [ht] at htrace
    exact (List.pairwise_cons.1 (List.pairwise_append.1 htrace).2.1).1 m' hmem
  · refine hR.forall (mem_threadTrace.1 hm) ?_ fun hent => hi (congrArg Entry.thread hent).symm
    exact he.subset (.tail _ (mem_threadTrace.1 hm'))

/-- What a statement does, and when a program may execute it. -/
structure Rules (ℓ σ : Type) where
  effect : ℓ → σ → σ → Prop
  may : Trace ℓ σ → ℓ → σ → Prop

/-- The rules as a protocol whose ghost state is the history. -/
def Rules.Step (R : Rules ℓ σ) (t : Trace ℓ σ) (lbl : ℓ) (s s' : σ) (t' : Trace ℓ σ) : Prop :=
  R.effect lbl s s' ∧ R.may t lbl s ∧ t' = (lbl, s) :: t

namespace Prog

/-- A program only adds to its history. -/
theorem Follows.suffix {R : Rules ℓ σ} {p : Prog ℓ σ ε α} {t : Trace ℓ σ}
    {Q : Trace ℓ σ → Except ε α → Prop} (h : p.Follows R.Step t Q) :
    p.Follows R.Step t fun t' r => t <:+ t' ∧ Q t' r := by
  induction p generalizing t with
  | done r => exact follows_done.2 ⟨List.suffix_refl t, follows_done.1 h⟩
  | step lbl upd next ih =>
    refine follows_step.2 fun s => ?_
    obtain ⟨t', ⟨heff, hmay, rfl⟩, hnext⟩ := follows_step.1 h s
    refine ⟨_, ⟨heff, hmay, rfl⟩, (ih s hnext).mono fun t' r hr => ?_⟩
    exact ⟨(List.suffix_cons (lbl, s) t).trans hr.1, hr.2⟩

/-- After the history `t` the program keeps to the rules, and a success meets `P`. -/
def Yields (R : Rules ℓ σ) (p : Prog ℓ σ ε α) (t : Trace ℓ σ) (P : Trace ℓ σ → α → Prop) : Prop :=
  p.Follows R.Step t fun t' r => ∀ a, r = .ok a → P t' a

section Rules

variable {R : Rules ℓ σ} {t : Trace ℓ σ} {P : Trace ℓ σ → α → Prop} {Q : Trace ℓ σ → β → Prop}

theorem yields_pure {a : α} (h : P t a) : (pure a : Prog ℓ σ ε α).Yields R t P :=
  follows_pure.2 fun _ hr => by cases hr; exact h

variable {e : ε}

theorem yields_fail : (fail e : Prog ℓ σ ε α).Yields R t P :=
  follows_fail.2 nofun

variable {p : Prog ℓ σ ε α}

theorem Yields.mono {P' : Trace ℓ σ → α → Prop} (h : p.Yields R t P)
    (hP : ∀ t a, P t a → P' t a) : p.Yields R t P' :=
  Follows.mono h fun _ _ hr a ha => hP _ _ (hr a ha)

variable {f : α → Prog ℓ σ ε β}

theorem Yields.bind (h : p.Yields R t fun t' a => (f a).Yields R t' Q) :
    (p >>= f).Yields R t Q := by
  refine Follows.bind (Follows.mono h fun t' r hr => ?_)
  cases r with
  | ok a => exact hr a rfl
  | error e => exact nofun

/-- Sequencing after a part whose specification is known. -/
theorem Yields.andThen (h : p.Yields R t P)
    (hf : ∀ t' a, t <:+ t' → P t' a → (f a).Yields R t' Q) : (p >>= f).Yields R t Q := by
  refine .bind (Follows.mono (Follows.suffix h) fun t' r hr a ha => ?_)
  exact hf t' a hr.1 (hr.2 a ha)

theorem Yields.mapErr {g : ε → ε'} (h : p.Yields R t P) : (p.mapErr g).Yields R t P := by
  refine Follows.mapErr (Follows.mono h fun t' r hr => ?_)
  cases r with
  | ok a => exact fun b hb => hr b (by cases hb; rfl)
  | error e => exact nofun

theorem Yields.attempt {Q : Trace ℓ σ → Except ε α → Prop}
    (h : p.Follows R.Step t Q) : (p.attempt : Prog ℓ σ ε' _).Yields R t Q :=
  Follows.attempt (Follows.mono h fun _ _ hr _ ha => by cases ha; exact hr)

theorem Yields.rejectIf {p : Prop} [Decidable p] {f : Unit → Prog ℓ σ ε β}
    (h : ¬p → (f ()).Yields R t Q) : (Prog.rejectIf p e >>= f).Yields R t Q :=
  Follows.rejectIf (fun _ => nofun) h

/-- A check at the end of a program. -/
theorem yields_rejectIf {p : Prop} [Decidable p] {P : Trace ℓ σ → Unit → Prop}
    (h : ¬p → P t ()) : (Prog.rejectIf p e : Prog ℓ σ ε Unit).Yields R t P := by
  unfold Prog.rejectIf
  split
  · exact yields_fail
  · exact yields_pure (h (by assumption))

theorem Yields.okOr {o : Option α}
    (h : ∀ a, o = some a → (f a).Yields R t Q) : (Prog.okOr e o >>= f).Yields R t Q :=
  Follows.okOr (fun _ => nofun) h

theorem Yields.ofExcept {r : Except ε α}
    (h : ∀ a, r = .ok a → (f a).Yields R t Q) : (Prog.ofExcept r >>= f).Yields R t Q :=
  Follows.ofExcept (fun _ _ => nofun) h

/-- One statement at the head of a program. -/
theorem Yields.atomic {lbl : ℓ} {upd : σ → σ} {out : σ → α}
    (h : ∀ s, R.effect lbl s (upd s) ∧ R.may t lbl s ∧ (f (out s)).Yields R ((lbl, s) :: t) Q) :
    (Prog.atomic lbl upd out >>= f).Yields R t Q :=
  Follows.atomic fun s => ⟨_, ⟨(h s).1, (h s).2.1, rfl⟩, (h s).2.2⟩

end Rules

end Prog

/-! ## Runs -/

/-- An invariant of the shared state and the log that is kept by ticks and by the
statements the rules allow. -/
structure TraceInvariant [Clocked σ] (R : ℕ → Rules ℓ σ)
    (C : Entry ℓ σ → List (Entry ℓ σ) → Prop) (I : σ → List (Entry ℓ σ) → Prop) : Prop where
  tick : ∀ {s log} (d : ℕ), I s log → I (Clocked.advance d s) log
  step : ∀ {s log i lbl s'}, I s log → C ⟨i, lbl, s⟩ log → (R i).effect lbl s s' →
    (R i).may (threadTrace i log) lbl s → I s' (⟨i, lbl, s⟩ :: log)

variable [Clocked σ] {R : ℕ → Rules ℓ σ} {C : Entry ℓ σ → List (Entry ℓ σ) → Prop}
  {I : σ → List (Entry ℓ σ) → Prop}

/-- The ghost state of a program is its part of the log. -/
theorem TraceInvariant.runInvariant (hI : TraceInvariant R C I) :
    RunInvariant (fun i => (R i).Step) C fun s g log => I s log ∧ ∀ i, g i = threadTrace i log where
  tick d h := ⟨hI.tick d h.1, h.2⟩
  step := by
    rintro s g log i lbl s' t' ⟨hinv, hg⟩ hC ⟨heff, hmay, rfl⟩
    rw [hg i] at hmay
    refine ⟨hI.step hinv hC heff hmay, fun j => ?_⟩
    by_cases hj : j = i
    · subst hj
      rw [Function.update_self, threadTrace_cons_self, hg j]
    · rw [Function.update_of_ne hj, threadTrace_cons_of_ne (Ne.symm hj), hg j]

theorem TraceInvariant.and {I' : σ → List (Entry ℓ σ) → Prop} (hI : TraceInvariant R C I)
    (hI' : TraceInvariant R C I') : TraceInvariant R C fun s log => I s log ∧ I' s log where
  tick d h := ⟨hI.tick d h.1, hI'.tick d h.2⟩
  step h hC heff hmay := ⟨hI.step h.1 hC heff hmay, hI'.step h.2 hC heff hmay⟩

/-- Every entry of the log was allowed when it was made. -/
theorem TraceInvariant.allowed : TraceInvariant R C fun _ log => ∀ e older, e :: older <:+ log →
    (R e.thread).may (threadTrace e.thread older) e.label e.before where
  tick _ h := h
  step := by
    intro s log i lbl s' h _ _ hmay e older hsuffix
    rcases List.suffix_cons_iff.1 hsuffix with heq | hsuffix
    · cases heq
      exact hmay
    · exact h e older hsuffix

omit [Clocked σ] in
/-- An entry that was not in the log yet was made on top of it. -/
theorem suffix_of_notMem {mid : List (Entry ℓ σ)}
    (h : e :: older <:+ log) (hmid : mid <:+ log) (he : e ∉ mid) : mid <:+ older := by
  rcases List.suffix_or_suffix_of_suffix hmid h with hle | hle
  · rcases List.suffix_cons_iff.1 hle with rfl | hle
    · exact absurd List.mem_cons_self he
    · exact hle
  · exact absurd (hle.subset List.mem_cons_self) he

/-- An invariant held at each entry of the log when it was made. -/
theorem TraceInvariant.throughout (hI : TraceInvariant R C I) :
    TraceInvariant R C fun s log => I s log ∧
      ∀ e ∈ log, ∃ older, e :: older <:+ log ∧ I e.before older where
  tick d h := ⟨hI.tick d h.1, h.2⟩
  step := by
    rintro s log i lbl s' ⟨hinv, hpast⟩ hC heff hmay
    refine ⟨hI.step hinv hC heff hmay, fun e he => ?_⟩
    rcases List.mem_cons.1 he with rfl | he
    · exact ⟨log, List.suffix_refl _, hinv⟩
    · obtain ⟨older, hsuffix, hthen⟩ := hpast e he
      exact ⟨older, hsuffix.trans (List.suffix_cons _ _), hthen⟩

/-- **The run rule.** After every schedule whose log meets the side condition the
invariant holds, and a program that has succeeded meets its postcondition with the
history it has in the log. -/
theorem TraceInvariant.run (hI : TraceInvariant R C I) {P : ℕ → Trace ℓ σ → α → Prop}
    {pool : List (Prog ℓ σ ε α)}
    (hpool : ∀ (i : ℕ) (p : Prog ℓ σ ε α), pool[i]? = some p → p.Yields (R i) [] (P i))
    (hs : I s []) (sched : List Event) (hlog : LogOk C ((Config.init s pool).run sched).log) :
    I ((Config.init s pool).run sched).world ((Config.init s pool).run sched).log ∧
      ∀ i a, ((Config.init s pool).run sched).result i = some (.ok a) →
        P i (threadTrace i ((Config.init s pool).run sched).log) a := by
  obtain ⟨g, ⟨hinv, hg⟩, hfollows⟩ := hI.runInvariant.run (c := .init s pool) (g := fun _ => [])
    hpool ⟨hs, fun _ => rfl⟩ sched hlog
  refine ⟨hinv, fun i a hr => ?_⟩
  have := hfollows.result hr a rfl
  rwa [hg i] at this

variable {κ : Type} {P : κ → Trace ℓ σ → α → Prop} {calls : List κ} {prog : κ → Prog ℓ σ ε α}

omit [Clocked σ] in
/-- A pool of requests `calls`, each with its own specification. -/
theorem poolFollows_calls
    (hcalls : ∀ i call, calls[i]? = some call → (prog call).Yields (R i) [] (P call))
    (i : ℕ) (p : Prog ℓ σ ε α) (hp : (calls.map prog)[i]? = some p) :
    p.Yields (R i) [] fun t a => ∀ call, calls[i]? = some call → P call t a := by
  obtain ⟨call, hcall, rfl⟩ : ∃ call, calls[i]? = some call ∧ prog call = p := by
    simpa using hp
  refine (hcalls i call hcall).mono fun t a h call' hcall' => ?_
  cases hcall.symm.trans hcall'
  exact h

/-- The run rule for a pool of requests `calls`, each with its own specification. -/
theorem TraceInvariant.run_calls (hI : TraceInvariant R C I)
    (hcalls : ∀ i call, calls[i]? = some call → (prog call).Yields (R i) [] (P call)) (hs : I s [])
    (sched : List Event) (hlog : LogOk C ((Config.init s (calls.map prog)).run sched).log) :
    I ((Config.init s (calls.map prog)).run sched).world
        ((Config.init s (calls.map prog)).run sched).log ∧ ∀ i call a, calls[i]? = some call →
        ((Config.init s (calls.map prog)).run sched).result i = some (.ok a) →
        P call (threadTrace i ((Config.init s (calls.map prog)).run sched).log) a := by
  obtain ⟨hinv, hpost⟩ := hI.run (poolFollows_calls hcalls) hs sched hlog
  exact ⟨hinv, fun i call a hcall hr => hpost i a hr call hcall⟩

theorem traceInvariant_true : TraceInvariant R C fun _ _ => True :=
  ⟨fun _ _ => trivial, fun _ _ _ _ => trivial⟩

/-- What the requests of a pool that have succeeded have done. -/
theorem run_post (hcalls : ∀ i call, calls[i]? = some call → (prog call).Yields (R i) [] (P call))
    {sched : List Event} {call : κ} {a : α} (hcall : calls[i]? = some call)
    (hr : ((Config.init s (calls.map prog)).run sched).result i = some (.ok a)) :
    P call (threadTrace i ((Config.init s (calls.map prog)).run sched).log) a :=
  (traceInvariant_true.run_calls hcalls trivial sched (LogOk.of_true _)).2 i call a hcall hr

/-- The run rule in the middle of a run: an invariant that holds after `es`, of whatever
state and log that has led to, holds after every continuation. -/
theorem TraceInvariant.run_then (hI : TraceInvariant R C I)
    (hcalls : ∀ i call, calls[i]? = some call → (prog call).Yields (R i) [] (P call))
    {es fs : List Event} (hmid : I ((Config.init s (calls.map prog)).run es).world
      ((Config.init s (calls.map prog)).run es).log)
    (hlog : LogOk C ((Config.init s (calls.map prog)).run (es ++ fs)).log) :
    I ((Config.init s (calls.map prog)).run (es ++ fs)).world
      ((Config.init s (calls.map prog)).run (es ++ fs)).log := by
  obtain ⟨g, ⟨-, hg⟩, hfollows⟩ := traceInvariant_true.runInvariant.run
    (c := .init s (calls.map prog)) (g := fun _ => []) (poolFollows_calls hcalls)
    ⟨trivial, fun _ => rfl⟩ es hlog.of_run
  rw [Config.run_append] at hlog ⊢
  obtain ⟨-, ⟨hinv, -⟩, -⟩ := hI.runInvariant.run hfollows ⟨hmid, hg⟩ fs hlog
  exact hinv

end SauronID.Conc
