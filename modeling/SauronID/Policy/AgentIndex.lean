import SauronID.Policy.Store

/-!
# The agent index of the policy store

`get_by_agent_tenant` is meant to answer with the policy an agent got last, among those
that are still there. `agent_index_iff` says which deletions and which restarts break this:
the deletion of one of several policies of an agent, and a restart that reads the row of
the agent's newest policy before another of its rows, or does not find it.
-/

namespace SauronID.Dsl

open Recent

variable {F : Type} {engine : Engine F} {text : PolicyText F}

variable (engine text) in
/-- What happens to a store: a call, or a restart that reads the rows in some order. -/
inductive StoreEvent where
  | call (c : StoreCall engine text)
  | restart (order : RowOrder)

def StoreEvent.run : StoreEvent engine text → PolicyStore engine → PolicyStore engine
  | call c, st => c.run st
  | restart order, st => (Dsl.restart text order st).2

def StoreEvent.record : StoreEvent engine text → Book engine text → Book engine text
  | call c, book => book.record c
  | restart _, book => book

def runEvents (events : List (StoreEvent engine text)) : PolicyStore engine :=
  events.foldl (fun st e => e.run st) .empty

def eventBook (events : List (StoreEvent engine text)) : Book engine text :=
  events.foldl (fun book e => e.record book) .empty

/-- A policy of an agent. -/
def ofAgent (tenant agent : String) (e : String × Upload engine text) : Bool :=
  e.1 == tenant && e.2.compiled.agent == agent

theorem ofAgent_iff {tenant agent : String} {e : String × Upload engine text} :
    ofAgent tenant agent e = true ↔ e.1 = tenant ∧ e.2.compiled.agent = agent := by
  simp [ofAgent]

/-- The row of a policy of an agent. -/
def rowOfAgent (tenant agent : String) (r : PolicyRow) : Bool :=
  r.tenantId == tenant && r.agent == agent

/-- Lookups by agent find the newest policy that is there, or nothing if there is none. -/
def AnswersByAgent (st : PolicyStore engine) (book : Book engine text) : Prop :=
  ∀ tenant agent, st.index.getByAgentTenant tenant agent =
    (newest (ofAgent tenant agent) book.live).map (·.2.compiled)

/-- The deletions and restarts after which the lookups still find the newest policies.
A deleted policy is the only one of its agent, and a restart reads the row of the newest
policy of each agent last of the agent's rows. -/
def StoreEvent.Harmless (st : PolicyStore engine) (book : Book engine text) :
    StoreEvent engine text → Prop
  | call (.upsert ..) => True
  | call (.delete tenant id fault) => fault = none → ∀ cp, st.index.byId (tenant, id) = some cp →
      ∀ e ∈ book.live, ofAgent tenant cp.agent e = true → e.2.compiled.policyId = id
  | restart order => ∀ tenant agent,
      (newest (rowOfAgent tenant agent) (order.1 st.table)).map (·.policyId) =
        (newest (ofAgent tenant agent) book.live).map (·.2.compiled.policyId)

def StoreEvent.upload : StoreEvent engine text → Option (Upload engine text)
  | call (.upsert _ upload _ _) => some upload
  | _ => none

/-- Different documents have different ids. -/
def DistinctIds (events : List (StoreEvent engine text)) : Prop :=
  ∀ u ∈ events.filterMap StoreEvent.upload, ∀ v ∈ events.filterMap StoreEvent.upload,
    u.compiled.policyId = v.compiled.policyId → u.compiled.raw = v.compiled.raw

theorem Upload.agent_eq (u : Upload engine text) : u.compiled.agent = u.compiled.raw.agent := by
  have h := u.made
  unfold compile at h
  split at h
  · cases h
  · rw [Except.ok.injEq] at h
    rw [← h]

/-! ## What every step keeps -/

section
variable {idx : StoreIndex engine} {tenant id : String}

theorem StoreIndex.remove_byAgent_of_none (h : idx.byId (tenant, id) = none) :
    (idx.remove tenant id).byAgent = idx.byAgent := by
  simp [remove, h]

theorem StoreIndex.remove_byAgent_of_some {old : CompiledPolicy engine}
    (h : idx.byId (tenant, id) = some old) :
    (idx.remove tenant id).byAgent = Function.update idx.byAgent (tenant, old.agent) none := by
  simp [remove, h]

/-- The index keeps the name of an agent's policy if no policy of the agent is deleted. -/
theorem StoreIndex.remove_byAgent_of_ne {t agent : String}
    (h : ∀ old, idx.byId (tenant, id) = some old → (t, agent) ≠ (tenant, old.agent)) :
    (idx.remove tenant id).byAgent (t, agent) = idx.byAgent (t, agent) := by
  cases hold : idx.byId (tenant, id) with
  | none => rw [remove_byAgent_of_none hold]
  | some old => rw [remove_byAgent_of_some hold, Function.update_of_ne (h old hold)]

end

/-- The table and the index hold nothing but uploaded policies that are still there, and
the index names for an agent a policy of this agent. -/
structure Indexed (uploads : List (Upload engine text)) (st : PolicyStore engine)
    (book : Book engine text) : Prop where
  uploaded : ∀ e ∈ book.live, e.2 ∈ uploads
  stored : Stored st.table book.live
  byId : ∀ tenant id cp, st.index.byId (tenant, id) = some cp →
    ∃ u, (tenant, u) ∈ book.live ∧ u.compiled = cp ∧ cp.policyId = id
  byAgent : ∀ tenant agent id, st.index.byAgent (tenant, agent) = some id →
    ∃ cp, st.index.byId (tenant, id) = some cp ∧ cp.agent = agent

section
variable {uploads : List (Upload engine text)} {st : PolicyStore engine}
  {book : Book engine text} {tenant id yaml : String} {upload : Upload engine text} {now : ℤ}
  (hids : ∀ u ∈ uploads, ∀ v ∈ uploads,
    u.compiled.policyId = v.compiled.policyId → u.compiled.raw = v.compiled.raw)

namespace Indexed

include hids in
/-- The policy an upload replaces belongs to the same agent. -/
theorem agent_eq (h : Indexed uploads st book) (hup : upload ∈ uploads) {cp : CompiledPolicy engine}
    (hcp : st.index.byId (tenant, upload.compiled.policyId) = some cp) :
    cp.agent = upload.compiled.agent := by
  obtain ⟨u, hu, rfl, hid⟩ := h.byId _ _ _ hcp
  rw [u.agent_eq, upload.agent_eq, hids u (h.uploaded _ hu) upload hup hid]

include hids in
theorem upsert (h : Indexed uploads st book) (hup : upload ∈ uploads)
    (hyaml : text.toYaml upload.compiled.raw = .ok yaml) : Indexed uploads
      ⟨upsertRow (policyRow tenant upload.compiled yaml now) st.table,
        st.index.insert tenant upload.compiled.policyId upload.compiled now⟩
      (book.upsert tenant upload) where
  uploaded := by
    intro e he
    obtain ⟨he, -⟩ | rfl := mem_put.1 he
    · exact h.uploaded e he
    · exact hup
  stored := h.stored.upsert hyaml
  byId := by
    intro t id cp hcp
    simp only [StoreIndex.insert] at hcp
    by_cases hkey : (t, id) = (tenant, upload.compiled.policyId)
    · obtain ⟨rfl, rfl⟩ := Prod.mk.inj hkey
      rw [Function.update_self] at hcp
      cases hcp
      exact ⟨upload, mem_put.2 (.inr rfl), rfl, rfl⟩
    · rw [Function.update_of_ne hkey] at hcp
      obtain ⟨u, hu, rfl, rfl⟩ := h.byId _ _ _ hcp
      exact ⟨u, mem_put.2 (.inl ⟨hu, hkey⟩), rfl, rfl⟩
  byAgent := by
    intro t agent id hid
    simp only [StoreIndex.insert] at hid ⊢
    by_cases hagent : (t, agent) = (tenant, upload.compiled.agent)
    · obtain ⟨rfl, rfl⟩ := Prod.mk.inj hagent
      rw [Function.update_self] at hid
      cases hid
      exact ⟨upload.compiled, Function.update_self .., rfl⟩
    · rw [Function.update_of_ne hagent] at hid
      obtain ⟨cp, hcp, rfl⟩ := h.byAgent _ _ _ hid
      refine ⟨cp, ?_, rfl⟩
      rw [Function.update_of_ne, hcp]
      intro hkey
      obtain ⟨rfl, rfl⟩ := Prod.mk.inj hkey
      rw [h.agent_eq hids hup hcp] at hagent
      exact hagent rfl

section

variable (h : Indexed uploads st book)

include h

theorem delete (tenant id : String) : Indexed uploads
      ⟨st.table.filter fun r => !(r.policyId == id && r.tenantId == tenant),
        st.index.remove tenant id⟩ (book.delete tenant id) where
  uploaded e he := h.uploaded e (mem_erase.1 he).1
  stored := h.stored.delete tenant id
  byId := by
    intro t i cp hcp
    simp only [StoreIndex.remove] at hcp
    by_cases hkey : (t, i) = (tenant, id)
    · rw [hkey, Function.update_self] at hcp
      cases hcp
    · rw [Function.update_of_ne hkey] at hcp
      obtain ⟨u, hu, rfl, rfl⟩ := h.byId _ _ _ hcp
      exact ⟨u, mem_erase.2 ⟨hu, hkey⟩, rfl, rfl⟩
  byAgent := by
    intro t agent i hi
    have hagent : ∀ old, st.index.byId (tenant, id) = some old →
        (t, agent) ≠ (tenant, old.agent) := by
      intro old hold hagent
      change (st.index.remove tenant id).byAgent (t, agent) = some i at hi
      rw [StoreIndex.remove_byAgent_of_some hold, hagent, Function.update_self] at hi
      cases hi
    rw [StoreIndex.remove_byAgent_of_ne hagent] at hi
    obtain ⟨cp, hcp, rfl⟩ := h.byAgent _ _ _ hi
    refine ⟨cp, (Function.update_of_ne (fun hkey => ?_) ..).trans hcp, rfl⟩
    obtain ⟨rfl, rfl⟩ := Prod.mk.inj hkey
    exact hagent cp hcp rfl

/-- Neither do lookups by agent notice the deletion of a policy of another one. -/
theorem remove_getByAgent_of_ne {t agent : String}
    (hagent : ∀ old, st.index.byId (tenant, id) = some old → (t, agent) ≠ (tenant, old.agent)) :
    (st.index.remove tenant id).getByAgentTenant t agent = st.index.getByAgentTenant t agent := by
  simp only [StoreIndex.getByAgentTenant, StoreIndex.remove_byAgent_of_ne hagent]
  cases hi : st.index.byAgent (t, agent) with
  | none => rfl
  | some i =>
    obtain ⟨cp, hcp, rfl⟩ := h.byAgent _ _ _ hi
    refine Function.update_of_ne (fun hkey => ?_) ..
    obtain ⟨rfl, rfl⟩ := Prod.mk.inj hkey
    exact hagent cp hcp rfl

/-- The row of an agent that is read last is the one the index names after a restart. -/
theorem restarted_byAgent (order : RowOrder) (tenant agent : String) :
    (restart text order st).2.index.byAgent (tenant, agent) =
      (newest (rowOfAgent tenant agent) (order.1 st.table)).map (·.policyId) := by
  simp only [restart, hydrate]
  rw [hydrateRows_byAgent (h.stored.holds_of_perm (order.2 _))]
  unfold rowOfAgent
  cases newest (fun r => r.tenantId == tenant && r.agent == agent) (order.1 st.table) <;> rfl

/-- The policy of a row is found by its id after a restart. -/
theorem restarted_byId (order : RowOrder) {r : PolicyRow}
    (hr : r ∈ st.table) : ∃ u, (r.tenantId, u) ∈ book.live ∧ r.Holds u ∧
      (restart text order st).2.index.byId (r.tenantId, r.policyId) = some u.compiled := by
  obtain ⟨u, hu, hold⟩ := h.stored.row r hr
  exact ⟨u, hu, hold, (h.stored.hydrated_byId order).2 ⟨r, hr, u, hu, rfl, rfl, hold, rfl⟩⟩

theorem restarted (order : RowOrder) : Indexed uploads (restart text order st).2 book where
  uploaded := h.uploaded
  stored := h.stored
  byId := by
    intro t id cp hcp
    obtain ⟨r, -, u, hu, -, rfl, hold, rfl⟩ := (h.stored.hydrated_byId order).1 hcp
    exact ⟨u, hu, rfl, hold.policyId.symm⟩
  byAgent := by
    intro t agent id hid
    rw [h.restarted_byAgent] at hid
    obtain ⟨r, hnew, rfl⟩ := Option.map_eq_some_iff.1 hid
    obtain ⟨hr, hagent⟩ := of_newest hnew
    rw [rowOfAgent, Bool.and_eq_true, beq_iff_eq, beq_iff_eq] at hagent
    obtain ⟨rfl, rfl⟩ := hagent
    obtain ⟨u, -, hold, hu⟩ := h.restarted_byId order ((order.2 _).mem_iff.1 hr)
    exact ⟨u.compiled, hu, hold.agent.symm⟩

end

include hids in
theorem run (h : Indexed uploads st book) (e : StoreEvent engine text)
    (hup : ∀ u, e.upload = some u → u ∈ uploads) : Indexed uploads (e.run st) (e.record book) := by
  cases e with
  | restart order => exact h.restarted order
  | call c =>
    simp only [StoreEvent.run, StoreEvent.record, Book.record]
    cases hacc : c.accepted with
    | false =>
      rw [StoreCall.run_of_refused hacc]
      exact h
    | true =>
      cases c with
      | upsert tenant upload now fault =>
        obtain ⟨yaml, hyaml, hrun⟩ := StoreCall.run_upsert hacc st
        rw [hrun]
        exact h.upsert hids (hup upload rfl) hyaml
      | delete tenant id fault =>
        rw [StoreCall.run_delete hacc]
        exact h.delete tenant id

end Indexed

/-! ## What one step does to the lookups -/

include hids in
theorem answers_upsert (h : Indexed uploads st book) (hup : upload ∈ uploads)
    (hans : AnswersByAgent st book) (table : List PolicyRow) : AnswersByAgent
      ⟨table, st.index.insert tenant upload.compiled.policyId upload.compiled now⟩
      (book.upsert tenant upload) := by
  intro t agent
  simp only [Book.upsert, StoreIndex.getByAgentTenant, StoreIndex.insert]
  by_cases hagent : (t, agent) = (tenant, upload.compiled.agent)
  · obtain ⟨rfl, rfl⟩ := Prod.mk.inj hagent
    rw [newest_put (by simp [ofAgent])]
    simp
  · have hnot : ofAgent t agent (tenant, upload) = false := by
      rw [← Bool.not_eq_true, ofAgent_iff]
      rintro ⟨rfl, rfl⟩
      exact hagent rfl
    rw [newest_put_of_not hnot, ← hans t agent, Function.update_of_ne hagent]
    · -- the index names a policy of another agent, which the upload has not replaced
      cases hid : st.index.byAgent (t, agent) with
      | none => simp [StoreIndex.getByAgentTenant, hid]
      | some id =>
        obtain ⟨cp, hcp, rfl⟩ := h.byAgent _ _ _ hid
        simp only [StoreIndex.getByAgentTenant, hid, Option.bind_eq_bind, Option.bind_some]
        refine Function.update_of_ne (fun hkey => hagent ?_) ..
        obtain ⟨rfl, rfl⟩ := Prod.mk.inj hkey
        rw [h.agent_eq hids hup hcp]
    · intro x hx hkey
      obtain ⟨t', u⟩ := x
      obtain ⟨rfl, hid⟩ := Prod.mk.inj hkey
      have hsame : u.compiled.agent = upload.compiled.agent := by
        rw [u.agent_eq, upload.agent_eq, hids u (h.uploaded _ hx) upload hup hid]
      rw [← hnot, ofAgent, ofAgent, hsame]

/-- The policy a lookup by agent finds is still the newest if no policy of the agent is
deleted from the index. -/
theorem newest_erase_of_found (h : Indexed uploads st book) (hans : AnswersByAgent st book)
    {t agent : String}
    (hne : ∀ old, st.index.byId (tenant, id) = some old → (t, agent) ≠ (tenant, old.agent)) :
    newest (ofAgent t agent) (erase policyKey (tenant, id) book.live) =
      newest (ofAgent t agent) book.live := by
  cases hnew : newest (ofAgent t agent) book.live with
  | none =>
    rw [newest_eq_none] at hnew ⊢
    exact fun e he => hnew e (mem_erase.1 he).1
  | some e =>
    have hfound := hans t agent
    rw [hnew] at hfound
    obtain ⟨i, -, hi⟩ := Option.bind_eq_some_iff.1 hfound
    obtain ⟨-, -, -, hid⟩ := h.byId _ _ _ hi
    obtain ⟨ht, hagent⟩ := ofAgent_iff.1 (of_newest hnew).2
    refine newest_erase hnew fun hkey => ?_
    obtain ⟨rfl, rfl⟩ := Prod.mk.inj hkey
    rw [← ht, ← hid] at hi
    exact hne _ hi (by rw [ht, hagent])

theorem answers_delete_iff (h : Indexed uploads st book) (hans : AnswersByAgent st book)
    (table : List PolicyRow) :
    AnswersByAgent ⟨table, st.index.remove tenant id⟩ (book.delete tenant id) ↔
      ∀ cp, st.index.byId (tenant, id) = some cp →
        ∀ e ∈ book.live, ofAgent tenant cp.agent e = true → e.2.compiled.policyId = id := by
  constructor
  · intro hafter old hold e he hagent
    by_contra hid
    have hnone := hafter tenant old.agent
    rw [StoreIndex.getByAgentTenant, StoreIndex.remove_byAgent_of_some hold,
      Function.update_self] at hnone
    have hnew : newest (ofAgent tenant old.agent) (book.delete tenant id).live = none :=
      Option.map_eq_none_iff.1 hnone.symm
    have hmem : e ∈ (book.delete tenant id).live :=
      mem_erase.2 ⟨he, fun hkey => hid (congrArg Prod.snd hkey)⟩
    rw [newest_eq_none.1 hnew e hmem] at hagent
    cases hagent
  · intro honly t agent
    by_cases hdel : ∃ old, st.index.byId (tenant, id) = some old ∧ (t, agent) = (tenant, old.agent)
    · obtain ⟨old, hold, hagent⟩ := hdel
      obtain ⟨rfl, rfl⟩ := Prod.mk.inj hagent
      have hnew : newest (ofAgent t old.agent) (book.delete t id).live = none := by
        refine newest_eq_none.2 fun e he => Bool.eq_false_iff.2 fun hof => ?_
        obtain ⟨he, hkey⟩ := mem_erase.1 he
        exact hkey (Prod.ext (ofAgent_iff.1 hof).1 (honly old hold e he hof))
      rw [hnew, StoreIndex.getByAgentTenant, StoreIndex.remove_byAgent_of_some hold,
        Function.update_self]
      rfl
    · have hne : ∀ old, st.index.byId (tenant, id) = some old →
          (t, agent) ≠ (tenant, old.agent) := fun old hold hagent => hdel ⟨old, hold, hagent⟩
      rw [h.remove_getByAgent_of_ne hne, hans t agent, Book.delete,
        newest_erase_of_found h hans hne]

theorem answers_restart_iff (h : Indexed uploads st book) (order : RowOrder) :
    AnswersByAgent (restart text order st).2 book ↔ ∀ tenant agent,
      (newest (rowOfAgent tenant agent) (order.1 st.table)).map (·.policyId) =
        (newest (ofAgent tenant agent) book.live).map (·.2.compiled.policyId) := by
  refine forall₂_congr fun tenant agent => ?_
  rw [StoreIndex.getByAgentTenant, h.restarted_byAgent]
  cases hrow : newest (rowOfAgent tenant agent) (order.1 st.table) with
  | none => cases newest (ofAgent tenant agent) book.live <;> simp
  | some r =>
    obtain ⟨hr, hagent⟩ := of_newest hrow
    rw [rowOfAgent, Bool.and_eq_true, beq_iff_eq, beq_iff_eq] at hagent
    obtain ⟨u, hu, hold, hfound⟩ := h.restarted_byId order ((order.2 _).mem_iff.1 hr)
    rw [hagent.1] at hu hfound
    simp only [Option.map_some, Option.bind_eq_bind, Option.bind_some, hfound]
    cases hnew : newest (ofAgent tenant agent) book.live with
    | none => simp
    | some e =>
      obtain ⟨he, hof⟩ := of_newest hnew
      simp only [Option.map_some, Option.some.injEq, hold.policyId]
      constructor
      · exact fun hsame => congrArg _ hsame
      · intro hid
        have he' : (tenant, e.2) ∈ book.live := (ofAgent_iff.1 hof).1 ▸ he
        exact congrArg _ (h.stored.eq_of_key hu he' hid)

include hids in
/-- One event keeps the lookups right if and only if it is harmless. -/
theorem answers_run_iff (h : Indexed uploads st book) (hans : AnswersByAgent st book)
    (e : StoreEvent engine text) (hup : ∀ u, e.upload = some u → u ∈ uploads) :
    AnswersByAgent (e.run st) (e.record book) ↔ e.Harmless st book := by
  cases e with
  | restart order => exact answers_restart_iff h order
  | call c =>
    simp only [StoreEvent.run, StoreEvent.record, Book.record]
    cases c with
    | upsert tenant upload now fault =>
      refine iff_of_true ?_ trivial
      cases hacc : (StoreCall.upsert tenant upload now fault).accepted with
      | false =>
        rw [StoreCall.run_of_refused hacc]
        exact hans
      | true =>
        obtain ⟨yaml, -, hrun⟩ := StoreCall.run_upsert hacc st
        rw [hrun]
        exact answers_upsert hids h (hup upload rfl) hans _
    | delete tenant id fault =>
      cases fault with
      | some error => exact iff_of_true hans fun hnone => by cases hnone
      | none =>
        exact (answers_delete_iff h hans _).trans ⟨fun hdel _ => hdel, fun hdel => hdel rfl⟩

end

/-! ## Runs -/

theorem indexed_runEvents {events pre : List (StoreEvent engine text)} (hids : DistinctIds events)
    (hpre : pre <+: events) :
    Indexed (events.filterMap StoreEvent.upload) (runEvents pre) (eventBook pre) := by
  unfold runEvents eventBook
  induction pre using List.reverseRecOn with
  | nil =>
    refine ⟨by simp [Book.empty], mirrors_empty.stored, ?_, ?_⟩ <;>
      simp [PolicyStore.empty, StoreIndex.empty]
  | append_singleton pre e ih =>
    rw [List.foldl_append, List.foldl_append]
    refine (ih ((List.prefix_append pre [e]).trans hpre)).run hids e fun u hu => ?_
    exact List.mem_filterMap.2 ⟨e, hpre.subset (by simp), hu⟩

theorem answers_empty :
    AnswersByAgent (.empty : PolicyStore engine) (.empty : Book engine text) := by
  intro tenant agent
  rfl

/-- **The newest policy of an agent.** At every point of a history of uploads, deletions
and restarts a lookup by agent finds the policy that was uploaded last among those that
are there, if and only if every deletion takes the only policy of its agent and every
restart reads the row of the newest policy of each agent last of the agent's rows. -/
theorem agent_index_iff (events : List (StoreEvent engine text)) (hids : DistinctIds events) :
    (∀ pre, pre <+: events → AnswersByAgent (runEvents pre) (eventBook pre)) ↔
      ∀ pre e, pre ++ [e] <+: events → e.Harmless (runEvents pre) (eventBook pre) := by
  have hstep : ∀ pre e, pre ++ [e] <+: events →
      AnswersByAgent (runEvents pre) (eventBook pre) →
      (AnswersByAgent (runEvents (pre ++ [e])) (eventBook (pre ++ [e])) ↔
        e.Harmless (runEvents pre) (eventBook pre)) := by
    intro pre e hpre hans
    have hidx := indexed_runEvents hids ((List.prefix_append pre [e]).trans hpre)
    have hup : ∀ u, e.upload = some u → u ∈ events.filterMap StoreEvent.upload :=
      fun u hu => List.mem_filterMap.2 ⟨e, hpre.subset (by simp), hu⟩
    rw [← answers_run_iff hids hidx hans e hup]
    simp only [runEvents, eventBook, List.foldl_append, List.foldl_cons, List.foldl_nil]
  constructor
  · intro hall pre e hpre
    exact (hstep pre e hpre (hall pre ((List.prefix_append pre [e]).trans hpre))).1 (hall _ hpre)
  · intro hharm pre
    induction pre using List.reverseRecOn with
    | nil => exact fun _ => answers_empty
    | append_singleton pre e ih =>
      intro hpre
      exact (hstep pre e hpre (ih ((List.prefix_append pre [e]).trans hpre))).2 (hharm pre e hpre)

theorem looksJson_one : looksJson "1" = false := rfl

/-- A second version is uploaded and the first one deleted. -/
def firstDeleted : List (StoreEvent storeEngine storeText) :=
  [.call (.upsert "acme" (pinnedUpload "1" looksJson_one) 1 none),
    .call (.upsert "acme" (pinnedUpload "2" rfl) 2 none), .call (.delete "acme" "pol_1" none)]

/-- The first version is uploaded again after the second, and the server restarts. -/
def firstAgain : List (StoreEvent storeEngine storeText) :=
  [.call (.upsert "acme" (pinnedUpload "1" looksJson_one) 1 none),
    .call (.upsert "acme" (pinnedUpload "2" rfl) 2 none),
    .call (.upsert "acme" (pinnedUpload "1" looksJson_one) 3 none), .restart tableOrder]

/-- The policy that a lookup by agent finds at the end, and the newest one. -/
def foundAndNewest (events : List (StoreEvent storeEngine storeText)) :
    Option String × Option String :=
  (((runEvents events).index.getByAgentTenant "acme" "agt_1").map (·.policyId),
    (newest (ofAgent "acme" "agt_1") (eventBook events).live).map (·.2.compiled.policyId))

theorem agent_index_forgets :
    foundAndNewest firstDeleted = (none, some "pol_2") ∧
      foundAndNewest firstAgain = (some "pol_2", some "pol_1") := by
  decide

theorem distinctIds_firstDeleted : DistinctIds firstDeleted := by
  have hup : firstDeleted.filterMap StoreEvent.upload =
      [pinnedUpload "1" rfl, pinnedUpload "2" rfl] := rfl
  rw [DistinctIds, hup]
  simp [pinnedUpload]

/-- The documents of the run that deletes the first version have different ids. -/
theorem agent_index_first_deleted :
    DistinctIds firstDeleted ∧
      ((∀ pre, pre <+: firstDeleted → AnswersByAgent (runEvents pre) (eventBook pre)) ↔
        ∀ pre e, pre ++ [e] <+: firstDeleted → e.Harmless (runEvents pre) (eventBook pre)) :=
  ⟨distinctIds_firstDeleted, agent_index_iff firstDeleted distinctIds_firstDeleted⟩

end SauronID.Dsl
