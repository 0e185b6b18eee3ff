import SauronID.Lib.Recent
import SauronID.Model.Env

/-!
# The policy store

The loaded policies are an index in memory over the table `policies`. The index is keyed
by tenant and policy id, the table by policy id alone, and a restart reads the index back
from the table. `Book` is what the calls mean: the policies that are there, in the order
of their last upload. `hydrate_answers_iff` says when a restart loses nothing.
-/

namespace SauronID.Dsl

open Recent

variable {F : Type}

/-! ## The table and the index -/

inductive PolicyParseError where
  | invalidYaml (message : String)
  | invalidJson (message : String)
  | unsupportedVersion (message : String)
  | schemaViolation (message : String)
  deriving DecidableEq, Repr

/-- How a policy document is written, read and checked. -/
structure PolicyText (F : Type) where
  /-- `serde_yaml_ng::to_string` -/
  toYaml : Policy F → Except String String
  /-- `serde_yaml_ng::from_str` -/
  fromYaml : String → Except String (Policy F)
  /-- `serde_json::from_str` -/
  fromJson : String → Except String (Policy F)
  /-- The semantic checks of `validate`. -/
  validate : Policy F → Except PolicyParseError Unit

def parseYaml (text : PolicyText F) (input : String) : Except PolicyParseError (Policy F) := do
  let policy ← (text.fromYaml input).mapError .invalidYaml
  text.validate policy
  return policy

def parseJson (text : PolicyText F) (input : String) : Except PolicyParseError (Policy F) := do
  let policy ← (text.fromJson input).mapError .invalidJson
  text.validate policy
  return policy

/-- A document is JSON if its first character other than whitespace is a brace. -/
def looksJson (input : String) : Bool :=
  (input.toList.dropWhile Text.isWhiteSpace).head? == some '\x7b'

def parse (text : PolicyText F) (input : String) : Except PolicyParseError (Policy F) :=
  if looksJson input then parseJson text input else parseYaml text input

inductive StoreError where
  | db (message : String)
  | parse (e : PolicyParseError)
  | compile (e : CompileError)
  deriving DecidableEq, Repr

/-- A row of `policies`. -/
structure PolicyRow where
  policyId : String
  agent : String
  version : String
  rawYaml : String
  createdAt : ℤ
  updatedAt : ℤ
  tenantId : String
  deriving DecidableEq, Repr

variable (engine : Engine F) (text : PolicyText F)

/-- The maps of the index; the first component of a key is the tenant. -/
structure StoreIndex where
  byId : String × String → Option (CompiledPolicy engine)
  byAgent : String × String → Option String
  updatedAt : String × String → Option ℤ

structure PolicyStore where
  table : List PolicyRow
  index : StoreIndex engine

variable {engine}

def StoreIndex.empty : StoreIndex engine := ⟨fun _ => none, fun _ => none, fun _ => none⟩

def PolicyStore.empty : PolicyStore engine := ⟨[], .empty⟩

def StoreIndex.insert (idx : StoreIndex engine) (tenant id : String)
    (compiled : CompiledPolicy engine) (updatedAt : ℤ) : StoreIndex engine where
  byId := Function.update idx.byId (tenant, id) (some compiled)
  byAgent := Function.update idx.byAgent (tenant, compiled.agent) (some id)
  updatedAt := Function.update idx.updatedAt (tenant, id) (some updatedAt)

def StoreIndex.remove (idx : StoreIndex engine) (tenant id : String) : StoreIndex engine where
  byId := Function.update idx.byId (tenant, id) none
  byAgent :=
    match idx.byId (tenant, id) with
    | some compiled => Function.update idx.byAgent (tenant, compiled.agent) none
    | none => idx.byAgent
  updatedAt := Function.update idx.updatedAt (tenant, id) none

def StoreIndex.getByIdTenant (idx : StoreIndex engine) (tenant id : String) :
    Option (CompiledPolicy engine) :=
  idx.byId (tenant, id)

def StoreIndex.getByAgentTenant (idx : StoreIndex engine) (tenant agent : String) :
    Option (CompiledPolicy engine) := do
  let id ← idx.byAgent (tenant, agent)
  idx.byId (tenant, id)

/-- `INSERT … ON CONFLICT(policy_id) DO UPDATE`: the creation time of a row stays. -/
def upsertRow (row : PolicyRow) (table : List PolicyRow) : List PolicyRow :=
  if table.any fun r => r.policyId == row.policyId then
    table.map fun r =>
      if r.policyId == row.policyId then { row with createdAt := r.createdAt } else r
  else table ++ [row]

/-! ## The operations -/

/-- The row that `upsert_tenant` writes. -/
def policyRow (tenant : String) (compiled : CompiledPolicy engine) (rawYaml : String)
    (now : ℤ) : PolicyRow where
  policyId := compiled.policyId
  agent := compiled.agent
  version := compiled.raw.version
  rawYaml := rawYaml
  createdAt := now
  updatedAt := now
  tenantId := tenant

/-- `upsert_tenant` at a time; `fault` is the error of the statement, if it fails. -/
def upsertTenant (tenant : String) (compiled : CompiledPolicy engine) (now : ℤ)
    (fault : Option String) (st : PolicyStore engine) :
    Except StoreError Unit × PolicyStore engine :=
  match text.toYaml compiled.raw, fault with
  | .error e, _ => (.error (.db s!"serialize: {e}"), st)
  | .ok _, some e => (.error (.db e), st)
  | .ok rawYaml, none =>
    (.ok (),
      { table := upsertRow (policyRow tenant compiled rawYaml now) st.table
        index := st.index.insert tenant compiled.policyId compiled now })

/-- `delete_tenant` -/
def deleteTenant (tenant id : String) (fault : Option String) (st : PolicyStore engine) :
    Except StoreError Unit × PolicyStore engine :=
  match fault with
  | some e => (.error (.db e), st)
  | none =>
    (.ok (),
      { table := st.table.filter fun r => !(r.policyId == id && r.tenantId == tenant)
        index := st.index.remove tenant id })

/-- The policy of a row. -/
def readRow (row : PolicyRow) : Except StoreError (CompiledPolicy engine) := do
  let policy ← (parse text row.rawYaml).mapError .parse
  (compile engine policy).mapError .compile

/-- The loop of `hydrate`; it stops at a row that cannot be read. -/
def hydrateRows : List PolicyRow → StoreIndex engine → Except StoreError ℕ × StoreIndex engine
  | [], idx => (.ok 0, idx)
  | row :: rows, idx =>
    match readRow text row with
    | .error e => (.error e, idx)
    | .ok compiled =>
      -- the stored id counts, not the one computed again
      let rest := hydrateRows rows
        (idx.insert row.tenantId row.policyId compiled row.updatedAt)
      (rest.1.map (· + 1), rest.2)

/-- An order in which a query without `ORDER BY` may return the rows of a table. -/
abbrev RowOrder := { order : List PolicyRow → List PolicyRow // ∀ rows, (order rows).Perm rows }

/-- `hydrate`: the index is read from the table. -/
def hydrate (order : RowOrder) (fault : Option String) (st : PolicyStore engine) :
    Except StoreError ℕ × PolicyStore engine :=
  match fault with
  | some e => (.error (.db e), st)
  | none =>
    let (count, index) := hydrateRows text (order.1 st.table) st.index
    (count, { st with index := index })

/-- A new process over the same database. -/
def restart (order : RowOrder) (st : PolicyStore engine) :
    Except StoreError ℕ × PolicyStore engine :=
  hydrate text order none { st with index := .empty }

/-! ## What the calls mean -/

variable (engine) in
/-- A policy as `upload` passes it to the store: parsed, hence valid, and compiled. The
YAML library reads back what it wrote. -/
structure Upload where
  compiled : CompiledPolicy engine
  made : compile engine compiled.raw = .ok compiled
  valid : text.validate compiled.raw = .ok ()
  readable : ∀ yaml, text.toYaml compiled.raw = .ok yaml →
    looksJson yaml = false ∧ text.fromYaml yaml = .ok compiled.raw

variable (engine) in
inductive StoreCall where
  | upsert (tenant : String) (upload : Upload engine text) (now : ℤ) (fault : Option String)
  | delete (tenant id : String) (fault : Option String)

variable {text}

def StoreCall.run : StoreCall engine text → PolicyStore engine → PolicyStore engine
  | upsert tenant upload now fault, st => (upsertTenant text tenant upload.compiled now fault st).2
  | delete tenant id fault, st => (deleteTenant tenant id fault st).2

def runCalls (calls : List (StoreCall engine text)) : PolicyStore engine :=
  calls.foldl (fun st call => call.run st) .empty

/-- Whether a call returns `Ok`: the document can be written and the statement does not
fail. -/
def StoreCall.accepted : StoreCall engine text → Bool
  | upsert _ upload _ fault => (text.toYaml upload.compiled.raw).isOk && fault.isNone
  | delete _ _ fault => fault.isNone

variable (engine text) in
/-- The history of the accepted calls: the policies uploaded and not deleted since with
their tenants, in the order of their last upload, and who uploaded a policy id last. -/
structure Book where
  live : List (String × Upload engine text)
  uploader : String → Option String

/-- The tenant and the id of a policy. -/
def policyKey (e : String × Upload engine text) : String × String :=
  (e.1, e.2.compiled.policyId)

def Book.empty : Book engine text := ⟨[], fun _ => none⟩

def Book.upsert (book : Book engine text) (tenant : String) (upload : Upload engine text) :
    Book engine text where
  live := put policyKey (tenant, upload) book.live
  uploader := Function.update book.uploader upload.compiled.policyId (some tenant)

def Book.delete (book : Book engine text) (tenant id : String) : Book engine text :=
  { book with live := erase policyKey (tenant, id) book.live }

def Book.record (book : Book engine text) (call : StoreCall engine text) : Book engine text :=
  if call.accepted then
    match call with
    | .upsert tenant upload _ _ => book.upsert tenant upload
    | .delete tenant id _ => book.delete tenant id
  else book

def bookOf (calls : List (StoreCall engine text)) : Book engine text :=
  calls.foldl Book.record .empty

/-! ## The rows -/

/-- The row holds this upload. -/
structure PolicyRow.Holds (row : PolicyRow) (upload : Upload engine text) : Prop where
  policyId : row.policyId = upload.compiled.policyId
  agent : row.agent = upload.compiled.agent
  rawYaml : text.toYaml upload.compiled.raw = .ok row.rawYaml

theorem PolicyRow.Holds.readRow_eq {row : PolicyRow} {upload : Upload engine text}
    (h : row.Holds upload) : readRow text row = .ok upload.compiled := by
  obtain ⟨hyaml, hread⟩ := upload.readable _ h.rawYaml
  have hparse : parse text row.rawYaml = .ok upload.compiled.raw := by
    simp [parse, parseYaml, hyaml, hread, upload.valid, Except.mapError, bind, Except.bind,
      pure, Except.pure]
  simp [readRow, hparse, upload.made, Except.mapError, bind, Except.bind]

section
variable {row r : PolicyRow} {table : List PolicyRow}

theorem mem_upsertRow (h : r ∈ upsertRow row table) :
    (r ∈ table ∧ r.policyId ≠ row.policyId) ∨ ∃ c, r = { row with createdAt := c } := by
  unfold upsertRow at h
  split at h
  · obtain ⟨old, hold, rfl⟩ := List.mem_map.1 h
    by_cases hid : old.policyId = row.policyId
    · exact .inr ⟨old.createdAt, by simp [hid]⟩
    · exact .inl (by simp [hid, hold])
  · rename_i hnone
    rw [List.mem_append, List.mem_singleton] at h
    obtain h | rfl := h
    · exact .inl ⟨h, fun hid => hnone (List.any_eq_true.2 ⟨r, h, by simp [hid]⟩)⟩
    · exact .inr ⟨_, rfl⟩

/-- The rows of other policies stay. -/
theorem mem_upsertRow_of_ne (h : r ∈ table) (hid : r.policyId ≠ row.policyId) :
    r ∈ upsertRow row table := by
  unfold upsertRow
  split
  · exact List.mem_map.2 ⟨r, h, by simp [hid]⟩
  · exact List.mem_append_left _ h

theorem exists_mem_upsertRow (row : PolicyRow) (table : List PolicyRow) :
    ∃ c, { row with createdAt := c } ∈ upsertRow row table := by
  unfold upsertRow
  split
  · rename_i hany
    obtain ⟨old, hold, hid⟩ := List.any_eq_true.1 hany
    exact ⟨old.createdAt, List.mem_map.2 ⟨old, hold, by simp [beq_iff_eq.1 hid]⟩⟩
  · exact ⟨row.createdAt, List.mem_append_right _ (List.mem_singleton.2 rfl)⟩

theorem nodup_upsertRow (h : (table.map PolicyRow.policyId).Nodup) :
    ((upsertRow row table).map PolicyRow.policyId).Nodup := by
  unfold upsertRow
  split
  · rw [List.map_map, List.map_congr_left (g := PolicyRow.policyId)]
    · exact h
    · intro r _
      by_cases hid : r.policyId = row.policyId <;> simp [hid]
  · rename_i hnone
    rw [List.map_append]
    refine h.append (List.nodup_singleton _) ?_
    simpa using hnone

end

/-- The table has one row for an id, and its rows hold uploaded policies that are still
there. -/
structure Stored (table : List PolicyRow) (live : List (String × Upload engine text)) : Prop where
  nodup : (live.map policyKey).Nodup
  ids : (table.map PolicyRow.policyId).Nodup
  row : ∀ r ∈ table, ∃ u, (r.tenantId, u) ∈ live ∧ r.Holds u

namespace Stored
variable {table : List PolicyRow} {live : List (String × Upload engine text)}

theorem upsert (h : Stored table live) {tenant yaml : String} {upload : Upload engine text}
    {now : ℤ} (hyaml : text.toYaml upload.compiled.raw = .ok yaml) :
    Stored (upsertRow (policyRow tenant upload.compiled yaml now) table)
      (put policyKey (tenant, upload) live) where
  nodup := nodup_put h.nodup
  ids := nodup_upsertRow h.ids
  row := by
    intro r hr
    obtain ⟨hr, hid⟩ | ⟨c, rfl⟩ := mem_upsertRow hr
    · obtain ⟨u, hu, hold⟩ := h.row r hr
      refine ⟨u, mem_put.2 (.inl ⟨hu, fun hkey => hid ?_⟩), hold⟩
      rw [hold.policyId]
      exact congrArg Prod.snd hkey
    · exact ⟨upload, mem_put.2 (.inr rfl), rfl, rfl, hyaml⟩

theorem delete (h : Stored table live) (tenant id : String) :
    Stored (table.filter fun r => !(r.policyId == id && r.tenantId == tenant))
      (erase policyKey (tenant, id) live) where
  nodup := nodup_erase h.nodup
  ids := h.ids.sublist (List.filter_sublist.map _)
  row := by
    intro r hr
    obtain ⟨hr, hkey⟩ := List.mem_filter.1 hr
    obtain ⟨u, hu, hold⟩ := h.row r hr
    refine ⟨u, mem_erase.2 ⟨hu, fun hk => ?_⟩, hold⟩
    cases hk
    simp [hold.policyId] at hkey

theorem eq_of_key (h : Stored table live) {tenant : String} {u v : Upload engine text}
    (hu : (tenant, u) ∈ live) (hv : (tenant, v) ∈ live)
    (hid : u.compiled.policyId = v.compiled.policyId) : u = v :=
  congrArg Prod.snd (List.inj_on_of_nodup_map h.nodup hu hv (Prod.ext rfl hid))

end Stored

/-! ## Reading the table -/

section
variable {rows : List PolicyRow}

section

variable (hrows : ∀ r ∈ rows, ∃ u : Upload engine text, r.Holds u)

include hrows

theorem hydrateRows_ok (idx : StoreIndex engine) :
    (hydrateRows text rows idx).1 = .ok rows.length := by
  induction rows generalizing idx with
  | nil => rfl
  | cons row rows ih =>
    obtain ⟨u, hu⟩ := hrows row List.mem_cons_self
    rw [hydrateRows, hu.readRow_eq]
    simp [ih fun r hr => hrows r (List.mem_cons_of_mem _ hr), Except.map]

/-- What the index holds under a key is what the last row with that key says. -/
theorem hydrateRows_newest {γ : Type} {g : StoreIndex engine → Option γ} {p : PolicyRow → Bool}
    {val : PolicyRow → Option γ}
    (hinsert : ∀ (idx : StoreIndex engine) (r : PolicyRow) (u : Upload engine text), r.Holds u →
      g (idx.insert r.tenantId r.policyId u.compiled r.updatedAt) = if p r then val r else g idx)
    (idx : StoreIndex engine) : g (hydrateRows text rows idx).2 =
      match newest p rows with
      | some r => val r
      | none => g idx := by
  induction rows generalizing idx with
  | nil => rfl
  | cons row rows ih =>
    obtain ⟨u, hu⟩ := hrows row List.mem_cons_self
    rw [hydrateRows, hu.readRow_eq, ih fun r hr => hrows r (List.mem_cons_of_mem _ hr),
      newest_cons]
    cases newest p rows with
    | some r => rfl
    | none =>
      rw [hinsert idx row u hu]
      cases p row <;> simp

/-- The last row of a tenant and an id is the policy. -/
theorem hydrateRows_byId (idx : StoreIndex engine) (tenant id : String) :
    (hydrateRows text rows idx).2.byId (tenant, id) =
      match newest (fun r => r.tenantId == tenant && r.policyId == id) rows with
      | some r => (readRow text r).toOption
      | none => idx.byId (tenant, id) := by
  refine hydrateRows_newest (g := fun idx => idx.byId (tenant, id)) hrows ?_ idx
  intro idx row u hu
  simp [StoreIndex.insert, Function.update_apply, hu.readRow_eq, Except.toOption, @eq_comm _ tenant,
    @eq_comm _ id]

/-- The last row of an agent names its policy. -/
theorem hydrateRows_byAgent (idx : StoreIndex engine) (tenant agent : String) :
    (hydrateRows text rows idx).2.byAgent (tenant, agent) =
      match newest (fun r => r.tenantId == tenant && r.agent == agent) rows with
      | some r => some r.policyId
      | none => idx.byAgent (tenant, agent) := by
  refine hydrateRows_newest (g := fun idx => idx.byAgent (tenant, agent)) hrows ?_ idx
  intro idx row u hu
  simp [StoreIndex.insert, Function.update_apply, hu.agent, @eq_comm _ tenant, @eq_comm _ agent]

end

end

section
variable {table : List PolicyRow} {live : List (String × Upload engine text)}

theorem Stored.holds_of_perm (h : Stored table live) {rows : List PolicyRow}
    (hperm : rows.Perm table) : ∀ r ∈ rows, ∃ u : Upload engine text, r.Holds u := by
  intro r hr
  obtain ⟨u, -, hold⟩ := h.row r (hperm.mem_iff.1 hr)
  exact ⟨u, hold⟩

/-- After a restart a policy is found by its id if its row is in the table. -/
theorem Stored.hydrated_byId (h : Stored table live) (order : RowOrder) {tenant id : String}
    {cp : CompiledPolicy engine} :
    (hydrateRows text (order.1 table) .empty).2.byId (tenant, id) = some cp ↔
      ∃ r ∈ table, ∃ u, (tenant, u) ∈ live ∧ r.tenantId = tenant ∧ r.policyId = id ∧
        r.Holds u ∧ u.compiled = cp := by
  have hperm := order.2 table
  rw [hydrateRows_byId (h.holds_of_perm hperm)]
  constructor
  · intro hfound
    cases hnew : newest (fun r => r.tenantId == tenant && r.policyId == id) (order.1 table) with
    | none => simp [hnew, StoreIndex.empty] at hfound
    | some r =>
      obtain ⟨hr, hkey⟩ := of_newest hnew
      rw [Bool.and_eq_true, beq_iff_eq, beq_iff_eq] at hkey
      obtain ⟨u, hu, hold⟩ := h.row r (hperm.mem_iff.1 hr)
      simp only [hnew, hold.readRow_eq] at hfound
      exact ⟨r, hperm.mem_iff.1 hr, u, hkey.1 ▸ hu, hkey.1, hkey.2, hold, Option.some.inj hfound⟩
  · rintro ⟨r, hr, u, -, htenant, hid, hold, rfl⟩
    cases hnew : newest (fun r => r.tenantId == tenant && r.policyId == id) (order.1 table) with
    | none =>
      have := newest_eq_none.1 hnew r (hperm.mem_iff.2 hr)
      simp [htenant, hid] at this
    | some s =>
      obtain ⟨hs, hkey⟩ := of_newest hnew
      rw [Bool.and_eq_true, beq_iff_eq, beq_iff_eq] at hkey
      have hsame : s = r :=
        List.inj_on_of_nodup_map h.ids (hperm.mem_iff.1 hs) hr (hkey.2.trans hid.symm)
      simp [hsame, hold.readRow_eq, Except.toOption]

end

/-! ## Durability -/

/-- The store after calls without a restart: the index holds what is there, and a policy
is in the table under the tenant that uploaded its id last. -/
structure Mirrors (st : PolicyStore engine) (book : Book engine text) : Prop where
  stored : Stored st.table book.live
  byId : ∀ tenant id cp, st.index.byId (tenant, id) = some cp ↔
    ∃ u, (tenant, u) ∈ book.live ∧ u.compiled = cp ∧ cp.policyId = id
  uploader : ∀ r ∈ st.table, book.uploader r.policyId = some r.tenantId
  kept : ∀ tenant u, (tenant, u) ∈ book.live →
    book.uploader u.compiled.policyId = some tenant →
    ∃ r ∈ st.table, r.policyId = u.compiled.policyId

theorem mirrors_empty : Mirrors (.empty : PolicyStore engine) (.empty : Book engine text) where
  stored := ⟨List.nodup_nil, List.nodup_nil, by simp [PolicyStore.empty]⟩
  byId := by simp [PolicyStore.empty, StoreIndex.empty, Book.empty]
  uploader := by simp [PolicyStore.empty]
  kept := by simp [Book.empty]

namespace StoreCall
variable {tenant id : String} {upload : Upload engine text} {now : ℤ} {fault : Option String}

/-- A refused call changes nothing. -/
theorem run_of_refused {call : StoreCall engine text} (h : call.accepted = false)
    (st : PolicyStore engine) : call.run st = st := by
  cases call with
  | upsert tenant upload now fault =>
    cases hyaml : text.toYaml upload.compiled.raw with
    | error e => simp only [run, upsertTenant, hyaml]
    | ok yaml =>
      cases fault with
      | some e => simp only [run, upsertTenant, hyaml]
      | none => simp [accepted, hyaml, Except.isOk, Except.toBool] at h
  | delete tenant id fault =>
    cases fault with
    | some e => rfl
    | none => cases h

theorem run_upsert (h : (upsert tenant upload now fault).accepted = true)
    (st : PolicyStore engine) : ∃ yaml, text.toYaml upload.compiled.raw = .ok yaml ∧
      (upsert tenant upload now fault).run st =
        ⟨upsertRow (policyRow tenant upload.compiled yaml now) st.table,
          st.index.insert tenant upload.compiled.policyId upload.compiled now⟩ := by
  cases hyaml : text.toYaml upload.compiled.raw with
  | error e => simp [accepted, hyaml, Except.isOk, Except.toBool] at h
  | ok yaml =>
    cases fault with
    | some e => simp [accepted] at h
    | none => exact ⟨yaml, rfl, by simp only [run, upsertTenant, hyaml]⟩

theorem run_delete (h : (delete tenant id fault : StoreCall engine text).accepted = true)
    (st : PolicyStore engine) : (delete tenant id fault : StoreCall engine text).run st =
      ⟨st.table.filter fun r => !(r.policyId == id && r.tenantId == tenant),
        st.index.remove tenant id⟩ := by
  cases fault with
  | some e => cases h
  | none => rfl

end StoreCall

namespace Mirrors
variable {st : PolicyStore engine} {book : Book engine text}

/-- The tenant that uploaded an id last has the row. -/
theorem tenantId_eq (h : Mirrors st book) {r : PolicyRow} (hr : r ∈ st.table) {tenant : String}
    (hup : book.uploader r.policyId = some tenant) : r.tenantId = tenant :=
  Option.some.inj ((h.uploader r hr).symm.trans hup)

theorem upsert (h : Mirrors st book) {tenant yaml : String} {upload : Upload engine text}
    {now : ℤ} (hyaml : text.toYaml upload.compiled.raw = .ok yaml) : Mirrors
      ⟨upsertRow (policyRow tenant upload.compiled yaml now) st.table,
        st.index.insert tenant upload.compiled.policyId upload.compiled now⟩
      (book.upsert tenant upload) where
  stored := h.stored.upsert hyaml
  byId := by
    intro t id cp
    simp only [StoreIndex.insert, Book.upsert, mem_put, policyKey]
    by_cases hkey : (t, id) = (tenant, upload.compiled.policyId)
    · obtain ⟨rfl, rfl⟩ := Prod.mk.inj hkey
      rw [Function.update_self, Option.some.injEq]
      constructor
      · rintro rfl
        exact ⟨upload, .inr rfl, rfl, rfl⟩
      · rintro ⟨u, ⟨-, hne⟩ | heq, rfl, hid⟩
        · exact absurd (congrArg _ hid) hne
        · cases heq
          rfl
    · rw [Function.update_of_ne hkey, h.byId]
      constructor
      · rintro ⟨u, hu, rfl, rfl⟩
        exact ⟨u, .inl ⟨hu, hkey⟩, rfl, rfl⟩
      · rintro ⟨u, ⟨hu, -⟩ | heq, rfl, rfl⟩
        · exact ⟨u, hu, rfl, rfl⟩
        · cases heq
          exact absurd rfl hkey
  uploader := by
    intro r hr
    simp only [Book.upsert]
    obtain ⟨hr, hid⟩ | ⟨c, rfl⟩ := mem_upsertRow hr
    · rw [Function.update_of_ne (show r.policyId ≠ upload.compiled.policyId from hid)]
      exact h.uploader r hr
    · exact Function.update_self ..
  kept := by
    intro t u hu hup
    simp only [Book.upsert] at hu hup
    by_cases hid : u.compiled.policyId = upload.compiled.policyId
    · obtain ⟨c, hc⟩ := exists_mem_upsertRow (policyRow tenant upload.compiled yaml now) st.table
      exact ⟨_, hc, hid.symm⟩
    · rw [Function.update_of_ne hid] at hup
      obtain ⟨hu, -⟩ | heq := mem_put.1 hu
      · obtain ⟨r, hr, hrid⟩ := h.kept t u hu hup
        exact ⟨r, mem_upsertRow_of_ne hr (hrid ▸ hid), hrid⟩
      · cases heq
        exact absurd rfl hid

theorem delete (h : Mirrors st book) (tenant id : String) : Mirrors
      ⟨st.table.filter fun r => !(r.policyId == id && r.tenantId == tenant),
        st.index.remove tenant id⟩ (book.delete tenant id) where
  stored := h.stored.delete tenant id
  byId := by
    intro t i cp
    simp only [StoreIndex.remove, Book.delete, mem_erase, policyKey]
    by_cases hkey : (t, i) = (tenant, id)
    · obtain ⟨rfl, rfl⟩ := Prod.mk.inj hkey
      rw [Function.update_self]
      constructor
      · nofun
      · rintro ⟨u, ⟨-, hne⟩, rfl, rfl⟩
        exact absurd rfl hne
    · rw [Function.update_of_ne hkey, h.byId]
      constructor
      · rintro ⟨u, hu, rfl, rfl⟩
        exact ⟨u, ⟨hu, hkey⟩, rfl, rfl⟩
      · rintro ⟨u, ⟨hu, -⟩, rfl, rfl⟩
        exact ⟨u, hu, rfl, rfl⟩
  uploader r hr := h.uploader r (List.mem_filter.1 hr).1
  kept := by
    intro t u hu hup
    obtain ⟨hu, hne⟩ := mem_erase.1 hu
    obtain ⟨r, hr, hrid⟩ := h.kept t u hu hup
    have htenant : r.tenantId = t := h.tenantId_eq hr (hrid ▸ hup)
    refine ⟨r, List.mem_filter.2 ⟨hr, ?_⟩, hrid⟩
    have hne : ¬(u.compiled.policyId = id ∧ t = tenant) := by
      rintro ⟨rfl, rfl⟩
      exact hne rfl
    simpa [hrid, htenant, ← not_and_or] using hne

theorem run (h : Mirrors st book) (call : StoreCall engine text) :
    Mirrors (call.run st) (book.record call) := by
  cases hacc : call.accepted with
  | false =>
    rw [StoreCall.run_of_refused hacc]
    simpa [Book.record, hacc] using h
  | true =>
    cases call with
    | upsert tenant upload now fault =>
      obtain ⟨yaml, hyaml, hrun⟩ := StoreCall.run_upsert hacc st
      rw [hrun]
      simpa [Book.record, hacc] using h.upsert hyaml
    | delete tenant id fault =>
      rw [StoreCall.run_delete hacc]
      simpa [Book.record, hacc] using h.delete tenant id

end Mirrors

theorem mirrors_runCalls (calls : List (StoreCall engine text)) :
    Mirrors (runCalls calls) (bookOf calls) := by
  unfold runCalls bookOf
  induction calls using List.reverseRecOn with
  | nil => exact mirrors_empty
  | append_singleton calls call ih =>
    rw [List.foldl_append, List.foldl_append]
    exact ih.run call

/-- **What a restart keeps.** A fresh store over the table answers every lookup by id as
the store before it did if and only if each policy that is there was uploaded last by its
own tenant: an upload of the same document by another tenant takes the row over. -/
theorem hydrate_answers_iff (calls : List (StoreCall engine text)) (order : RowOrder) :
    ((restart text order (runCalls calls)).1.isOk = true ∧
      ∀ tenant id, (restart text order (runCalls calls)).2.index.getByIdTenant tenant id =
        (runCalls calls).index.getByIdTenant tenant id) ↔
      ∀ e ∈ (bookOf calls).live, (bookOf calls).uploader e.2.compiled.policyId = some e.1 := by
  have h := mirrors_runCalls calls
  simp only [restart, hydrate, StoreIndex.getByIdTenant]
  constructor
  · rintro ⟨-, hsame⟩ ⟨tenant, u⟩ hu
    have hfound := (hsame tenant u.compiled.policyId).trans
      ((h.byId _ _ _).2 ⟨u, hu, rfl, rfl⟩)
    obtain ⟨r, hr, -, -, htenant, hid, -⟩ := (h.stored.hydrated_byId order).1 hfound
    have hup := h.uploader r hr
    rwa [hid, htenant] at hup
  · intro hown
    refine ⟨?_, fun tenant id => Option.ext fun cp => ?_⟩
    · rw [hydrateRows_ok (h.stored.holds_of_perm (order.2 _))]
      rfl
    · rw [h.stored.hydrated_byId order, h.byId]
      constructor
      · rintro ⟨r, -, u, hu, -, hid, hold, rfl⟩
        exact ⟨u, hu, rfl, hold.policyId ▸ hid⟩
      · rintro ⟨u, hu, rfl, rfl⟩
        have hup := hown _ hu
        obtain ⟨r, hr, hid⟩ := h.kept tenant u hu hup
        have htenant : r.tenantId = tenant := h.tenantId_eq hr (hid ▸ hup)
        obtain ⟨v, hv, hold⟩ := h.stored.row r hr
        rw [htenant] at hv
        have hsame : v = u := h.stored.eq_of_key hv hu (hold.policyId ▸ hid)
        exact ⟨r, hr, v, hv, htenant, hid, hold, congrArg _ hsame⟩

/-! ## Two tenants with one document -/

/-- Documents are addressed by the version they pin. -/
def storeEngine : Engine ℚ :=
  { sampleEngine ℚ with hashPolicy := fun p => "pol_" ++ p.binding.pinnedVersion.getD "" }

/-- A policy that pins the version of its agent and nothing else. -/
def pinned (v : String) : Policy ℚ where
  version := "1"
  agent := "agt_1"
  binding := { pinnedVersion := some v }
  invariants := []

/-- A document is written as the version it pins. -/
def storeText : PolicyText ℚ where
  toYaml p := .ok (p.binding.pinnedVersion.getD "")
  fromYaml v := .ok (pinned v)
  fromJson := .error
  validate _ := .ok ()

def pinnedUpload (v : String) (hv : looksJson v = false) : Upload storeEngine storeText where
  compiled := ⟨"pol_" ++ v, "agt_1", [.versionPin v], pinned v, rfl⟩
  made := rfl
  valid := rfl
  readable yaml h := by
    cases h
    exact ⟨hv, rfl⟩

/-- The rows as the table has them. -/
def tableOrder : RowOrder := ⟨id, fun _ => .refl _⟩

def sharedUploads : List (StoreCall storeEngine storeText) :=
  [.upsert "acme" (pinnedUpload "1" rfl) 1 none, .upsert "globex" (pinnedUpload "1" rfl) 2 none]

/-- The first tenant's policy is there until the server restarts. -/
theorem shared_policy_lost :
    ((runCalls sharedUploads).index.getByIdTenant "acme" "pol_1").isSome = true ∧
      ((restart storeText tableOrder (runCalls sharedUploads)).2.index.getByIdTenant
        "acme" "pol_1").isSome = false := by
  decide

end SauronID.Dsl
