import SauronID.Agent.Session
import SauronID.Lib.Encoding

/-!
# Sessions are revocable

A session carries the epoch of its owner at the time it was issued. `revoke_all` advances
the epoch, and a session of an older epoch is refused. An owner without a row in
`user_auth_credentials` has epoch 0 whatever is revoked, and a read of the epoch that fails
yields 0 as well. `session_revocation_final` says that sessions end with their revocation
but for these two cases, and that a session serves its own tenant and owner until it
expires.
-/

namespace SauronID.Agent

open Conc Text

variable {F : Type} (env : Env F)

/-! ## Issuing and revoking -/

/-- The stored epoch of an owner. -/
def epochOf (keyImage : String) (db : Db F) : Option ℤ :=
  (db.credentials.find? fun r => r.keyImageHex == keyImage).map (·.sessionEpoch)

/-- `current_epoch` -/
def currentEpoch {ε : Type} (keyImage : String) : Srv F ε ℤ :=
  Srv.scalarOr .other (epochOf keyImage) 0

def sessionTtlSecs : ℤ := 3600

def sessionPayload (tenantId keyImage : String) (epoch expiresAt : ℤ) : String :=
  "v3|" ++ tenantId ++ "|" ++ keyImage ++ "|" ++ toString epoch ++ "|" ++ toString expiresAt

/-- `user_session::issue` at a time. -/
def issueSession (tenantId keyImage : String) (epoch now : ℤ) : String × ℤ :=
  let expiresAt := now + sessionTtlSecs
  let payload := sessionPayload tenantId keyImage epoch expiresAt
  (payload ++ "|" ++ sessionSign env payload, expiresAt)

/-- `issue_session_for`: a session of the owner's current epoch. -/
def issueSessionFor {ε : Type} (tenantId keyImage : String) : Srv F ε (String × ℤ) := do
  let epoch ← currentEpoch keyImage
  let now ← Srv.nowSecs
  return issueSession env tenantId keyImage epoch now

/-! ## What a session says -/

theorem splitLastBar_append (payload : String) {sig : String} (hsig : '|' ∉ sig.toList) :
    splitLastBar (payload ++ "|" ++ sig) = some (payload, sig) := by
  have hchars : (payload ++ "|" ++ sig).toList.reverse =
      sig.toList.reverse ++ '|' :: payload.toList.reverse := by
    simp
  have hall : ∀ c ∈ sig.toList.reverse, (c != '|') = true := by
    intro c hc
    rw [List.mem_reverse] at hc
    exact bne_iff_ne.2 fun h => hsig (h ▸ hc)
  simp only [splitLastBar, hchars]
  rw [List.dropWhile_append_of_pos hall, List.takeWhile_append_of_pos hall]
  simp

theorem notMem_sessionSign (payload : String) : '|' ∉ (sessionSign env payload).toList :=
  notMem_hexEncode (by decide) _

theorem toList_sessionPayload (tenantId keyImage : String) (epoch expiresAt : ℤ) :
    (sessionPayload tenantId keyImage epoch expiresAt).toList =
      ['|'].intercalate ["v3".toList, tenantId.toList, keyImage.toList, (toString epoch).toList,
        (toString expiresAt).toList] := by
  simp [sessionPayload, List.intercalate]

variable {env}

theorem of_guard {p : Prop} [Decidable p] {u : Unit} (h : (guard p : Option Unit) = some u) :
    p := by
  by_contra hp
  simp [guard, hp] at h

variable {tenantId : String} {v : VerifiedSession} {expiresAt : ℤ}

/-- What is checked of a session before its expiry and its epoch. -/
theorem of_parseSession {session : String}
    (h : parseSession env session tenantId = some (v, expiresAt)) :
    ∃ payload epoch exp, splitLastBar session = some (payload, sessionSign env payload) ∧
      (payload.toList.splitOn '|').map String.ofList = ["v3", tenantId, v.keyImage, epoch, exp] ∧
      parseI64 epoch = some v.epoch ∧ parseI64 exp = some expiresAt := by
  unfold parseSession at h
  obtain ⟨⟨payload, sig⟩, hsplit, h⟩ := Option.bind_eq_some_iff.1 h
  obtain ⟨u, hsig, h⟩ := Option.bind_eq_some_iff.1 h
  split at h
  case h_2 => cases h
  next version tenant keyImage epoch exp hfields =>
    obtain ⟨u', hversion, h⟩ := Option.bind_eq_some_iff.1 h
    obtain ⟨-, -, h⟩ := Option.bind_eq_some_iff.1 h
    obtain ⟨n, hepoch, h⟩ := Option.bind_eq_some_iff.1 h
    obtain ⟨m, hexp, h⟩ := Option.bind_eq_some_iff.1 h
    obtain ⟨rfl, rfl⟩ := Prod.mk.inj (Option.some.inj h)
    obtain ⟨rfl, rfl⟩ := of_guard hversion
    obtain rfl := of_guard hsig
    exact ⟨payload, epoch, exp, hsplit, hfields, hepoch, hexp⟩

variable {keyImage tenant' : String}

/-- A session that is accepted was issued with the fields it is accepted for. -/
theorem eq_of_parseSession {epoch now exp : ℤ}
    (h : parseSession env (issueSession env tenantId keyImage epoch now).1 tenant' =
      some (v, exp)) : tenant' = tenantId ∧ v.keyImage = keyImage ∧ v.epoch = epoch ∧
      exp = (issueSession env tenantId keyImage epoch now).2 := by
  obtain ⟨payload, epochText, expText, hsplit, hfields, hepoch, hexp⟩ := of_parseSession h
  simp only [issueSession, splitLastBar_append _ (notMem_sessionSign env _)] at hsplit
  obtain ⟨rfl, -⟩ := Prod.mk.inj (Option.some.inj hsplit)
  have hparts : (sessionPayload tenantId keyImage epoch (now + sessionTtlSecs)).toList.splitOn '|' =
      ["v3", tenant', v.keyImage, epochText, expText].map String.toList := by
    rw [← hfields, List.map_map]
    simp
  -- the fields of the accepted session hold no bar, and they are as many as were joined
  have hbars : ∀ f ∈ (sessionPayload tenantId keyImage epoch
      (now + sessionTtlSecs)).toList.splitOn '|', '|' ∉ f := fun f => notMem_of_mem_splitOn
  have hjoin : ['|'].intercalate ((sessionPayload tenantId keyImage epoch
      (now + sessionTtlSecs)).toList.splitOn '|') = _ := List.intercalate_splitOn '|'
  simp only [hparts] at hbars hjoin
  rw [toList_sessionPayload] at hjoin
  have heq := intercalate_inj (by simp) hbars hjoin
  simp only [List.map_cons, List.map_nil, List.cons.injEq, String.toList_inj, and_true,
    true_and] at heq
  obtain ⟨htenant, hkey, rfl, rfl⟩ := heq
  exact ⟨htenant, hkey, eq_of_parseI64_toString hepoch, eq_of_parseI64_toString hexp⟩

variable (env) in
/-- **Sessions.** What `issue` writes is read back by `verify` as it was written, for the tenant
it was issued to and for no other, if no field of it holds a bar. -/
theorem issued_session_verifies_iff (tenantId keyImage tenant' : String) (epoch now exp : ℤ)
    (v : VerifiedSession) :
    parseSession env (issueSession env tenantId keyImage epoch now).1 tenant' = some (v, exp) ↔
      (tenant' = tenantId ∧ v = ⟨keyImage, epoch⟩ ∧ exp = now + sessionTtlSecs) ∧
      '|' ∉ tenantId.toList ∧ (keyImage.utf8ByteSize = 64 ∧ keyImage.toList.all isAsciiHexdigit) ∧
      satI64 epoch = epoch ∧ satI64 exp = exp := by
  have hhex : keyImage.toList.all isAsciiHexdigit = true → '|' ∉ keyImage.toList :=
    fun h hbar => absurd (List.all_eq_true.1 h _ hbar) (by decide)
  by_cases hbar : '|' ∉ tenantId.toList ∧ '|' ∉ keyImage.toList
  · have hint := notMem_toString_int (c := '|') rfl (by decide)
    have hfields : ((sessionPayload tenantId keyImage epoch (now + sessionTtlSecs)).toList.splitOn
        '|').map String.ofList =
        ["v3", tenantId, keyImage, toString epoch, toString (now + sessionTtlSecs)] := by
      rw [toList_sessionPayload, List.splitOn_intercalate '|' _ (List.cons_ne_nil _ _)]
      · simp
      · simp [hbar, hint, -Int.toString_eq_repr]
    simp only [parseSession, issueSession, splitLastBar_append _ (notMem_sessionSign env _),
      hfields, parseI64_toString, Option.bind_eq_bind, Option.bind_some, guard]
    split_ifs <;> simp <;> grind
  · refine iff_of_false (fun h => hbar ?_) fun h => hbar ⟨h.2.1, hhex h.2.2.1.2⟩
    obtain ⟨payload, e, x, -, hfields, -⟩ := of_parseSession h
    obtain ⟨rfl, rfl, -⟩ := eq_of_parseSession h
    have hmem : ∀ f ∈ ["v3", tenant', v.keyImage, e, x], '|' ∉ f.toList := by
      rw [← hfields]
      simp only [List.mem_map]
      rintro _ ⟨f, hf, rfl⟩
      simpa using notMem_of_mem_splitOn hf
    exact ⟨hmem _ (by simp), hmem _ (by simp)⟩

/-! ## Calls -/

variable [Float64 F]

/-- `revoke_all` -/
def revokeAll (keyImage : String) : Srv F String ℤ := do
  let _ ← (Srv.execute (.bumpSessionEpoch keyImage)).mapErr fun e => s!"bump session_epoch: {e}"
  currentEpoch keyImage

inductive SessionCall where
  | issue (tenantId keyImage : String)
  | revokeAll (keyImage : String)
  /-- `key_image_from_headers` -/
  | check (tenantId : String) (header : Option String)

inductive SessionResult where
  | session (token : String) (expiresAt : ℤ)
  | epoch (n : ℤ)
  | owner (keyImage : Option String)
  deriving DecidableEq, Repr

variable (env) in
def SessionCall.prog : SessionCall → Srv F String SessionResult
  | issue tenantId keyImage => do
    let (token, expiresAt) ← issueSessionFor env tenantId keyImage
    return .session token expiresAt
  | .revokeAll keyImage => do
    let n ← Agent.revokeAll keyImage
    return .epoch n
  | check tenantId header => do
    let keyImage ← sessionKeyImage env tenantId header
    return .owner keyImage

variable (env) in
/-- The calls `calls` run together from `start`. -/
def sessionRun (start : World F) (calls : List SessionCall) (sched : List Event) :
    SrvConfig F String SessionResult :=
  (Config.init start (calls.map (SessionCall.prog env))).run sched

/-! ## What the calls do -/

/-- The epoch a read of it returns. -/
def readEpoch (keyImage : String) (s : World F) : ℤ :=
  if s.fault = none then (epochOf keyImage s.db).getD 0 else 0

/-- What a successful call has done, by its history. -/
def SessionCall.Post (env : Env F) (t : History F) : SessionCall → SessionResult → Prop
  | issue tenantId keyImage, .session token expiresAt =>
      ∃ s now, (.select .other, s) ∈ t ∧
        token = (issueSession env tenantId keyImage (readEpoch keyImage s) now).1 ∧
        expiresAt = (issueSession env tenantId keyImage (readEpoch keyImage s) now).2
  | .revokeAll keyImage, .epoch _ =>
      ∃ s, (.write (.bumpSessionEpoch keyImage), s) ∈ t ∧ s.fault = none
  | check tenantId header, .owner (some keyImage) =>
      ∃ v expiresAt s s', header.bind (parseSession env · tenantId) = some (v, expiresAt) ∧
        v.keyImage = keyImage ∧ (.clock, s') ∈ t ∧ s'.nowSecs ≤ expiresAt ∧
        (.select .other, s) ∈ t ∧ v.epoch = readEpoch keyImage s
  | check _ _, .owner none => True
  | _, _ => False

theorem SessionCall.prog_yields (call : SessionCall) :
    (call.prog env).Yields (srvRules fun _ _ _ => True) [] fun t r => call.Post env t r := by
  cases call with
  | issue tenantId keyImage =>
    refine .bind (.bind (Srv.yields_scalarOr_eq fun s => ?_))
    refine Srv.yields_nowSecs fun s' => Prog.yields_pure (Prog.yields_pure ?_)
    exact ⟨s, s'.nowSecs, .tail _ (.head _), rfl, rfl⟩
  | revokeAll keyImage =>
    refine .bind (.bind (.mapErr (Srv.yields_execute fun s => ⟨trivial, fun n hn => ?_⟩)))
    refine Srv.yields_scalarOr_eq fun s' => Prog.yields_pure ⟨s, .tail _ (.head _), ?_⟩
    cases hf : s.fault with
    | none => rfl
    | some e => simp [World.writeResult, hf] at hn
  | check tenantId header =>
    refine .bind ?_
    unfold sessionKeyImage
    split
    · exact Prog.yields_pure (Prog.yields_pure trivial)
    · next v expiresAt hparse =>
      refine Srv.yields_nowSecs fun s' => ?_
      split
      · exact Prog.yields_pure (Prog.yields_pure trivial)
      · next hexp =>
        refine .bind (Srv.yields_scalarOr_eq fun s => Prog.yields_pure (Prog.yields_pure ?_))
        change Post env _ _ (.owner (if readEpoch v.keyImage s = v.epoch then _ else none))
        by_cases hepoch : readEpoch v.keyImage s = v.epoch
        · rw [if_pos hepoch]
          exact ⟨v, expiresAt, s, s', hparse, rfl, .tail _ (.head _), not_lt.1 hexp, .head _,
            hepoch.symm⟩
        · rw [if_neg hepoch]
          trivial

/-! ## Epochs only rise -/

omit [Float64 F] in
/-- One row of the owner is found before and after its epoch is advanced. -/
theorem find?_bump (keyImage k : String) (rows : List CredentialRow) :
    ((rows.map fun r => if r.keyImageHex == k then
        { r with sessionEpoch := r.sessionEpoch + 1 } else r).find?
        fun r => r.keyImageHex == keyImage).map (·.sessionEpoch) =
      ((rows.find? fun r => r.keyImageHex == keyImage).map (·.sessionEpoch)).map
        fun n => if keyImage = k then n + 1 else n := by
  have hkey : (fun r : CredentialRow => r.keyImageHex == keyImage) ∘ (fun r =>
      if r.keyImageHex == k then { r with sessionEpoch := r.sessionEpoch + 1 } else r) =
      fun r => r.keyImageHex == keyImage := by
    funext r
    by_cases h : r.keyImageHex = k <;> simp [h]
  rw [List.find?_map, hkey, Option.map_map, Option.map_map]
  cases hfind : rows.find? fun r => r.keyImageHex == keyImage with
  | none => rfl
  | some r =>
    have hr : r.keyImageHex = keyImage := by simpa using List.find?_some hfind
    by_cases h : keyImage = k <;> simp [hr, h]

variable {s : World F}

/-- A statement leaves the epoch of an owner, or is the one that advances it. -/
theorem epochOf_of_effect {lbl : Label F} {s' : World F} (heff : lbl.Effect s s')
    (keyImage : String) : (epochOf keyImage s'.db = epochOf keyImage s.db ∧
        (lbl = .write (.bumpSessionEpoch keyImage) → s.fault ≠ none)) ∨
      lbl = .write (.bumpSessionEpoch keyImage) ∧
        epochOf keyImage s'.db = (epochOf keyImage s.db).map (· + 1) := by
  by_cases htable : lbl.table = .credentials
  swap
  · refine .inl ⟨?_, fun h => absurd (h ▸ rfl) htable⟩
    rw [epochOf, (Label.Effect.sameOff heff).credentials htable, epochOf]
  obtain ⟨w, rfl, ⟨e, herr, hdb⟩ | ⟨db, n, hf, happly, -, hdb⟩⟩ := heff.written (by simp [htable])
  · refine .inl ⟨by rw [hdb], fun h hf => ?_⟩
    cases h
    simp [World.writeResult, hf, Write.apply, Except.map] at herr
  · cases w with
    | bumpSessionEpoch k =>
      cases happly
      rw [hdb]
      simp only [epochOf, find?_bump]
      by_cases hk : keyImage = k
      · exact .inr ⟨by rw [hk], by simp [hk]⟩
      · exact .inl ⟨by simp only [if_neg hk, Option.map_id'], fun h => absurd (by cases h; rfl) hk⟩
    | _ => cases htable

/-- The epoch of an owner has risen from `b` on: in every entry of the log that `mid` does
not have it was `b` or more and no more than now, and less if the entry advanced it. -/
def Rises (keyImage : String) (b : ℤ) (mid : RunLog F) (s : World F) (log : RunLog F) : Prop :=
  ∃ n, epochOf keyImage s.db = some n ∧ b ≤ n ∧ ∀ e ∈ log, e ∈ mid ∨
    ∃ m, epochOf keyImage e.before.db = some m ∧ b ≤ m ∧ m ≤ n ∧
      (e.label = .write (.bumpSessionEpoch keyImage) → e.before.fault = none → m < n)

theorem rises_invariant (keyImage : String) (b : ℤ) (mid : RunLog F) :
    TraceInvariant (fun _ => srvRules fun (_ : History F) _ _ => True) (fun _ _ => True)
      (Rises keyImage b mid) where
  tick _ h := h
  step := by
    rintro s log i lbl s' ⟨n, hn, hb, hlog⟩ - heff -
    obtain ⟨hsame, hfail⟩ | ⟨rfl, hnext⟩ := epochOf_of_effect heff keyImage
    · refine ⟨n, hsame.trans hn, hb, fun e he => ?_⟩
      rcases List.mem_cons.1 he with rfl | he
      · exact .inr ⟨n, hn, hb, le_rfl, fun hlbl hf => absurd hf (hfail hlbl)⟩
      · exact hlog e he
    · refine ⟨n + 1, by rw [hnext, hn]; rfl, by omega, fun e he => ?_⟩
      rcases List.mem_cons.1 he with rfl | he
      · exact .inr ⟨n, hn, hb, by omega, fun _ _ => by omega⟩
      · refine (hlog e he).imp_right ?_
        rintro ⟨m, hm, hbm, hmn, hbump⟩
        exact ⟨m, hm, hbm, by omega, fun hlbl hf => by have := hbump hlbl hf; omega⟩

/-! ## Runs -/

variable (env) in
/-- A check of a session of epoch 0 reads the epoch. -/
def EpochIsRead (calls : List SessionCall) (e : LogEntry F) : Prop :=
  ∀ tenantId token v expiresAt, calls[e.thread]? = some (.check tenantId (some token)) →
    parseSession env token tenantId = some (v, expiresAt) → v.epoch = 0 →
    e.label = .select .other → e.before.fault = none

variable {start : World F} {calls : List SessionCall} {i : ℕ} {r : SessionResult}

theorem sessionRun_post (sched : List Event) {call : SessionCall} (hcall : calls[i]? = some call)
    (hr : (sessionRun env start calls sched).result i = some (.ok r)) :
    call.Post env (threadTrace i (sessionRun env start calls sched).log) r :=
  run_post (fun _ call _ => SessionCall.prog_yields call) hcall hr

variable {n : ℤ}

/-- The epoch of an owner rises in every part of a run. -/
theorem sessionRun_rises (es fs : List Event)
    (hn : epochOf keyImage (sessionRun env start calls es).world.db = some n) :
    Rises keyImage n (sessionRun env start calls es).log
      (sessionRun env start calls (es ++ fs)).world (sessionRun env start calls (es ++ fs)).log :=
  (rises_invariant keyImage n _).run_then (fun _ call _ => SessionCall.prog_yields call)
    ⟨n, hn, le_rfl, fun _ he => .inl he⟩ (LogOk.of_true _)

omit [Float64 F] in
theorem exists_epochOf {db : Db F} (hepochs : ∀ r ∈ db.credentials, 0 ≤ r.sessionEpoch)
    (hrow : ∃ r ∈ db.credentials, r.keyImageHex = keyImage) :
    ∃ n, epochOf keyImage db = some n ∧ 0 ≤ n := by
  obtain ⟨r, hr, hkey⟩ := hrow
  have hsome : (db.credentials.find? fun r => r.keyImageHex == keyImage).isSome = true :=
    List.find?_isSome.2 ⟨r, hr, by simp [hkey]⟩
  obtain ⟨row, hfind⟩ := Option.isSome_iff_exists.1 hsome
  exact ⟨row.sessionEpoch, by rw [epochOf, hfind]; rfl,
    hepochs row (List.mem_of_find?_eq_some hfind)⟩

omit [Float64 F] in
theorem readEpoch_eq {m : ℤ} (h : epochOf keyImage s.db = some m) :
    readEpoch keyImage s = if s.fault = none then m else 0 := by
  rw [readEpoch, h]
  rfl

variable {es fs gs : List Event} {j c : ℕ}

/-- A session issued before a revocation is of an older epoch than any a later check can
read: the claim that `revoked_session_refused` reduces to. -/
theorem epoch_lt_of_revoked (hepochs : ∀ r ∈ start.db.credentials, 0 ≤ r.sessionEpoch)
    (hrow : ∃ r ∈ start.db.credentials, r.keyImageHex = keyImage) {s₃ : World F}
    (hissued : ⟨i, .select .other, s⟩ ∈ (sessionRun env start calls es).log)
    (hrevoke : calls[j]? = some (.revokeAll keyImage))
    (hlater : ∀ e ∈ (sessionRun env start calls es).log, e.thread ≠ j)
    (hrevoked : (sessionRun env start calls (es ++ fs)).result j = some (.ok r))
    (hstart : ∀ e ∈ (sessionRun env start calls (es ++ fs)).log, e.thread ≠ c)
    (hchecked : ⟨c, .select .other, s₃⟩ ∈ (sessionRun env start calls (es ++ fs ++ gs)).log) :
    s₃.fault = none → readEpoch keyImage s < readEpoch keyImage s₃ := by
  obtain ⟨n₀, hn₀, hpos⟩ := exists_epochOf hepochs hrow
  have hrises : Rises keyImage n₀ [] (sessionRun env start calls es).world
      (sessionRun env start calls es).log := sessionRun_rises [] es hn₀
  obtain ⟨n₁, hn₁, -, hlog₁⟩ := hrises
  obtain ⟨n₂, hn₂, -, hlog₂⟩ := sessionRun_rises es fs hn₁
  obtain ⟨n₃, -, -, hlog₃⟩ := sessionRun_rises (es ++ fs) gs hn₂
  obtain ⟨m, hm, hm₀, hm₁, -⟩ := (hlog₁ _ hissued).resolve_left nofun
  have hpost := sessionRun_post _ hrevoke hrevoked
  cases r with
  | epoch n =>
    obtain ⟨s₂, hs₂, hf₂⟩ := hpost
    have hmem₂ := mem_threadTrace.1 hs₂
    obtain ⟨m₂, -, hm₁₂, -, hbump⟩ := (hlog₂ _ hmem₂).resolve_left fun hold => hlater _ hold rfl
    have hlt := hbump rfl hf₂
    obtain ⟨m₃, hm₃, hge, -, -⟩ := (hlog₃ _ hchecked).resolve_left fun hold => hstart _ hold rfl
    intro hf
    rw [readEpoch_eq hm, readEpoch_eq hm₃, if_pos hf]
    split <;> omega
  | _ => exact hpost.elim

variable {token owner : String}

/-- Once `revoke_all` has returned, no session issued for the owner before is accepted by a
check that starts later. -/
theorem revoked_session_refused (hepochs : ∀ r ∈ start.db.credentials, 0 ≤ r.sessionEpoch)
    (hrow : ∃ r ∈ start.db.credentials, r.keyImageHex = keyImage)
    (hissue : calls[i]? = some (.issue tenantId keyImage))
    (htoken : (sessionRun env start calls es).result i = some (.ok (.session token expiresAt)))
    (hrevoke : calls[j]? = some (.revokeAll keyImage))
    (hlater : ∀ e ∈ (sessionRun env start calls es).log, e.thread ≠ j)
    (hrevoked : (sessionRun env start calls (es ++ fs)).result j = some (.ok (.epoch n)))
    (hcheck : calls[c]? = some (.check tenant' (some token)))
    (hstart : ∀ e ∈ (sessionRun env start calls (es ++ fs)).log, e.thread ≠ c)
    (hread : ∀ e ∈ (sessionRun env start calls (es ++ fs ++ gs)).log, e.thread = c →
      EpochIsRead env calls e) :
    (sessionRun env start calls (es ++ fs ++ gs)).result c ≠ some (.ok (.owner (some owner))) := by
  intro haccept
  obtain ⟨s, now, hs, hsession, -⟩ := sessionRun_post _ hissue htoken
  obtain ⟨v, exp, s₃, -, hparse, hkey, -, -, hs₃, hepoch⟩ := sessionRun_post _ hcheck haccept
  replace hparse : parseSession env token tenant' = some (v, exp) := hparse
  obtain ⟨-, hkey', hold, -⟩ := eq_of_parseSession (hsession ▸ hparse)
  obtain rfl := hkey.symm.trans hkey'
  have hlt := epoch_lt_of_revoked hepochs hrow (mem_threadTrace.1 hs) hrevoke hlater hrevoked hstart
    (mem_threadTrace.1 hs₃)
  cases hf : s₃.fault with
  | none =>
    have := hlt hf
    omega
  | some e =>
    have hzero : v.epoch = 0 := by simp [hepoch, readEpoch, hf]
    have hnone := hread _ (mem_threadTrace.1 hs₃) rfl _ _ _ _ hcheck hparse hzero rfl
    rw [hf] at hnone
    cases hnone

/-- A session that is accepted was issued for the tenant and the owner it is accepted for,
and has not expired. -/
theorem accepted_session_bound {sched : List Event}
    (hcheck : calls[c]? = some (.check tenantId (some token)))
    (haccept : (sessionRun env start calls sched).result c = some (.ok (.owner (some owner))))
    (hissue : calls[i]? = some (.issue tenant' keyImage))
    (htoken : (sessionRun env start calls sched).result i = some (.ok (.session token expiresAt))) :
    tenant' = tenantId ∧ keyImage = owner ∧
      ∃ s, ⟨c, .clock, s⟩ ∈ (sessionRun env start calls sched).log ∧ s.nowSecs ≤ expiresAt := by
  obtain ⟨s, now, -, hsession, hexp⟩ := sessionRun_post _ hissue htoken
  obtain ⟨v, exp, -, s', hparse, hkey, hclock, hle, -⟩ := sessionRun_post _ hcheck haccept
  replace hparse : parseSession env token tenantId = some (v, exp) := hparse
  obtain ⟨htenant, hkey', -, hexp'⟩ := eq_of_parseSession (hsession ▸ hparse)
  refine ⟨htenant.symm, hkey'.symm.trans hkey, s', mem_threadTrace.1 hclock, ?_⟩
  rw [hexp, ← hexp']
  exact hle

variable (env) in
/-- Tags cannot be forged: a signed text that a check is handed is a session that was
issued. -/
def Unforged (calls : List SessionCall) (cfg : SrvConfig F String SessionResult) : Prop :=
  ∀ (c : ℕ) (tenantId token payload : String), calls[c]? = some (.check tenantId (some token)) →
    splitLastBar token = some (payload, sessionSign env payload) →
    ∃ (i : ℕ) (tenant' keyImage : String) (expiresAt : ℤ),
      calls[i]? = some (.issue tenant' keyImage) ∧
      cfg.result i = some (.ok (.session token expiresAt))

variable (env) in
/-- **Sessions.** Once `revoke_all` has returned, no session issued for the owner before is
accepted by a check that starts later, if the owner has a row and the check does not fail to
read the epoch of a session of epoch 0. A session that is accepted was issued, for the tenant and
the owner it is accepted for, and it has not expired. -/
theorem session_revocation_final (start : World F) (calls : List SessionCall)
    (hepochs : ∀ r ∈ start.db.credentials, 0 ≤ r.sessionEpoch) :
    (∀ (es fs gs : List Event) (keyImage : String),
      (∃ r ∈ start.db.credentials, r.keyImageHex = keyImage) →
      ∀ (i j c : ℕ) (tenantId tenant' token owner : String) (expiresAt n : ℤ),
        calls[i]? = some (.issue tenantId keyImage) →
        (sessionRun env start calls es).result i = some (.ok (.session token expiresAt)) →
        calls[j]? = some (.revokeAll keyImage) →
        (∀ e ∈ (sessionRun env start calls es).log, e.thread ≠ j) →
        (sessionRun env start calls (es ++ fs)).result j = some (.ok (.epoch n)) →
        calls[c]? = some (.check tenant' (some token)) →
        (∀ e ∈ (sessionRun env start calls (es ++ fs)).log, e.thread ≠ c) →
        (∀ e ∈ (sessionRun env start calls (es ++ fs ++ gs)).log, e.thread = c →
          EpochIsRead env calls e) →
        (sessionRun env start calls (es ++ fs ++ gs)).result c ≠
          some (.ok (.owner (some owner)))) ∧
      ∀ sched, Unforged env calls (sessionRun env start calls sched) →
        ∀ (c : ℕ) (tenantId token owner : String),
          calls[c]? = some (.check tenantId (some token)) →
          (sessionRun env start calls sched).result c = some (.ok (.owner (some owner))) →
          ∃ (i : ℕ) (expiresAt : ℤ), calls[i]? = some (.issue tenantId owner) ∧
            (sessionRun env start calls sched).result i =
              some (.ok (.session token expiresAt)) ∧
            ∃ s, ⟨c, .clock, s⟩ ∈ (sessionRun env start calls sched).log ∧
              s.nowSecs ≤ expiresAt := by
  refine ⟨?_, ?_⟩
  · intro es fs gs keyImage hrow i j c tenantId tenant' token owner expiresAt n hissue htoken
      hrevoke hlater hrevoked hcheck hstart hread
    exact revoked_session_refused hepochs hrow hissue htoken hrevoke hlater hrevoked hcheck
      hstart hread
  · intro sched hforge c tenantId token owner hcheck haccept
    obtain ⟨v, exp, -, -, hparse, -⟩ := sessionRun_post _ hcheck haccept
    replace hparse : parseSession env token tenantId = some (v, exp) := hparse
    obtain ⟨payload, -, -, hsplit, -⟩ := of_parseSession hparse
    obtain ⟨i, tenant', keyImage, expiresAt, hissue, htoken⟩ := hforge c tenantId token payload
      hcheck hsplit
    obtain ⟨rfl, rfl, hclock⟩ := accepted_session_bound hcheck haccept hissue htoken
    exact ⟨i, expiresAt, hissue, htoken, hclock⟩

/-! ## A session that outlives its revocation -/

def leakedOwner : String := String.ofList (List.replicate 64 'a')

/-- The session of the owner that is issued at second 5. -/
def leakedSession : String := (issueSession (sampleEnv ℚ) "default" leakedOwner 0 5).1

def leakCalls : List SessionCall :=
  [.issue "default" leakedOwner, .revokeAll leakedOwner, .check "default" (some leakedSession)]

def unknownOwner : World ℚ := World.steady (Db.empty ℚ) 5000

def knownOwner : World ℚ :=
  World.steady { Db.empty ℚ with credentials := [⟨leakedOwner, "pk", 0⟩] } 5000

/-- The read of the epoch in the check, the fourth statement, fails. -/
def failingRead : World ℚ :=
  { knownOwner with faults := [none, none, none, some "database is locked"] }

/-- The three calls one after the other, and what they return. -/
def leakRun (start : World ℚ) : List (Option (Except String SessionResult)) :=
  let cfg := sessionRun (sampleEnv ℚ) start leakCalls
    ([.step 0, .step 0] ++ [.step 1, .step 1] ++ [.step 2, .step 2])
  [cfg.result 0, cfg.result 1, cfg.result 2]

/-- The session is accepted after its revocation: the owner has no row, or the read of the
epoch fails. -/
theorem revoked_session_accepted :
    leakRun unknownOwner = [some (.ok (.session leakedSession 3605)), some (.ok (.epoch 0)),
        some (.ok (.owner (some leakedOwner)))] ∧
      leakRun failingRead = [some (.ok (.session leakedSession 3605)), some (.ok (.epoch 1)),
        some (.ok (.owner (some leakedOwner)))] := by
  decide +kernel

theorem known_owner_session_refused :
    (∀ r ∈ knownOwner.db.credentials, 0 ≤ r.sessionEpoch) ∧
      (sessionRun (sampleEnv ℚ) knownOwner leakCalls
        ([.step 0, .step 0] ++ [.step 1, .step 1] ++ [.step 2, .step 2])).result 2 ≠
        some (.ok (.owner (some leakedOwner))) := by
  have hepochs : ∀ r ∈ knownOwner.db.credentials, 0 ≤ r.sessionEpoch := by decide
  have hreliable : ∀ e ∈ (sessionRun (sampleEnv ℚ) knownOwner leakCalls
      ([.step 0, .step 0] ++ [.step 1, .step 1] ++ [.step 2, .step 2])).log,
      e.before.fault = none := by decide +kernel
  refine ⟨hepochs, (session_revocation_final (sampleEnv ℚ) knownOwner leakCalls hepochs).1
    [.step 0, .step 0] [.step 1, .step 1] [.step 2, .step 2] leakedOwner ⟨_, .head _, rfl⟩
    0 1 2 "default" "default" leakedSession leakedOwner 3605 1 rfl ?_ rfl ?_ ?_ rfl ?_
    fun e he _ _ _ _ _ _ _ _ _ => hreliable e he⟩ <;> decide +kernel

end SauronID.Agent
