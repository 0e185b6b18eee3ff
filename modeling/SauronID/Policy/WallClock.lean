import SauronID.Policy.Gate

/-!
# The wall clock of a policy

One zone serves all checks that look at the clock: that of the time window, or UTC. Here the
start of the day it gives is compared with the local day itself, for any zone whose local times
resolve as they should, and the business hours with the zone they name.
-/

namespace SauronID.Dsl

variable {F : Type} {engine : Engine F} {policy : Policy F} {now : ℤ}

namespace Zone

variable (z : Zone) (u : ℤ)

/-- What the clocks of the zone show, in seconds since their own epoch. -/
def localTime : ℤ := u + z.offset u

def localDay : ℤ := z.localTime u / 86400

/-- The hour and minute the clocks show. -/
def hhmm : String :=
  padded 2 (z.localTime u % 86400 / 60 / 60).toNat ++ ":" ++
    padded 2 (z.localTime u % 86400 / 60 % 60).toNat

def weekday : ℕ := ((z.localDay u + 4) % 7).toNat

/-- The start of the local day as the wall clock takes it. -/
def dayStart : ℤ :=
  match z.fromLocal (z.localDay u * 86400) with
  | .single t => t
  | .ambiguous _ later => later
  | .none => u

/-- A local time resolves to the instants at which the clocks show it. -/
structure Lawful : Prop where
  none {l : ℤ} (h : z.fromLocal l = .none) : ∀ u, z.localTime u ≠ l
  single {l t : ℤ} (h : z.fromLocal l = .single t) : ∀ u, z.localTime u = l ↔ u = t
  ambiguous {l t₁ t₂ : ℤ} (h : z.fromLocal l = .ambiguous t₁ t₂) :
    t₁ < t₂ ∧ ∀ u, z.localTime u = l ↔ u = t₁ ∨ u = t₂

end Zone

theorem policyWallClock_eq (h : engine.representable now = true) :
    policyWallClock engine policy now =
      { hhmm := (policyTz engine policy).hhmm now
        weekday := (policyTz engine policy).weekday now
        date := formatDate (civilDate ((policyTz engine policy).localDay now))
        dayStartEpoch := (policyTz engine policy).dayStart now } := if_pos h

/-! ## The start of the day -/

/-- The local day of `now` has one midnight, not after `now`, and nothing of it comes before; or
it has none, and nothing of it comes before `now`. -/
def Zone.DayBegun (z : Zone) (now : ℤ) : Prop :=
  (∃ t ≤ now, (∀ u, z.localTime u = z.localDay now * 86400 ↔ u = t) ∧
    ∀ u < t, z.localDay u ≠ z.localDay now) ∨
  ((∀ u, z.localTime u ≠ z.localDay now * 86400) ∧ ∀ u < now, z.localDay u ≠ z.localDay now)

variable {z : Zone}

theorem Zone.localDay_of_midnight {u day : ℤ} (h : z.localTime u = day * 86400) :
    z.localDay u = day := by
  rw [Zone.localDay, h]
  omega

/-- The start of the day is not after any instant of the day up to now. -/
theorem Zone.dayStart_le_iff (hz : z.Lawful) :
    (∀ u ≤ now, z.localDay u = z.localDay now → z.dayStart now ≤ u) ↔ z.DayBegun now := by
  unfold Zone.dayStart Zone.DayBegun
  cases hmidnight : z.fromLocal (z.localDay now * 86400) with
  | none =>
    have hnone := hz.none hmidnight
    dsimp only
    constructor
    · intro hall
      refine .inr ⟨hnone, fun u hu hday => ?_⟩
      have := hall u hu.le hday
      omega
    · rintro (⟨t, -, huniq, -⟩ | ⟨-, hfirst⟩) u hu hday
      · exact absurd ((huniq t).2 rfl) (hnone t)
      · by_contra hlt
        exact hfirst u (by omega) hday
  | single t =>
    have hsingle := hz.single hmidnight
    dsimp only
    constructor
    · intro hall
      refine .inl ⟨t, hall now le_rfl rfl, hsingle, fun u hu hday => ?_⟩
      have hnow := hall now le_rfl rfl
      have := hall u (by omega) hday
      omega
    · rintro (⟨t', ht', huniq, hfirst⟩ | ⟨hnone, -⟩) u hu hday
      · have htt : t = t' := (huniq t).1 ((hsingle t).2 rfl)
        by_contra hlt
        exact hfirst u (by omega) hday
      · exact absurd ((hsingle t).2 rfl) (hnone t)
  | ambiguous t₁ t₂ =>
    obtain ⟨hlt, htwo⟩ := hz.ambiguous hmidnight
    have hfirst := (htwo t₁).2 (.inl rfl)
    have hsecond := (htwo t₂).2 (.inr rfl)
    dsimp only
    constructor
    · -- the first of the two midnights is missed
      intro hall
      have hnow := hall now le_rfl rfl
      have := hall t₁ (by omega) (Zone.localDay_of_midnight hfirst)
      omega
    · rintro (⟨t, -, huniq, -⟩ | ⟨hnone, -⟩)
      · have h₁ := (huniq t₁).1 hfirst
        have h₂ := (huniq t₂).1 hsecond
        omega
      · exact absurd hfirst (hnone t₁)

variable [Float64 F]

/-- What was spent since `dayStart`, or on the local day of `now` and before it. -/
def spendWithDay (z : Zone) (now : ℤ) (tenant agentId : String) (db : Db F) (policyId : String)
    (dayStart : ℤ) : F :=
  (db.spendLog.filter fun r => r.tenantId == tenant && r.policyId == policyId &&
    r.agentId == agentId && (decide (dayStart ≤ r.recordedAt) ||
      decide (r.recordedAt ≤ now) && z.localDay r.recordedAt == z.localDay now)).foldl
        (fun sum r => Float64.add sum r.amountUsd) (Float64.ofInt 0)

/-- Where the start of the day is not after the day, its spends are counted. -/
theorem dailySpend_eq_spendWithDay {dayStart : ℤ}
    (h : ∀ u ≤ now, z.localDay u = z.localDay now → dayStart ≤ u) (tenant agentId policyId : String)
    (db : Db F) : dailySpend tenant agentId db policyId dayStart =
      spendWithDay z now tenant agentId db policyId dayStart := by
  unfold dailySpend spendWithDay
  congr 2
  funext r
  congr 1
  by_cases hstart : dayStart ≤ r.recordedAt
  · simp [hstart]
  · have hother : r.recordedAt ≤ now → z.localDay r.recordedAt ≠ z.localDay now :=
      fun hr hday => hstart (h _ hr hday)
    simpa [hstart] using hother

/-- **The daily window.** For every zone of a policy and every time that is a date, the start of
the day is at most every instant of the same local day up to now, and every spend of these is
counted, exactly if the day has begun with its one midnight, or, where there is none, just
now. -/
theorem day_start_covers_iff (hz : (policyTz engine policy).Lawful)
    (hnow : engine.representable now = true) :
    ((∀ u ≤ now, (policyTz engine policy).localDay u = (policyTz engine policy).localDay now →
        (policyWallClock engine policy now).dayStartEpoch ≤ u) ∧
      ∀ tenant agentId policyId (db : Db F),
        dailySpend tenant agentId db policyId (policyWallClock engine policy now).dayStartEpoch =
          spendWithDay (policyTz engine policy) now tenant agentId db policyId
            (policyWallClock engine policy now).dayStartEpoch) ↔
    (policyTz engine policy).DayBegun now := by
  rw [policyWallClock_eq hnow]
  constructor
  · rintro ⟨hcovers, -⟩
    exact (Zone.dayStart_le_iff hz).1 hcovers
  · intro hbegun
    have hcovers := (Zone.dayStart_le_iff hz).2 hbegun
    exact ⟨hcovers, dailySpend_eq_spendWithDay hcovers⟩

/-- A zone whose clocks go from `before` to `after` seconds ahead of UTC at an instant. -/
def Zone.changing (before after change : ℤ) : Zone where
  offset u := if u < change then before else after
  fromLocal l :=
    if l - before < change then
      if change ≤ l - after then .ambiguous (l - before) (l - after) else .single (l - before)
    else if change ≤ l - after then .single (l - after) else .none

theorem Zone.lawful_changing (before after change : ℤ) :
    (Zone.changing before after change).Lawful := by
  have hlocal : ∀ u l, (Zone.changing before after change).localTime u = l ↔
      u = l - before ∧ l - before < change ∨ u = l - after ∧ change ≤ l - after := by
    intro u l
    simp only [Zone.localTime, Zone.changing]
    split <;> omega
  constructor
  · intro l h u
    rw [ne_eq, hlocal]
    simp only [Zone.changing] at h
    split_ifs at h
    omega
  · intro l t h u
    rw [hlocal]
    simp only [Zone.changing] at h
    split_ifs at h <;> cases h <;> omega
  · intro l t₁ t₂ h
    simp only [hlocal]
    simp only [Zone.changing] at h
    split_ifs at h
    cases h
    refine ⟨by omega, fun u => by omega⟩

/-- The sample engine with a zone of its own. -/
def zonedEngine (z : Zone) : Engine ℚ :=
  { sampleEngine ℚ with zone := fun name => if name = "UTC" then some .utc else some z }

/-- A policy that names the zone. -/
def zonedPolicy : Policy ℚ :=
  ⟨"1", "agt_1", { timeWindow := some ⟨"00:00", "23:59", "Local"⟩ }, []⟩

/-- The clocks are set back at half past midnight: the first half hour of the day lies before its
start. They are set ahead to half past midnight: all of the day does. -/
theorem part_of_day_missed :
    ((Zone.changing 3600 0 84600).Lawful ∧ (Zone.changing 0 3600 84600).Lawful) ∧
    (∃ u ≤ 90000, (Zone.changing 3600 0 84600).localDay u =
        (Zone.changing 3600 0 84600).localDay 90000 ∧
      u < (policyWallClock (zonedEngine (.changing 3600 0 84600)) zonedPolicy
        90000).dayStartEpoch) ∧
    ∃ u ≤ 85200, (Zone.changing 0 3600 84600).localDay u =
        (Zone.changing 0 3600 84600).localDay 85200 ∧
      u < (policyWallClock (zonedEngine (.changing 0 3600 84600)) zonedPolicy
        85200).dayStartEpoch :=
  ⟨⟨Zone.lawful_changing .., Zone.lawful_changing ..⟩, ⟨82800, by decide +kernel⟩,
    84600, by decide +kernel⟩

/-- The noon after the clocks were set back. -/
theorem later_day_covered :
    (Zone.changing 3600 0 84600).DayBegun 216000 ∧
    ∀ u ≤ 216000, (Zone.changing 3600 0 84600).localDay u =
        (Zone.changing 3600 0 84600).localDay 216000 →
      (policyWallClock (zonedEngine (.changing 3600 0 84600)) zonedPolicy 216000).dayStartEpoch ≤
        u := by
  have hbegun : (Zone.changing 3600 0 84600).DayBegun 216000 := by
    refine .inl ⟨172800, by decide, fun u => ?_, fun u hu => ?_⟩
    · simp only [Zone.localTime, Zone.localDay, Zone.changing]
      split <;> omega
    · simp only [Zone.localTime, Zone.localDay, Zone.changing]
      split <;> omega
  have hz : (policyTz (zonedEngine (.changing 3600 0 84600)) zonedPolicy).Lawful :=
    Zone.lawful_changing 3600 0 84600
  exact ⟨hbegun, ((day_start_covers_iff hz rfl).2 hbegun).1⟩

/-! ## Business hours -/

/-- The zone of a name that passed validation. -/
def Engine.zoneNamed (engine : Engine F) (name : String) : Zone := (engine.zone name).getD .utc

/-- The time is within the hours, by the clocks of a zone. -/
def openAt (engine : Engine F) (windows : List (ℕ × String × String)) (z : Zone) (now : ℤ) : Bool :=
  engine.representable now &&
    match windows.find? fun w => w.1 == z.weekday now with
    | none => false
    | some (_, start, stop) => inWindow start stop (z.hhmm now)

/-- Hours that pass validation. -/
def ValidHours (engine : Engine F) (windows : List (ℕ × String × String)) : Prop :=
  ∀ w ∈ windows, w.1 ≤ 6 ∧ isHhmm engine w.2.1 = true ∧ isHhmm engine w.2.2 = true

theorem padded_two :
    ∀ n < 100, padded 2 n = String.ofList [(n / 10).digitChar, (n % 10).digitChar] := by
  decide +kernel

omit [Float64 F] in
/-- The time a clock shows is a valid bound of a window. -/
theorem isHhmm_hhmm {engine : Engine F} (hdigit : ∀ c : Char, c.isDigit → engine.digit c = true)
    (z : Zone) (u : ℤ) : isHhmm engine (z.hhmm u) = true := by
  obtain ⟨h, hh⟩ : ∃ h, h = (z.localTime u % 86400 / 60 / 60).toNat := ⟨_, rfl⟩
  obtain ⟨m, hm⟩ : ∃ m, m = (z.localTime u % 86400 / 60 % 60).toNat := ⟨_, rfl⟩
  have hlast : ∀ n, engine.digit (n % 10).digitChar = true := fun n =>
    hdigit _ (by simp [Nat.isDigit_digitChar, Nat.mod_lt])
  have hhour : ∀ h < 24, (h < 10 ∨ h / 10 = 1) ∨
      (h / 10 = 2 ∧ '0' ≤ (h % 10).digitChar) ∧ (h % 10).digitChar ≤ '3' := by decide
  have hminute : ∀ m < 60, '0' ≤ (m / 10).digitChar ∧ (m / 10).digitChar ≤ '5' := by decide
  rw [Zone.hhmm, ← hh, ← hm, padded_two h (by omega), padded_two m (by omega)]
  simpa [isHhmm, hlast, hminute m (by omega)] using hhour h (by omega)

omit [Float64 F] in
/-- Two zones agree on all hours exactly where their clocks show the same. -/
theorem openAt_eq_iff {engine : Engine F} (hdigit : ∀ c : Char, c.isDigit → engine.digit c = true)
    {now : ℤ} (hnow : engine.representable now = true) (z z' : Zone) :
    (∀ windows, ValidHours engine windows →
      openAt engine windows z now = openAt engine windows z' now) ↔
    z.weekday now = z'.weekday now ∧ z.hhmm now = z'.hhmm now := by
  constructor
  · intro hall
    -- the window of this one minute
    have hvalid : ValidHours engine [(z.weekday now, z.hhmm now, z.hhmm now)] := by
      have hhmm := isHhmm_hhmm hdigit z now
      refine List.forall_mem_singleton.2 ⟨?_, hhmm, hhmm⟩
      simp only [Zone.weekday]
      omega
    have hopen := hall _ hvalid
    by_cases hday : z.weekday now = z'.weekday now
    · simp only [openAt, hnow, inWindow, hday, List.find?_cons_of_pos, beq_self_eq_true, le_refl,
        if_true, decide_true, Bool.and_self, Bool.true_and] at hopen
      obtain ⟨hle, hge⟩ : z.hhmm now ≤ z'.hhmm now ∧ z'.hhmm now ≤ z.hhmm now := by
        simpa using hopen.symm
      exact ⟨hday, le_antisymm hle hge⟩
    · simp [openAt, hnow, inWindow, hday] at hopen
  · rintro ⟨hday, htime⟩ windows -
    rw [openAt, hday, htime, openAt]

omit [Float64 F] in
/-- The one check of the name is that of the business hours. -/
theorem CompiledPolicy.exists_businessHours (p : CompiledPolicy engine) {bh : BusinessHours}
    (hp : p.raw.binding.businessHours = some bh) {P : RuntimeCheck F → Prop} :
    (∃ c ∈ p.checks, c.name = "business_hours" ∧ P c) ↔
      P (.businessHours bh.weekdayWindows bh.timezone) := by
  obtain ⟨window, hours, invariants, hwindow, hhours, hinv, hchecks⟩ :=
    compileChecks_parts p.compiled
  -- the compiled hours are those of the document
  have hone : hours = [.businessHours bh.weekdayWindows bh.timezone] := by
    rw [hp] at hhours
    cases hf : businessHoursFromConfig engine bh with
    | error e => simp [optionalM, hf, bind, Except.bind] at hhours
    | ok c =>
      simp only [optionalM, Option.toList, List.mapM_cons, hf, List.mapM_nil] at hhours
      cases hhours
      rw [businessHoursFromConfig_eq_ok hf]
  have hmem : ∀ windows tz, RuntimeCheck.businessHours windows tz ∈ p.checks ↔
      windows = bh.weekdayWindows ∧ tz = bh.timezone := by
    intro windows tz
    have hw : RuntimeCheck.businessHours windows tz ∉ window := by
      intro hc
      obtain ⟨tw, htw⟩ := mem_optionalM hwindow hc
      cases timeFromWindow_eq_ok htw
    have hi : RuntimeCheck.businessHours windows tz ∉ invariants := by
      intro hc
      obtain ⟨src, expr, h⟩ := mem_compileInvariants hinv hc
      cases h
    rw [hchecks, hone]
    unfold orderedChecks
    simp [optional, hw, hi]
  constructor
  · rintro ⟨c, hc, hname, hP⟩
    cases c with
    | businessHours windows tz =>
      obtain ⟨rfl, rfl⟩ := (hmem windows tz).1 hc
      exact hP
    | _ => simp [RuntimeCheck.name] at hname
  · intro hP
    exact ⟨_, (hmem _ _).2 ⟨rfl, rfl⟩, rfl, hP⟩

/-- The check goes by the clocks of the policy's zone. -/
theorem businessHours_isAllow {windows : List (ℕ × String × String)} {tz : String}
    (hdays : ∀ w ∈ windows, w.1 ≤ 6) {action : Action F} {spend : F} {facts : AgentRuntimeFacts F} :
    ((RuntimeCheck.businessHours windows tz).evaluate engine (contextOf action spend now
        (policyWallClock engine policy now) facts)).isAllow =
      openAt engine windows (policyTz engine policy) now := by
  unfold RuntimeCheck.evaluate openAt
  cases hnow : engine.representable now with
  | false =>
    -- the clock shows the weekday 7
    have hnone : windows.find? (fun w => w.1 == 7) = none := by
      rw [List.find?_eq_none]
      intro w hw
      have := hdays w hw
      simp only [beq_iff_eq]
      omega
    simp [policyWallClock, hnow, contextOf, hnone, Verdict.isAllow]
  | true =>
    simp only [policyWallClock_eq hnow, contextOf, Bool.true_and]
    cases hday : windows.find? fun w => w.1 == (policyTz engine policy).weekday now with
    | none => rfl
    | some w =>
      obtain ⟨day, start, stop⟩ := w
      cases hin : inWindow start stop ((policyTz engine policy).hhmm now) <;>
        simp [hin, denyIf, Verdict.isAllow]

/-- **The zone of the business hours.** For every policy with business hours and every time, it is
denied on them exactly outside of the hours in the zone they name if and only if the clocks of
that zone and those of the policy's zone agree on whether it is within them. They agree on this
for all hours exactly where they show the same weekday, hour and minute. -/
theorem business_hours_iff (p : CompiledPolicy engine) {bh : BusinessHours}
    (hp : p.raw.binding.businessHours = some bh) (hdays : ∀ w ∈ bh.weekdayWindows, w.1 ≤ 6)
    (now : ℤ) (action : Action F) (spend : F) (facts : AgentRuntimeFacts F) :
    (((∃ c ∈ p.checks, c.name = "business_hours" ∧ (c.evaluate engine (contextOf action spend now
        (policyWallClock engine p.raw now) facts)).isAllow = false) ↔
      openAt engine bh.weekdayWindows (engine.zoneNamed bh.timezone) now = false) ↔
    openAt engine bh.weekdayWindows (policyTz engine p.raw) now =
      openAt engine bh.weekdayWindows (engine.zoneNamed bh.timezone) now) ∧
    ((∀ c : Char, c.isDigit → engine.digit c = true) → engine.representable now = true →
      ((∀ windows, ValidHours engine windows →
          openAt engine windows (policyTz engine p.raw) now =
            openAt engine windows (engine.zoneNamed bh.timezone) now) ↔
        (policyTz engine p.raw).weekday now = (engine.zoneNamed bh.timezone).weekday now ∧
          (policyTz engine p.raw).hhmm now = (engine.zoneNamed bh.timezone).hhmm now)) := by
  refine ⟨?_, fun hdigit hnow => openAt_eq_iff hdigit hnow _ _⟩
  rw [p.exists_businessHours hp, businessHours_isAllow hdays]
  cases openAt engine bh.weekdayWindows (policyTz engine p.raw) now <;>
    cases openAt engine bh.weekdayWindows (engine.zoneNamed bh.timezone) now <;> simp

/-- The sample engine with a zone five hours behind UTC. -/
def behindEngine : Engine ℚ := zonedEngine (.changing (-18000) (-18000) 0)

/-- Business hours on Thursdays in that zone, and no time window. -/
def thursdayPolicy : CompiledPolicy behindEngine :=
  ⟨"p", "agt_1", [.businessHours [(4, "09:00", "17:00")] "Local"],
    ⟨"1", "agt_1", { businessHours := some ⟨[(4, "09:00", "17:00")], "Local"⟩ }, []⟩, rfl⟩

/-- The first action of an agent. -/
def firstContext (now : ℤ) : EvaluationContext ℚ :=
  contextOf { actionId := "", tool := "", timestamp := 0 } 0 now
    (policyWallClock behindEngine thursdayPolicy.raw now) (.ofReads now [] 0 0)

/-- At ten o'clock UTC the agent may act, hours before they begin where they are meant; at eight
in the evening it may not, in the afternoon there. -/
theorem hours_taken_in_utc :
    (evaluate thursdayPolicy (firstContext 36000) = .allow ∧
      openAt behindEngine [(4, "09:00", "17:00")] (behindEngine.zoneNamed "Local") 36000 = false) ∧
    (evaluate thursdayPolicy (firstContext 72000)).isAllow = false ∧
      openAt behindEngine [(4, "09:00", "17:00")] (behindEngine.zoneNamed "Local") 72000 =
        true := by
  decide +kernel

/-- At four in the afternoon UTC it is within the hours in both zones. -/
theorem hours_agree_at_four :
    (∃ c ∈ thursdayPolicy.checks, c.name = "business_hours" ∧
      (c.evaluate behindEngine (firstContext 57600)).isAllow = false) ↔
    openAt behindEngine [(4, "09:00", "17:00")] (behindEngine.zoneNamed "Local") 57600 = false :=
  (business_hours_iff thursdayPolicy rfl (by decide) 57600 _ _ _).1.2 (by decide +kernel)

end SauronID.Dsl
