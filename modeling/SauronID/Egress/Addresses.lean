import SauronID.Egress.Rules

/-!
# Addresses that stand for other addresses

An IPv6 address can carry an IPv4 address in several forms, and a call to the one may arrive at
the other. All of them but one are refused when the address they carry is: the prefix for local
use of NAT64.
-/

namespace SauronID.Egress

variable {F : Type} {env : Env F} {a b c d : UInt8}

/-! ## Embedded addresses -/

/-- Two octets in network order. -/
def word (high low : UInt8) : UInt16 := UInt16.ofNat (high.toNat * 256 + low.toNat)

@[simp] theorem high_word (high low : UInt8) : (word high low >>> 8).toUInt8 = high := by
  have := high.toNat_lt
  have := low.toNat_lt
  apply UInt8.toNat_inj.1
  rw [word, UInt16.toNat_toUInt8, UInt16.toNat_shiftRight, UInt16.toNat_ofNat',
    Nat.shiftRight_eq_div_pow, show (8 : UInt16).toNat % 16 = 8 from rfl]
  omega

@[simp] theorem low_word (high low : UInt8) : (word high low).toUInt8 = low := by
  have := high.toNat_lt
  have := low.toNat_lt
  apply UInt8.toNat_inj.1
  rw [word, UInt16.toNat_toUInt8, UInt16.toNat_ofNat']
  omega

/-- The forms in which an IPv6 address carries an IPv4 address. -/
inductive Embedding where
  | mapped
  | compatible
  | nat64
  /-- The prefix `64:ff9b:1::/48` of RFC 8215. -/
  | localNat64
  | sixToFour
  | teredo
  deriving DecidableEq

/-- The IPv6 address carries the IPv4 address `a.b.c.d`. -/
def Embedding.Carries (a b c d : UInt8) : Embedding → IpAddr → Prop
  | _, .v4 _ _ _ _ => False
  | .mapped, .v6 s₀ s₁ s₂ s₃ s₄ s₅ s₆ s₇ =>
    s₀ = 0 ∧ s₁ = 0 ∧ s₂ = 0 ∧ s₃ = 0 ∧ s₄ = 0 ∧ s₅ = 0xffff ∧ s₆ = word a b ∧ s₇ = word c d
  | .compatible, .v6 s₀ s₁ s₂ s₃ s₄ s₅ s₆ s₇ =>
    s₀ = 0 ∧ s₁ = 0 ∧ s₂ = 0 ∧ s₃ = 0 ∧ s₄ = 0 ∧ s₅ = 0 ∧ s₆ = word a b ∧ s₇ = word c d
  | .nat64, .v6 s₀ s₁ s₂ s₃ s₄ s₅ s₆ s₇ =>
    s₀ = 0x64 ∧ s₁ = 0xff9b ∧ s₂ = 0 ∧ s₃ = 0 ∧ s₄ = 0 ∧ s₅ = 0 ∧ s₆ = word a b ∧ s₇ = word c d
  | .localNat64, .v6 s₀ s₁ s₂ s₃ s₄ s₅ s₆ s₇ =>
    -- a translator may use the prefix with 48, 56, 64 or 96 bits; the bits 64 to 71 are zero
    s₀ = 0x64 ∧ s₁ = 0xff9b ∧ s₂ = 1 ∧
      ((s₃ = word a b ∧ s₄ = word 0 c ∧ (s₅ >>> 8).toUInt8 = d) ∨
        (s₃.toUInt8 = a ∧ s₄ = word 0 b ∧ s₅ = word c d) ∨
        (s₄ = word 0 a ∧ s₅ = word b c ∧ (s₆ >>> 8).toUInt8 = d) ∨
        (s₆ = word a b ∧ s₇ = word c d))
  | .sixToFour, .v6 s₀ s₁ s₂ _ _ _ _ _ => s₀ = 0x2002 ∧ s₁ = word a b ∧ s₂ = word c d
  | .teredo, .v6 s₀ s₁ s₂ s₃ _ _ s₆ s₇ =>
    -- the address of the server, or that of the client with its bits inverted
    s₀ = 0x2001 ∧ s₁ = 0 ∧
      ((s₂ = word a b ∧ s₃ = word c d) ∨ (s₆ = ~~~word a b ∧ s₇ = ~~~word c d))

/-- An address that carries a blocked one is blocked in all forms but the local prefix. -/
theorem isBlockedIp_iff_of_carries {form : Embedding} {ip : IpAddr} (h : form.Carries a b c d ip)
    (hblocked : isBlockedIp (.v4 a b c d) = true) : isBlockedIp ip = true ↔ form ≠ .localNat64 := by
  have hv4 : isBlockedV4 a b c d = true := hblocked
  cases ip with
  | v4 => cases form <;> cases h
  | v6 s₀ s₁ s₂ s₃ s₄ s₅ s₆ s₇ =>
    cases form with
    | mapped =>
      obtain ⟨rfl, rfl, rfl, rfl, rfl, rfl, rfl, rfl⟩ := h
      simp [isBlockedIp, hv4]
    | compatible =>
      obtain ⟨rfl, rfl, rfl, rfl, rfl, rfl, rfl, rfl⟩ := h
      simp [isBlockedIp, hv4]
    | nat64 =>
      obtain ⟨rfl, rfl, rfl, rfl, rfl, rfl, rfl, rfl⟩ := h
      simp [isBlockedIp]
    | localNat64 =>
      obtain ⟨rfl, rfl, rfl, -⟩ := h
      have hranges : ¬(100 : UInt16) &&& 65280 = 65280 ∧ ¬(100 : UInt16) &&& 65024 = 64512 ∧
          ¬(100 : UInt16) &&& 65472 = 65152 := by decide
      simp [isBlockedIp, hranges]
    | sixToFour =>
      obtain ⟨rfl, -⟩ := h
      simp [isBlockedIp]
    | teredo =>
      obtain ⟨rfl, rfl, -⟩ := h
      simp [isBlockedIp]

/-! ## Vetting the addresses of a host -/

/-- The address carries a blocked IPv4 address in a form. -/
def CarriesBlocked (form : Embedding) (ip : IpAddr) : Prop :=
  ∃ a b c d, isBlockedIp (.v4 a b c d) = true ∧ form.Carries a b c d ip

/-- The address is a blocked IPv4 address or carries one. -/
def DenotesBlocked (ip : IpAddr) : Prop :=
  (∃ a b c d, ip = .v4 a b c d ∧ isBlockedIp ip = true) ∨ ∃ form, CarriesBlocked form ip

theorem resolveAndVet_eq_ok {host : String} {port : ℕ} {first : IpAddr} {rest : List IpAddr} :
    resolveAndVet env host port = .ok (first, rest) ↔
      env.lookupHost host port = .ok (first :: rest) ∧
        ∀ ip ∈ first :: rest, isBlockedIp ip = false := by
  unfold resolveAndVet
  cases hlookup : env.lookupHost host port with
  | error e => simp
  | ok addrs =>
    cases addrs with
    | nil => simp
    | cons addr addrs =>
      dsimp only
      cases hfind : (addr :: addrs).find? isBlockedIp with
      | some blocked =>
        have hmem := List.mem_of_find?_eq_some hfind
        have hblocked := List.find?_some hfind
        simp only [reduceCtorEq, false_iff, Except.ok.injEq, not_and]
        intro heq hall
        rw [← heq] at hall
        rw [hall blocked hmem] at hblocked
        cases hblocked
      | none =>
        have hnone : ∀ ip ∈ addr :: addrs, isBlockedIp ip = false := by
          simpa using List.find?_eq_none.1 hfind
        constructor
        · intro h
          cases h
          exact ⟨rfl, hnone⟩
        · rintro ⟨h, -⟩
          cases h
          rfl

/-- **Vetting of addresses.** Whatever blocked IPv4 address an address carries, it is blocked
exactly if the form is not that of the local prefix. And what is resolved for a host is no blocked
IPv4 address and carries none exactly if some address of the host is blocked as it is, or none
of them carries one behind the local prefix. -/
theorem vetting_iff (env : Env F) :
    (∀ (form : Embedding) (a b c d : UInt8) (ip : IpAddr), form.Carries a b c d ip →
      isBlockedIp (.v4 a b c d) = true → (isBlockedIp ip = true ↔ form ≠ .localNat64)) ∧
    ∀ host port, (∀ first rest, resolveAndVet env host port = .ok (first, rest) →
        ∀ ip ∈ first :: rest, ¬DenotesBlocked ip) ↔
      ∀ addrs, env.lookupHost host port = .ok addrs →
        (∃ ip ∈ addrs, isBlockedIp ip = true) ∨ ∀ ip ∈ addrs, ¬CarriesBlocked .localNat64 ip := by
  refine ⟨fun form a b c d ip => isBlockedIp_iff_of_carries, fun host port => ⟨?_, ?_⟩⟩
  · intro hvetted addrs hlookup
    by_cases hblocked : ∃ ip ∈ addrs, isBlockedIp ip = true
    · exact .inl hblocked
    · refine .inr fun ip hip hcarries => ?_
      cases addrs with
      | nil => cases hip
      | cons first rest =>
        have hnone : ∀ ip ∈ first :: rest, isBlockedIp ip = false := by simpa using hblocked
        exact hvetted first rest (resolveAndVet_eq_ok.2 ⟨hlookup, hnone⟩) ip hip
          (.inr ⟨_, hcarries⟩)
  · intro hcond first rest hok ip hip hdenotes
    obtain ⟨hlookup, hnone⟩ := resolveAndVet_eq_ok.1 hok
    have hip' := hnone ip hip
    have hlocal : ∀ ip ∈ first :: rest, ¬CarriesBlocked .localNat64 ip := by
      refine (hcond _ hlookup).resolve_left ?_
      rintro ⟨ip, hip, hblocked⟩
      rw [hnone ip hip] at hblocked
      cases hblocked
    obtain ⟨a, b, c, d, -, hblocked⟩ | ⟨form, a, b, c, d, hblocked, hcarries⟩ := hdenotes
    · rw [hip'] at hblocked
      cases hblocked
    · by_cases hform : form = .localNat64
      · exact hlocal ip hip (hform ▸ ⟨a, b, c, d, hblocked, hcarries⟩)
      · rw [(isBlockedIp_iff_of_carries hcarries hblocked).2 hform] at hip'
        cases hip'

/-- The metadata address 169.254.169.254 behind the local prefix. -/
def localMetadata : IpAddr := .v6 0x64 0xff9b 1 0 0 0 0xa9fe 0xa9fe

/-- A host that resolves to it. -/
def localEnv : Env ℚ := { sampleEnv ℚ with lookupHost := fun _ _ => .ok [localMetadata] }

/-- The address is not blocked, and the host passes. -/
theorem local_prefix_passes :
    (Embedding.localNat64.Carries 169 254 169 254 localMetadata ∧
      isBlockedIp (.v4 169 254 169 254) = true ∧ isBlockedIp localMetadata = false) ∧
    resolveAndVet localEnv "metadata.example" 443 = .ok (localMetadata, []) := by
  refine ⟨⟨⟨rfl, rfl, rfl, .inr (.inr (.inr ⟨rfl, rfl⟩))⟩, ?_⟩, ?_⟩ <;> decide +kernel

/-- As a mapped address it is blocked. -/
theorem mapped_metadata_blocked :
    isBlockedIp (.v6 0 0 0 0 0 0xffff 0xa9fe 0xa9fe) = true :=
  ((vetting_iff (sampleEnv ℚ)).1 .mapped 169 254 169 254
    (.v6 0 0 0 0 0 0xffff 0xa9fe 0xa9fe) ⟨rfl, rfl, rfl, rfl, rfl, rfl, rfl, rfl⟩
      (by decide)).2 (by decide)

end SauronID.Egress
