import Mathlib.Algebra.Ring.Parity
import Mathlib.Data.List.Basic

/-!
# Merkle trees with promoted nodes

A level of the tree combines neighbours in pairs; a last node without a neighbour
goes up unchanged. `merkleRoot` is the node that remains, `merkleProof` collects the
siblings on the way up from a leaf, and `merkleClimb` recomputes the root from a leaf,
its index, the siblings and the number of leaves.

`merkleVerify_proof` is the completeness of the scheme: the proof produced from a list
of leaves recomputes the root of that list.
-/

namespace SauronID

variable {β : Type} (combine : β → β → β)

/-- The level above. -/
def merkleLevel : List β → List β
  | a :: b :: rest => combine a b :: merkleLevel rest
  | [a] => [a]
  | [] => []

/-- Go up `fuel` levels or until one node is left. -/
def merkleRootFuel : ℕ → List β → Option β
  | _, [] => none
  | _, [x] => some x
  | 0, _ => none
  | fuel + 1, l => merkleRootFuel fuel (merkleLevel combine l)

/-- The root of a tree; a tree of `n` leaves has fewer than `n` levels above them. -/
def merkleRoot (leaves : List β) : Option β := merkleRootFuel combine leaves.length leaves

/-- The index of the other node of a pair. -/
def siblingIndex (i : ℕ) : ℕ := if i % 2 = 0 then i + 1 else i - 1

def merkleProofFuel : ℕ → List β → ℕ → List β
  | _, [], _ => []
  | _, [_], _ => []
  | 0, _, _ => []
  | fuel + 1, l, i =>
    l[siblingIndex i]?.toList ++ merkleProofFuel fuel (merkleLevel combine l) (i / 2)

/-- The siblings on the way up from leaf `i`; a promoted node has none. -/
def merkleProof (leaves : List β) (i : ℕ) : List β :=
  merkleProofFuel combine leaves.length leaves i

/-- The node over `x`, which is node `i` of a level of `size` nodes, `fuel` levels up. -/
def merkleClimb : (fuel size i : ℕ) → β → List β → Option β
  | 0, size, _, x, hs => if size ≤ 1 ∧ hs.isEmpty then some x else none
  | fuel + 1, size, i, x, hs =>
    if size ≤ 1 then if hs.isEmpty then some x else none
    else if i % 2 = 0 ∧ i + 1 = size then merkleClimb fuel ((size + 1) / 2) (i / 2) x hs
    else
      match hs with
      | [] => none
      | h :: hs =>
        merkleClimb fuel ((size + 1) / 2) (i / 2)
          (if i % 2 = 0 then combine x h else combine h x) hs

/-- A proof is accepted if it names a leaf of the tree and recomputes the root. -/
def merkleVerify [DecidableEq β] (root : β) (i : ℕ) (leaf : β) (hs : List β) (size : ℕ) : Bool :=
  decide (i < size) && decide (merkleClimb combine size size i leaf hs = some root)

variable {combine}

theorem length_merkleLevel : ∀ l : List β, (merkleLevel combine l).length = (l.length + 1) / 2
  | [] => by simp [merkleLevel]
  | [_] => by simp [merkleLevel]
  | a :: b :: rest => by
    simp only [merkleLevel, List.length_cons, length_merkleLevel rest]
    omega

/-- A node of the level above is the pair of its children, or its only child. -/
theorem getElem?_merkleLevel : ∀ (l : List β) (j : ℕ),
    (merkleLevel combine l)[j]? = l[2 * j]?.map fun x =>
      (l[2 * j + 1]?.map fun y => combine x y).getD x
  | [], j => by simp [merkleLevel]
  | [a], j => by
    cases j with
    | zero => simp [merkleLevel]
    | succ j => simp [merkleLevel, Nat.mul_add]
  | a :: b :: rest, j => by
    cases j with
    | zero => simp [merkleLevel]
    | succ j =>
      have hidx : 2 * (j + 1) = 2 * j + 1 + 1 := by omega
      simp only [merkleLevel, List.getElem?_cons_succ, hidx]
      exact getElem?_merkleLevel rest j

variable (combine)

/-- A proof of one level and the rest climbs to the node above and goes on. -/
theorem merkleClimb_succ (fuel : ℕ) {i : ℕ} {l : List β} {x : β} (hs : List β) (hl : 2 ≤ l.length)
    (hx : l[i]? = some x) : ∃ y, (merkleLevel combine l)[i / 2]? = some y ∧
      merkleClimb combine (fuel + 1) l.length i x (l[siblingIndex i]?.toList ++ hs) =
        merkleClimb combine fuel (merkleLevel combine l).length (i / 2) y hs := by
  have hi : i < l.length := (List.getElem?_eq_some_iff.1 hx).1
  have hsize : ¬l.length ≤ 1 := by omega
  rw [length_merkleLevel]
  rcases Nat.even_or_odd' i with ⟨j, rfl | rfl⟩
  · have hhalf : 2 * j / 2 = j := by omega
    have hmod : 2 * j % 2 = 0 := by omega
    cases hsib : l[2 * j + 1]? with
    | none =>
      have hlast : 2 * j + 1 = l.length := by
        have := List.getElem?_eq_none_iff.1 hsib
        omega
      refine ⟨x, ?_, ?_⟩
      · rw [hhalf, getElem?_merkleLevel, hx, hsib]
        rfl
      · simp [merkleClimb, hsize, hmod, hlast, siblingIndex]
    | some y =>
      have hnot : 2 * j + 1 ≠ l.length := by
        have := (List.getElem?_eq_some_iff.1 hsib).1
        omega
      refine ⟨combine x y, ?_, ?_⟩
      · rw [hhalf, getElem?_merkleLevel, hx, hsib]
        rfl
      · simp [merkleClimb, hsize, hmod, hnot, siblingIndex, hsib]
  · have hhalf : (2 * j + 1) / 2 = j := by omega
    have hmod : (2 * j + 1) % 2 = 1 := by omega
    have hleft : 2 * j < l.length := by omega
    refine ⟨combine l[2 * j] x, ?_, ?_⟩
    · rw [hhalf, getElem?_merkleLevel, hx, List.getElem?_eq_getElem hleft]
      rfl
    · simp [merkleClimb, hsize, hmod, siblingIndex, List.getElem?_eq_getElem hleft]

theorem merkleClimb_proofFuel (fuel : ℕ) : ∀ {l : List β} {i : ℕ} {x : β},
    l.length ≤ fuel + 1 → l[i]? = some x →
    merkleClimb combine fuel l.length i x (merkleProofFuel combine fuel l i) =
      merkleRootFuel combine fuel l := by
  induction fuel with
  | zero =>
    intro l i x hlen hx
    match l, hx, hlen with
    | [y], hx, _ =>
      obtain ⟨hi, rfl⟩ := List.getElem?_eq_some_iff.1 hx
      have hzero : i = 0 := by simpa using hi
      subst hzero
      rfl
  | succ fuel ih =>
    intro l i x hlen hx
    match l, hx, hlen with
    | [y], hx, _ =>
      obtain ⟨hi, rfl⟩ := List.getElem?_eq_some_iff.1 hx
      have hzero : i = 0 := by simpa using hi
      subst hzero
      rfl
    | a :: b :: rest, hx, hlen =>
      have htwo : 2 ≤ (a :: b :: rest).length := by simp
      obtain ⟨y, hy, hclimb⟩ := merkleClimb_succ combine fuel
        (merkleProofFuel combine fuel (merkleLevel combine (a :: b :: rest)) (i / 2)) htwo hx
      have hshort : (merkleLevel combine (a :: b :: rest)).length ≤ fuel + 1 := by
        rw [length_merkleLevel]
        simp only [List.length_cons] at hlen ⊢
        omega
      calc merkleClimb combine (fuel + 1) (a :: b :: rest).length i x
            (merkleProofFuel combine (fuel + 1) (a :: b :: rest) i)
          = merkleClimb combine fuel (merkleLevel combine (a :: b :: rest)).length (i / 2) y
              (merkleProofFuel combine fuel (merkleLevel combine (a :: b :: rest)) (i / 2)) :=
            hclimb
        _ = merkleRootFuel combine (fuel + 1) (a :: b :: rest) := ih hshort hy

variable {combine}

/-- **Completeness.** The proof of a leaf recomputes the root of its own list. -/
theorem merkleVerify_proof [DecidableEq β] {leaves : List β} {i : ℕ} {leaf root : β}
    (hleaf : leaves[i]? = some leaf) (hroot : merkleRoot combine leaves = some root) :
    merkleVerify combine root i leaf (merkleProof combine leaves i) leaves.length = true := by
  have hi : i < leaves.length := (List.getElem?_eq_some_iff.1 hleaf).1
  have hclimb := merkleClimb_proofFuel combine leaves.length (Nat.le_succ _) hleaf
  simp only [merkleVerify, hi, decide_true, Bool.true_and, decide_eq_true_eq]
  exact hclimb.trans hroot

end SauronID
