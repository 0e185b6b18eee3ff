import Mathlib.Data.Set.Function
import SauronID.Lib.Merkle

/-!
# The root binds the leaves

The tree over a list of leaves as a term: its leaves are the list, from left to right, so
the term determines the list whatever its length. Its value is the root. If no leaf is the
combination of two nodes and combinations determine what they combine, the value determines
the term. `merkleRoot_inj` asks this only of the pairs that the two trees combine.

## Main definitions

* `MerkleTree` — trees, with `leaves`, `root` and the `pairs` that are combined.
* `merklePairs` — the pairs combined in the tree over a list.
-/

namespace SauronID

variable {β γ : Type} (combine : β → β → β)

inductive MerkleTree (β : Type) where
  | leaf (x : β)
  | node (l r : MerkleTree β)

namespace MerkleTree

def leaves : MerkleTree β → List β
  | leaf x => [x]
  | node l r => l.leaves ++ r.leaves

def root : MerkleTree β → β
  | leaf x => x
  | node l r => combine l.root r.root

/-- The pairs of nodes that are combined. -/
def pairs : MerkleTree β → List (β × β)
  | leaf _ => []
  | node l r => (l.root combine, r.root combine) :: (l.pairs ++ r.pairs)

/-- The tree over a list of leaves. -/
def ofLeaves (l : List β) : Option (MerkleTree β) := merkleRoot node (l.map leaf)

end MerkleTree

/-- The pairs of nodes that are combined in the tree over a list of leaves. -/
def merklePairs (l : List β) : List (β × β) :=
  (MerkleTree.ofLeaves l).elim [] (MerkleTree.pairs combine)

/-! ## A list and its tree -/

section Map

variable {combine} {combine' : γ → γ → γ} {f : β → γ}
  (hf : ∀ a b, f (combine a b) = combine' (f a) (f b))

include hf

theorem merkleLevel_map : ∀ l : List β,
    merkleLevel combine' (l.map f) = (merkleLevel combine l).map f
  | [] => rfl
  | [_] => rfl
  | a :: b :: rest => by simp [merkleLevel, hf, merkleLevel_map rest]

theorem merkleRootFuel_map (fuel : ℕ) (l : List β) :
    merkleRootFuel combine' fuel (l.map f) = (merkleRootFuel combine fuel l).map f := by
  induction fuel generalizing l with
  | zero =>
    match l with
    | [] => rfl
    | [_] => rfl
    | _ :: _ :: _ => rfl
  | succ fuel ih =>
    match l with
    | [] => rfl
    | [_] => rfl
    | a :: b :: rest =>
      have hlevel := merkleLevel_map hf (a :: b :: rest)
      have hrec := ih (merkleLevel combine (a :: b :: rest))
      rw [← hlevel] at hrec
      exact hrec

theorem merkleRoot_map (l : List β) :
    merkleRoot combine' (l.map f) = (merkleRoot combine l).map f := by
  rw [merkleRoot, List.length_map, merkleRootFuel_map hf, merkleRoot]

end Map

namespace MerkleTree

theorem merkleRoot_eq_root (l : List β) :
    merkleRoot combine l = (ofLeaves l).map (root combine) := by
  have hmap : merkleRoot combine ((l.map leaf).map (root combine)) =
      (merkleRoot node (l.map leaf)).map (root combine) :=
    merkleRoot_map (fun _ _ => rfl) _
  have hleaves : (l.map leaf).map (root combine) = l := by
    rw [List.map_map]
    exact List.map_id l
  rw [hleaves] at hmap
  exact hmap

theorem flatMap_leaves_level : ∀ ts : List (MerkleTree β),
    (merkleLevel node ts).flatMap leaves = ts.flatMap leaves
  | [] => rfl
  | [_] => rfl
  | a :: b :: rest => by simp [merkleLevel, leaves, flatMap_leaves_level rest]

variable {t : MerkleTree β}

theorem leaves_of_rootFuel {fuel : ℕ} {ts : List (MerkleTree β)}
    (h : merkleRootFuel node fuel ts = some t) : t.leaves = ts.flatMap leaves := by
  induction fuel generalizing ts with
  | zero =>
    match ts, h with
    | [_], rfl => simp
  | succ fuel ih =>
    match ts, h with
    | [_], rfl => simp
    | a :: b :: rest, h => rw [ih h, flatMap_leaves_level]

/-- The leaves of the tree over a list are the list. -/
theorem leaves_ofLeaves {l : List β} (h : ofLeaves l = some t) : t.leaves = l := by
  rw [leaves_of_rootFuel h, List.flatMap_map]
  exact List.flatMap_singleton' l

/-! ## The root and its tree -/

variable {combine} {P : β → β → Prop} {Q : β → Prop}

/-- What holds of the leaves and of every combination holds of all that is combined. -/
theorem root_of_leaves (hcombine : ∀ a b, Q (combine a b)) : ∀ t : MerkleTree β,
    (∀ x ∈ t.leaves, Q x) → Q (t.root combine)
  | leaf x, h => h x (.head _)
  | node _ _, _ => hcombine _ _

theorem pairs_of_leaves (hcombine : ∀ a b, Q (combine a b)) (t : MerkleTree β)
    (h : ∀ x ∈ t.leaves, Q x) : ∀ p ∈ t.pairs combine, Q p.1 ∧ Q p.2 := by
  induction t with
  | leaf x => exact List.forall_mem_nil _
  | node l r ihl ihr =>
    rw [leaves, List.forall_mem_append] at h
    rw [pairs, List.forall_mem_cons, List.forall_mem_append]
    exact ⟨⟨root_of_leaves hcombine l h.1, root_of_leaves hcombine r h.2⟩, ihl h.1, ihr h.2⟩

/-- The value of a tree determines it. -/
theorem eq_of_root_eq
    (hnode : ∀ {a b c d}, P a b → P c d → combine a b = combine c d → a = c ∧ b = d)
    (hleaf : ∀ {x a b}, Q x → P a b → x ≠ combine a b) {t' : MerkleTree β}
    (hP : ∀ p ∈ t.pairs combine, P p.1 p.2) (hP' : ∀ p ∈ t'.pairs combine, P p.1 p.2)
    (hQ : ∀ x ∈ t.leaves, Q x) (hQ' : ∀ x ∈ t'.leaves, Q x)
    (h : t.root combine = t'.root combine) : t = t' := by
  induction t generalizing t' with
  | leaf x =>
    cases t' with
    | leaf y => exact congrArg leaf h
    | node l r => exact absurd h (hleaf (hQ x (.head _)) (hP' _ (.head _)))
  | node l r ihl ihr =>
    cases t' with
    | leaf y => exact absurd h.symm (hleaf (hQ' y (.head _)) (hP _ (.head _)))
    | node l' r' =>
      obtain ⟨hl, hr⟩ := hnode (hP _ (.head _)) (hP' _ (.head _)) h
      simp only [pairs, leaves, List.forall_mem_cons, List.forall_mem_append] at hP hP' hQ hQ'
      rw [ihl hP.2.1 hP'.2.1 hQ.1 hQ'.1 hl, ihr hP.2.2 hP'.2.2 hQ.2 hQ'.2 hr]

end MerkleTree

variable {l l' : List β}

/-- **Binding.** Two lists of leaves with one root are equal, of whatever lengths they are. -/
theorem merkleRoot_inj {combine} {P : β → β → Prop} {Q : β → Prop}
    (hnode : ∀ {a b c d}, P a b → P c d → combine a b = combine c d → a = c ∧ b = d)
    (hleaf : ∀ {x a b}, Q x → P a b → x ≠ combine a b) {r : β}
    (hP : ∀ p ∈ merklePairs combine l, P p.1 p.2)
    (hP' : ∀ p ∈ merklePairs combine l', P p.1 p.2) (hQ : ∀ x ∈ l, Q x) (hQ' : ∀ x ∈ l', Q x)
    (h : merkleRoot combine l = some r) (h' : merkleRoot combine l' = some r) : l = l' := by
  rw [MerkleTree.merkleRoot_eq_root, Option.map_eq_some_iff] at h h'
  obtain ⟨t, ht, hroot⟩ := h
  obtain ⟨t', ht', hroot'⟩ := h'
  rw [merklePairs, ht] at hP
  rw [merklePairs, ht'] at hP'
  rw [← MerkleTree.leaves_ofLeaves ht] at hQ ⊢
  rw [← MerkleTree.leaves_ofLeaves ht'] at hQ' ⊢
  rw [MerkleTree.eq_of_root_eq hnode hleaf hP hP' hQ hQ' (hroot.trans hroot'.symm)]

/-! ## Trees of hashes -/

/-- A function without collisions on the members of two lists tells them apart. -/
theorem eq_of_map_eq {f : β → γ} {S : Set β} (hinj : Set.InjOn f S)
    (hl : ∀ x ∈ l, x ∈ S) (hl' : ∀ x ∈ l', x ∈ S) (heq : l.map f = l'.map f) : l = l' := by
  induction l generalizing l' with
  | nil => exact (List.map_eq_nil_iff.1 heq.symm).symm
  | cons x l ih =>
    cases l' with
    | nil => cases heq
    | cons x' l' =>
      rw [List.forall_mem_cons] at hl hl'
      obtain ⟨hhead, htail⟩ := List.cons.inj heq
      rw [hinj hl.1 hl'.1 hhead, ih hl.2 hl'.2 htail]

section Hash

variable {α : Type} (h : List α → List α)

/-- Two hashes side by side, hashed. -/
def hashPair (a b : List α) : List α := h (a ++ b)

/-- What is hashed in the tree over the hashes of messages. -/
def treeMessages (ms : List (List α)) : List (List α) :=
  ms ++ (merklePairs (hashPair h) (ms.map h)).map fun p => p.1 ++ p.2

variable {h} {k : ℕ} {S : Set (List α)}

/-- A pair of hashes whose concatenation is a message of `S`. -/
def PairIn (k : ℕ) (S : Set (List α)) (a b : List α) : Prop :=
  a.length = k ∧ b.length = k ∧ a ++ b ∈ S

/-- The hash of a message of `S` that is no pair of hashes. -/
def LeafIn (h : List α → List α) (k : ℕ) (S : Set (List α)) (x : List α) : Prop :=
  ∃ m ∈ S, m.length ≠ k + k ∧ x = h m

variable {ms : List (List α)}

theorem pairIn_of_merklePairs (hlen : ∀ m, (h m).length = k) (hS : ∀ m ∈ treeMessages h ms, m ∈ S) :
    ∀ p ∈ merklePairs (hashPair h) (ms.map h), PairIn k S p.1 p.2 := by
  intro p hp
  have hmem : p.1 ++ p.2 ∈ S := hS _ (List.mem_append_right _ (List.mem_map.2 ⟨p, hp, rfl⟩))
  cases ht : MerkleTree.ofLeaves (ms.map h) with
  | none =>
    rw [merklePairs, ht] at hp
    cases hp
  | some t =>
    rw [merklePairs, ht] at hp
    have hleaves : ∀ x ∈ t.leaves, x.length = k := by
      rw [MerkleTree.leaves_ofLeaves ht]
      exact List.forall_mem_map.2 fun m _ => hlen m
    obtain ⟨hfst, hsnd⟩ := MerkleTree.pairs_of_leaves (fun a b => hlen (a ++ b)) t hleaves p hp
    exact ⟨hfst, hsnd, hmem⟩

theorem leafIn_of_mem (hne : ∀ m ∈ ms, m.length ≠ k + k)
    (hS : ∀ m ∈ treeMessages h ms, m ∈ S) : ∀ x ∈ ms.map h, LeafIn h k S x :=
  List.forall_mem_map.2 fun m hm => ⟨m, hS m (List.mem_append_left _ hm), hne m hm, rfl⟩

/-- Hashes of one length, without collisions among the messages of two trees, and no
message as long as a pair of hashes: the root binds the messages. -/
theorem messages_eq_of_root (hlen : ∀ m, (h m).length = k) (hinj : Set.InjOn h S)
    {ms' : List (List α)} {r : List α} (hne : ∀ m ∈ ms, m.length ≠ k + k)
    (hne' : ∀ m ∈ ms', m.length ≠ k + k) (hS : ∀ m ∈ treeMessages h ms, m ∈ S)
    (hS' : ∀ m ∈ treeMessages h ms', m ∈ S) (hroot : merkleRoot (hashPair h) (ms.map h) = some r)
    (hroot' : merkleRoot (hashPair h) (ms'.map h) = some r) : ms = ms' := by
  have hnode : ∀ {a b c d}, PairIn k S a b → PairIn k S c d → hashPair h a b = hashPair h c d →
      a = c ∧ b = d := by
    rintro a b c d ⟨ha, -, hab⟩ ⟨hc, -, hcd⟩ heq
    exact List.append_inj (hinj hab hcd heq) (ha.trans hc.symm)
  have hleaf : ∀ {x a b}, LeafIn h k S x → PairIn k S a b → x ≠ hashPair h a b := by
    rintro x a b ⟨m, hm, hlong, rfl⟩ ⟨ha, hb, hab⟩ heq
    refine hlong ?_
    rw [hinj hm hab heq, List.length_append, ha, hb]
  have hmap : ms.map h = ms'.map h :=
    merkleRoot_inj hnode hleaf (pairIn_of_merklePairs hlen hS) (pairIn_of_merklePairs hlen hS')
      (leafIn_of_mem hne hS) (leafIn_of_mem hne' hS') hroot hroot'
  exact eq_of_map_eq hinj (fun m hm => hS m (List.mem_append_left _ hm))
    (fun m hm => hS' m (List.mem_append_left _ hm)) hmap

end Hash

end SauronID
