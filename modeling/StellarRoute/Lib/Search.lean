import Mathlib.Tactic

/-! Exploring a tree through a first-in, first-out worklist. Visiting a node
emits some results and yields its children; the order in which the nodes are
visited changes the order of the results but not which results there are. -/

namespace Lib

open List

universe u v

variable {σ : Type u} {ρ : Type v}

/-- At most `n` nodes are taken from the queue; `none` when that was too few. -/
def worklist (visit : σ → List ρ × List σ) : ℕ → List σ → List ρ → Option (List ρ)
  | _, [], acc => some acc
  | 0, _ :: _, _ => none
  | n + 1, s :: queue, acc => worklist visit n (queue ++ (visit s).2) (acc ++ (visit s).1)

/-- What the nodes fewer than `h` levels below `s` emit. -/
def emitted (visit : σ → List ρ × List σ) : ℕ → σ → List ρ
  | 0, _ => []
  | h + 1, s => (visit s).1 ++ (visit s).2.flatMap (emitted visit h)

/-- How many nodes there are fewer than `h` levels below `s`. -/
def treeSize (visit : σ → List ρ × List σ) : ℕ → σ → ℕ
  | 0, _ => 0
  | h + 1, s => 1 + ((visit s).2.map (treeSize visit h)).sum

section Ranked

variable {visit : σ → List ρ × List σ} {rank : σ → ℕ}
  (hrank : ∀ s, ∀ c ∈ (visit s).2, rank c < rank s)
include hrank

theorem emitted_stable {h h' : ℕ} {s : σ}
    (hh : rank s < h) (hh' : rank s < h') : emitted visit h s = emitted visit h' s := by
  induction h generalizing h' s with
  | zero => omega
  | succ h ih =>
    obtain ⟨k, rfl⟩ : ∃ k, h' = k + 1 := ⟨h' - 1, by omega⟩
    simp only [emitted]
    congr 1
    apply flatMap_congr
    intro c hc
    have := hrank s c hc
    exact ih (by omega) (by omega)

theorem treeSize_stable {h h' : ℕ} {s : σ}
    (hh : rank s < h) (hh' : rank s < h') : treeSize visit h s = treeSize visit h' s := by
  induction h generalizing h' s with
  | zero => omega
  | succ h ih =>
    obtain ⟨k, rfl⟩ : ∃ k, h' = k + 1 := ⟨h' - 1, by omega⟩
    simp only [treeSize]
    congr 2
    apply map_congr_left
    intro c hc
    have := hrank s c hc
    exact ih (by omega) (by omega)

/-- When the rank falls from every node to its children, the queue runs empty
after as many steps as there are nodes, and the results are those of the trees
below the queued nodes. -/
theorem worklist_perm {h n : ℕ}
    {queue : List σ} (acc : List ρ) (hh : ∀ s ∈ queue, rank s < h)
    (hn : (queue.map (treeSize visit h)).sum ≤ n) :
    ∃ out, worklist visit n queue acc = some out ∧
      out.Perm (acc ++ queue.flatMap (emitted visit h)) := by
  induction n generalizing queue acc with
  | zero =>
    cases queue with
    | nil => exact ⟨acc, rfl, by simp⟩
    | cons s queue =>
      obtain ⟨k, rfl⟩ : ∃ k, h = k + 1 := ⟨h - 1, by have := hh s mem_cons_self; omega⟩
      simp [treeSize] at hn
  | succ n ih =>
    cases queue with
    | nil => exact ⟨acc, by simp [worklist], by simp⟩
    | cons s queue =>
      have hs := hh s mem_cons_self
      have hchild : ∀ c ∈ (visit s).2, rank c < h := fun c hc => (hrank s c hc).trans hs
      have hh' : ∀ c ∈ queue ++ (visit s).2, rank c < h := by
        intro c hc
        rcases mem_append.mp hc with hc | hc
        · exact hh c (mem_cons_of_mem _ hc)
        · exact hchild c hc
      obtain ⟨k, rfl⟩ : ∃ k, h = k + 1 := ⟨h - 1, by omega⟩
      -- below a child one level less is left, which changes neither count nor results
      have hsize : (visit s).2.map (treeSize visit k) = (visit s).2.map (treeSize visit (k + 1)) := by
        apply map_congr_left
        intro c hc
        have := hrank s c hc
        exact treeSize_stable hrank (by omega) (by omega)
      have hemit : (visit s).2.flatMap (emitted visit k)
          = (visit s).2.flatMap (emitted visit (k + 1)) := by
        apply flatMap_congr
        intro c hc
        have := hrank s c hc
        exact emitted_stable hrank (by omega) (by omega)
      have hn' : ((queue ++ (visit s).2).map (treeSize visit (k + 1))).sum ≤ n := by
        simp only [map_cons, sum_cons, treeSize, hsize] at hn
        rw [map_append, sum_append]
        simp only [treeSize] at hn ⊢
        omega
      obtain ⟨out, hout, hperm⟩ := ih (acc ++ (visit s).1) hh' hn'
      refine ⟨out, by simpa [worklist] using hout, hperm.trans ?_⟩
      rw [flatMap_append, flatMap_cons, emitted, hemit, append_assoc,
        append_assoc]
      apply List.Perm.append_left
      apply List.Perm.append_left
      exact perm_append_comm

theorem treeSize_le {b : ℕ}
    (hb : ∀ s, (visit s).2.length ≤ b) (h : ℕ) (s : σ) :
    treeSize visit h s ≤ (b + 1) ^ rank s := by
  induction h generalizing s with
  | zero => exact Nat.zero_le _
  | succ h ih =>
    rw [treeSize]
    cases hr : rank s with
    | zero =>
      have hleaf : (visit s).2 = [] := by
        apply eq_nil_iff_forall_not_mem.mpr
        intro c hc
        have := hrank s c hc
        omega
      simp [hleaf]
    | succ r =>
      have hsum : ((visit s).2.map (treeSize visit h)).sum ≤ (visit s).2.length • (b + 1) ^ r := by
        rw [← length_map (f := treeSize visit h)]
        apply sum_le_card_nsmul
        intro n hn
        obtain ⟨c, hc, rfl⟩ := mem_map.mp hn
        have := hrank s c hc
        exact (ih c).trans (Nat.pow_le_pow_right (by omega) (by omega))
      have hmul : (visit s).2.length * (b + 1) ^ r ≤ b * (b + 1) ^ r :=
        Nat.mul_le_mul_right _ (hb s)
      have hpos : 0 < (b + 1) ^ r := by positivity
      rw [smul_eq_mul] at hsum
      calc 1 + ((visit s).2.map (treeSize visit h)).sum
          ≤ (b + 1) ^ r + b * (b + 1) ^ r := by omega
        _ = (b + 1) ^ (r + 1) := by ring

end Ranked

end Lib
