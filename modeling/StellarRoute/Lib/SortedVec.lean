import Mathlib.Data.List.Sort
import Mathlib.Tactic

/-! A vector sorted and freed of its repetitions: `sort` followed by `dedup`,
which keeps one of equal neighbours. In a vector sorted by a key, the first
element that passes a test has the least key of those that do. -/

namespace Lib

open List

theorem le_of_find {α β : Type} [Preorder β] {f : α → β} {p : α → Bool} {l : List α} {a b : α}
    (hl : l.Pairwise fun x y => f x ≤ f y) (h : l.find? p = some a) (hb : b ∈ l) (hp : p b) :
    f a ≤ f b := by
  induction l with
  | nil => cases hb
  | cons x l ih =>
    rw [pairwise_cons] at hl
    rw [find?_cons] at h
    cases hx : p x with
    | true =>
      simp only [hx, Option.some.injEq] at h
      subst h
      rcases mem_cons.mp hb with rfl | hb
      · exact le_rfl
      · exact hl.1 b hb
    | false =>
      simp only [hx] at h
      rcases mem_cons.mp hb with rfl | hb
      · simp [hx] at hp
      · exact ih hl.2 h hb

variable {α : Type} [LinearOrder α]

/-- One of equal neighbours. -/
def dedup : List α → List α
  | [] => []
  | a :: l =>
    match dedup l with
    | [] => [a]
    | b :: l' => if a = b then b :: l' else a :: b :: l'

def sortDedup (l : List α) : List α := dedup (l.insertionSort (· ≤ ·))

variable {a : α} {l : List α}

theorem mem_dedup : a ∈ dedup l ↔ a ∈ l := by
  induction l with
  | nil => rfl
  | cons b l ih =>
    rw [dedup, mem_cons, ← ih]
    cases dedup l with
    | nil => simp
    | cons c l' =>
      dsimp only
      split_ifs with hbc
      · subst hbc
        simp
      · rw [mem_cons]

theorem pairwise_lt_dedup (h : l.Pairwise (· ≤ ·)) : (dedup l).Pairwise (· < ·) := by
  induction l with
  | nil => exact List.Pairwise.nil
  | cons b l ih =>
    rw [pairwise_cons] at h
    have hl := ih h.2
    rw [dedup]
    cases hdedup : dedup l with
    | nil => exact pairwise_singleton _ _
    | cons c l' =>
      dsimp only
      rw [hdedup] at hl
      split_ifs with hbc
      · exact hl
      · have hc : c ∈ l := mem_dedup.mp (hdedup ▸ mem_cons_self)
        have hlt : b < c := lt_of_le_of_ne (h.1 c hc) hbc
        refine pairwise_cons.mpr ⟨fun x hx => ?_, hl⟩
        rcases mem_cons.mp hx with rfl | hx
        · exact hlt
        · exact hlt.trans ((pairwise_cons.mp hl).1 x hx)

theorem dedup_eq_self (h : l.Pairwise (· < ·)) : dedup l = l := by
  induction l with
  | nil => rfl
  | cons b l ih =>
    rw [pairwise_cons] at h
    rw [dedup, ih h.2]
    cases l with
    | nil => rfl
    | cons c l => exact if_neg (h.1 c mem_cons_self).ne

@[simp] theorem mem_sortDedup : a ∈ sortDedup l ↔ a ∈ l := by
  rw [sortDedup, mem_dedup, mem_insertionSort]

theorem sortDedup_pairwise (l : List α) : (sortDedup l).Pairwise (· < ·) :=
  pairwise_lt_dedup (pairwise_insertionSort (· ≤ ·) l)

theorem length_sortDedup (h : l.Nodup) : (sortDedup l).length = l.length := by
  have hnodup : (l.insertionSort (· ≤ ·)).Nodup := (perm_insertionSort (· ≤ ·) l).nodup_iff.mpr h
  have hsorted : (l.insertionSort (· ≤ ·)).Pairwise (· < ·) :=
    ((pairwise_insertionSort (· ≤ ·) l).and hnodup).imp fun h => lt_of_le_of_ne h.1 h.2
  rw [sortDedup, dedup_eq_self hsorted, length_insertionSort]

end Lib
