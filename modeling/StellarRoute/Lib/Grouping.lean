import Mathlib.Tactic

/-! Stable grouping of a list by a key: the groups follow a given order of the
keys, and each keeps the order of its members. -/

namespace Lib

open List

universe u v

variable {α : Type u} {κ : Type v} [DecidableEq κ]

def groupedBy (key : α → κ) (keys : List κ) (l : List α) : List α :=
  keys.flatMap fun k => l.filter (key · == k)

variable {keys : List κ} {key : α → κ} {l : List α}

theorem groupedBy_perm_filter (key : α → κ) (hnodup : keys.Nodup) (l : List α) :
    (groupedBy key keys l).Perm (l.filter (key · ∈ keys)) := by
  induction keys with
  | nil => simp [groupedBy]
  | cons k keys ih =>
    obtain ⟨hk, hnodup⟩ := nodup_cons.mp hnodup
    -- the members with a key in `k :: keys`, split by whether it is `k`
    have hfirst : (l.filter (key · ∈ k :: keys)).filter (key · == k) = l.filter (key · == k) := by
      rw [filter_filter]
      apply filter_congr
      intro a _
      by_cases ha : key a = k <;> simp [ha]
    have hrest : (l.filter (key · ∈ k :: keys)).filter (fun a => !(key a == k))
        = l.filter (key · ∈ keys) := by
      rw [filter_filter]
      apply filter_congr
      intro a _
      by_cases ha : key a = k <;> simp [ha, hk]
    rw [groupedBy, flatMap_cons, ← hfirst]
    apply ((ih hnodup).append_left _).trans
    rw [← hrest]
    exact filter_append_perm _ _

theorem groupedBy_perm (hnodup : keys.Nodup)
    (hall : ∀ a ∈ l, key a ∈ keys) : (groupedBy key keys l).Perm l := by
  have hfilter : l.filter (key · ∈ keys) = l := by
    rw [filter_eq_self]
    intro a ha
    simpa using hall a ha
  have := groupedBy_perm_filter key hnodup l
  rwa [hfilter] at this

theorem filter_groupedBy (hnodup : keys.Nodup)
    (hall : ∀ a ∈ l, key a ∈ keys) (p : α → Bool) (k : κ) :
    (groupedBy key keys l).filter (fun a => p a && key a == k)
      = l.filter fun a => p a && key a == k := by
  have hgroup : ∀ k', (l.filter (key · == k')).filter (fun a => p a && key a == k)
      = if k' = k then l.filter (fun a => p a && key a == k) else [] := by
    intro k'
    rw [filter_filter]
    split_ifs with hk
    · subst hk
      apply filter_congr
      intro a _
      cases p a <;> simp
    · rw [filter_eq_nil_iff]
      intro a _ h
      simp only [Bool.and_eq_true, beq_iff_eq] at h
      exact hk (h.2.symm.trans h.1.2)
  have honly : ∀ ks : List κ, ks.Nodup → (ks.flatMap fun k' =>
      if k' = k then l.filter (fun a => p a && key a == k) else [])
      = if k ∈ ks then l.filter (fun a => p a && key a == k) else [] := by
    intro ks
    induction ks with
    | nil => simp
    | cons k' ks ih =>
      intro hks
      obtain ⟨hk', hks⟩ := nodup_cons.mp hks
      rw [flatMap_cons, ih hks]
      by_cases hk : k' = k
      · subst hk
        simp [hk']
      · simp [hk, Ne.symm hk]
  rw [groupedBy, filter_flatMap, flatMap_congr fun k' _ => hgroup k', honly keys hnodup]
  split_ifs with hk
  · rfl
  · symm
    rw [filter_eq_nil_iff]
    intro a ha h
    simp only [Bool.and_eq_true, beq_iff_eq] at h
    exact hk (h.2 ▸ hall a ha)

end Lib
