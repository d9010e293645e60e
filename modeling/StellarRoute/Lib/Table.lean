import Mathlib.Tactic

/-! A database table as a list of rows with a key. A row is looked up by its
key, replaced where its key stands, or added at the end. -/

namespace Lib.Table

variable {α κ : Type} [DecidableEq κ] (key : α → κ)

def find (k : κ) (rows : List α) : Option α := rows.find? fun x => key x = k

/-- The rows with `x` in the place of the row that has its key. -/
def set (x : α) (rows : List α) : List α := rows.map fun y => if key y = key x then x else y

variable {key} {k : κ} {x y : α} {rows : List α}

theorem mem_of_find (h : find key k rows = some x) : x ∈ rows := List.mem_of_find?_eq_some h

theorem key_of_find (h : find key k rows = some x) : key x = k := by
  simpa using List.find?_some h

theorem find_set (k : κ) :
    find key k (set key x rows) =
      if key x = k then (find key k rows).map fun _ => x else find key k rows := by
  induction rows with
  | nil => simp [find, set]
  | cons y rows ih =>
    simp only [find, set, List.map_cons, List.find?_cons] at ih ⊢
    by_cases hyx : key y = key x
    · by_cases hxk : key x = k
      · simp [hyx, hxk]
      · simpa [hyx, hxk] using ih
    · by_cases hyk : key y = k
      · have hxk : key x ≠ k := fun h => hyx (hyk.trans h.symm)
        simp [hyk, hxk, Ne.symm hxk]
      · simpa [hyx, hyk] using ih

theorem find_set_self (h : find key (key x) rows = some y) :
    find key (key x) (set key x rows) = some x := by
  rw [find_set, if_pos rfl, h, Option.map_some]

theorem find_set_ne (hne : key x ≠ k) : find key k (set key x rows) = find key k rows := by
  rw [find_set, if_neg hne]

theorem find_append_ne (hne : key x ≠ k) : find key k (rows ++ [x]) = find key k rows := by
  simp [find, List.find?_append, hne]

theorem find_append_self (h : find key (key x) rows = none) :
    find key (key x) (rows ++ [x]) = some x := by
  rw [find] at h ⊢
  simp [List.find?_append, h]

theorem find_filter_of_mem {keys : List κ} (h : k ∈ keys) :
    find key k (rows.filter (key · ∉ keys)) = none := by
  rw [find, List.find?_filter, List.find?_eq_none]
  intro x _ hx
  simp only [decide_not, Bool.and_eq_true, Bool.not_eq_true', decide_eq_false_iff_not,
    decide_eq_true_eq] at hx
  exact hx.1 (hx.2 ▸ h)

theorem find_filter_of_not_mem {keys : List κ} (h : k ∉ keys) :
    find key k (rows.filter (key · ∉ keys)) = find key k rows := by
  rw [find, List.find?_filter, find]
  congr 1
  funext x
  by_cases hx : key x = k
  · simp [hx, h]
  · simp [hx]

theorem set_set (h : key x = key y) : set key x (set key y rows) = set key x rows := by
  simp only [set, List.map_map]
  refine List.map_congr_left fun z _ => ?_
  simp only [Function.comp_apply]
  by_cases hz : key z = key x
  · simp [hz, h]
  · simp [hz, h ▸ hz]

theorem mem_set (h : y ∈ set key x rows) : y = x ∨ y ∈ rows ∧ key y ≠ key x := by
  obtain ⟨z, hz, rfl⟩ := List.mem_map.mp h
  split_ifs with hkey
  · exact .inl rfl
  · exact .inr ⟨hz, hkey⟩

end Lib.Table
