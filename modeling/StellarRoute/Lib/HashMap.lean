import Mathlib.Data.List.AList

/-! Maps of keys to values, as association lists without a repeated key. What
an update does to a lookup is one equation for every key. -/

namespace Lib

open List AList

abbrev HashMap (κ ν : Type) := AList fun _ : κ => ν

namespace HashMap

variable {κ ν : Type}

def values (m : HashMap κ ν) : List ν := m.entries.map Sigma.snd

def mapValues (f : ν → ν) (m : HashMap κ ν) : HashMap κ ν where
  entries := m.entries.map fun entry => ⟨entry.1, f entry.2⟩
  nodupKeys := by
    have hkeys : (m.entries.map fun entry => (⟨entry.1, f entry.2⟩ : Sigma fun _ : κ => ν)).keys =
        m.entries.keys := by
      simp [List.keys, Function.comp_def]
    rw [List.NodupKeys, hkeys]
    exact m.nodupKeys

/-- The entries that `p` holds of. -/
def retain (p : κ → ν → Bool) (m : HashMap κ ν) : HashMap κ ν where
  entries := m.entries.filter fun entry => p entry.1 entry.2
  nodupKeys := m.nodupKeys.sublist List.filter_sublist

variable [DecidableEq κ]

theorem lookup_retain (p : κ → ν → Bool) (m : HashMap κ ν) (k : κ) :
    (m.retain p).lookup k = (m.lookup k).filter (p k) := by
  ext v
  rw [Option.filter_eq_some_iff, ← Option.mem_def, ← Option.mem_def, mem_lookup_iff,
    mem_lookup_iff]
  exact mem_filter

theorem lookup_mapValues (f : ν → ν) (m : HashMap κ ν) (k : κ) :
    (m.mapValues f).lookup k = (m.lookup k).map f :=
  dlookup_map₂ (f := fun _ => f) k

theorem mem_values {m : HashMap κ ν} {v : ν} : v ∈ m.values ↔ ∃ k, m.lookup k = some v := by
  constructor
  · intro h
    obtain ⟨⟨k, v'⟩, hmem, rfl⟩ := mem_map.mp h
    exact ⟨k, mem_lookup_iff.mpr hmem⟩
  · rintro ⟨k, h⟩
    exact mem_map.mpr ⟨⟨k, v⟩, mem_lookup_iff.mp h, rfl⟩

theorem lookup_insert_eq (m : HashMap κ ν) (k k' : κ) (v : ν) :
    (m.insert k v).lookup k' = if k' = k then some v else m.lookup k' := by
  split_ifs with h
  · subst h
    exact m.lookup_insert
  · exact lookup_insert_ne h

theorem lookup_erase_eq (m : HashMap κ ν) (k k' : κ) :
    (m.erase k).lookup k' = if k' = k then none else m.lookup k' := by
  split_ifs with h
  · subst h
    exact lookup_erase k' m
  · exact lookup_erase_ne h

/-- The values inserted one after another, each under its key. -/
def insertAll (key : ν → κ) (m : HashMap κ ν) (l : List ν) : HashMap κ ν :=
  l.foldl (fun m v => m.insert (key v) v) m

theorem insertAll_append (key : ν → κ) (m : HashMap κ ν) (l l' : List ν) :
    m.insertAll key (l ++ l') = (m.insertAll key l).insertAll key l' := foldl_append

theorem lookup_insertAll (key : ν → κ) (m : HashMap κ ν) (l : List ν) (k : κ) :
    (m.insertAll key l).lookup k =
      (l.filter fun v => decide (key v = k)).getLast?.or (m.lookup k) := by
  induction l generalizing m with
  | nil => rfl
  | cons v l ih =>
    rw [insertAll, foldl_cons, ← insertAll, ih, lookup_insert_eq, filter_cons]
    by_cases hk : key v = k
    · rw [if_pos hk.symm, if_pos (decide_eq_true hk), getLast?_cons]
      cases (l.filter fun v => decide (key v = k)).getLast? <;> rfl
    · rw [if_neg (Ne.symm hk), if_neg (by simpa using hk)]

def deleteKeys (m : HashMap κ ν) (keys : List κ) : HashMap κ ν :=
  keys.foldl (fun m k => m.erase k) m

theorem lookup_deleteKeys (m : HashMap κ ν) (keys : List κ) (k : κ) :
    (m.deleteKeys keys).lookup k = if k ∈ keys then none else m.lookup k := by
  induction keys generalizing m with
  | nil => simp [deleteKeys]
  | cons k' keys ih =>
    rw [deleteKeys, foldl_cons, ← deleteKeys, ih, lookup_erase_eq]
    by_cases hk : k = k'
    · simp [hk]
    · simp [hk]

theorem mem_deleteKeys (m : HashMap κ ν) (keys : List κ) (k : κ) :
    k ∈ m.deleteKeys keys ↔ k ∈ m ∧ k ∉ keys := by
  rw [← lookup_isSome, ← lookup_isSome, lookup_deleteKeys]
  split_ifs with hk
  · simp [hk]
  · simp [hk]

end HashMap

end Lib
