import Mathlib.Tactic

/-! A queue that holds the newest `cap` of the values put into it. `Keeps` relates it to the log of
all of them, which has the newest first. -/

namespace Lib.BoundedQueue

open List

variable {α : Type*}

/-- The oldest value gives way when the queue is full. -/
def push (cap : ℕ) (q : List α) (a : α) : List α := (if cap ≤ q.length then q.tail else q) ++ [a]

/-- The newest values, the newest first. -/
def recent (n : ℕ) (q : List α) : List α := q.reverse.take n

def Keeps (cap : ℕ) (q log : List α) : Prop := q.reverse = log.take cap

variable {cap n : ℕ} {q log : List α}

theorem keeps_nil : Keeps cap ([] : List α) [] := take_nil.symm

theorem Keeps.push (h : Keeps cap q log) (hcap : 0 < cap) (a : α) :
    Keeps cap (push cap q a) (a :: log) := by
  obtain ⟨k, rfl⟩ := Nat.exists_eq_succ_of_ne_zero hcap.ne'
  have hlength : q.length = min (k + 1) log.length := by
    rw [← length_reverse, h, length_take]
  unfold Keeps at h ⊢
  rw [BoundedQueue.push, reverse_append, reverse_singleton, singleton_append,
    take_succ_cons]
  congr 1
  split_ifs with hfull
  · have hlong : k < log.length := by omega
    rw [← dropLast_reverse, h, dropLast_eq_take, length_take, take_take]
    congr 1
    omega
  · have hshort : log.length ≤ k := by omega
    rw [h, take_of_length_le hshort, take_of_length_le (by omega)]

theorem Keeps.recent (h : Keeps cap q log) (hn : n ≤ cap) : recent n q = log.take n := by
  rw [BoundedQueue.recent, h, take_take, min_eq_left hn]

theorem Keeps.getLast? (h : Keeps cap q log) (hcap : 0 < cap) : q.getLast? = log.head? := by
  rw [← head?_reverse, h, head?_take, if_neg hcap.ne']

end Lib.BoundedQueue
