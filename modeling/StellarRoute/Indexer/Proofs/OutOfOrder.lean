import Mathlib.Tactic
import StellarRoute.Lib.Transition
import StellarRoute.Indexer.Spec.Deduplication

/-! What `drain_ready` hands out. The buffer is sorted, so one pass over it finds the numbers that
follow the last one of the stream. It never looks back: an event that is buffered too late, or
twice, or that a completion passes, stays in the buffer for good. -/

namespace StellarRoute.Indexer.BufferedDeduplicator

open Lib Transition List

/-- From `buffer`, with `n` events ready, the first of `r` become ready and the second are left. -/
structure Drained (streamId : String) (lastSeq : UInt64) (n : ℕ) (buffer : OutOfOrderBuffer)
    (r : OutOfOrderBuffer × OutOfOrderBuffer) : Prop where
  run : r.1.map (·.2.toNat) = range' (lastSeq.toNat + 1 + n) r.1.length
  own : ∀ e ∈ r.1, e.1.source = streamId
  longest : ∀ e ∈ buffer, e.1.source = streamId → e.2.toNat ≠ lastSeq.toNat + 1 + n + r.1.length
  in_place : r.2 <+ buffer
  others : (r.1 ++ r.2) ~ buffer

variable {d : BufferedDeduplicator} {streamId : String} {lastSeq : UInt64} {n : ℕ}
  {buffer : OutOfOrderBuffer}

theorem drainLoop_sublist : (drainLoop streamId lastSeq n buffer).2 <+ buffer := by
  induction buffer generalizing n with
  | nil => exact .refl _
  | cons e buffer ih =>
    rw [drainLoop]
    split_ifs
    · exact ih.cons e
    · exact ih.cons_cons e

theorem expected_iff {seq : UInt64} (hroom : lastSeq.toNat + n < 2 ^ 64) (h : lastSeq < seq) :
    seq = lastSeq + 1 + UInt64.ofNat n ↔ seq.toNat = lastSeq.toNat + 1 + n := by
  have hlt := UInt64.lt_iff_toNat_lt.mp h
  have hseq := seq.toNat_lt
  rw [← UInt64.toNat_inj, UInt64.toNat_add, UInt64.toNat_add, UInt64.toNat_ofNat', UInt64.toNat_one]
  omega

theorem drainLoop_drained (hroom : lastSeq.toNat + n < 2 ^ 64)
    (hsorted : buffer.Pairwise (·.2 ≤ ·.2))
    (hlater : ∀ e ∈ buffer, e.1.source = streamId → lastSeq < e.2) :
    Drained streamId lastSeq n buffer (drainLoop streamId lastSeq n buffer) := by
  induction buffer generalizing n with
  | nil => exact ⟨rfl, nofun, nofun, .refl _, .refl _⟩
  | cons e buffer ih =>
    obtain ⟨hfirst, hsorted⟩ := pairwise_cons.mp hsorted
    obtain ⟨hlate, hlater⟩ := forall_mem_cons.mp hlater
    rw [drainLoop]
    split_ifs with hready
    · obtain ⟨hown, hseq⟩ := hready
      rw [expected_iff hroom (hlate hown)] at hseq
      have hlt := e.2.toNat_lt
      have h := ih (n := n + 1) (by omega) hsorted hlater
      refine ⟨?_, forall_mem_cons.mpr ⟨hown, h.own⟩, ?_, h.in_place.cons e, h.others.cons e⟩
      · simp [h.run, hseq, range'_succ, Nat.add_assoc]
      · refine forall_mem_cons.mpr ⟨fun _ => by simp [hseq], fun e' he' hown' => ?_⟩
        have := h.longest e' he' hown'
        simp only [length_cons]
        omega
    · have h := ih hroom hsorted hlater
      generalize drainLoop streamId lastSeq n buffer = r at h ⊢
      refine ⟨h.run, h.own, forall_mem_cons.mpr ⟨fun hown heq => ?_, h.longest⟩,
        h.in_place.cons_cons e, perm_middle.trans (h.others.cons e)⟩
      obtain ⟨_ | ⟨e', ready⟩, rest⟩ := r
      · exact hready ⟨hown, (expected_iff hroom (hlate hown)).mpr heq⟩
      · -- the first that is ready comes later in the buffer, and with a smaller number
        have hle := UInt64.le_iff_toNat_le.mp (hfirst e' (h.others.subset (by simp)))
        have hrun := h.run
        simp only [map_cons, length_cons, range'_succ, cons.injEq] at hrun heq
        omega

/-- Draining the stream hands out the longest run and leaves nothing at or below its last number. -/
def Drains (d : BufferedDeduplicator) (streamId : String) : Prop :=
  let rest := (d.drainReady streamId).2.outOfOrderBuffer
  Drained streamId (d.lastSequence streamId) 0 d.outOfOrderBuffer ((d.drainReady streamId).1, rest) ∧
    ∀ e ∈ rest, e.1.source = streamId → d.lastSequence streamId < e.2

/-- Every event in the buffer is still to come. -/
def Ahead (d : BufferedDeduplicator) : Prop :=
  ∀ e ∈ d.outOfOrderBuffer, d.lastSequence e.1.source < e.2

theorem drains_iff (hsorted : d.outOfOrderBuffer.Pairwise (·.2 ≤ ·.2)) :
    (∀ streamId, Drains d streamId) ↔ Ahead d := by
  constructor
  · intro h e he
    obtain ⟨hdrained, hleft⟩ := h e.1.source
    rcases mem_append.mp (hdrained.others.symm.subset he) with he | he
    · have hmem := mem_map_of_mem (f := fun e : IdempotencyKey × UInt64 => e.2.toNat) he
      rw [hdrained.run, mem_range'_1] at hmem
      exact UInt64.lt_iff_toNat_lt.mpr hmem.1
    · exact hleft e he rfl
  · intro h streamId
    have hlater : ∀ e ∈ d.outOfOrderBuffer, e.1.source = streamId → d.lastSequence streamId < e.2 :=
      fun e he hown => hown ▸ h e he
    exact ⟨drainLoop_drained (d.lastSequence streamId).toNat_lt hsorted hlater,
      fun e he => hlater e (drainLoop_sublist.subset he)⟩

/-- No event is buffered at or below the last number of its stream, and no completion passes one
that is in the buffer. -/
def Ordered (d : BufferedDeduplicator) : BufferCall → Prop
  | .bufferOutOfOrder key sequence =>
    d.outOfOrderBuffer.length < d.maxOutOfOrderBuffer → d.lastSequence key.source < sequence
  | .drainReady _ => True
  | .markCompleted _ streamId sequence _ =>
    ∀ e ∈ d.outOfOrderBuffer, e.1.source = streamId → sequence < e.2

theorem lastSequence_markCompleted (key : IdempotencyKey) (sequence : UInt64) (now : ℤ) (s : String) :
    (d.step (.markCompleted key streamId sequence now)).lastSequence s =
      if s = streamId ∧ d.lastSequence streamId < sequence then sequence else d.lastSequence s := by
  have hsame : (d.toEventDeduplicator.markCompleted key now).streamStates = d.streamStates := by
    unfold EventDeduplicator.markCompleted EventDeduplicator.modify
    split <;> rfl
  simp only [step, lastSequence, EventDeduplicator.advanceStream, HashMap.lookup_insert_eq, hsame]
  by_cases hs : s = streamId
  · subst hs
    rcases Option.eq_none_or_eq_some (d.streamStates.lookup s) with h | ⟨state, h⟩
    · simp [h]
    · simp [h]
  · simp [hs]

theorem ahead_step (h : Ahead d) (call : BufferCall) : Ahead (d.step call) ↔ Ordered d call := by
  cases call with
  | bufferOutOfOrder key sequence =>
    simp only [step, bufferOutOfOrder, Ordered]
    split_ifs with hfull
    · exact iff_of_true h fun hlt => absurd hlt (not_lt.mpr hfull)
    · simp only [Ahead, mem_insertionSort, forall_mem_append, forall_mem_singleton]
      exact ⟨fun h' _ => h'.2, fun h' => ⟨h, h' (not_le.mp hfull)⟩⟩
  | drainReady streamId => exact iff_of_true (fun e he => h e (drainLoop_sublist.subset he)) trivial
  | markCompleted key streamId sequence now =>
    simp only [Ahead, Ordered, lastSequence_markCompleted]
    refine forall₂_congr fun e he => ?_
    have hlast := h e he
    split_ifs with hown
    · simp [hown.1]
    · refine iff_of_true hlast fun hsame => ?_
      rw [not_and, UInt64.not_lt] at hown
      exact UInt64.lt_of_le_of_lt (hown hsame) (hsame ▸ hlast)

theorem sorted_step (h : d.outOfOrderBuffer.Pairwise (·.2 ≤ ·.2)) (call : BufferCall) :
    (d.step call).outOfOrderBuffer.Pairwise (·.2 ≤ ·.2) := by
  cases call with
  | bufferOutOfOrder key sequence =>
    have : Std.Total fun a b : IdempotencyKey × UInt64 => a.2 ≤ b.2 := ⟨fun _ _ => UInt64.le_total _ _⟩
    have : IsTrans (IdempotencyKey × UInt64) (·.2 ≤ ·.2) := ⟨fun _ _ _ => UInt64.le_trans⟩
    simp only [step, bufferOutOfOrder]
    split_ifs
    · exact h
    · exact pairwise_insertionSort _ _
  | drainReady streamId => exact h.sublist drainLoop_sublist
  | markCompleted key streamId sequence now => exact h

theorem drains_run_iff (config : DeduplicationConfig) (bound : ℕ) (calls : List BufferCall) :
    (∀ before, before <+: calls → ∀ streamId, Drains (run step (new config bound) before) streamId) ↔
      StepsOk step Ordered (new config bound) calls := by
  have hiff := fun before : List BufferCall =>
    drains_iff (run_inv (P := fun d => d.outOfOrderBuffer.Pairwise (·.2 ≤ ·.2))
      (fun _ call h => sorted_step h call) before (s := new config bound) Pairwise.nil)
  constructor
  · intro h
    induction calls using reverseRecOn with
    | nil => trivial
    | append_singleton calls call ih =>
      have hbefore := (hiff calls).mp (h calls (prefix_append _ _))
      have hafter := (hiff _).mp (h _ (prefix_refl _))
      rw [run_concat, ahead_step hbefore] at hafter
      exact stepsOk_append.mpr ⟨ih fun before hle => h before (hle.trans (prefix_append _ _)),
        hafter, trivial⟩
  · rintro h before ⟨after, rfl⟩
    exact (hiff before).mpr (run_inv_of_ok (fun _ call hd hok => (ahead_step hd call).mpr hok) nofun
      (stepsOk_append.mp h).1)

/-- An event that is buffered twice is handed out once; when it is completed the other one stays. -/
theorem event_left_behind :
    let d := run step (new .default 1000) [.bufferOutOfOrder ⟨"sdex", "1"⟩ 1,
      .bufferOutOfOrder ⟨"sdex", "1"⟩ 1, .drainReady "sdex", .markCompleted ⟨"sdex", "1"⟩ "sdex" 1 0]
    d.lastSequence "sdex" = 1 ∧
      (d.drainReady "sdex").2.outOfOrderBuffer = [(⟨"sdex", "1"⟩, 1)] := by
  decide

end StellarRoute.Indexer.BufferedDeduplicator
