import StellarRoute.Cctp.Sanity.Store

/-! How a stored record develops. Its quoted terms never change, and whatever
else is rewritten, apart from leases and times, goes with a new version. So a
caller that finds the version it has read finds the record it has read. -/

namespace StellarRoute.Cctp

open Lib Lib.Interleave

/-- Every record of `s` is still there in `s'`, developed. -/
def Grows (s s' : State) : Prop :=
  ∀ id t, s.transfer id = some t → ∃ t', s'.transfer id = some t' ∧ Evolves t t'

theorem Grows.refl (s : State) : Grows s s := fun _ t h => ⟨t, h, .refl t⟩

theorem Grows.trans (s1 s2 s3 : State) (h1 : Grows s1 s2) (h2 : Grows s2 s3) : Grows s1 s3 := by
  intro id t ht
  obtain ⟨t', ht', hevolves⟩ := h1 id t ht
  obtain ⟨t'', ht'', hevolves'⟩ := h2 id t' ht'
  exact ⟨t'', ht'', hevolves.trans hevolves'⟩

theorem exec_grows (c : Codec) (env : Env) (s : State) (o : Op) : Grows s (exec c env o s).2 := by
  intro id t ht
  obtain ⟨t', ht', rfl | ⟨so, -, -, hrw⟩⟩ := exec_transfer c env o ht
  · exact ⟨t', ht', .refl t'⟩
  · exact ⟨t', ht', hrw.evolves⟩

/-! ### What a caller has read -/

abbrev Trace := List (Event Env State Op)

/-- Some operation of the trace left this record. -/
def Read (c : Codec) (L : Trace) (id : Uuid) (t : CctpTransfer) : Prop :=
  ∃ e ∈ L, (e.after (exec c)).transfer id = some t

section Read

variable {c : Codec} {L L' : Trace} {id : Uuid} {t u : CctpTransfer} {s : State}

theorem Read.mono (hL : L <:+ L') (h : Read c L id t) : Read c L' id t := by
  obtain ⟨e, he, ht⟩ := h
  exact ⟨e, hL.subset he, ht⟩

theorem Read.id_eq (h : Read c L id t) : t.transferId = id := by
  obtain ⟨e, -, ht⟩ := h
  exact State.id_of_transfer ht

theorem Read.of_did {o : StoreOp} {r : o.Ret} (h : Did (exec c) (· ∈ L) (.store o) (.ok r))
    (hr : o.returned r = some t) : Read c L o.target t := by
  obtain ⟨env, s, hmem, hok⟩ := h
  exact ⟨_, hmem, returned_stored hok hr⟩

end Read

end StellarRoute.Cctp
