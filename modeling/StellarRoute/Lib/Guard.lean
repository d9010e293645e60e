import Mathlib.Tactic

/-! Fallible computations in `Except`: a guard, an optional value read with an
error, and the inversion rules by which a proof takes a successful (or failed)
computation apart one step at a time. -/

namespace Lib

open List

universe u v

variable {ε : Type u} {α β : Type v}

/-- Continue only when `p` holds. -/
def require (p : Prop) [Decidable p] (e : ε) : Except ε Unit := if p then .ok () else .error e

def okOr (o : Option α) (e : ε) : Except ε α :=
  match o with
  | some a => .ok a
  | none => .error e

variable {e : ε} {p : Prop} {a : α} {o : Option α} {f : α → Except ε β} {b : β} {x : Except ε α}
  {P : ε → Prop}

@[simp] theorem require_eq_ok [Decidable p] {u : Unit} : require p e = .ok u ↔ p := by
  unfold require
  split_ifs with h <;> simp [h]

variable {e' : ε} {δ : Type} {l : List α}

@[simp] theorem require_eq_error [Decidable p] : require p e = .error e' ↔ ¬ p ∧ e = e' := by
  unfold require
  split_ifs with h <;> simp [h]

@[simp] theorem okOr_eq_ok : okOr o e = .ok a ↔ o = some a := by
  cases o <;> simp [okOr]

@[simp] theorem okOr_eq_error : okOr o e = .error e' ↔ o = none ∧ e = e' := by
  cases o <;> simp [okOr]

theorem ok_bind : (Except.ok a >>= f) = f a := rfl

theorem bind_eq_ok : (x >>= f) = .ok b ↔ ∃ a, x = .ok a ∧ f a = .ok b := by
  cases x <;> simp [bind, Except.bind]

theorem bind_eq_error : (x >>= f) = .error e ↔ x = .error e ∨ ∃ a, x = .ok a ∧ f a = .error e := by
  cases x <;> simp [bind, Except.bind]

@[simp] theorem pure_eq_ok {b : α} : (pure a : Except ε α) = .ok b ↔ a = b := by
  simp [pure, Except.pure]

@[simp] theorem pure_ne_error : (pure a : Except ε α) ≠ .error e := by
  simp [pure, Except.pure]

theorem map_eq_ok {f : α → β} : x.map f = .ok b ↔ ∃ a, x = .ok a ∧ f a = b := by
  cases x <;> simp [Except.map]

theorem map_eq_error {f : α → β} : x.map f = .error e ↔ x = .error e := by
  cases x <;> simp [Except.map]

@[simp] theorem mapError_eq_ok {ε' : Type u} {f : ε → ε'} : x.mapError f = .ok a ↔ x = .ok a := by
  cases x <;> simp [Except.mapError]

def FailsWith (P : ε → Prop) (x : Except ε α) : Prop := ∀ e, x = .error e → P e

theorem failsWith_pure (a : α) : FailsWith P (pure a : Except ε α) :=
  fun _ h => absurd h pure_ne_error

theorem failsWith_require [Decidable p] (he : P e) : FailsWith P (require p e) := by
  intro e' h
  rw [require_eq_error] at h
  exact h.2 ▸ he

theorem failsWith_okOr (he : P e) : FailsWith P (okOr o e) := by
  intro e' h
  rw [okOr_eq_error] at h
  exact h.2 ▸ he

theorem failsWith_bind (hx : FailsWith P x) (hf : ∀ a, FailsWith P (f a)) :
    FailsWith P (x >>= f) := by
  intro e h
  rcases bind_eq_error.mp h with h | ⟨a, -, h⟩
  · exact hx e h
  · exact hf a e h

theorem failsWith_check [Decidable p] {f : Unit → Except ε δ} (he : P e)
    (hf : ∀ u, FailsWith P (f u)) : FailsWith P (require p e >>= f) := by
  unfold require
  split_ifs
  · exact hf ()
  · exact fun _ h => (Except.error.inj h) ▸ he

theorem failsWith_read (he : P e) (hf : ∀ a, FailsWith P (f a)) : FailsWith P (okOr o e >>= f) :=
  failsWith_bind (failsWith_okOr he) hf

theorem failsWith_require_bind [Decidable p] {f : Unit → Except ε δ} (hp : p)
    (hf : FailsWith P (f ())) : FailsWith P (require p e >>= f) := by
  rw [require, if_pos hp]
  exact hf

theorem failsWith_okOr_bind (ho : o = some a) (hf : FailsWith P (f a)) :
    FailsWith P (okOr o e >>= f) := by
  rw [ho]
  exact hf

theorem failsWith_foldlM {f : β → α → Except ε β} (hf : ∀ b a, FailsWith P (f b a)) :
    FailsWith P (l.foldlM f b) := by
  induction l generalizing b with
  | nil => exact failsWith_pure b
  | cons a l ih =>
    rw [foldlM_cons]
    exact failsWith_bind (hf b a) fun _ => ih

/-- Every value that `x` returns satisfies `P`, whatever its checks let through. -/
def Yields (P : α → Prop) (x : Except ε α) : Prop := ∀ a, x = .ok a → P a

theorem yields_pure {P : α → Prop} (h : P a) : Yields P (pure a : Except ε α) :=
  fun _ hb => pure_eq_ok.mp hb ▸ h

theorem yields_bind {P : β → Prop} (hf : ∀ a, Yields P (f a)) : Yields P (x >>= f) := by
  intro b h
  obtain ⟨a, -, h⟩ := bind_eq_ok.mp h
  exact hf a b h

theorem foldlM_inv {P : β → Prop} {f : β → α → Except ε β} (l : List α)
    (hstep : ∀ b a b', a ∈ l → P b → f b a = .ok b' → P b') {b' : β} (hb : P b)
    (h : l.foldlM f b = .ok b') : P b' := by
  induction l generalizing b with
  | nil =>
    rw [foldlM_nil, pure_eq_ok] at h
    exact h ▸ hb
  | cons a l ih =>
    rw [foldlM_cons, bind_eq_ok] at h
    obtain ⟨c, hc, h⟩ := h
    exact ih (fun b a b' ha => hstep b a b' (mem_cons_of_mem _ ha))
      (hstep b a c mem_cons_self hb hc) h

theorem foldlM_append_eq {γ : Type u} {f : List γ → α → Option (List γ)} {h : α → List γ}
    (hf : ∀ a ∈ l, ∀ acc, f acc a = some (acc ++ h a)) (acc : List γ) :
    l.foldlM f acc = some (acc ++ l.flatMap h) := by
  induction l generalizing acc with
  | nil => simp
  | cons a l ih =>
    rw [foldlM_cons, hf a mem_cons_self, Option.bind_eq_bind, Option.bind_some,
      ih fun b hb => hf b (mem_cons_of_mem _ hb), flatMap_cons, append_assoc]

/-- A computation ends with a value that satisfies `ok` or with an error that satisfies `err`. -/
def Meets (ok : α → Prop) (err : ε → Prop) : Except ε α → Prop
  | .ok a => ok a
  | .error e => err e

section Meets

variable {ok : α → Prop} {err : ε → Prop}

theorem Meets.mono {ok' : α → Prop} {err' : ε → Prop} {x : Except ε α} (h : Meets ok err x)
    (hok : ∀ a, ok a → ok' a) (herr : ∀ e, err e → err' e) : Meets ok' err' x := by
  cases x with
  | error e => exact herr e h
  | ok a => exact hok a h

@[simp] theorem meets_pure {a : α} : Meets ok err (pure a) ↔ ok a := Iff.rfl

@[simp] theorem meets_bind {γ : Type v} {ok : γ → Prop} {x : Except ε α} {f : α → Except ε γ} :
    Meets ok err (x >>= f) ↔ Meets (fun a => Meets ok err (f a)) err x := by
  cases x <;> rfl

@[simp] theorem meets_require {p : Prop} [Decidable p] {e : ε} {ok : Unit → Prop} :
    Meets ok err (require p e) ↔ (p → ok ()) ∧ (¬ p → err e) := by
  unfold require
  split_ifs with h <;> simp [h, Meets]

@[simp] theorem meets_okOr {o : Option α} {e : ε} :
    Meets ok err (okOr o e) ↔ (∀ a, o = some a → ok a) ∧ (o = none → err e) := by
  cases o <;> simp [okOr, Meets]

end Meets

/-! What a computation has given can be tested when the property of its value can. -/

instance decidableSome {P : α → Prop} [DecidablePred P] :
    (o : Option α) → Decidable (∃ a, o = some a ∧ P a)
  | none => isFalse (by simp)
  | some a => decidable_of_iff (P a) (by simp)

instance decidableOk {P : α → Prop} [DecidablePred P] :
    (x : Except ε α) → Decidable (∃ a, x = .ok a ∧ P a)
  | .error _ => isFalse (by simp)
  | .ok a => decidable_of_iff (P a) (by simp)

end Lib
