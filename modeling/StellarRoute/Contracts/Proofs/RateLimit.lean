import StellarRoute.Lib.Window
import StellarRoute.Contracts.Sanity.Books
import StellarRoute.Contracts.Sanity.Config

/-! The rate limit over whole runs. The successful swaps of an account make a
log in which a swap that finds no window open, or one that is over, opens a new
one. Count and start of the window are two temporary entries, which both live at
least until the window is over; so as long as it lasts it is found, and the log
has the two properties of a limiter by windows. -/

namespace StellarRoute.Contracts

open Lib Governance Function Option

variable {X : Type} {H : Host X} {auth : Auth} {c : Call} {w w' : World X} {mev : MevConfig}
  {a : Address}

/-- A swap of `a` now would open a new window. -/
def opensWindow (mev : MevConfig) (w : World X) (a : Address) : Bool :=
  !(decide (0 < getAccountSwapCount w a) &&
    decide (w.ledger < getAccountSwapWindowStart w a + mev.rateLimitWindowLedgers))

/-- The entry that the operation makes in the log of `a`. -/
def swapEntry (H : Host X) (mev : MevConfig) (a : Address) (w : World X) : Op X → List Window.Entry
  | .invoke auth c =>
    match c.swap, invoke H auth c w with
    | some (sender, _), .ok _ =>
      if sender = a then [⟨w.ledger.toNat, opensWindow mev w a⟩] else []
    | _, _ => []
  | _ => []

/-- The successful swaps of `a` in a run, the oldest first. -/
def swapLog (H : Host X) (mev : MevConfig) (a : Address) (w : World X) (ops : List (Op X)) :
    List Window.Entry :=
  Transition.trace (step H) (swapEntry H mev a) w ops

/-- The limit is in force for `a` and the end of a window fits into a `u32`. -/
structure UnderLimit (mev : MevConfig) (a : Address) (w : World X) : Prop where
  config : w.config.mevConfig = some mev
  listed : w.config.whitelisted a = false
  fits : w.ledger.toNat + mev.rateLimitWindowLedgers.toNat < 2 ^ 32

/-! One write -/

variable {now : UInt32} {α : Type} {b : Address} {start count t : Temp UInt32} {r : Ret}

theorem Temp.write_eq_ok {ttl : UInt32} {old : Option (Temp α)} {value : α} {t : Temp α}
    (h : Temp.write H now old value ttl = .ok t) :
    t.value = value ∧ now.toNat + ttl.toNat ≤ t.liveUntil ∧
      ∀ o, old = some o → now.toNat ≤ o.liveUntil → o.liveUntil ≤ t.liveUntil := by
  simp only [Temp.write, bind_eq_ok, pure_eq_ok] at h
  obtain ⟨-, -, -, -, rfl⟩ := h
  refine ⟨rfl, le_max_right _ _, fun o ho hlive => ?_⟩
  subst ho
  simp only [if_pos hlive]
  exact le_max_left _ _

theorem Temp.live_eq_some {o : Option (Temp α)} {v : α}
    (h : Temp.live now o = some v) : ∃ t, o = some t ∧ now.toNat ≤ t.liveUntil ∧ t.value = v := by
  simp only [Temp.live, bind_eq_some_iff, ite_none_right_eq_some, some.injEq] at h
  exact h

theorem Temp.live_of_le {t : Temp α} (h : now.toNat ≤ t.liveUntil) :
    Temp.live now (some t) = some t.value := by
  rw [Temp.live, bind_some, if_pos h]

/-- What the limit does to the entries of the sender. -/
inductive LimitStep (H : Host X) (mev : MevConfig) (a : Address) (w w' : World X) : Prop
  | inside (t : Temp UInt32) (hopens : opensWindow mev w a = false)
      (hlimit : getAccountSwapCount w a < mev.rateLimitMaxSwaps)
      (hwrite : Temp.write H w.ledger (w.mev.accountSwapCount a) (getAccountSwapCount w a + 1)
        mev.rateLimitWindowLedgers = .ok t)
      (hcount : w'.mev.accountSwapCount a = some t)
      (hstart : w'.mev.accountSwapWindowStart a = w.mev.accountSwapWindowStart a)
  | opening (s t : Temp UInt32) (hopens : opensWindow mev w a = true)
      (hwriteStart : Temp.write H w.ledger (w.mev.accountSwapWindowStart a) w.ledger
        mev.rateLimitWindowLedgers = .ok s)
      (hwrite : Temp.write H w.ledger (w.mev.accountSwapCount a) 1 mev.rateLimitWindowLedgers = .ok t)
      (hcount : w'.mev.accountSwapCount a = some t)
      (hstart : w'.mev.accountSwapWindowStart a = some s)

theorem rateLimit_limitStep (hconfig : w.config.mevConfig = some mev)
    (hlisted : w.config.whitelisted a = false) (h : rateLimit H a w = .ok w') :
    LimitStep H mev a w w' := by
  unfold rateLimit at h
  rw [hconfig] at h
  dsimp only at h
  rw [hlisted, if_neg Bool.false_ne_true] at h
  split_ifs at h with hinside
  · simp only [setAccountSwapCount, bind_eq_ok, require_eq_ok, pure_eq_ok, exists_const] at h
    obtain ⟨hlimit, t, ht, rfl⟩ := h
    refine .inside t ?_ hlimit ht (update_self ..) rfl
    rw [opensWindow, decide_eq_true hinside.1, decide_eq_true hinside.2]
    rfl
  · simp only [setAccountSwapWindowStart, setAccountSwapCount, bind_eq_ok, pure_eq_ok] at h
    obtain ⟨v, ⟨s, hs, rfl⟩, t, ht, rfl⟩ := h
    refine .opening s t ?_ hs ht (update_self ..) (update_self ..)
    rw [opensWindow, ← Bool.decide_and, decide_eq_false hinside]
    rfl

theorem rateLimit_others (hne : a ≠ b) (h : rateLimit H b w = .ok w') :
    w'.mev.accountSwapCount a = w.mev.accountSwapCount a ∧
      w'.mev.accountSwapWindowStart a = w.mev.accountSwapWindowStart a := by
  unfold rateLimit at h
  split at h
  · rw [← pure_eq_ok.mp h]
    exact ⟨rfl, rfl⟩
  · dsimp only at h
    split_ifs at h
    · rw [← pure_eq_ok.mp h]
      exact ⟨rfl, rfl⟩
    · simp only [setAccountSwapCount, bind_eq_ok, pure_eq_ok] at h
      obtain ⟨-, -, t, -, rfl⟩ := h
      exact ⟨update_of_ne hne _ _, rfl⟩
    · simp only [setAccountSwapWindowStart, setAccountSwapCount, bind_eq_ok, pure_eq_ok] at h
      obtain ⟨v, ⟨s, -, rfl⟩, t, -, rfl⟩ := h
      exact ⟨update_of_ne hne _ _, update_of_ne hne _ _⟩

/-! The entries against the log -/

/-- The window that was opened last, while its entries are to be found. -/
structure WindowFound (mev : MevConfig) (a : Address) (w : World X) (log : List Window.Entry)
    (start count : Temp UInt32) : Prop where
  start_eq : w.mev.accountSwapWindowStart a = some start
  count_eq : w.mev.accountSwapCount a = some count
  count_pos : 0 < count.value
  latest : ∀ e ∈ log, e.opens = true → e.time ≤ start.value.toNat
  fits : start.value.toNat + mev.rateLimitWindowLedgers.toNat < 2 ^ 32
  start_live : start.value.toNat + mev.rateLimitWindowLedgers.toNat ≤ start.liveUntil
  count_live : start.value.toNat + mev.rateLimitWindowLedgers.toNat ≤ count.liveUntil

/-- The stored entries of `a` against the log of its swaps. -/
structure RateInv (mev : MevConfig) (a : Address) (w : World X) (log : List Window.Entry) : Prop where
  bounds : ConfigBounds w
  past : ∀ e ∈ log, e.time ≤ w.ledger.toNat
  ordered : Window.Ordered log
  limited : Window.Limited mev.rateLimitMaxSwaps.toNat log
  spaced : Window.Spaced mev.rateLimitWindowLedgers.toNat log
  backlog : ∀ t, w.mev.accountSwapCount a = some t → Window.Backlog t.value.toNat log
  found : (∃ e ∈ log, e.opens = true) → ∃ start count, WindowFound mev a w log start count

variable {log : List Window.Entry}

/-- What leaves the entries of `a` alone. -/
theorem RateInv.congr (hw : RateInv mev a w log) (hbounds : ConfigBounds w')
    (hledger : w.ledger.toNat ≤ w'.ledger.toNat)
    (hstart : w'.mev.accountSwapWindowStart a = w.mev.accountSwapWindowStart a)
    (hcount : w'.mev.accountSwapCount a = w.mev.accountSwapCount a) : RateInv mev a w' log := by
  refine ⟨hbounds, fun e he => (hw.past e he).trans hledger, hw.ordered, hw.limited, hw.spaced, ?_, ?_⟩
  · rw [hcount]
    exact hw.backlog
  · intro hopens
    obtain ⟨start, count, hfound⟩ := hw.found hopens
    exact ⟨start, count, hstart.trans hfound.start_eq, hcount.trans hfound.count_eq,
      hfound.count_pos, hfound.latest, hfound.fits, hfound.start_live, hfound.count_live⟩

theorem WindowFound.over (h : WindowFound mev a w log start count)
    (hopens : opensWindow mev w a = true) :
    start.value.toNat + mev.rateLimitWindowLedgers.toNat ≤ w.ledger.toNat := by
  by_contra hlt
  have hstart : getAccountSwapWindowStart w a = start.value := by
    have hlive : w.ledger.toNat ≤ start.liveUntil := by
      have := h.start_live
      omega
    rw [getAccountSwapWindowStart, h.start_eq, Temp.live_of_le hlive, getD_some]
  have hcount : getAccountSwapCount w a = count.value := by
    have hlive : w.ledger.toNat ≤ count.liveUntil := by
      have := h.count_live
      omega
    rw [getAccountSwapCount, h.count_eq, Temp.live_of_le hlive, getD_some]
  have hinside : w.ledger < start.value + mev.rateLimitWindowLedgers := by
    rw [UInt32.lt_iff_toNat_lt, UInt32.toNat_add, Nat.mod_eq_of_lt h.fits]
    omega
  simp [opensWindow, hstart, hcount, decide_eq_true h.count_pos, decide_eq_true hinside] at hopens

theorem count_found (h : opensWindow mev w a = false) :
    ∃ o, w.mev.accountSwapCount a = some o ∧ w.ledger.toNat ≤ o.liveUntil ∧
      o.value = getAccountSwapCount w a := by
  rw [opensWindow, Bool.not_eq_false', Bool.and_eq_true, decide_eq_true_iff] at h
  cases hlive : Temp.live w.ledger (w.mev.accountSwapCount a) with
  | none =>
    have hzero : getAccountSwapCount w a = 0 := by rw [getAccountSwapCount, hlive, getD_none]
    rw [hzero] at h
    exact absurd h.1 (UInt32.lt_irrefl 0)
  | some v =>
    obtain ⟨o, ho, hlater, hvalue⟩ := Temp.live_eq_some hlive
    exact ⟨o, ho, hlater, by rw [getAccountSwapCount, hlive, getD_some, hvalue]⟩

theorem RateInv.inside (hw : RateInv mev a w log) (hbounds : ConfigBounds w')
    (hledger : w'.ledger = w.ledger) (hopens : opensWindow mev w a = false)
    (hstep : LimitStep H mev a w w') : RateInv mev a w' (log ++ [⟨w.ledger.toNat, false⟩]) := by
  obtain ⟨t, -, hlimit, hwrite, hcount, hstart⟩ | ⟨_, _, hopened⟩ := hstep
  swap
  · simp [hopens] at hopened
  obtain ⟨o, ho, hlive, hvalue⟩ := count_found hopens
  obtain ⟨htvalue, -, hlonger⟩ := Temp.write_eq_ok hwrite
  have hlt := UInt32.lt_iff_toNat_lt.mp hlimit
  have hnext : t.value.toNat = o.value.toNat + 1 := by
    have hmax := mev.rateLimitMaxSwaps.toNat_lt
    rw [htvalue, hvalue, UInt32.toNat_add]
    exact Nat.mod_eq_of_lt (by change _ + 1 < _; omega)
  have hbacklog : Window.Backlog t.value.toNat (log ++ [⟨w.ledger.toNat, false⟩]) := by
    rw [hnext]
    exact (hw.backlog o ho).concat
  refine ⟨hbounds, ?_, hw.ordered.concat hw.past, hw.limited.concat (hbacklog.mono ?_),
    hw.spaced.concat nofun, ?_, ?_⟩
  · simpa [hledger, or_imp, forall_and] using hw.past
  · rw [hnext, hvalue]
    exact hlt
  · intro t' ht'
    obtain rfl : t = t' := mem_unique hcount ht'
    exact hbacklog
  · -- the new entry opens no window, so the one before it is still the last
    have hold : ∀ e ∈ log ++ [⟨w.ledger.toNat, false⟩], e.opens = true → e ∈ log := by
      intro e he hopen
      rcases List.mem_append.mp he with he | he
      · exact he
      · simp [List.mem_singleton.mp he] at hopen
    rintro ⟨e, he, hopen⟩
    obtain ⟨start, count, hfound⟩ := hw.found ⟨e, hold e he hopen, hopen⟩
    obtain rfl : o = count := mem_unique ho hfound.count_eq
    refine ⟨start, t, hstart.trans hfound.start_eq, hcount, ?_, fun e he hopen => ?_, hfound.fits,
      hfound.start_live, hfound.count_live.trans (hlonger o ho hlive)⟩
    · rw [UInt32.lt_iff_toNat_lt, hnext]
      exact Nat.succ_pos _
    · exact hfound.latest e (hold e he hopen) hopen

theorem RateInv.opening (hw : RateInv mev a w log) (hunder : UnderLimit mev a w)
    (hbounds : ConfigBounds w') (hledger : w'.ledger = w.ledger)
    (hopens : opensWindow mev w a = true) (hstep : LimitStep H mev a w w') :
    RateInv mev a w' (log ++ [⟨w.ledger.toNat, true⟩]) := by
  obtain ⟨_, hclosed⟩ | ⟨s, t, -, hwriteStart, hwrite, hcount, hstart⟩ := hstep
  · simp [hopens] at hclosed
  obtain ⟨hsvalue, hslive, -⟩ := Temp.write_eq_ok hwriteStart
  obtain ⟨htvalue, htlive, -⟩ := Temp.write_eq_ok hwrite
  have hone : 1 ≤ mev.rateLimitMaxSwaps.toNat := by
    have hpos := hw.bounds.maxSwaps mev hunder.config
    rw [Ne, ← UInt32.toNat_inj] at hpos
    exact Nat.one_le_iff_ne_zero.mpr hpos
  have hbacklog : Window.Backlog 1 (log ++ [⟨w.ledger.toNat, true⟩]) := Window.backlog_concat_open rfl
  have hpast : ∀ e ∈ log ++ [⟨w.ledger.toNat, true⟩], e.time ≤ w.ledger.toNat := by
    simpa [or_imp, forall_and] using hw.past
  refine ⟨hbounds, by rwa [hledger], hw.ordered.concat hw.past, hw.limited.concat (hbacklog.mono hone),
    hw.spaced.concat fun _ e he hopen => ?_, ?_, fun _ => ⟨s, t, hstart, hcount, ?_, ?_, ?_, ?_, ?_⟩⟩
  · -- the window before it is over
    obtain ⟨start, count, hfound⟩ := hw.found ⟨e, he, hopen⟩
    exact (Nat.add_le_add_right (hfound.latest e he hopen) _).trans (hfound.over hopens)
  · intro t' ht'
    obtain rfl : t = t' := mem_unique hcount ht'
    rw [htvalue]
    exact hbacklog
  · rw [htvalue]
    decide
  · rw [hsvalue]
    exact fun e he _ => hpast e he
  · rw [hsvalue]
    exact hunder.fits
  · rw [hsvalue]
    exact hslive
  · rw [hsvalue]
    exact htlive

/-! Steps -/

theorem swapEntry_of_none (hc : c.swap = none) : swapEntry H mev a w (.invoke auth c) = [] := by
  rw [swapEntry, hc]

theorem invoke_rateInv (hw : RateInv mev a w log) (hunder : UnderLimit mev a w)
    (h : invoke H auth c w = .ok (r, w')) :
    RateInv mev a w' (log ++ swapEntry H mev a w (.invoke auth c)) := by
  have hbounds := invoke_configBounds hw.bounds h
  have hledger := (invoke_touches h).ledger
  cases hc : c.swap with
  | none =>
    obtain ⟨hcounts, hstarts⟩ := invoke_ratesKept hw.bounds.gov.keyed hc h
    rw [swapEntry_of_none hc, List.append_nil]
    exact hw.congr hbounds (by rw [hledger]) (by rw [hstarts]) (by rw [hcounts])
  | some swap =>
    obtain ⟨sender, params⟩ := swap
    obtain ⟨s, es, commitment, -, -, hexec⟩ := invoke_swap_eq_ok hc h
    obtain ⟨w1, first, last, fee, v, u, hs⟩ := executeSwapInternal_swapped hexec
    obtain ⟨hcounts, hstarts⟩ := hs.rates
    rw [swapEntry, hc, h]
    dsimp only
    split_ifs with hsender
    · subst hsender
      have hstep : LimitStep H mev sender w w' := by
        cases rateLimit_limitStep (w := swapStart es commitment w) hunder.config hunder.listed hs.rate with
        | inside t hopens hlimit hwrite hcount hwindow =>
          exact .inside t hopens hlimit hwrite (hcounts ▸ hcount) (hstarts ▸ hwindow)
        | opening s t hopens hwriteStart hwrite hcount hwindow =>
          exact .opening s t hopens hwriteStart hwrite (hcounts ▸ hcount) (hstarts ▸ hwindow)
      cases hopens : opensWindow mev w sender with
      | false => exact hw.inside hbounds hledger hopens hstep
      | true => exact hw.opening hunder hbounds hledger hopens hstep
    · obtain ⟨hcount, hwindow⟩ := rateLimit_others (Ne.symm hsender) hs.rate
      rw [List.append_nil]
      exact hw.congr hbounds (by rw [hledger]) (by rw [hstarts]; exact hwindow)
        (by rw [hcounts]; exact hcount)

theorem step_rateInv {op : Op X} (hw : RateInv mev a w log) (hunder : UnderLimit mev a w) :
    RateInv mev a (step H w op) (log ++ swapEntry H mev a w op) := by
  cases op with
  | invoke auth c =>
    cases h : invoke H auth c w with
    | ok r =>
      have hstep : step H w (.invoke auth c) = r.2 := by rw [step, h]
      rw [hstep]
      exact invoke_rateInv hw hunder h
    | error e =>
      have hstep : step H w (.invoke auth c) = w := by rw [step, h]
      have hnone : swapEntry H mev a w (.invoke auth c) = [] := by
        rw [swapEntry, h]
        cases c.swap <;> rfl
      rw [hstep, hnone, List.append_nil]
      exact hw
  | advance n =>
    have hnone : swapEntry H mev a w (.advance n) = [] := rfl
    rw [hnone, List.append_nil, step]
    split_ifs with hn
    · refine hw.congr ⟨hw.bounds.gov, hw.bounds.feeRate, hw.bounds.maxSwaps⟩ ?_ rfl rfl
      rw [UInt32.toNat_ofNat_of_lt' hn]
      exact Nat.le_add_right _ _
    · exact hw
  | outside x =>
    have hnone : swapEntry H mev a w (.outside x) = [] := rfl
    rw [hnone, List.append_nil]
    exact hw.congr ⟨hw.bounds.gov, hw.bounds.feeRate, hw.bounds.maxSwaps⟩ le_rfl rfl rfl

/-- As long as the limit is the same and the account is not whitelisted, between
two openings of a window at most the maximum of its swaps succeed, windows are
opened at least a window apart, and so any interval of that many ledgers has at
most twice the maximum. -/
theorem swaps_limited {ops : List (Op X)} (hw : Reachable H w)
    (hops : Transition.StepsOk (step H) (fun w _ => UnderLimit mev a w) w ops) :
    Window.Limited mev.rateLimitMaxSwaps.toNat (swapLog H mev a w ops) ∧
      Window.Spaced mev.rateLimitWindowLedgers.toNat (swapLog H mev a w ops) ∧
      ∀ b, ((swapLog H mev a w ops).filter fun e =>
        b ≤ e.time ∧ e.time < b + mev.rateLimitWindowLedgers.toNat).length ≤
          2 * mev.rateLimitMaxSwaps.toNat := by
  have hstart : RateInv mev a w [] :=
    ⟨hw.configBounds, nofun, List.Pairwise.nil, Window.limited_nil, List.Pairwise.nil,
      fun _ _ => Window.backlog_nil, by simp⟩
  have hend : RateInv mev a (run H w ops) (swapLog H mev a w ops) :=
    Transition.run_trace_inv (fun _ _ _ hw hunder => step_rateInv hw hunder) hstart hops
  exact ⟨hend.limited, hend.spaced, Window.interval_le hend.ordered hend.limited hend.spaced⟩

/-- Two swaps in ten ledgers. -/
def twoInTen : MevConfig := ⟨10000, 10000, 10, 2, 1000000⟩

def limitedPool : World Unit :=
  run quietHost quietWorld
    [quietSetup, .invoke [1] (.registerPool 9), .invoke [1] (.configureMev twoInTen)]

def sampleSwap : Op Unit :=
  .invoke [5] (.executeSwap 5
    { route := ⟨[⟨.soroban 20, .soroban 21, 9, .ammConstProd⟩], 0, 0, 0⟩, amountIn := 1000,
      minAmountOut := 0, recipient := 5, deadline := 100, notBefore := 0, maxPriceImpactBps := 0,
      maxExecutionSpreadBps := 0 })

/-- Three attempts at once, and two more when the window is over. -/
def fiveAttempts : List (Op Unit) :=
  [sampleSwap, sampleSwap, sampleSwap, .advance 10, sampleSwap, sampleSwap]

theorem fiveAttempts_limited :
    swapLog quietHost twoInTen 5 limitedPool fiveAttempts =
        [⟨1, true⟩, ⟨1, false⟩, ⟨11, true⟩, ⟨11, false⟩] ∧
      Window.Limited 2 (swapLog quietHost twoInTen 5 limitedPool fiveAttempts) ∧
      Window.Spaced 10 (swapLog quietHost twoInTen 5 limitedPool fiveAttempts) := by
  have hops : Transition.StepsOk (step quietHost) (fun w _ => UnderLimit twoInTen 5 w) limitedPool
      fiveAttempts := by
    refine ⟨?_, ?_, ?_, ?_, ?_, ?_, trivial⟩
    all_goals exact ⟨by decide, by decide, by decide⟩
  have hlimited := swaps_limited (reachable_quietWorld.run _) hops
  exact ⟨by decide, hlimited.1, hlimited.2.1⟩

/-! The sums -/

section Limited

variable (hconfig : w.config.mevConfig = some mev) (hlisted : w.config.whitelisted a = false)
  (hlimit : opensWindow mev w a = true ∨ getAccountSwapCount w a < mev.rateLimitMaxSwaps)
include hconfig hlisted hlimit

end Limited

end StellarRoute.Contracts
