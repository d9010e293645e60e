import StellarRoute.Contracts.Sanity.Frame

/-! What one fee distribution pays. The recipient that is to get the rounding
dust gets the whole rest of the balance, also when recipients that have not
been paid yet come after it; those are then paid a second time over. So the
payments add up to the balance exactly when every recipient after it has a
share that rounds to nothing. -/

namespace StellarRoute.Contracts

open Lib List

variable {X : Type} {H : Host X} {auth : Auth} {w w' : World X}

def fairShare (B : ℤ) (r : FeeRecipient) : ℤ := B * r.shareBps.toNat / 10000

/-- Some entry point stores this fee configuration. -/
def AcceptedFeeConfig (H : Host X) (config : FeeConfig) : Prop :=
  (∃ auth w w', setFeeDistributionConfig H auth config w = .ok w') ∨
    ∃ w w', Governance.dispatchAction H (.setFeeConfig config) w = .ok w'

/-- The payments add up to `B` and nobody is paid less than the fair share. -/
def PaysExactly (B : ℤ) (rs : List FeeRecipient) (amounts : List ℤ) : Prop :=
  amounts.sum = B ∧ List.Forall₂ (fun r amount => fairShare B r ≤ amount) rs amounts

def Payout.allotted (p : Payout) : ℤ := p.amount.toInt

/-- What really left the router. -/
def Payout.moved (p : Payout) : ℤ := if p.call.isSome then p.amount.toInt else 0

/-- No recipient after the dust recipient has a share worth a unit. -/
def NothingAfterDust (B : ℤ) (rs : List FeeRecipient) : Prop :=
  ∀ r ∈ rs.drop (dustIdx rs + 1), B * r.shareBps.toNat < 10000

/-- The token contract of `asset` carries out every transfer and every burn. -/
def TokenAnswers (H : Host X) (asset : Asset) : Prop :=
  ∀ token, asset = .soroban token →
    (∀ x a b n, (H.transfer x token a b n).isSome) ∧ ∀ x a n, (H.burn x token a n).isSome

/-! The amounts of the loop -/

/-- What each turn of the loop pays, without the calls. -/
def paidAmounts (total : I128) (dust : ℕ) : ℕ → I128 → List FeeRecipient → List I128
  | _, _, [] => []
  | i, remaining, r :: rest =>
    let amount := turnAmount total dust i remaining r
    if 0 < amount then amount :: paidAmounts total dust (i + 1) (remaining.saturatingSub amount) rest
    else 0 :: paidAmounts total dust (i + 1) remaining rest

variable {asset : Asset} {total : I128} {B : ℤ} {r : FeeRecipient} {rs : List FeeRecipient}
  {config : FeeConfig}

/-- The amounts are only moved for Soroban tokens; the other assets are booked
as paid without a call. -/
def Asset.isSoroban : Asset → Bool
  | .soroban _ => true
  | _ => false

theorem payRecipient_call {amount : I128} {call : Option TokenCall}
    (h : payRecipient H asset r amount w = .ok (call, w')) :
    call.isSome = asset.isSoroban ∧ w'.calls = w.calls ++ call.toList := by
  unfold payRecipient at h
  split_ifs at h <;> cases asset <;>
    simp only [transferAsset, bind_eq_ok, okOr_eq_ok, pure_eq_ok, Prod.mk.injEq] at h
  all_goals grind [Asset.isSoroban, addTotalBurned, emit]

theorem payRecipients_pays {dust i : ℕ} {remaining : I128} {ps : List Payout}
    (h : payRecipients H asset total dust i remaining rs w = .ok (ps, w')) :
    ps.map (·.amount) = paidAmounts total dust i remaining rs ∧
      (∀ p ∈ ps, p.moved = if asset.isSoroban then p.allotted else 0) ∧
      w'.calls = w.calls ++ ps.filterMap Payout.call := by
  induction rs generalizing i remaining w ps with
  | nil =>
    simp only [payRecipients, pure_eq_ok, Prod.mk.injEq] at h
    obtain ⟨rfl, rfl⟩ := h
    simp [paidAmounts]
  | cons r rs ih =>
    simp only [payRecipients] at h
    split_ifs at h with hturn
    · simp only [bind_eq_ok, pure_eq_ok, Prod.mk.injEq, Prod.exists] at h
      obtain ⟨call, v, hcall, qs, v', hv', rfl, rfl⟩ := h
      obtain ⟨hsome, hcalls⟩ := payRecipient_call hcall
      obtain ⟨hamounts, hmoved, hrest⟩ := ih hv'
      refine ⟨?_, forall_mem_cons.mpr ⟨?_, hmoved⟩, ?_⟩
      · rw [map_cons, hamounts, paidAmounts, if_pos hturn]
      · rw [Payout.moved, hsome, Payout.allotted]
      · rw [hrest, hcalls]
        cases call <;> simp
    · simp only [bind_eq_ok, pure_eq_ok, Prod.mk.injEq, Prod.exists] at h
      obtain ⟨qs, v', hv', rfl, rfl⟩ := h
      obtain ⟨hamounts, hmoved, hrest⟩ := ih hv'
      refine ⟨?_, forall_mem_cons.mpr ⟨?_, hmoved⟩, hrest⟩
      · rw [map_cons, hamounts, paidAmounts, if_neg hturn]
      · simp [Payout.moved, Payout.allotted]

theorem paidAmounts_nonneg (total : I128) (dust : ℕ) (rs : List FeeRecipient) :
    ∀ (i : ℕ) (remaining : I128), ∀ a ∈ paidAmounts total dust i remaining rs, 0 ≤ a.toInt := by
  induction rs with
  | nil => intro i remaining a ha; simp [paidAmounts] at ha
  | cons r rs ih =>
    intro i remaining a ha
    rw [paidAmounts] at ha
    split_ifs at ha with hpos
    · rcases mem_cons.mp ha with rfl | ha
      · have := SInt.lt_def.mp hpos
        rw [SInt.toInt_zero] at this
        omega
      · exact ih _ _ _ ha
    · rcases mem_cons.mp ha with rfl | ha
      · rw [SInt.toInt_zero]
      · exact ih _ _ _ ha

theorem toInt_share (s : UInt32) : (SInt.saturate 128 (s.toNat : ℤ)).toInt = s.toNat := by
  have := s.toNat_lt
  exact SInt.toInt_saturate ⟨by omega, by omega⟩

theorem toInt_bps : (10000 : I128).toInt = 10000 :=
  SInt.toInt_saturate (w := 128) (z := 10000) ⟨by omega, by omega⟩

/-! Fair shares -/

theorem fairShare_nonneg (hB : 0 ≤ B) (r : FeeRecipient) : 0 ≤ fairShare B r :=
  Int.ediv_nonneg (mul_nonneg hB (by positivity)) (by norm_num)

theorem sum_fairShare_nonneg (hB : 0 ≤ B) (rs : List FeeRecipient) :
    0 ≤ (rs.map (fairShare B)).sum := by
  refine sum_nonneg fun x hx => ?_
  obtain ⟨r, -, rfl⟩ := mem_map.mp hx
  exact fairShare_nonneg hB r

theorem sum_fairShare_le (B : ℤ) (rs : List FeeRecipient) :
    (rs.map (fairShare B)).sum * 10000 ≤ B * (rs.map (·.shareBps.toNat)).sum := by
  induction rs with
  | nil => simp
  | cons r rs ih =>
    have := Int.ediv_mul_le (B * r.shareBps.toNat) (b := 10000) (by norm_num)
    simp only [map_cons, sum_cons, Nat.cast_add, fairShare] at ih ⊢
    rw [add_mul, mul_add]
    omega

/-- What the recipients before `d` leave is enough for `d`. -/
theorem fairShare_le_rest (hB : 0 ≤ B) {pre post : List FeeRecipient} {d : FeeRecipient}
    (hsum : ((pre ++ d :: post).map (·.shareBps.toNat)).sum = 10000) :
    fairShare B d ≤ B - (pre.map (fairShare B)).sum := by
  have h := sum_fairShare_le B (pre ++ d :: post)
  have hpost := sum_fairShare_nonneg hB post
  rw [hsum] at h
  simp only [map_append, map_cons, sum_append, sum_cons] at h
  push_cast at h
  omega

theorem fairShare_pos_iff : 0 < fairShare B r ↔ 10000 ≤ B * r.shareBps.toNat := by
  rw [fairShare]
  omega

theorem sum_fairShare_eq_zero (hB : 0 ≤ B) (rs : List FeeRecipient) :
    (rs.map (fairShare B)).sum = 0 ↔ ∀ r ∈ rs, B * r.shareBps.toNat < 10000 := by
  induction rs with
  | nil => simp
  | cons r rs ih =>
    have hr := fairShare_nonneg hB r
    have hrs := sum_fairShare_nonneg hB rs
    have hiff := fairShare_pos_iff (B := B) (r := r)
    rw [map_cons, sum_cons, forall_mem_cons, ← ih]
    constructor
    · intro h
      exact ⟨by omega, by omega⟩
    · rintro ⟨h1, h2⟩
      omega

theorem forall₂_fairShare (B : ℤ) (rs : List FeeRecipient) :
    List.Forall₂ (fun r amount => fairShare B r ≤ amount) rs (rs.map (fairShare B)) :=
  forall₂_map_right_iff.mpr (forall₂_same.mpr fun _ _ => le_refl _)

/-! The run of the loop, split at the dust recipient -/

section Amounts

variable {pre post : List FeeRecipient} {d : FeeRecipient} (hpos : 0 ≤ total.toInt)
  (hmax : total.toInt * 10000 < 2 ^ 127)
include hpos hmax

theorem toInt_shareAmount {s : UInt32} (hs : s.toNat ≤ 10000) :
    (shareAmount total s).toInt = total.toInt * s.toNat / 10000 := by
  have hprod : total.toInt * s.toNat ≤ total.toInt * 10000 :=
    mul_le_mul_of_nonneg_left (by exact_mod_cast hs) hpos
  have hnn : 0 ≤ total.toInt * (s.toNat : ℤ) := mul_nonneg hpos (by positivity)
  have hmul : total.checkedMul (SInt.saturate 128 s.toNat) =
      some ⟨total.toInt * s.toNat, by constructor <;> omega⟩ := by
    rw [SInt.checkedMul, SInt.ofInt?_eq_some, toInt_share]
  have hdiv : total.toInt * s.toNat / 10000 ≤ total.toInt * s.toNat :=
    Int.ediv_le_self _ hnn
  have hdnn : 0 ≤ total.toInt * (s.toNat : ℤ) / 10000 := by positivity
  rw [shareAmount, hmul, Option.getD_some, SInt.checkedDiv, toInt_bps, if_neg (by omega)]
  have : SInt.ofInt? 128 ((total.toInt * (s.toNat : ℤ)).tdiv 10000) =
      some ⟨total.toInt * s.toNat / 10000, by constructor <;> omega⟩ := by
    rw [SInt.ofInt?_eq_some, Int.tdiv_eq_ediv_of_nonneg hnn]
  rw [this, Option.getD_some]

theorem paidAmounts_turn {dust i : ℕ} (hs : r.shareBps.toNat ≤ 10000) (hi : i ≠ dust)
    (remaining : I128) (rs : List FeeRecipient) :
    ∃ left : I128,
      (fairShare total.toInt r ≤ remaining.toInt →
        left.toInt = remaining.toInt - fairShare total.toInt r) ∧
      (paidAmounts total dust i remaining (r :: rs)).map SInt.toInt =
        fairShare total.toInt r :: (paidAmounts total dust (i + 1) left rs).map SInt.toInt := by
  have hamount : (shareAmount total r.shareBps).toInt = fairShare total.toInt r :=
    toInt_shareAmount hpos hmax hs
  have hnn := fairShare_nonneg hpos r
  rw [paidAmounts, turnAmount, if_neg hi]
  split_ifs with h0
  · refine ⟨remaining.saturatingSub (shareAmount total r.shareBps), fun hle => ?_, ?_⟩
    · have := remaining.inRange
      rw [SInt.toInt_saturatingSub ⟨by have := this.1; omega, by have := this.2; omega⟩, hamount]
    · rw [map_cons, hamount]
  · -- a share that rounds to nothing leaves the remainder alone
    rw [SInt.lt_def, SInt.toInt_zero, hamount] at h0
    have hzero : fairShare total.toInt r = 0 := by omega
    refine ⟨remaining, fun _ => by rw [hzero, sub_zero], ?_⟩
    rw [map_cons, SInt.toInt_zero, hzero]

/-- Recipients other than the dust recipient get their fair shares, and what is
left shrinks by these. -/
theorem paidAmounts_append (dust : ℕ) (rest pre : List FeeRecipient) :
    ∀ (i : ℕ) (remaining : I128), (∀ r ∈ pre, r.shareBps.toNat ≤ 10000) →
      (∀ k < pre.length, i + k ≠ dust) →
      ∃ left : I128,
        ((pre.map (fairShare total.toInt)).sum ≤ remaining.toInt →
          left.toInt = remaining.toInt - (pre.map (fairShare total.toInt)).sum) ∧
        (paidAmounts total dust i remaining (pre ++ rest)).map SInt.toInt =
          pre.map (fairShare total.toInt) ++
            (paidAmounts total dust (i + pre.length) left rest).map SInt.toInt := by
  induction pre with
  | nil =>
    intro i remaining _ _
    exact ⟨remaining, by simp, by simp⟩
  | cons r pre ih =>
    intro i remaining hs hi
    have hi0 : i ≠ dust := hi 0 (by simp)
    obtain ⟨left, hleft, hturn⟩ :=
      paidAmounts_turn hpos hmax (hs r mem_cons_self) hi0 remaining (pre ++ rest)
    obtain ⟨left', hleft', hrun⟩ := ih (i + 1) left
      (fun r' hr' => hs r' (mem_cons_of_mem _ hr'))
      (fun k hk => by have := hi (k + 1) (by simpa using hk); omega)
    refine ⟨left', fun hsum => ?_, ?_⟩
    · rw [map_cons, sum_cons] at hsum ⊢
      have := sum_fairShare_nonneg hpos pre
      have h1 := hleft (by omega)
      rw [hleft' (by omega), h1]
      omega
    · rw [cons_append, hturn, hrun, map_cons, cons_append, length_cons,
        show i + (pre.length + 1) = i + 1 + pre.length by omega]

/-- The whole loop: fair shares, except that the dust recipient gets what the
recipients before it have left. -/
theorem paidAmounts_eq (hsum : ((pre ++ d :: post).map (·.shareBps.toNat)).sum = 10000) :
    (paidAmounts total pre.length 0 total (pre ++ d :: post)).map SInt.toInt =
      pre.map (fairShare total.toInt) ++
        (total.toInt - (pre.map (fairShare total.toInt)).sum) :: post.map (fairShare total.toInt) := by
  have hle : ∀ r ∈ pre ++ d :: post, r.shareBps.toNat ≤ 10000 := fun r hr =>
    hsum ▸ single_le_sum (fun _ _ => Nat.zero_le _) _ (mem_map_of_mem hr)
  have hpre : (pre.map (fairShare total.toInt)).sum ≤ total.toInt := by
    have := fairShare_le_rest hpos hsum
    have := fairShare_nonneg hpos d
    omega
  obtain ⟨left, hleft, hrun⟩ := paidAmounts_append hpos hmax pre.length (d :: post) pre 0 total
    (fun r hr => hle r (mem_append_left _ hr)) (fun k hk => by omega)
  replace hleft := hleft hpre
  rw [hrun, zero_add, ← hleft]
  congr 1
  -- whatever remains after the dust recipient, the others get their shares
  have htail : ∀ left' : I128,
      (paidAmounts total pre.length (pre.length + 1) left' post).map SInt.toInt =
        post.map (fairShare total.toInt) := by
    intro left'
    obtain ⟨_, _, h⟩ := paidAmounts_append hpos hmax pre.length [] post (pre.length + 1) left'
      (fun r hr => hle r (by simp [hr])) (fun k _ => by omega)
    simpa [paidAmounts] using h
  rw [paidAmounts, turnAmount, if_pos rfl]
  split_ifs with h0
  · rw [map_cons, htail]
  · rw [SInt.lt_def, SInt.toInt_zero] at h0
    rw [map_cons, htail, SInt.toInt_zero, show left.toInt = 0 by omega]

/-- With shares that add up to the whole, everyone gets a fair share, and the
sum is off by the shares of those after the dust recipient. -/
theorem paysExactly_append_iff
    (hsum : ((pre ++ d :: post).map (·.shareBps.toNat)).sum = 10000) :
    PaysExactly total.toInt (pre ++ d :: post)
        ((paidAmounts total pre.length 0 total (pre ++ d :: post)).map SInt.toInt) ↔
      ∀ r ∈ post, total.toInt * r.shareBps.toNat < 10000 := by
  rw [PaysExactly, paidAmounts_eq hpos hmax hsum, ← sum_fairShare_eq_zero hpos,
    sum_append, sum_cons]
  constructor
  · rintro ⟨h, -⟩
    omega
  · intro h
    refine ⟨by omega, rel_append (forall₂_fairShare _ pre) (.cons ?_ (forall₂_fairShare _ post))⟩
    exact fairShare_le_rest hpos hsum

end Amounts

theorem dustIdx_lt (h : rs ≠ []) : dustIdx rs < rs.length := by
  have hlen := length_pos_iff.mpr h
  unfold dustIdx
  split
  · next i hi => exact (findIdx?_eq_some_iff_getElem.mp hi).1
  · omega

theorem not_paysExactly_of_large {amounts : List ℤ} (hB : 0 < B) (hnn : ∀ a ∈ amounts, 0 ≤ a)
    (hr : r ∈ rs) (hs : 20000 ≤ r.shareBps.toNat) : ¬ PaysExactly B rs amounts := by
  rintro ⟨hsum, hfair⟩
  obtain ⟨i, hi⟩ := get_of_mem hr
  have hj : i < amounts.length := hfair.length_eq ▸ i.isLt
  have hle := hfair.get i.isLt hj
  have hle' : amounts.get ⟨i, hj⟩ ≤ B := hsum ▸ single_le_sum hnn _ (get_mem _ _)
  have hmul : B * 20000 ≤ B * r.shareBps.toNat :=
    mul_le_mul_of_nonneg_left (by exact_mod_cast hs) hB.le
  rw [get_eq_getElem, ← get_eq_getElem, hi, fairShare] at hle
  omega

/-! What the two setters accept -/

theorem toNat_totalBps (rs : List FeeRecipient) :
    (totalBps rs).toNat = (rs.map (·.shareBps.toNat)).sum % 2 ^ 32 := by
  have key : ∀ acc : UInt32, (rs.foldl (fun total r => total + r.shareBps) acc).toNat =
      (acc.toNat + (rs.map (·.shareBps.toNat)).sum) % 2 ^ 32 := by
    induction rs with
    | nil =>
      intro acc
      simp [Nat.mod_eq_of_lt acc.toNat_lt]
    | cons r rs ih =>
      intro acc
      rw [foldl_cons, ih, UInt32.toNat_add, map_cons, sum_cons, Nat.mod_add_mod,
        add_assoc]
  simpa [totalBps] using key 0

theorem toNat_of_checkedTotalBps {total : UInt32} (h : Governance.checkedTotalBps rs = .ok total) :
    total.toNat = (rs.map (·.shareBps.toNat)).sum := by
  have key : ∀ acc : UInt32,
      rs.foldlM (fun total r => okOr (total.checkedAdd r.shareBps) (fail .invalidFeeConfig)) acc =
        .ok total → total.toNat = acc.toNat + (rs.map (·.shareBps.toNat)).sum := by
    clear h
    induction rs with
    | nil =>
      intro acc h
      rw [foldlM_nil, pure_eq_ok] at h
      simp [h]
    | cons r rs ih =>
      intro acc h
      rw [foldlM_cons, bind_eq_ok] at h
      obtain ⟨next, hnext, h⟩ := h
      rw [okOr_eq_ok] at hnext
      rw [ih next h, UInt32.toNat_of_checkedAdd hnext, map_cons, sum_cons, add_assoc]
  simpa using key 0 h

/-- Both setters allow five recipients; only the governance one adds the shares
without wrapping. -/
theorem AcceptedFeeConfig.bounds (h : AcceptedFeeConfig H config) :
    config.recipients.length ≤ 5 ∧
      (config.recipients.map (·.shareBps.toNat)).sum % 2 ^ 32 = 10000 := by
  rcases h with ⟨auth, w, w', h⟩ | ⟨w, w', h⟩
  · simp only [setFeeDistributionConfig, bind_eq_ok, require_eq_ok, requireAuth_eq_ok, exists_const] at h
    obtain ⟨-, _, -, -, ⟨htotal, hlen⟩, -⟩ := h
    refine ⟨hlen, ?_⟩
    rw [← toNat_totalBps, htotal]
    rfl
  · simp only [Governance.dispatchAction, Governance.checkFeeConfig, bind_eq_ok, require_eq_ok,
      exists_const] at h
    obtain ⟨⟨hlen, total, htotal, rfl⟩, -⟩ := h
    refine ⟨hlen, ?_⟩
    rw [← toNat_of_checkedTotalBps htotal]
    rfl

theorem exists_large_share (hlen : rs.length ≤ 5)
    (hmod : (rs.map (·.shareBps.toNat)).sum % 2 ^ 32 = 10000)
    (hsum : (rs.map (·.shareBps.toNat)).sum ≠ 10000) : ∃ r ∈ rs, 20000 ≤ r.shareBps.toNat := by
  by_contra hno
  simp only [not_exists, not_and, not_le] at hno
  have hle : (rs.map (·.shareBps.toNat)).sum ≤ (rs.map (·.shareBps.toNat)).length • 20000 := by
    refine sum_le_card_nsmul _ _ fun n hn => ?_
    obtain ⟨r, hr, rfl⟩ := mem_map.mp hn
    exact (hno r hr).le
  rw [length_map, smul_eq_mul] at hle
  omega

/-! The calls -/

theorem payRecipient_ok (htok : TokenAnswers H asset) (r : FeeRecipient) (amount : I128)
    (w : World X) : ∃ call w', payRecipient H asset r amount w = .ok (call, w') := by
  cases asset with
  | soroban token =>
    obtain ⟨htransfer, hburn⟩ := htok token rfl
    obtain ⟨x, hx⟩ := Option.isSome_iff_exists.mp (htransfer w.ext H.contract r.address amount)
    obtain ⟨y, hy⟩ := Option.isSome_iff_exists.mp (hburn w.ext H.contract amount)
    by_cases hb : r.label = "burn"
    · simp [payRecipient, hb, hy, okOr]
    · simp [payRecipient, hb, transferAsset, hx, okOr]
  | native | issued issuer code =>
    by_cases hb : r.label = "burn" <;> simp [payRecipient, hb, transferAsset]

theorem payRecipients_ok (htok : TokenAnswers H asset) (total : I128) (dust : ℕ)
    (rs : List FeeRecipient) : ∀ (i : ℕ) (remaining : I128) (w : World X),
      ∃ ps w', payRecipients H asset total dust i remaining rs w = .ok (ps, w') := by
  induction rs with
  | nil => exact fun i remaining w => ⟨[], w, rfl⟩
  | cons r rs ih =>
    intro i remaining w
    rw [payRecipients]
    split_ifs
    · obtain ⟨call, v, hv⟩ := payRecipient_ok htok r (turnAmount total dust i remaining r) w
      obtain ⟨ps, v', hv'⟩ :=
        ih (i + 1) (remaining.saturatingSub (turnAmount total dust i remaining r)) v
      exact ⟨_, v', bind_eq_ok.mpr ⟨_, hv, bind_eq_ok.mpr ⟨_, hv', rfl⟩⟩⟩
    · obtain ⟨ps, v', hv'⟩ := ih (i + 1) remaining w
      exact ⟨_, v', bind_eq_ok.mpr ⟨_, hv', rfl⟩⟩

/-! One distribution -/

theorem distributeFeesInternal_ok (htok : TokenAnswers H asset) (config : FeeConfig) (w : World X) :
    ∃ ps w', distributeFeesInternal H asset config w = .ok (ps, w') := by
  unfold distributeFeesInternal
  dsimp only
  split_ifs
  · exact ⟨_, _, rfl⟩
  · obtain ⟨ps, v, hv⟩ := payRecipients_ok htok (w.fees.feeBalance asset)
      (dustIdx config.recipients) config.recipients 0 (w.fees.feeBalance asset)
      (setFeeBalance asset 0 w)
    exact ⟨_, _, bind_eq_ok.mpr ⟨_, hv, rfl⟩⟩

/-- The amounts of an accepted configuration are exact when the shares add up
without wrapping and nobody after the dust recipient is owed anything. -/
theorem paidAmounts_exact_iff (hcfg : AcceptedFeeConfig H config) (hpos : 0 < total.toInt)
    (hmax : total.toInt * 10000 < 2 ^ 127) :
    PaysExactly total.toInt config.recipients
        ((paidAmounts total (dustIdx config.recipients) 0 total config.recipients).map SInt.toInt) ↔
      (config.recipients.map (·.shareBps.toNat)).sum = 10000 ∧
        NothingAfterDust total.toInt config.recipients := by
  obtain ⟨hlen, hmod⟩ := hcfg.bounds
  generalize config.recipients = rs at *
  by_cases hsum : (rs.map (·.shareBps.toNat)).sum = 10000
  · have hne : rs ≠ [] := by
      rintro h
      simp [h] at hsum
    have hdust := dustIdx_lt hne
    have hrs : rs.take (dustIdx rs) ++ rs[dustIdx rs] :: rs.drop (dustIdx rs + 1) = rs := by simp
    have h := paysExactly_append_iff hpos.le hmax (hrs.symm ▸ hsum)
    rw [length_take_of_le hdust.le, hrs] at h
    rw [h, and_iff_right hsum, NothingAfterDust]
  · obtain ⟨r, hr, hs⟩ := exists_large_share hlen hmod hsum
    refine iff_of_false (not_paysExactly_of_large hpos ?_ hr hs) fun h => hsum h.1
    intro a ha
    obtain ⟨b, hb, rfl⟩ := mem_map.mp ha
    exact paidAmounts_nonneg _ _ _ _ _ b hb

/-- One distribution of a positive balance under an accepted configuration: it
goes through when the token answers, and its payments are exact in one case only. -/
theorem distribution_exact_iff {asset : Asset} {config : FeeConfig}
    (hcfg : AcceptedFeeConfig H config) (hpos : 0 < (w.fees.feeBalance asset).toInt)
    (hmax : (w.fees.feeBalance asset).toInt * 10000 < 2 ^ 127) :
    (TokenAnswers H asset →
      ∃ ps w', distributeFeesInternal H asset config w = .ok (ps, w')) ∧
    ∀ ps w', distributeFeesInternal H asset config w = .ok (ps, w') →
      (PaysExactly (w.fees.feeBalance asset).toInt config.recipients (ps.map Payout.allotted) ↔
        (config.recipients.map (·.shareBps.toNat)).sum = 10000 ∧
          NothingAfterDust (w.fees.feeBalance asset).toInt config.recipients) ∧
      (PaysExactly (w.fees.feeBalance asset).toInt config.recipients (ps.map Payout.moved) ↔
        asset.isSoroban = true ∧ (config.recipients.map (·.shareBps.toNat)).sum = 10000 ∧
          NothingAfterDust (w.fees.feeBalance asset).toInt config.recipients) ∧
      w'.calls = w.calls ++ ps.filterMap Payout.call := by
  refine ⟨fun htok => distributeFeesInternal_ok htok config w, fun ps w' h => ?_⟩
  rcases distributeFeesInternal_cases h with ⟨hzero, -⟩ | ⟨v, hv, rfl⟩
  · rw [hzero, SInt.toInt_zero] at hpos
    omega
  obtain ⟨hamounts, hmoved, hcalls⟩ := payRecipients_pays hv
  have hallotted : ps.map Payout.allotted = (paidAmounts (w.fees.feeBalance asset)
      (dustIdx config.recipients) 0 (w.fees.feeBalance asset) config.recipients).map SInt.toInt := by
    rw [← hamounts, map_map]
    rfl
  have hiff := paidAmounts_exact_iff hcfg hpos hmax
  rw [← hallotted] at hiff
  refine ⟨hiff, ?_, hcalls⟩
  replace hmoved := map_congr_left hmoved
  by_cases hs : asset.isSoroban = true
  · simp only [hs, if_true] at hmoved
    rw [hmoved, hiff, and_iff_right hs]
  · -- nothing is moved at all, but the balance is positive
    refine iff_of_false (fun hp => ?_) fun hp => hs hp.1
    simp only [hs] at hmoved
    rw [PaysExactly, hmoved] at hp
    have := hp.1
    simp at this
    omega

/-- The treasury stands before another recipient. -/
def treasurySecond : FeeConfig :=
  ⟨[⟨11, 5000, "team"⟩, ⟨12, 3000, "treasury"⟩, ⟨13, 2000, "partners"⟩], 0, false⟩

def treasuryLast : FeeConfig :=
  ⟨[⟨11, 5000, "team"⟩, ⟨13, 2000, "partners"⟩, ⟨12, 3000, "treasury"⟩], 0, false⟩

/-- A run that leaves a fee of 100 of token 21 with the router. -/
def feeRun : World Unit :=
  run quietHost quietWorld
    [quietSetup, .invoke [1] (.setFeeDistributionConfig treasurySecond),
      .invoke [1] (.registerPool 9),
      .invoke [5] (.executeSwap 5
        { route := ⟨[⟨.soroban 20, .soroban 21, 9, .ammConstProd⟩], 0, 0, 0⟩, amountIn := 10000,
          minAmountOut := 0, recipient := 5, deadline := 10, notBefore := 0, maxPriceImpactBps := 0,
          maxExecutionSpreadBps := 0 })]

theorem treasuryLast_exact : ∃ ps w',
    distributeFeesInternal quietHost (.soroban 21) treasuryLast feeRun = .ok (ps, w') ∧
      PaysExactly (feeRun.fees.feeBalance (.soroban 21)).toInt treasuryLast.recipients
        (ps.map Payout.moved) := by
  have hcfg : AcceptedFeeConfig quietHost treasuryLast := .inr ⟨quietWorld, _, rfl⟩
  have hpos : 0 < (feeRun.fees.feeBalance (.soroban 21)).toInt := by decide
  have hmax : (feeRun.fees.feeBalance (.soroban 21)).toInt * 10000 < 2 ^ 127 := by decide
  have hdrop : treasuryLast.recipients.drop (dustIdx treasuryLast.recipients + 1) = [] := by decide
  obtain ⟨hok, hiff⟩ := distribution_exact_iff hcfg hpos hmax
  obtain ⟨ps, w', h⟩ := hok fun token _ => ⟨fun _ _ _ _ => rfl, fun _ _ _ => rfl⟩
  refine ⟨ps, w', h, (hiff ps w' h).2.1.mpr ⟨rfl, rfl, ?_⟩⟩
  intro r hr
  rw [hdrop] at hr
  simp at hr

/-- The treasury gets the 50 that are left, and the partners their 20 as well. -/
theorem treasurySecond_overpaid :
    AcceptedFeeConfig quietHost treasurySecond ∧ Reachable quietHost feeRun ∧
      feeRun.config.feeConfig = some treasurySecond ∧
      (feeRun.fees.feeBalance (.soroban 21)).toInt = 100 ∧
      ∃ ps w', distributeFeesInternal quietHost (.soroban 21) treasurySecond feeRun = .ok (ps, w') ∧
        ps.map Payout.moved = [50, 50, 20] ∧
        ¬ PaysExactly 100 treasurySecond.recipients (ps.map Payout.moved) := by
  have hps : (distributeFeesInternal quietHost (.soroban 21) treasurySecond feeRun).map
      (fun r => r.1.map Payout.moved) = .ok [50, 50, 20] := by decide
  refine ⟨.inr ⟨quietWorld, _, rfl⟩, reachable_quietWorld.run _, by decide,
    by decide, ?_⟩
  obtain ⟨⟨ps, w'⟩, h, hps⟩ := map_eq_ok.mp hps
  refine ⟨ps, w', h, hps, fun hex => ?_⟩
  have hsum : (ps.map Payout.moved).sum = 100 := hex.1
  rw [hps] at hsum
  revert hsum
  decide

end StellarRoute.Contracts
