import StellarRoute.Quote.Proofs.CacheKeys
import StellarRoute.Quote.Spec.Invalidation

/-! What a change of liquidity leaves in the cache. The key of a quote has its
assets in the order of the trade; the pattern that is deleted has them sorted.
Only the quotes whose assets happen to be sorted, under the names the change
comes with, are removed. -/

namespace StellarRoute.Quote

open Lib Keys List

variable {ops : TextOps} {commands : Commands} {redis : Redis}

/-! ### Names of assets in keys -/

variable {c : Char} {r : QuoteRequest} {base counter : String} {redis' : Redis}

theorem upper_quiet (h : isNameChar c) : isPlain c.toUpper ∧ c.toUpper ≠ 'q' :=
  nameChar_forall (P := fun c => isPlain c.toUpper ∧ c.toUpper ≠ 'q') (by decide) h

/-- A text whose characters all stand for themselves, and among which there is no `q`. -/
def QuietText (s : String) : Prop := ∀ c ∈ s.toList, isPlain c ∧ c ≠ 'q'

instance : DecidablePred QuietText := fun s => List.decidableBAll _ s.toList

theorem normalizeAsset_quiet {name : String} (hname : ∀ c ∈ name.toList, isNameChar c) :
    QuietText (normalizeAsset ops name) := by
  rw [normalizeAsset_name hname]
  split_ifs
  · decide
  · decide
  · intro c hc
    rw [toAsciiUppercase, String.toList_ofList, mem_map] at hc
    obtain ⟨d, hd, rfl⟩ := hc
    exact upper_quiet (hname d hd)

/-! ### Which keys the pattern matches -/

/-- The part of the key that follows `v2:quote:`. -/
def QuoteRequest.keyText (ops : TextOps) (r : QuoteRequest) : String :=
  r.assetsText ops ++ ":" ++ ops.formatF64 r.amount ++ ":" ++ toString r.slippageBps.toNat ++
    ":" ++ r.quoteType.text ++ ":" ++ toString r.explain

/-- The two assets of a change, sorted, as the pattern has them. -/
def pairText (ops : TextOps) (base counter : AssetPath) : String :=
  (Keys.normalizePairAssets ops base.toCanonical counter.toCanonical).1 ++ ":" ++
    (Keys.normalizePairAssets ops base.toCanonical counter.toCanonical).2 ++ ":"

theorem cacheKey_eq_keyText (r : QuoteRequest) : r.cacheKey ops = "v2:quote:" ++ r.keyText ops := by
  rw [cacheKey_eq]
  simp only [QuoteRequest.keyText, String.append_assoc]

theorem quotePairPattern_eq (base counter : AssetPath) :
    quotePairPattern ops base.toCanonical counter.toCanonical =
      "*" ++ ("quote:" ++ pairText ops base counter) ++ "*" := by
  rw [← String.toList_inj]
  simp [quotePairPattern, pairText]

/-- Where a mark occurs once in a text, a pattern that begins with it is found only there. -/
theorem infix_at_mark {α : Type} {q : α} {a b t : List α} (ha : q ∉ a) (hb : q ∉ b) :
    q :: t <:+: a ++ q :: b ↔ t <+: b := by
  constructor
  · intro ⟨s, u, h⟩
    have h' : a ++ q :: b = s ++ q :: (t ++ u) := by simpa using h.symm
    obtain ⟨-, -, hbu⟩ := (append_cons_inj_of_notMem ha hb).mp h'
    exact ⟨u, hbu.symm⟩
  · intro ⟨u, h⟩
    exact ⟨a, u, by simp [← h]⟩

theorem QuietText.append {s t : String} (hs : QuietText s) (ht : QuietText t) :
    QuietText (s ++ t) := by
  intro c hc
  rw [String.toList_append, mem_append] at hc
  exact hc.elim (hs c) (ht c)

theorem quietText_colon : QuietText ":" := by decide

theorem digit_quiet (h : c.isDigit) : isPlain c ∧ c ≠ 'q' := by
  have hname : isNameChar c := by simp [isNameChar, Char.isAlphanum, h]
  exact nameChar_forall (P := fun c => c.isDigit → isPlain c ∧ c ≠ 'q') (by decide) hname h

theorem quietText_nat (n : ℕ) : QuietText (toString n) := by
  intro c hc
  rw [Nat.toString_eq_repr, Nat.toList_repr] at hc
  exact digit_quiet (Nat.isDigit_of_mem_toDigits (by decide) (by decide) hc)

theorem quietText_format (x : F64) : QuietText (ops.formatF64 x) := by
  intro c hc
  rcases ops.format_chars x c hc with h | h
  · exact digit_quiet h
  · have hmarks : QuietText "-.infNa" := by decide
    exact hmarks c h

def Named (p : AssetPath) : Prop := ∀ c ∈ p.toCanonical.toList, isNameChar c

instance : DecidablePred Named := fun p => List.decidableBAll _ p.toCanonical.toList

theorem quietText_pairText {base counter : AssetPath} (hbase : Named base)
    (hcounter : Named counter) : QuietText (pairText ops base counter) := by
  have hb : QuietText (normalizeAsset ops base.toCanonical) := normalizeAsset_quiet hbase
  have hc : QuietText (normalizeAsset ops counter.toCanonical) := normalizeAsset_quiet hcounter
  have hpair : QuietText (normalizePairAssets ops base.toCanonical counter.toCanonical).1 ∧
      QuietText (normalizePairAssets ops base.toCanonical counter.toCanonical).2 := by
    unfold normalizePairAssets
    generalize normalizeAsset ops base.toCanonical = a at hb ⊢
    generalize normalizeAsset ops counter.toCanonical = b at hc ⊢
    dsimp only
    split_ifs
    · exact ⟨hb, hc⟩
    · exact ⟨hc, hb⟩
  exact ((hpair.1.append quietText_colon).append hpair.2).append quietText_colon

theorem quietText_keyText (hbase : Named r.base) (hquote : Named r.quote) :
    QuietText (r.keyText ops) := by
  have hassets : QuietText (r.assetsText ops) :=
    ((normalizeAsset_quiet hbase).append quietText_colon).append (normalizeAsset_quiet hquote)
  have htype : QuietText r.quoteType.text := by cases r.quoteType <;> decide
  have hexplain : QuietText (toString r.explain) := by cases r.explain <;> decide
  exact (((((((hassets.append quietText_colon).append (quietText_format _)).append
    quietText_colon).append (quietText_nat _)).append quietText_colon).append htype).append
    quietText_colon).append hexplain

theorem globMatch_pattern_iff {base counter : AssetPath} (hbase : Named base)
    (hcounter : Named counter) (hr : Named r.base) (hr' : Named r.quote) :
    globMatch (quotePairPattern ops base.toCanonical counter.toCanonical) (r.cacheKey ops) ↔
      (pairText ops base counter).toList <+: (r.keyText ops).toList := by
  have hplain : ∀ c ∈ ("quote:" ++ pairText ops base counter).toList, isPlain c := by
    intro c hc
    rw [String.toList_append, mem_append] at hc
    rcases hc with hc | hc
    · exact all_eq_true.mp (by decide : "quote:".toList.all isPlain) c hc
    · exact (quietText_pairText hbase hcounter c hc).1
  rw [quotePairPattern_eq, globMatch_iff hplain, cacheKey_eq_keyText]
  have hkey : ("v2:quote:" ++ r.keyText ops).toList =
      ['v', '2', ':'] ++ 'q' :: (['u', 'o', 't', 'e', ':'] ++ (r.keyText ops).toList) := by simp
  have hpair : ("quote:" ++ pairText ops base counter).toList =
      'q' :: (['u', 'o', 't', 'e', ':'] ++ (pairText ops base counter).toList) := by simp
  have hq : 'q' ∉ ['u', 'o', 't', 'e', ':'] ++ (r.keyText ops).toList := by
    intro h
    rcases mem_append.mp h with h | h
    · revert h
      decide
    · exact (quietText_keyText hr hr' _ h).2 rfl
  rw [hkey, hpair, infix_at_mark (by decide) hq, prefix_append_right_inj]

/-! ### What is left after a change -/

/-- The assets of the database: the one a path is resolved to, if any. -/
structure AssetTable (Id : Type) where
  find : AssetPath → Option Id
  named : ∀ p a, find p = some a → Named p

def AssetTable.Between {Id : Type} (table : AssetTable Id) (a b : Id) (r : QuoteRequest) : Prop :=
  table.find r.base = some a ∧ table.find r.quote = some b ∨
    table.find r.base = some b ∧ table.find r.quote = some a

inductive ChangeSource where
  | sdexUpdate (ledgerSequence : UInt64)
  | ammUpdate (poolAddress : String) (ledgerSequence : UInt64)
  | revisionUpdate (revision : UInt64)
  /-- a quote request, with the revision it finds in the database -/
  | request (liquidityRevision : String)

/-- A change of liquidity between two assets, by the names it comes with. -/
structure Change where
  base : AssetPath
  counter : AssetPath
  source : ChangeSource

namespace Change

/-- What Redis holds once the change has been handled; `none` when it is not: the listener fails,
or the request knows the revision already. -/
def handled (ops : TextOps) (commands : Commands) (change : Change) (redis : Redis) :
    Option Redis :=
  let base := change.base.toCanonical
  let counter := change.counter.toCanonical
  let listen := fun event =>
    match handleLiquidityUpdate ops commands event redis with
    | (.ok _, redis) => some redis
    | (.error _, _) => none
  match change.source with
  | .sdexUpdate ledger => listen (.sdexUpdate base counter ledger)
  | .ammUpdate pool ledger => listen (.ammUpdate pool base counter ledger)
  | .revisionUpdate revision => listen (.revisionUpdate base counter revision)
  | .request revision =>
    if redis.getText commands (Keys.liquidityRevision ops base counter) ≠ some revision then
      some (maybeInvalidateQuoteCache ops commands true base counter revision redis)
    else none

/-- Quotes are deleted: by a request only when an earlier revision was recorded and Redis obeys. -/
def Deletes (ops : TextOps) (commands : Commands) (redis : Redis) (change : Change) : Prop :=
  match change.source with
  | .request _ => commands.delete = .ok () ∧ (redis.getText commands
      (Keys.liquidityRevision ops change.base.toCanonical change.counter.toCanonical)).isSome
  | _ => True

end Change

theorem mem_deleteByPattern {pattern key : String} (hdelete : commands.delete = .ok ()) :
    key ∈ (redis.deleteByPattern commands pattern).2 ↔ key ∈ redis ∧ ¬ globMatch pattern key := by
  simp only [Redis.deleteByPattern, hdelete]
  split
  · next hempty =>
    rw [List.isEmpty_iff, List.filter_eq_nil_iff] at hempty
    exact ⟨fun h => ⟨h, hempty key (AList.mem_keys.mp h)⟩, And.left⟩
  · rw [HashMap.mem_deleteKeys, List.mem_filter, not_and]
    exact ⟨fun ⟨h, hno⟩ => ⟨h, hno (AList.mem_keys.mp h)⟩, fun ⟨h, hno⟩ => ⟨h, fun _ => hno⟩⟩

theorem deleteByPattern_failed {pattern e : String} (hdelete : commands.delete = .error e) :
    redis.deleteByPattern commands pattern = (.error e, redis) := by
  simp only [Redis.deleteByPattern, hdelete]

theorem quote_ne_revision (s t u : String) :
    "v2:quote:" ++ s ≠ "liquidity:revision:" ++ t ++ ":" ++ u := by
  intro h
  have hlist := congrArg String.toList h
  simp at hlist

theorem mem_set_revision {value : Json} :
    r.cacheKey ops ∈ (redis.set commands (liquidityRevision ops base counter) value).2 ↔
      r.cacheKey ops ∈ redis := by
  have hne : r.cacheKey ops ≠ liquidityRevision ops base counter := by
    rw [cacheKey_eq_keyText]
    exact quote_ne_revision _ _ _
  unfold Redis.set
  split
  · rw [AList.mem_insert]
    simp [hne]
  · rfl

theorem invalidatePairCaches_eq_ok {n : ℕ}
    (h : invalidatePairCaches ops commands base counter redis = (.ok n, redis')) (key : String) :
    key ∈ redis' ↔ key ∈ redis ∧ ¬ globMatch (quotePairPattern ops base counter) key := by
  cases hdelete : commands.delete with
  | error e =>
    simp only [invalidatePairCaches, deleteByPattern_failed hdelete] at h
    cases h
  | ok _ =>
    have hredis := congrArg Prod.snd h
    simp only [invalidatePairCaches] at hredis
    rw [← hredis]
    exact mem_deleteByPattern hdelete

theorem handleLiquidityUpdate_eq_ok {event : LiquidityUpdateEvent} {n : ℕ} (hevent : (∃ ledger,
      event = .sdexUpdate base counter ledger) ∨ (∃ pool ledger, event = .ammUpdate pool base
      counter ledger) ∨ ∃ revision, event = .revisionUpdate base counter revision)
    (h : handleLiquidityUpdate ops commands event redis = (.ok n, redis')) :
    r.cacheKey ops ∈ redis' ↔ r.cacheKey ops ∈ redis ∧
      ¬ globMatch (quotePairPattern ops base counter) (r.cacheKey ops) := by
  rcases hevent with ⟨ledger, rfl⟩ | ⟨pool, ledger, rfl⟩ | ⟨revision, rfl⟩
  · exact invalidatePairCaches_eq_ok h _
  · exact invalidatePairCaches_eq_ok h _
  · have hmem : r.cacheKey ops ∈ redis' ↔ r.cacheKey ops ∈ (redis.set commands
        (liquidityRevision ops base counter) (.number revision.toNat)).2 ∧
        ¬ globMatch (quotePairPattern ops base counter) (r.cacheKey ops) :=
      invalidatePairCaches_eq_ok h _
    rw [hmem, mem_set_revision]

theorem mem_maybeInvalidate {revision : String}
    (hnew : redis.getText commands (liquidityRevision ops base counter) ≠ some revision) :
    r.cacheKey ops ∈ maybeInvalidateQuoteCache ops commands true base counter revision redis ↔
      r.cacheKey ops ∈ redis ∧ ¬ ((commands.delete = .ok () ∧
        (redis.getText commands (liquidityRevision ops base counter)).isSome) ∧
        globMatch (quotePairPattern ops base counter) (r.cacheKey ops)) := by
  unfold maybeInvalidateQuoteCache
  dsimp only
  rw [if_pos rfl, if_pos hnew, mem_set_revision]
  by_cases hsome : (redis.getText commands (liquidityRevision ops base counter)).isSome
  · rw [if_pos hsome]
    cases hdelete : commands.delete with
    | error e =>
      rw [deleteByPattern_failed hdelete]
      simp
    | ok _ =>
      rw [mem_deleteByPattern hdelete]
      simp [hsome]
  · rw [if_neg hsome]
    simp [hsome]

theorem mem_handled {change : Change} (h : change.handled ops commands redis = some redis') :
    r.cacheKey ops ∈ redis' ↔ r.cacheKey ops ∈ redis ∧ ¬ (change.Deletes ops commands redis ∧
      globMatch (quotePairPattern ops change.base.toCanonical change.counter.toCanonical)
        (r.cacheKey ops)) := by
  obtain ⟨base, counter, source⟩ := change
  have hlisten : ∀ event, (match handleLiquidityUpdate ops commands event redis with
      | (.ok _, redis) => some redis
      | (.error _, _) => none) = some redis' →
      ∃ n, handleLiquidityUpdate ops commands event redis = (.ok n, redis') := by
    intro event hevent
    split at hevent
    · next n left heq =>
      cases hevent
      exact ⟨n, heq⟩
    · cases hevent
  cases source with
  | sdexUpdate ledger =>
    obtain ⟨n, hn⟩ := hlisten _ h
    rw [handleLiquidityUpdate_eq_ok (.inl ⟨ledger, rfl⟩) hn]
    simp [Change.Deletes]
  | ammUpdate pool ledger =>
    obtain ⟨n, hn⟩ := hlisten _ h
    rw [handleLiquidityUpdate_eq_ok (.inr (.inl ⟨pool, ledger, rfl⟩)) hn]
    simp [Change.Deletes]
  | revisionUpdate revision =>
    obtain ⟨n, hn⟩ := hlisten _ h
    rw [handleLiquidityUpdate_eq_ok (.inr (.inr ⟨revision, rfl⟩)) hn]
    simp [Change.Deletes]
  | request revision =>
    simp only [Change.handled] at h
    split at h
    · next hnew =>
      cases h
      exact mem_maybeInvalidate hnew
    · cases h

/-- No quote between the two assets outlives a change exactly when quotes are deleted at all and
every cached one has its assets in sorted order, under the names of the change. -/
theorem invalidation_complete_iff {Id : Type} (ops : TextOps) (table : AssetTable Id)
    (commands : Commands) (change : Change) (redis : Redis) (a b : Id)
    (ha : table.find change.base = some a) (hb : table.find change.counter = some b) :
    (∀ redis', change.handled ops commands redis = some redis' →
      ∀ r, table.Between a b r → r.cacheKey ops ∉ redis') ↔
    change.handled ops commands redis = none ∨
      ∀ r, table.Between a b r → r.cacheKey ops ∈ redis → change.Deletes ops commands redis ∧
        (pairText ops change.base change.counter).toList <+: (r.keyText ops).toList := by
  have hmatch : ∀ r, table.Between a b r →
      (globMatch (quotePairPattern ops change.base.toCanonical change.counter.toCanonical)
        (r.cacheKey ops) ↔
        (pairText ops change.base change.counter).toList <+: (r.keyText ops).toList) := by
    intro r hr
    apply globMatch_pattern_iff (table.named _ _ ha) (table.named _ _ hb)
    · rcases hr with ⟨h, _⟩ | ⟨h, _⟩ <;> exact table.named _ _ h
    · rcases hr with ⟨_, h⟩ | ⟨_, h⟩ <;> exact table.named _ _ h
  cases hhandled : change.handled ops commands redis with
  | none => simp
  | some left =>
    simp only [Option.some.injEq, forall_eq', reduceCtorEq, false_or]
    apply forall₂_congr
    intro r hr
    rw [mem_handled hhandled, hmatch r hr]
    tauto

def lumens : AssetPath := ⟨"native", none⟩

def usdc : AssetPath := ⟨"USDC", some "GISSUER"⟩

/-- Lumens and a dollar token. -/
def twoAssets : AssetTable Bool where
  find := fun p => if p = lumens then some false else if p = usdc then some true else none
  named := by
    intro p a h
    split at h
    · next hp => subst hp; decide
    · split at h
      · next hp => subst hp; decide
      · cases h

def obeyed : Commands := ⟨.ok (), .ok (), .ok ()⟩

def bookChanged : Change := ⟨lumens, usdc, .sdexUpdate 7⟩

/-- A quote that sells dollars for lumens is in sorted order. -/
theorem sorted_quote_removed :
    (twoAssets.find bookChanged.base = some false ∧
      twoAssets.find bookChanged.counter = some true) ∧
    ∀ redis', bookChanged.handled plainText obeyed
        (AList.singleton ((sellOne usdc lumens).cacheKey plainText) (.document "")) = some redis' →
      ∀ r, twoAssets.Between false true r → r.cacheKey plainText ∉ redis' := by
  refine ⟨⟨rfl, rfl⟩, ?_⟩
  apply (invalidation_complete_iff plainText twoAssets obeyed bookChanged _ false true rfl rfl).mpr
  refine .inr fun r _ hmem => ⟨trivial, ?_⟩
  have hkey : r.cacheKey plainText = (sellOne usdc lumens).cacheKey plainText := by
    simpa [AList.mem_keys] using hmem
  have htext : r.keyText plainText = (sellOne usdc lumens).keyText plainText := by
    rw [cacheKey_eq_keyText, cacheKey_eq_keyText] at hkey
    exact String.append_right_inj _ |>.mp hkey
  rw [htext]
  decide

/-- The other direction is left in the cache. -/
theorem reversed_quote_left :
    twoAssets.Between false true (sellOne lumens usdc) ∧
    ((bookChanged.handled plainText obeyed
        (AList.singleton ((sellOne lumens usdc).cacheKey plainText) (.document ""))).map
      fun left => left.lookup ((sellOne lumens usdc).cacheKey plainText)) =
        some (some (.document "")) :=
  ⟨.inl ⟨rfl, rfl⟩, by decide⟩

end StellarRoute.Quote
