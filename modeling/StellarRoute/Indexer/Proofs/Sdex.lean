import StellarRoute.Lib.Transition
import StellarRoute.Indexer.Sanity.Sdex

/-! The table of offers. It holds for each offer what was written last, so the versions of an offer
are as old as the order in which the instances write them allows; and a polling pass writes the
offers of the book up to its hundredth page and leaves every other row as it is. -/

namespace StellarRoute.Indexer

open Lib Transition List Option

/-! Several instances over one table -/

/-- The rows that a step writes. -/
def SdexSystem.writes (H : SdexHost) (s : SdexSystem) : SdexChoice → List SdexRow
  | .process i env =>
    match s.indexers[i]? with
    | some x =>
      match x.received with
      | h :: _ => (writtenRow H x.partitionManager env h s.db).toList
      | [] => []
    | none => []
  | _ => []

namespace SdexSystem

variable {H : SdexHost}

theorem step_offers (s : SdexSystem) (o : SdexChoice) :
    (step H s o).db.offers = s.db.offers.insertAll (·.offerId) (writes H s o) := by
  cases o with
  | receive i offers =>
    simp only [step]
    cases s.indexers[i]? with
    | none => rfl
    | some x =>
      dsimp only
      split_ifs
      · rfl
      · rfl
  | process i env =>
    simp only [step, writes]
    cases s.indexers[i]? with
    | none => rfl
    | some x =>
      dsimp only
      cases x.received with
      | nil => rfl
      | cons h rest => exact (processOffer_spec H x.partitionManager env h s.db).1
  | fallBack i =>
    simp only [step]
    cases s.indexers[i]? with
    | none => rfl
    | some x => rfl

theorem run_offers (s : SdexSystem) (ops : List SdexChoice) :
    (run (step H) s ops).db.offers =
      s.db.offers.insertAll (·.offerId) (trace (step H) (writes H) s ops) := by
  induction ops generalizing s with
  | nil => rfl
  | cons o ops ih => rw [run_cons, ih, step_offers, trace, HashMap.insertAll_append]

theorem writes_cases (s : SdexSystem) (o : SdexChoice) :
    writes H s o = [] ∨ ∃ row, writes H s o = [row] := by
  cases o with
  | receive i offers | fallBack i => exact .inl rfl
  | process i env =>
    simp only [writes]
    cases s.indexers[i]? with
    | none => exact .inl rfl
    | some x =>
      dsimp only
      cases x.received with
      | nil => exact .inl rfl
      | cons h rest =>
        dsimp only
        cases writtenRow H x.partitionManager env h s.db with
        | none => exact .inl rfl
        | some row => exact .inr ⟨row, rfl⟩

/-- The ledger stored for the offer is lower after than before. -/
def Lowered (s s' : SdexSystem) (id : ℤ) : Prop :=
  ∃ old new, s.db.offers.lookup id = some old ∧ s'.db.offers.lookup id = some new ∧
    new.lastModifiedLedger < old.lastModifiedLedger

/-- The row of an offer is that of the last write of the offer, and a step lowers the stored ledger
exactly when it writes an older version than the one it replaces. -/
theorem last_write_stored (H : SdexHost) (s : SdexSystem) (ops : List SdexChoice) (id : ℤ) :
    (run (step H) s ops).db.offers.lookup id =
        ((trace (step H) (writes H) s ops).filter fun row => row.offerId = id).getLast?.or
          (s.db.offers.lookup id) ∧
      ∀ o, Lowered (run (step H) s ops) (step H (run (step H) s ops) o) id ↔
        ∃ old row, (run (step H) s ops).db.offers.lookup id = some old ∧
          row ∈ writes H (run (step H) s ops) o ∧ row.offerId = id ∧
          row.lastModifiedLedger < old.lastModifiedLedger := by
  constructor
  · rw [run_offers, HashMap.lookup_insertAll]
  · intro o
    generalize run (step H) s ops = t
    rw [Lowered, step_offers]
    rcases writes_cases (H := H) t o with hnone | ⟨row, hrow⟩
    · rw [hnone]
      constructor
      · rintro ⟨old, new, hold, hnew, hlt⟩
        obtain rfl : old = new := mem_unique hold hnew
        exact absurd hlt (lt_irrefl _)
      · rintro ⟨old, row, -, hrow, -⟩
        cases hrow
    · have hlookup : (t.db.offers.insertAll (·.offerId) [row]).lookup id =
          if id = row.offerId then some row else t.db.offers.lookup id :=
        HashMap.lookup_insert_eq _ _ _ _
      rw [hrow, hlookup]
      constructor
      · rintro ⟨old, new, hold, hnew, hlt⟩
        split_ifs at hnew with hid
        · obtain rfl : row = new := some.inj hnew
          exact ⟨old, row, hold, mem_singleton_self row, hid.symm, hlt⟩
        · obtain rfl : old = new := mem_unique hold hnew
          exact absurd hlt (lt_irrefl _)
      · rintro ⟨old, row', hold, hmem, hid, hlt⟩
        obtain rfl : row' = row := mem_singleton.mp hmem
        exact ⟨old, row', hold, if_pos hid.symm, hlt⟩

end SdexSystem

/-! A polling pass -/

section Pass

variable {H : SdexHost} {m : PartitionManager} {env : ℕ → OfferEnv} {book : List HorizonOffer}

theorem indexPage_append (l l' : List HorizonOffer) (n indexed : ℕ) (db : SdexDb) :
    indexPage H m env (l ++ l') n indexed db =
      indexPage H m env l' (n + l.length) (indexPage H m env l n indexed db).1
        (indexPage H m env l n indexed db).2 := by
  induction l generalizing n indexed db with
  | nil => rfl
  | cons h l ih =>
    simp only [cons_append, indexPage, length_cons]
    rw [ih, Nat.add_right_comm, Nat.add_assoc]

variable {h : HorizonOffer} {db : SdexDb}

theorem bookPage_after {pre rest : List HorizonOffer} {token : String}
    (htoken : h.pagingToken = some token)
    (hnodup : ((pre ++ h :: rest).map (·.pagingToken)).Nodup) (limit : ℕ) :
    bookPage (pre ++ h :: rest) limit (some token) = rest.take limit := by
  have hdrop : (pre ++ h :: rest).dropWhile (fun h => decide (h.pagingToken ≠ some token)) =
      h :: rest := by
    induction pre with
    | nil => simp [htoken]
    | cons x pre ih =>
      rw [cons_append, map_cons, nodup_cons] at hnodup
      have hx : x.pagingToken ≠ some token := by
        intro hx
        apply hnodup.1
        rw [hx, ← htoken]
        simp
      rw [cons_append, dropWhile_cons, if_pos (decide_eq_true hx)]
      exact ih hnodup.2
  rw [bookPage, hdrop, drop_one, tail_cons]

/-- As Horizon documents it: every offer has a token of its own. -/
structure Paged (book : List HorizonOffer) : Prop where
  tokens : ∀ h ∈ book, h.pagingToken ≠ none
  nodup : (book.map (·.pagingToken)).Nodup

theorem indexPages_eq (hpaged : Paged book) (pages : ℕ) :
    ∀ (pre rest : List HorizonOffer) (cursor : Option String) (indexed : ℕ) (db : SdexDb),
      book = pre ++ rest → bookPage book pageLimit cursor = rest.take pageLimit →
      indexPages H m env (fun limit cursor => .ok (bookPage book limit cursor)) pages cursor
          pre.length indexed db =
        (.ok (indexPage H m env (rest.take (pageLimit * pages)) pre.length indexed db).1,
          (indexPage H m env (rest.take (pageLimit * pages)) pre.length indexed db).2) := by
  induction pages with
  | zero =>
    intro pre rest cursor indexed db _ _
    rfl
  | succ pages ih =>
    intro pre rest cursor indexed db hbook hpage
    rw [indexPages, hpage]
    cases hrest : rest.take pageLimit with
    | nil =>
      have hempty : rest = [] := by
        cases rest with
        | nil => rfl
        | cons h rest => cases hrest
      rw [hempty, take_nil]
      rfl
    | cons h page =>
      dsimp only
      rw [← hrest]
      have hne : rest.take pageLimit ≠ [] := by
        rw [hrest]
        exact cons_ne_nil h page
      obtain ⟨init, last, hconcat⟩ := (eq_nil_or_concat' (rest.take pageLimit)).resolve_left hne
      have hmem : last ∈ book := by
        rw [hbook]
        apply mem_append_right
        apply mem_of_mem_take
        rw [hconcat]
        exact mem_concat_self
      obtain ⟨token, htoken⟩ := ne_none_iff_exists'.mp (hpaged.tokens last hmem)
      have hcursor : (rest.take pageLimit).getLast?.bind (·.pagingToken) = some token := by
        rw [hconcat, getLast?_concat, bind_some, htoken]
      by_cases hshort : (rest.take pageLimit).length < pageLimit
      · have hall : rest.take (pageLimit * (pages + 1)) = rest.take pageLimit := by
          rw [length_take] at hshort
          rw [take_of_length_le (by omega : rest.length ≤ pageLimit), take_of_length_le]
          rw [Nat.mul_succ]
          omega
        rw [if_pos (.inl hshort), hall]
      · rw [hcursor, if_neg fun hend => hend.elim hshort nofun]
        have hcut : rest = init ++ last :: rest.drop pageLimit := by
          have hcut := take_append_drop pageLimit rest
          rw [hconcat, append_assoc, singleton_append] at hcut
          exact hcut.symm
        have hsplit : book = (pre ++ init) ++ last :: rest.drop pageLimit := by
          rw [hbook, append_assoc, ← hcut]
        have hnext : bookPage book pageLimit (some token) = (rest.drop pageLimit).take pageLimit := by
          have hnodup := hsplit ▸ hpaged.nodup
          exact (congrArg (bookPage · pageLimit (some token)) hsplit).trans
            (bookPage_after htoken hnodup pageLimit)
        have hpre : book = (pre ++ rest.take pageLimit) ++ rest.drop pageLimit := by
          rw [append_assoc, take_append_drop, hbook]
        rw [← length_append, ih _ _ _ _ _ hpre hnext, Nat.mul_succ, Nat.add_comm,
          take_add, indexPage_append, length_append]

/-! The rows of a pass -/

/-- The rows that are written for the offers, from the `n`th of the pass on. -/
def pageWrites (H : SdexHost) (m : PartitionManager) (env : ℕ → OfferEnv) :
    List HorizonOffer → ℕ → SdexDb → List SdexRow
  | [], _, _ => []
  | h :: page, n, db =>
    (writtenRow H m (env n) h db).toList ++
      pageWrites H m env page (n + 1) (processOffer H m (env n) h db).2

theorem indexPage_spec (l : List HorizonOffer) (n indexed : ℕ) (db : SdexDb) :
    (indexPage H m env l n indexed db).2.offers =
        db.offers.insertAll (·.offerId) (pageWrites H m env l n db) ∧
      AssetsKept db (indexPage H m env l n indexed db).2 := by
  induction l generalizing n indexed db with
  | nil => exact ⟨rfl, .refl db⟩
  | cons h l ih =>
    obtain ⟨hoffers, hassets⟩ := processOffer_spec H m (env n) h db
    obtain ⟨hrest, hkept⟩ := ih (n + 1)
      (if (processOffer H m (env n) h db).1 = true then indexed + 1 else indexed)
      (processOffer H m (env n) h db).2
    refine ⟨?_, hassets.trans hkept⟩
    rw [indexPage, hrest, hoffers, pageWrites, HashMap.insertAll_append]

theorem mem_pageWrites {l : List HorizonOffer} {n : ℕ} (indexed : ℕ) {row : SdexRow} :
    row ∈ pageWrites H m env l n db ↔ ∃ k h offer, l[k]? = some h ∧
        Written H m (env (n + k)) h (indexPage H m env l n indexed db).2 offer row := by
  induction l generalizing n indexed db with
  | nil => simp [pageWrites]
  | cons h l ih =>
    have hkept : AssetsKept (processOffer H m (env n) h db).2
        (indexPage H m env (h :: l) n indexed db).2 :=
      (indexPage_spec l (n + 1)
        (if (processOffer H m (env n) h db).1 = true then indexed + 1 else indexed) _).2
    rw [pageWrites, mem_append, mem_toList, writtenRow_eq_some hkept,
      ih (if (processOffer H m (env n) h db).1 = true then indexed + 1 else indexed)]
    constructor
    · rintro (⟨offer, hw⟩ | ⟨k, x, offer, hk, hw⟩)
      · exact ⟨0, h, offer, rfl, hw⟩
      · refine ⟨k + 1, x, offer, hk, ?_⟩
        rwa [Nat.add_right_comm] at hw
    · rintro ⟨k, x, offer, hk, hw⟩
      cases k with
      | zero =>
        obtain rfl : h = x := some.inj hk
        exact .inl ⟨offer, hw⟩
      | succ k =>
        refine .inr ⟨k, x, offer, hk, ?_⟩
        rw [Nat.add_right_comm]
        exact hw

def DistinctIds (H : SdexHost) (book : List HorizonOffer) : Prop :=
  ∀ (i j : ℕ) h h' offer offer', book[i]? = some h → book[j]? = some h' → Offer.tryFrom H h = .ok offer →
    Offer.tryFrom H h' = .ok offer' → offer.rowId = offer'.rowId → i = j

/-- The pass over the book writes `row`: it is that of an offer of the first hundred pages. -/
def PassWrites (H : SdexHost) (m : PartitionManager) (env : ℕ → OfferEnv) (book : List HorizonOffer)
    (after : SdexDb) (row : SdexRow) : Prop :=
  ∃ (n : ℕ) (h : HorizonOffer) (offer : Offer), n < pageLimit * maxPages ∧ book[n]? = some h ∧
      Written H m (env n) h after offer row

theorem accepted_eq_some {now : ℤ} {offer : Offer}
    (haccepted : accepted H m now h = some offer) : Offer.tryFrom H h = .ok offer := by
  unfold accepted at haccepted
  split at haccepted
  · cases haccepted
  · next hoffer =>
    split_ifs at haccepted
    rw [hoffer, some.inj haccepted]

theorem PassWrites.unique (hids : DistinctIds H book) {after : SdexDb} {row row' : SdexRow}
    (hrow : PassWrites H m env book after row) (hrow' : PassWrites H m env book after row')
    (hid : row.offerId = row'.offerId) : row = row' := by
  obtain ⟨n, h, offer, -, hn, hw⟩ := hrow
  obtain ⟨n', h', offer', -, hn', hw'⟩ := hrow'
  obtain ⟨-, -, hoffer⟩ := offerRow_ids hw.row
  obtain ⟨-, -, hoffer'⟩ := offerRow_ids hw'.row
  obtain rfl : n = n' := hids n n' h h' offer offer' hn hn' (accepted_eq_some hw.accepted)
    (accepted_eq_some hw'.accepted) (by rw [← hoffer, ← hoffer', hid])
  obtain rfl : h = h' := mem_unique hn hn'
  obtain rfl : offer = offer' := mem_unique hw.accepted hw'.accepted
  have hsame := hw'.row
  have hselling : row'.sellingAssetId = row.sellingAssetId := mem_unique hw'.selling hw.selling
  have hbuying : row'.buyingAssetId = row.buyingAssetId := mem_unique hw'.buying hw.buying
  rw [hselling, hbuying, hw.row] at hsame
  exact some.inj hsame

theorem mem_pageWrites_book {row : SdexRow} :
    row ∈ pageWrites H m env (book.take (pageLimit * maxPages)) 0 db ↔ PassWrites H m env book
        (indexPage H m env (book.take (pageLimit * maxPages)) 0 0 db).2 row := by
  rw [mem_pageWrites 0, PassWrites]
  simp only [Nat.zero_add]
  constructor
  · rintro ⟨n, h, offer, hn, hw⟩
    rw [getElem?_take] at hn
    split_ifs at hn with hlt
    exact ⟨n, h, offer, hlt, hn, hw⟩
  · rintro ⟨n, h, offer, hlt, hn, hw⟩
    refine ⟨n, h, offer, ?_, hw⟩
    rw [getElem?_take, if_pos hlt, hn]

/-- A pass over a book that does not change: it ends well, and leaves for each id the row of the
book's offer if there is one that it writes, and the row that was there if not. -/
theorem pass_stores (H : SdexHost) (m : PartitionManager) (env : ℕ → OfferEnv)
    (book : List HorizonOffer) (db : SdexDb) (hpaged : Paged book) (hids : DistinctIds H book) :
    ∃ indexed after,
      indexOffers H m env (fun limit cursor => .ok (bookPage book limit cursor)) db =
        (.ok indexed, after) ∧
      ∀ id row, after.offers.lookup id = some row ↔
        PassWrites H m env book after row ∧ row.offerId = id ∨
          (∀ row', PassWrites H m env book after row' → row'.offerId ≠ id) ∧
            db.offers.lookup id = some row := by
  refine ⟨_, _, indexPages_eq hpaged maxPages [] book none 0 db rfl rfl, ?_⟩
  intro id row
  rw [(indexPage_spec _ _ _ _).1, HashMap.lookup_insertAll]
  cases hlast : ((pageWrites H m env (book.take (pageLimit * maxPages)) 0 db).filter
      fun row => row.offerId = id).getLast? with
  | none =>
    rw [getLast?_eq_none_iff, filter_eq_nil_iff] at hlast
    have hnone : ∀ row', PassWrites H m env book
        (indexPage H m env (book.take (pageLimit * maxPages)) 0 0 db).2 row' → row'.offerId ≠ id := by
      intro row' hrow' hid
      exact hlast row' (mem_pageWrites_book.mpr hrow') (decide_eq_true hid)
    constructor
    · exact fun hold => .inr ⟨hnone, hold⟩
    · rintro (⟨hrow, hid⟩ | ⟨-, hold⟩)
      · exact absurd hid (hnone row hrow)
      · exact hold
  | some new =>
    obtain ⟨hnew, hid⟩ := mem_filter.mp (mem_of_getLast? hlast)
    have hwrites := mem_pageWrites_book.mp hnew
    have hid := of_decide_eq_true hid
    rw [some_or, some.injEq]
    constructor
    · rintro rfl
      exact .inl ⟨hwrites, hid⟩
    · rintro (⟨hrow, hrowId⟩ | ⟨hnone, -⟩)
      · exact hwrites.unique hids hrow (hid.trans hrowId.symm)
      · exact absurd hid (hnone new hwrites)

/-! Sample books -/

namespace Sample

/-- Every number is read as one, and every pair hashes to zero. -/
def host : SdexHost := ⟨fun _ => some ⟨0x3FF0000000000000⟩, fun _ => 0, fun _ => some (10 ^ 14)⟩

def partition : PartitionManager := ⟨1, 0, 0, 0, ∅, [], Nat.one_pos⟩

/-- Every statement succeeds. -/
def smooth : OfferEnv := ⟨0, some 1, some 2, true⟩

def seller : String := "GAAAAAAAAAAAAAAAAAAAAAAAAAAAAAAAAAAAAAAAAAAAAAAAAAAAAAAA"

/-- A version of the offer 7, of native for issued assets. -/
def offer (ledger : ℤ) : HorizonOffer :=
  ⟨"7", some "7", seller, ⟨some "native", none, none⟩,
    ⟨some "credit_alphanum4", some "USDC", some seller⟩, "1", "1", none, ledger⟩

def row (ledger : ℤ) : SdexRow :=
  ⟨7, seller, 1, 2, 10 ^ 14, 0, 1, 10 ^ 14, ledger, some "7"⟩

/-- A table with the row of an offer. -/
def stored : SdexDb := ⟨∅, (∅ : HashMap ℤ SdexRow).insert 7 (row 100)⟩

def indexer : SdexIndexer := ⟨.polling, partition, []⟩

/-- Two indexers read the offer, and the one that read it first writes it last. -/
def overtaking : List SdexChoice :=
  [.receive 0 [offer 100], .receive 1 [offer 101], .process 1 smooth, .process 0 smooth]

end Sample

open Sample in
/-- A pass over a book with one offer. -/
theorem pass_stores_offer : ∃ indexed after,
    indexOffers host partition (fun _ => smooth) (fun limit cursor => .ok (bookPage [offer 100]
        limit cursor))
      ⟨∅, ∅⟩ = (.ok indexed, after) ∧
    ∀ id row, after.offers.lookup id = some row ↔
      PassWrites host partition (fun _ => smooth) [offer 100] after row ∧ row.offerId = id ∨
        (∀ row', PassWrites host partition (fun _ => smooth) [offer 100] after row' → row'.offerId
            ≠ id) ∧
          (∅ : HashMap ℤ SdexRow).lookup id = some row := by
  apply pass_stores
  · exact ⟨by decide, by decide⟩
  · intro i j h h' o o' hi hj _ _ _
    have hlt := (List.getElem?_eq_some_iff.mp hi).1
    have hlt' := (List.getElem?_eq_some_iff.mp hj).1
    simp only [List.length_singleton] at hlt hlt'
    omega

open Sample in
/-- The row of an offer that is in the book no more stays. -/
theorem vanished_offer_stays : ∃ indexed after,
    indexOffers host partition (fun _ => smooth) (fun limit cursor => .ok (bookPage [] limit cursor))
      stored = (.ok indexed, after) ∧
    ¬ ∀ id row, after.offers.lookup id = some row ↔
      PassWrites host partition (fun _ => smooth) [] after row ∧ row.offerId = id := by
  refine ⟨0, stored, rfl, ?_⟩
  intro hexact
  obtain ⟨⟨n, h, offer, -, hn, -⟩, -⟩ := (hexact 7 (row 100)).mp (by decide)
  cases hn

open Sample in
/-- The stored ledger goes from 101 to 100. -/
theorem older_version_replaces : ∃ s : SdexSystem,
    SdexSystem.Lowered (run (SdexSystem.step host) s (overtaking.take 3))
      (run (SdexSystem.step host) s overtaking) 7 := by
  refine ⟨⟨[indexer, indexer], ⟨∅, ∅⟩⟩, row 101, row 100, ?_, ?_, by decide⟩
  · decide
  · decide

end Pass

end StellarRoute.Indexer
