import Mathlib.Tactic
import StellarRoute.Indexer.Spec.Sdex

/-! What the indexer does to the tables. An offer is written as one row or not at all, the table of
offers takes the rows as they come, and the ids of assets stay. -/

namespace StellarRoute.Indexer

open Lib

variable {H : SdexHost} {m : PartitionManager} {env : OfferEnv} {h : HorizonOffer} {db db' : SdexDb}

def writtenRow (H : SdexHost) (m : PartitionManager) (env : OfferEnv) (h : HorizonOffer)
    (db : SdexDb) : Option SdexRow := do
  let offer ← accepted H m env.now h
  let (sellingAssetId, db) ← upsertAsset env.sellingAsset offer.selling db
  let (buyingAssetId, _) ← upsertAsset env.buyingAsset offer.buying db
  guard (env.upsert = true)
  offerRow H offer sellingAssetId buyingAssetId

/-! Assets -/

/-- The assets that were there have the same ids. -/
def AssetsKept (db db' : SdexDb) : Prop :=
  ∀ key id, db.assets.lookup key = some id → db'.assets.lookup key = some id

theorem AssetsKept.refl (db : SdexDb) : AssetsKept db db := fun _ _ hid => hid

theorem AssetsKept.trans {db'' : SdexDb} (hkept : AssetsKept db db') (hkept' : AssetsKept db' db'') :
    AssetsKept db db'' := fun key id hid => hkept' key id (hkept key id hid)

variable {asset : Asset} {fresh : Option ℕ} {offer : Offer} {row : SdexRow}
  {sellingAssetId buyingAssetId : ℕ}

theorem upsertAsset_eq_some {id : ℕ} (hu : upsertAsset fresh asset db = some (id, db')) :
    AssetsKept db db' ∧ db'.assets.lookup asset.key = some id ∧ db'.offers = db.offers := by
  rw [upsertAsset, Option.map_eq_some_iff] at hu
  obtain ⟨new, -, hu⟩ := hu
  cases hlookup : db.assets.lookup asset.key with
  | some old =>
    rw [hlookup, Prod.mk.injEq] at hu
    obtain ⟨rfl, rfl⟩ := hu
    exact ⟨.refl db, hlookup, rfl⟩
  | none =>
    rw [hlookup, Prod.mk.injEq] at hu
    obtain ⟨rfl, rfl⟩ := hu
    refine ⟨?_, ?_, rfl⟩
    · intro key id hid
      dsimp only
      rw [HashMap.lookup_insert_eq]
      split_ifs with hkey
      · rw [hkey, hlookup] at hid
        cases hid
      · exact hid
    · exact AList.lookup_insert _

theorem upsertAsset_isSome :
    (∃ id db', upsertAsset fresh asset db = some (id, db')) ↔ fresh.isSome = true := by
  cases fresh with
  | none => simp [upsertAsset]
  | some id => exact iff_of_true ⟨_, _, rfl⟩ rfl

/-! One offer -/

/-- One inversion for the loop body: the rows, the assets, and the count. -/
theorem processOffer_spec (H : SdexHost) (m : PartitionManager) (env : OfferEnv) (h : HorizonOffer)
    (db : SdexDb) :
    (processOffer H m env h db).2.offers =
        db.offers.insertAll (·.offerId) (writtenRow H m env h db).toList ∧
      AssetsKept db (processOffer H m env h db).2 := by
  unfold processOffer writtenRow
  cases haccepted : accepted H m env.now h with
  | none => exact ⟨rfl, .refl db⟩
  | some offer =>
    simp only [Option.bind_eq_bind, Option.bind_some]
    cases hselling : upsertAsset env.sellingAsset offer.selling db with
    | none => exact ⟨rfl, .refl db⟩
    | some sold =>
      obtain ⟨sellingAssetId, db1⟩ := sold
      obtain ⟨hkept, -, hoffers⟩ := upsertAsset_eq_some hselling
      simp only [Option.bind_some]
      cases hbuying : upsertAsset env.buyingAsset offer.buying db1 with
      | none => exact ⟨hoffers, hkept⟩
      | some bought =>
        obtain ⟨buyingAssetId, db2⟩ := bought
        obtain ⟨hkept', -, hoffers'⟩ := upsertAsset_eq_some hbuying
        have hsame : db2.offers = db.offers := hoffers'.trans hoffers
        have hassets : AssetsKept db db2 := hkept.trans hkept'
        simp only [upsertOffer, Option.bind_some, Option.bind_eq_bind]
        cases env.upsert with
        | false => exact ⟨hsame, hassets⟩
        | true =>
          simp only [guard_true, Option.pure_def, Option.bind_some]
          cases offerRow H offer sellingAssetId buyingAssetId with
          | none => exact ⟨hsame, hassets⟩
          | some row =>
            refine ⟨?_, hassets⟩
            simp only [Option.bind_some, hsame]
            rfl

/-- The row of an offer that is valid and of the partition, whose statements succeed and whose
numbers fit, with the ids that its assets have in `db`. -/
structure Written (H : SdexHost) (m : PartitionManager) (env : OfferEnv) (h : HorizonOffer)
    (db : SdexDb) (offer : Offer) (row : SdexRow) : Prop where
  accepted : accepted H m env.now h = some offer
  statements : env.sellingAsset.isSome = true ∧ env.buyingAsset.isSome = true ∧ env.upsert = true
  selling : db.assets.lookup offer.selling.key = some row.sellingAssetId
  buying : db.assets.lookup offer.buying.key = some row.buyingAssetId
  row : offerRow H offer row.sellingAssetId row.buyingAssetId = some row

theorem offerRow_ids (hrow : offerRow H offer sellingAssetId buyingAssetId = some row) :
    row.sellingAssetId = sellingAssetId ∧ row.buyingAssetId = buyingAssetId ∧
      row.offerId = offer.rowId := by
  simp only [offerRow, Option.bind_eq_bind, Option.bind_eq_some_iff, Option.pure_def,
    Option.some.injEq] at hrow
  obtain ⟨amount, -, price, -, hrow⟩ := hrow
  rw [← hrow]
  exact ⟨rfl, rfl, by dsimp only⟩

theorem processOffer_assets {db1 db2 : SdexDb} (haccepted : accepted H m env.now h = some offer)
    (hselling : upsertAsset env.sellingAsset offer.selling db = some (sellingAssetId, db1))
    (hbuying : upsertAsset env.buyingAsset offer.buying db1 = some (buyingAssetId, db2)) :
    (processOffer H m env h db).2.assets = db2.assets := by
  simp only [processOffer, haccepted, hselling, hbuying, upsertOffer]
  cases env.upsert with
  | false => rfl
  | true => cases offerRow H offer sellingAssetId buyingAssetId <;> rfl

/-- A row is written exactly when it is that of the offer, also with the ids of a later table. -/
theorem writtenRow_eq_some (hkept : AssetsKept (processOffer H m env h db).2 db') :
    writtenRow H m env h db = some row ↔ ∃ offer, Written H m env h db' offer row := by
  constructor
  · intro hrow
    simp only [writtenRow, Option.bind_eq_bind, Option.bind_eq_some_iff, Prod.exists,
      Option.guard_eq_some'] at hrow
    obtain ⟨offer, haccepted, sellingAssetId, db1, hselling, buyingAssetId, db2, hbuying, -, hok,
      hrow⟩ := hrow
    obtain ⟨-, hsold, -⟩ := upsertAsset_eq_some hselling
    obtain ⟨hkept', hbought, -⟩ := upsertAsset_eq_some hbuying
    obtain ⟨rfl, rfl, -⟩ := offerRow_ids hrow
    have hresult := processOffer_assets haccepted hselling hbuying
    have hlater : AssetsKept db2 db' := fun key id hid => hkept key id (by rw [hresult]; exact hid)
    refine ⟨offer, haccepted, ⟨?_, ?_, hok⟩, ?_, ?_, hrow⟩
    · exact upsertAsset_isSome.mp ⟨_, _, hselling⟩
    · exact upsertAsset_isSome.mp ⟨_, _, hbuying⟩
    · exact hlater _ _ (hkept' _ _ hsold)
    · exact hlater _ _ hbought
  · rintro ⟨offer, hw⟩
    obtain ⟨hfresh, hfresh', hok⟩ := hw.statements
    have hsold : ∃ id db1, upsertAsset env.sellingAsset offer.selling db = some (id, db1) :=
      upsertAsset_isSome.mpr hfresh
    obtain ⟨sellingAssetId, db1, hselling⟩ := hsold
    have hbought : ∃ id db2, upsertAsset env.buyingAsset offer.buying db1 = some (id, db2) :=
      upsertAsset_isSome.mpr hfresh'
    obtain ⟨buyingAssetId, db2, hbuying⟩ := hbought
    obtain ⟨-, hsellingId, -⟩ := upsertAsset_eq_some hselling
    obtain ⟨hkept', hbuyingId, -⟩ := upsertAsset_eq_some hbuying
    have hresult := processOffer_assets hw.accepted hselling hbuying
    have hlater : AssetsKept db2 db' := fun key id hid => hkept key id (by rw [hresult]; exact hid)
    -- the ids that the row has are the ones it was written with
    have hsellingEq : row.sellingAssetId = sellingAssetId :=
      Option.some.inj (hw.selling.symm.trans (hlater _ _ (hkept' _ _ hsellingId)))
    have hbuyingEq : row.buyingAssetId = buyingAssetId :=
      Option.some.inj (hw.buying.symm.trans (hlater _ _ hbuyingId))
    have hrow := hw.row
    rw [hsellingEq, hbuyingEq] at hrow
    simp only [writtenRow, hw.accepted, hselling, hbuying, hok, guard_true, Option.bind_eq_bind,
      Option.pure_def, Option.bind_some, hrow]

end StellarRoute.Indexer
