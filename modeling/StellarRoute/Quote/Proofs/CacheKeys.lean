import StellarRoute.Quote.Spec.CacheKeys

/-! When two quote requests share an answer. The parts of a key after the two
assets can be read back from it, so requests with one key agree in amount,
slippage, type and explanation. Of the assets a key has a form that is the same
for different ones, and the two forms are not delimited from each other. -/

namespace StellarRoute.Quote

open Lib

variable {ops : TextOps}

/-- A code without issuer is whichever asset of that code is found first. -/
inductive StellarAsset where
  | native
  | credit (code : String) (issuer : Option String)
deriving DecidableEq

def AssetPath.stellarAsset (a : AssetPath) : StellarAsset :=
  if a.assetCode = "native" then .native else .credit a.assetCode a.assetIssuer

structure SameTrade (ops : TextOps) (r r' : QuoteRequest) : Prop where
  base : r.base.stellarAsset = r'.base.stellarAsset
  quote : r.quote.stellarAsset = r'.quote.stellarAsset
  amount : ops.formatF64 r.amount = ops.formatF64 r'.amount
  slippageBps : r.slippageBps = r'.slippageBps
  quoteType : r.quoteType = r'.quoteType
  explain : r.explain = r'.explain

/-- The assets as they stand in the key. -/
def QuoteRequest.assetsText (ops : TextOps) (r : QuoteRequest) : String :=
  Keys.normalizeAsset ops r.base.toCanonical ++ ":" ++ Keys.normalizeAsset ops r.quote.toCanonical

/-! ### Reading a key from the right -/

theorem colon_notMem_nat (n : ℕ) : ':' ∉ (toString n).toList := by
  intro hc
  rw [Nat.toString_eq_repr, Nat.toList_repr] at hc
  have := Nat.isDigit_of_mem_toDigits (by decide) (by decide) hc
  simp at this

theorem colon_notMem_format (x : F64) : ':' ∉ (ops.formatF64 x).toList := by
  intro hc
  rcases ops.format_chars x ':' hc with h | h
  · simp at h
  · simp at h

theorem colon_notMem_type (t : QuoteType) : ':' ∉ t.text.toList := by
  cases t <;> decide

theorem colon_notMem_bool (b : Bool) : ':' ∉ (toString b).toList := by
  cases b <;> decide

theorem type_text_inj {t t' : QuoteType} : t.text = t'.text ↔ t = t' := by
  cases t <;> cases t' <;> decide

theorem bool_text_inj {b b' : Bool} : toString b = toString b' ↔ b = b' := by
  cases b <;> cases b' <;> decide

theorem normalizeAmount_format (x : F64) :
    Keys.normalizeAmount ops (ops.formatF64 x) = ops.formatF64 x := by
  unfold Keys.normalizeAmount
  cases h : ops.parseF64 (ops.formatF64 x) with
  | none => rfl
  | some y => exact ops.reparse x y h

theorem cacheKey_eq (r : QuoteRequest) : r.cacheKey ops =
    "v2:quote:" ++ r.assetsText ops ++ ":" ++ ops.formatF64 r.amount ++ ":" ++
      toString r.slippageBps.toNat ++ ":" ++ r.quoteType.text ++ ":" ++ toString r.explain := by
  unfold QuoteRequest.cacheKey QuoteRequest.assetsText Keys.quote
  rw [normalizeAmount_format]
  simp only [String.append_assoc]

theorem cacheKey_eq_iff {r r' : QuoteRequest} : r.cacheKey ops = r'.cacheKey ops ↔
    r.assetsText ops = r'.assetsText ops ∧ ops.formatF64 r.amount = ops.formatF64 r'.amount ∧
      r.slippageBps = r'.slippageBps ∧ r.quoteType = r'.quoteType ∧ r.explain = r'.explain := by
  rw [cacheKey_eq, cacheKey_eq,
    append_colon_inj (colon_notMem_bool _) (colon_notMem_bool _),
    append_colon_inj (colon_notMem_type _) (colon_notMem_type _),
    append_colon_inj (colon_notMem_nat _) (colon_notMem_nat _),
    append_colon_inj (colon_notMem_format _) (colon_notMem_format _),
    String.append_right_inj, bool_text_inj, type_text_inj, toString_nat_inj, UInt32.toNat_inj]
  simp only [and_assoc]

/-! ### The assets of a key -/

/-- The characters of codes and issuers, and what joins them. -/
def isNameChar (c : Char) : Bool := c.isAlphanum || c = ':'

section Names

variable {c : Char}

theorem isNameChar_ascii (h : isNameChar c) : c.toNat < 128 := by
  delta isNameChar Char.isAlphanum Char.isAlpha Char.isUpper Char.isLower Char.isDigit at h
  simp only [Bool.or_eq_true, Bool.and_eq_true, decide_eq_true_eq, UInt32.le_iff_toNat_le, ge_iff_le] at h
  change ((((65 ≤ c.toNat ∧ c.toNat ≤ 90) ∨ (97 ≤ c.toNat ∧ c.toNat ≤ 122)) ∨
    (48 ≤ c.toNat ∧ c.toNat ≤ 57)) ∨ c = ':') at h
  rcases h with h | rfl
  · omega
  · decide

theorem nameChar_forall {P : Char → Prop}
    (h : ∀ n : Fin 128, isNameChar (Char.ofNat n) → P (Char.ofNat n)) (hc : isNameChar c) :
    P c := by
  have := h ⟨c.toNat, isNameChar_ascii hc⟩
  rw [Char.ofNat_toNat] at this
  exact this hc

theorem lower_char_ascii (h : isNameChar c) : c.toLower.toNat < 128 :=
  nameChar_forall (P := fun c => c.toLower.toNat < 128) (by decide) h

theorem toUpper_toLower (h : isNameChar c) : c.toLower.toUpper = c.toUpper :=
  nameChar_forall (P := fun c => c.toLower.toUpper = c.toUpper) (by decide) h

theorem not_whitespace (h : isNameChar c) : isWhitespace c = false :=
  nameChar_forall (P := fun c => isWhitespace c = false) (by decide) h

end Names

theorem splitOnceChars_none {sep : Char} {cs : List Char} (h : sep ∉ cs) :
    splitOnceChars sep cs = none := by
  induction cs with
  | nil => rfl
  | cons c cs ih =>
    rw [List.mem_cons, not_or] at h
    rw [splitOnceChars, if_neg (Ne.symm h.1), ih h.2]
    rfl

section Name

variable {name : String} (hname : ∀ c ∈ name.toList, isNameChar c)

include hname

theorem trim_name : trim name = name := by
  rw [trim, trimChars_of_forall fun c hc => not_whitespace (hname c hc), String.ofList_toList]

/-- A name that looks like a chain-scoped id is none: there is no asset part. -/
theorem canonicalizeAssetId_name (hcaip : looksLikeCaip name) :
    ∃ e, canonicalizeAssetId name = .error e := by
  have hslash : '/' ∉ name.toList := fun h => absurd (hname _ h) (by decide)
  have hsplit : splitOnce name '/' = none := by rw [splitOnce, splitOnceChars_none hslash]; rfl
  cases h : canonicalizeAssetId name with
  | error e => exact ⟨e, rfl⟩
  | ok v =>
    simp only [canonicalizeAssetId, trim_name hname, hcaip, if_true, bind_eq_ok, require_eq_ok,
      Routing.ChainAsset.parse, okOr_eq_ok, hsplit] at h
    simp at h

/-- A name in a key: that of a chain is replaced, and letters are capital. -/
theorem normalizeAsset_name : Keys.normalizeAsset ops name =
    if looksLikeCaip name then "__invalid_chain_asset__"
    else if toAsciiLowercase name ∈ ["xlm", "native"] then "native"
    else toAsciiUppercase name := by
  unfold Keys.normalizeAsset TextOps.canonicalizeForV1Cache
  by_cases hcaip : looksLikeCaip name
  · obtain ⟨e, he⟩ := canonicalizeAssetId_name hname hcaip
    rw [if_pos hcaip, he, if_pos hcaip]
  · have hlower := ops.lower_ascii name fun c hc => isNameChar_ascii (hname c hc)
    have hupper : ops.toUppercase (toAsciiLowercase name) = toAsciiUppercase name := by
      rw [ops.upper_ascii, ← String.toList_inj] <;>
        simp only [toAsciiLowercase, toAsciiUppercase, String.toList_ofList, List.map_map]
      · exact List.map_congr_left fun c hc => toUpper_toLower (hname c hc)
      · intro c hc
        obtain ⟨d, hd, rfl⟩ := List.mem_map.mp hc
        exact lower_char_ascii (hname d hd)
    rw [if_neg hcaip, if_neg hcaip]
    simp [TextOps.normalizeAsset, hlower, hupper]

end Name

/-- What a key has of an asset. -/
inductive Form where
  | native
  /-- the code is the name of a chain, whatever the issuer -/
  | chain
  | code (code : String)
  | credit (code issuer : String)
deriving DecidableEq

def AssetPath.form (a : AssetPath) : Form :=
  if a.assetCode = "native" then .native
  else
    match a.assetIssuer with
    | some issuer =>
      if toAsciiLowercase a.assetCode ++ ":" ∈ CHAIN_NAMESPACES then .chain
      else .credit (toAsciiUppercase a.assetCode) (toAsciiUppercase issuer)
    | none =>
      if toAsciiLowercase a.assetCode ∈ ["xlm", "native"] then .native
      else .code (toAsciiUppercase a.assetCode)

/-- A code next to a code with an issuer is read as a code with an issuer next to a code. -/
def Shifted (f g f' g' : Form) : Prop :=
  ∃ c d e, f = .code c ∧ g = .credit d e ∧ f' = .credit c d ∧ g' = .code e

def Form.texts : Form → List String
  | native => ["native"]
  | chain => ["__invalid_chain_asset__"]
  | code c => [c]
  | credit c i => [c, i]

/-! ### Reading the assets of a key -/

/-- Capital letters and digits. -/
def Capital (t : String) : Prop := ∀ c ∈ t.toList, c.isUpper || c.isDigit

def Form.Capital : Form → Prop
  | native | chain => True
  | code c => Quote.Capital c
  | credit c i => Quote.Capital c ∧ Quote.Capital i

theorem not_capital_native : ¬ Capital "native" :=
  fun h => absurd (h 'n' (by decide)) (by decide)

theorem not_capital_chain : ¬ Capital "__invalid_chain_asset__" :=
  fun h => absurd (h '_' (by decide)) (by decide)

section Forms

variable {f g f' g' : Form} {t : String}

theorem Form.Capital.colon (h : f.Capital) : ∀ t ∈ f.texts, ':' ∉ t.toList := by
  have hcapital : ∀ {t}, Quote.Capital t → ':' ∉ t.toList := fun ht hc => absurd (ht _ hc) (by decide)
  cases f with
  | native | chain => decide
  | code c => simpa [texts] using hcapital h
  | credit c i => simpa [texts] using ⟨hcapital h.1, hcapital h.2⟩

theorem eq_code (hf : f.texts = [t]) (ht : Capital t) : f = .code t := by
  cases f with
  | native => exact absurd ((List.singleton_inj.mp hf) ▸ ht) not_capital_native
  | chain => exact absurd ((List.singleton_inj.mp hf) ▸ ht) not_capital_chain
  | code c => rw [List.singleton_inj.mp hf]
  | credit c i => simp [Form.texts] at hf

theorem texts_inj (hf : f.Capital) (hg : g.Capital) (h : f.texts = g.texts) : f = g := by
  cases f with
  | native | chain =>
    cases g with
    | code c => exact eq_code h hg
    | native | chain | credit => first | rfl | simp [Form.texts] at h
  | code c => exact (eq_code h.symm hf).symm
  | credit c i => cases g <;> simp_all [Form.texts]

/-- One text before, two after: the texts are shifted by one. -/
theorem shifted_of_texts {c d : String} (hf' : (Form.credit c d).Capital) (hg : g.Capital)
    (ht : f.texts = [t]) (h : f.texts ++ g.texts = (Form.credit c d).texts ++ g'.texts) :
    Shifted f g (.credit c d) g' := by
  rw [ht] at h
  obtain ⟨rfl, htail⟩ := List.cons.inj (show t :: g.texts = c :: d :: g'.texts from h)
  cases g with
  | native | chain | code => cases g' <;> simp [Form.texts] at htail
  | credit d' e =>
    obtain ⟨rfl, hlast⟩ := List.cons.inj (show d' :: [e] = d :: g'.texts from htail)
    exact ⟨_, _, _, eq_code ht hf'.1, rfl, rfl, eq_code hlast.symm hg.2⟩

theorem texts_eq_singleton_or (f : Form) : (∃ t, f.texts = [t]) ∨ ∃ c d, f = .credit c d := by
  cases f <;> simp [Form.texts]

theorem texts_append_iff (hf : f.Capital) (hg : g.Capital) (hf' : f'.Capital) (hg' : g'.Capital) :
    f.texts ++ g.texts = f'.texts ++ g'.texts ↔
      (f = f' ∧ g = g') ∨ Shifted f g f' g' ∨ Shifted f' g' f g := by
  constructor
  · intro h
    rcases texts_eq_singleton_or f with ⟨t, ht⟩ | ⟨c, d, rfl⟩ <;>
      rcases texts_eq_singleton_or f' with ⟨t', ht'⟩ | ⟨c', d', rfl⟩
    · obtain ⟨hleft, hright⟩ := List.append_inj h (by rw [ht, ht']; rfl)
      exact .inl ⟨texts_inj hf hf' hleft, texts_inj hg hg' hright⟩
    · exact .inr (.inl (shifted_of_texts hf' hg ht h))
    · exact .inr (.inr (shifted_of_texts hf hg' ht' h.symm))
    · obtain ⟨hleft, hright⟩ := List.append_inj h rfl
      exact .inl ⟨texts_inj hf hf' hleft, texts_inj hg hg' hright⟩
  · rintro (⟨rfl, rfl⟩ | ⟨c, d, e, rfl, rfl, rfl, rfl⟩ | ⟨c, d, e, rfl, rfl, rfl, rfl⟩) <;> rfl

/-- The texts joined by colons. -/
def joined (l : List String) : List Char := [':'].intercalate (l.map String.toList)

theorem joined_inj {l l' : List String} (h : ∀ t ∈ l, ':' ∉ t.toList)
    (h' : ∀ t ∈ l', ':' ∉ t.toList) (hne : l ≠ []) (hne' : l' ≠ []) :
    joined l = joined l' ↔ l = l' := by
  refine ⟨fun heq => ?_, fun heq => heq ▸ rfl⟩
  have hsplit := congrArg (List.splitOn ':') heq
  unfold joined at hsplit
  rw [List.splitOn_intercalate, List.splitOn_intercalate] at hsplit
  · exact List.map_injective_iff.mpr (fun _ _ => String.toList_inj.mp) hsplit
  all_goals simpa

theorem joined_append (f g : Form) :
    joined (f.texts ++ g.texts) = joined f.texts ++ ':' :: joined g.texts := by
  cases f <;> cases g <;> simp [joined, Form.texts, List.intercalate]

end Forms

/-- The code and the issuer have ASCII letters and digits, as those of Stellar assets do. -/
structure AssetPath.Alphanumeric (a : AssetPath) : Prop where
  code : ∀ c ∈ a.assetCode.toList, c.isAlphanum
  issuer : ∀ issuer, a.assetIssuer = some issuer → ∀ c ∈ issuer.toList, c.isAlphanum

section Assets

variable {a : AssetPath} {s : String}

theorem nameChar_of_alphanum {c : Char} (h : c.isAlphanum) : isNameChar c := by simp [isNameChar, h]

theorem capital_char {c : Char} (h : c.isAlphanum) :
    (c.toUpper.isUpper || c.toUpper.isDigit) ∧ c.toLower ≠ ':' :=
  nameChar_forall
    (P := fun c => c.isAlphanum → (c.toUpper.isUpper || c.toUpper.isDigit) ∧ c.toLower ≠ ':')
    (by decide) (nameChar_of_alphanum h) h

theorem capital_upper (hs : ∀ c ∈ s.toList, c.isAlphanum) : Capital (toAsciiUppercase s) := by
  intro c hc
  rw [toAsciiUppercase, String.toList_ofList] at hc
  obtain ⟨d, hd, rfl⟩ := List.mem_map.mp hc
  exact (capital_char (hs d hd)).1

theorem colon_notMem_lower (hs : ∀ c ∈ s.toList, c.isAlphanum) :
    ':' ∉ (toAsciiLowercase s).toList := by
  intro hc
  rw [toAsciiLowercase, String.toList_ofList] at hc
  obtain ⟨d, hd, heq⟩ := List.mem_map.mp hc
  exact (capital_char (hs d hd)).2 heq

theorem namespace_split : ∀ ns ∈ CHAIN_NAMESPACES, ns.toList = ns.toList.dropLast ++ [':'] := by
  decide

theorem looksLikeCaip_credit {issuer : String} (hs : ∀ c ∈ s.toList, c.isAlphanum)
    (hissuer : ∀ c ∈ issuer.toList, c.isAlphanum) :
    looksLikeCaip (s ++ ":" ++ issuer) ↔ toAsciiLowercase s ++ ":" ∈ CHAIN_NAMESPACES := by
  have hlower : (toAsciiLowercase (s ++ ":" ++ issuer)).toList =
      (toAsciiLowercase s).toList ++ ':' :: (toAsciiLowercase issuer).toList := by
    simp [toAsciiLowercase]
  simp only [looksLikeCaip, List.any_eq_true, List.isPrefixOf_iff_prefix, hlower]
  constructor
  · rintro ⟨ns, hns, rest, heq⟩
    rw [namespace_split ns hns, List.append_assoc] at heq
    have hcode := ((List.append_cons_inj_of_notMem (colon_notMem_lower hs)
      (colon_notMem_lower hissuer)).mp heq.symm).1
    have : toAsciiLowercase s ++ ":" = ns := by
      rw [← String.toList_inj, String.toList_append, hcode]
      exact (namespace_split ns hns).symm
    rwa [this]
  · exact fun h => ⟨_, h, (toAsciiLowercase issuer).toList, by simp⟩

theorem looksLikeCaip_code (hs : ∀ c ∈ s.toList, c.isAlphanum) : looksLikeCaip s = false := by
  simp only [looksLikeCaip, List.any_eq_false, List.isPrefixOf_iff_prefix]
  rintro ns hns ⟨rest, heq⟩
  apply colon_notMem_lower hs
  rw [← heq, namespace_split ns hns]
  simp

theorem form_capital (h : a.Alphanumeric) : a.form.Capital := by
  unfold AssetPath.form
  split
  · trivial
  · split
    · next issuer hissuer =>
      split
      · trivial
      · exact ⟨capital_upper h.code, capital_upper (h.issuer _ hissuer)⟩
    · split
      · trivial
      · exact capital_upper h.code

theorem normalizeAsset_form (h : a.Alphanumeric) :
    (Keys.normalizeAsset ops a.toCanonical).toList = joined a.form.texts := by
  obtain ⟨code, issuer⟩ := a
  have hcode := fun c hc => nameChar_of_alphanum (h.code c hc)
  simp only [AssetPath.toCanonical, AssetPath.form]
  split
  · rw [normalizeAsset_name (List.all_eq_true.mp (by decide))]
    decide
  · cases issuer with
    | some issuer =>
      have hissuer := h.issuer issuer rfl
      have hname : ∀ c ∈ (code ++ ":" ++ issuer).toList, isNameChar c := by
        simp only [String.toList_append, List.mem_append]
        rintro c ((hc | hc) | hc)
        · exact hcode c hc
        · simp_all [isNameChar]
        · exact nameChar_of_alphanum (hissuer c hc)
      have hlong : toAsciiLowercase (code ++ ":" ++ issuer) ∉ ["xlm", "native"] := by
        have hcolon : ':' ∈ (toAsciiLowercase (code ++ ":" ++ issuer)).toList := by
          simp [toAsciiLowercase]
        have hshort : ∀ t ∈ ["xlm", "native"], ':' ∉ t.toList := by decide
        exact fun h => hshort _ h hcolon
      rw [normalizeAsset_name hname]
      simp only [looksLikeCaip_credit h.code hissuer, if_neg hlong]
      split
      · decide
      · simp [joined, Form.texts, List.intercalate, toAsciiUppercase]
    | none =>
      rw [normalizeAsset_name hcode, looksLikeCaip_code h.code, if_neg (by decide)]
      dsimp only
      split
      · decide
      · simp [joined, Form.texts]

/-- What the assets of two requests have to be for the same text in the key. -/
theorem assetsText_eq_iff {r r' : QuoteRequest} (hb : r.base.Alphanumeric)
    (hq : r.quote.Alphanumeric) (hb' : r'.base.Alphanumeric) (hq' : r'.quote.Alphanumeric) :
    r.assetsText ops = r'.assetsText ops ↔
      (r.base.form = r'.base.form ∧ r.quote.form = r'.quote.form) ∨
      Shifted r.base.form r.quote.form r'.base.form r'.quote.form ∨
      Shifted r'.base.form r'.quote.form r.base.form r.quote.form := by
  have hcolons : ∀ {f g : Form}, f.Capital → g.Capital → ∀ t ∈ f.texts ++ g.texts, ':' ∉ t.toList :=
    fun hf hg t ht => (List.mem_append.mp ht).elim (hf.colon t) (hg.colon t)
  have hne : ∀ f g : Form, f.texts ++ g.texts ≠ [] := fun f g => by cases f <;> simp [Form.texts]
  rw [← texts_append_iff (form_capital hb) (form_capital hq) (form_capital hb') (form_capital hq'),
    ← joined_inj (hcolons (form_capital hb) (form_capital hq))
      (hcolons (form_capital hb') (form_capital hq')) (hne _ _) (hne _ _),
    joined_append, joined_append, ← String.toList_inj]
  simp [QuoteRequest.assetsText, normalizeAsset_form, hb, hq, hb', hq']

end Assets

theorem Shifted.differ {a b a' b' : AssetPath}
    (h : Shifted a.form b.form a'.form b'.form) :
    a.stellarAsset ≠ a'.stellarAsset := by
  obtain ⟨c, d, e, ha, -, ha', -⟩ := h
  obtain ⟨code, _ | issuer⟩ := a <;> obtain ⟨code', _ | issuer'⟩ := a' <;>
    (simp only [AssetPath.form] at ha ha'; split_ifs at ha ha' <;> simp_all [AssetPath.stellarAsset])

/-- Different assets, all else being equal, that a key has in the same forms: their codes and
issuers are the same up to case, the codes are names of chains, or a code without an issuer is read
as part of the other asset. -/
structure Confused (ops : TextOps) (r r' : QuoteRequest) : Prop where
  amount : ops.formatF64 r.amount = ops.formatF64 r'.amount
  slippageBps : r.slippageBps = r'.slippageBps
  quoteType : r.quoteType = r'.quoteType
  explain : r.explain = r'.explain
  assets :
    (r.base.form = r'.base.form ∧ r.quote.form = r'.quote.form ∧
      (r.base.stellarAsset ≠ r'.base.stellarAsset ∨
        r.quote.stellarAsset ≠ r'.quote.stellarAsset)) ∨
    Shifted r.base.form r.quote.form r'.base.form r'.quote.form ∨
    Shifted r'.base.form r'.quote.form r.base.form r.quote.form

/-- Answers are shared only between requests for the same trade, unless their assets are confused. -/
theorem shared_only_if_same_iff (ops : TextOps) (r r' : QuoteRequest)
    (hr : r.base.Alphanumeric ∧ r.quote.Alphanumeric)
    (hr' : r'.base.Alphanumeric ∧ r'.quote.Alphanumeric) :
    (r.cacheKey ops = r'.cacheKey ops → SameTrade ops r r') ↔ ¬ Confused ops r r' := by
  rw [cacheKey_eq_iff, assetsText_eq_iff hr.1 hr.2 hr'.1 hr'.2]
  constructor
  · rintro h ⟨hamount, hslippage, htype, hexplain, hassets⟩
    have hsame := h ⟨hassets.imp_left fun h => ⟨h.1, h.2.1⟩, hamount, hslippage, htype, hexplain⟩
    rcases hassets with ⟨-, -, hne⟩ | hshift | hshift
    · exact hne.elim (· hsame.base) (· hsame.quote)
    · exact hshift.differ hsame.base
    · exact hshift.differ hsame.base.symm
  · rintro h ⟨hassets, hamount, hslippage, htype, hexplain⟩
    rcases hassets with ⟨hbase, hquote⟩ | hshift
    · by_contra hne
      refine h ⟨hamount, hslippage, htype, hexplain, .inl ⟨hbase, hquote, ?_⟩⟩
      by_contra hsame
      push Not at hsame
      exact hne ⟨hsame.1, hsame.2, hamount, hslippage, htype, hexplain⟩
    · exact absurd ⟨hamount, hslippage, htype, hexplain, .inr hshift⟩ h

/-- Texts by their ASCII letters, and the numbers 1 and 100 000. -/
def plainText : TextOps where
  toLowercase := toAsciiLowercase
  toUppercase := toAsciiUppercase
  parseF64 := fun s => if s = "1.0000000" then some ⟨0x3FF0000000000000⟩ else none
  formatF64 := fun x =>
    if x.bits = 0x3FF0000000000000 then "1.0000000"
    else if x.bits = 0x40F86A0000000000 then "100000.0000000"
    else "NaN"
  lower_ascii := fun _ _ => rfl
  upper_ascii := fun _ _ => rfl
  format_chars := by
    intro x
    split_ifs <;> simp
  reparse := by
    intro x y h
    split_ifs at h
    · cases h
      simp_all
    all_goals simp_all

def sellOne (base quote : AssetPath) : QuoteRequest :=
  ⟨base, quote, ⟨0x3FF0000000000000⟩, 50, .sell, false⟩

def usdy (code : String) : AssetPath := ⟨code, some "GISSUER"⟩

def tron (issuer : String) : AssetPath := ⟨"TRON", some issuer⟩

def native : AssetPath := ⟨"native", none⟩

theorem shared_only_if_same_eurc :
    (usdy "USDY").Alphanumeric ∧ (usdy "EURC").Alphanumeric ∧ native.Alphanumeric ∧
    ((sellOne (usdy "USDY") native).cacheKey plainText =
      (sellOne (usdy "EURC") native).cacheKey plainText →
    SameTrade plainText (sellOne (usdy "USDY") native) (sellOne (usdy "EURC") native)) := by
  have hnative : native.Alphanumeric := ⟨by simp [native], by simp [native]⟩
  have husdy : (usdy "USDY").Alphanumeric := ⟨by simp [usdy], by simp [usdy]⟩
  have heurc : (usdy "EURC").Alphanumeric := ⟨by simp [usdy], by simp [usdy]⟩
  refine ⟨husdy, heurc, hnative,
    (shared_only_if_same_iff plainText _ _ ⟨husdy, hnative⟩ ⟨heurc, hnative⟩).mpr fun h => ?_⟩
  have hform : ∀ code ∈ ["USDY", "EURC"], (usdy code).form = .credit code "GISSUER" := by decide
  have hassets := h.assets
  simp only [sellOne, hform "USDY" (by simp), hform "EURC" (by simp), Shifted] at hassets
  simp at hassets

/-- Two codes that differ in case, and two issuers of a code that looks like a chain. -/
theorem shared_by_different_assets :
    AssetPath.parse "USDy:GISSUER" = .ok (usdy "USDy") ∧
    AssetPath.parse "USDY:GISSUER" = .ok (usdy "USDY") ∧
    (usdy "USDy").stellarAsset ≠ (usdy "USDY").stellarAsset ∧
    (sellOne (usdy "USDy") native).cacheKey plainText =
      (sellOne (usdy "USDY") native).cacheKey plainText ∧
    AssetPath.parse "TRON:GONE" = .ok (tron "GONE") ∧
    AssetPath.parse "TRON:GTWO" = .ok (tron "GTWO") ∧
    (tron "GONE").stellarAsset ≠ (tron "GTWO").stellarAsset ∧
    (sellOne (tron "GONE") native).cacheKey plainText =
      (sellOne (tron "GTWO") native).cacheKey plainText := by
  decide +kernel

end StellarRoute.Quote
