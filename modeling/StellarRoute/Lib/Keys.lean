import StellarRoute.Lib.Text

/-! Texts used as keys: parts joined by a separator, which can be taken apart
again from the right as long as the last parts do not contain it, and the glob
patterns by which Redis selects keys. -/

namespace Lib

open List

theorem append_cons_inj {α : Type} {sep : α} {a a' b b' : List α} (hb : sep ∉ b) (hb' : sep ∉ b') :
    a ++ sep :: b = a' ++ sep :: b' ↔ a = a' ∧ b = b' := by
  induction a generalizing a' with
  | nil =>
    cases a' with
    | nil => simp
    | cons x a' =>
      simp only [nil_append, cons_append, cons.injEq, reduceCtorEq, false_and,
        iff_false, not_and]
      intro _ h
      exact hb (h ▸ by simp)
  | cons x a ih =>
    cases a' with
    | nil =>
      simp only [nil_append, cons_append, cons.injEq, reduceCtorEq, false_and,
        iff_false, not_and]
      intro _ h
      exact hb' (h ▸ by simp)
    | cons y a' => simp only [cons_append, cons.injEq, ih, and_assoc]

theorem append_colon_inj {s s' t t' : String} (ht : ':' ∉ t.toList) (ht' : ':' ∉ t'.toList) :
    s ++ ":" ++ t = s' ++ ":" ++ t' ↔ s = s' ∧ t = t' := by
  simp only [← String.toList_inj, String.toList_append, append_assoc]
  exact append_cons_inj ht ht'

/-! ### Glob patterns -/

inductive GlobItem where
  | star
  | any
  | literal (c : Char)
  /-- one of the ranges, or none of them -/
  | oneOf (negated : Bool) (ranges : List (Char × Char))

/-- The ranges of a bracket expression, and what follows it. -/
def parseRanges : List Char → List (Char × Char) × List Char
  | [] => ([], [])
  | ']' :: rest => ([], rest)
  | '\\' :: c :: rest => let (ranges, rest) := parseRanges rest; ((c, c) :: ranges, rest)
  | c :: '-' :: d :: rest =>
    let (ranges, rest) := parseRanges rest
    ((if c ≤ d then (c, d) else (d, c)) :: ranges, rest)
  | c :: rest => let (ranges, rest) := parseRanges rest; ((c, c) :: ranges, rest)

/-- At most the given number of items is read. -/
def parseGlob : ℕ → List Char → List GlobItem
  | 0, _ | _, [] => []
  | n + 1, '*' :: rest => .star :: parseGlob n rest
  | n + 1, '?' :: rest => .any :: parseGlob n rest
  | n + 1, '[' :: '^' :: rest =>
    let (ranges, rest) := parseRanges rest
    .oneOf true ranges :: parseGlob n rest
  | n + 1, '[' :: rest =>
    let (ranges, rest) := parseRanges rest
    .oneOf false ranges :: parseGlob n rest
  | n + 1, '\\' :: c :: rest => .literal c :: parseGlob n rest
  | n + 1, c :: rest => .literal c :: parseGlob n rest

def GlobItem.accepts : GlobItem → Char → Bool
  | .star, _ | .any, _ => true
  | .literal c, x => c = x
  | .oneOf negated ranges, x => negated != ranges.any fun r => r.1 ≤ x && x ≤ r.2

def matchItems : List GlobItem → List Char → Bool
  | [], s => s.isEmpty
  | .star :: items, s => s.tails.any (matchItems items)
  | item :: items, c :: s => item.accepts c && matchItems items s
  | _ :: _, [] => false

/-- Whether `KEYS pattern` returns the key. -/
def globMatch (pattern key : String) : Bool :=
  matchItems (parseGlob pattern.toList.length pattern.toList) key.toList

/-- A character that stands for itself in a pattern. -/
def isPlain (c : Char) : Bool := c ∉ ['*', '?', '[', '\\']

theorem parseGlob_plain {c : Char} (hc : isPlain c) (n : ℕ) (rest : List Char) :
    parseGlob (n + 1) (c :: rest) = .literal c :: parseGlob n rest := by
  simp only [isPlain, mem_cons, not_mem_nil, or_false, not_or, decide_eq_true_eq] at hc
  obtain ⟨hstar, hany, hopen, hescape⟩ := hc
  conv_lhs => unfold parseGlob
  split <;> simp_all

theorem parseGlob_literal {text : List Char} (h : ∀ c ∈ text, isPlain c) (n : ℕ)
    (rest : List Char) : parseGlob (text.length + n) (text ++ rest) =
      text.map .literal ++ parseGlob n rest := by
  induction text with
  | nil => simp
  | cons c text ih =>
    have hlen : (c :: text).length + n = (text.length + n) + 1 := by
      simp only [length_cons]
      omega
    rw [hlen, cons_append, parseGlob_plain (h c mem_cons_self),
      ih fun d hd => h d (mem_cons_of_mem _ hd)]
    rfl

theorem matchItems_literal {text s : List Char} :
    matchItems (text.map .literal ++ [.star]) s ↔ text <+: s := by
  induction text generalizing s with
  | nil =>
    simp only [map_nil, nil_append, matchItems, any_eq_true, mem_tails,
      nil_prefix, iff_true]
    exact ⟨[], nil_suffix, rfl⟩
  | cons c text ih =>
    cases s with
    | nil => simp [matchItems]
    | cons x s => simp [matchItems, GlobItem.accepts, ih, cons_prefix_cons]

theorem globMatch_iff {text key : String} (h : ∀ c ∈ text.toList, isPlain c) :
    globMatch ("*" ++ text ++ "*") key ↔ text.toList <:+: key.toList := by
  have hparse : parseGlob ("*" ++ text ++ "*").toList.length ("*" ++ text ++ "*").toList =
      .star :: (text.toList.map .literal ++ [.star]) := by
    have hlist : ("*" ++ text ++ "*").toList = '*' :: (text.toList ++ ['*']) := by simp
    have hlen : ('*' :: (text.toList ++ ['*'])).length = (text.toList.length + 1) + 1 := by simp
    rw [hlist, hlen, parseGlob, parseGlob_literal h]
    rfl
  rw [globMatch, hparse, matchItems, any_eq_true]
  simp only [mem_tails, matchItems_literal, infix_iff_prefix_suffix]
  exact ⟨fun ⟨t, ht, hp⟩ => ⟨t, hp, ht⟩, fun ⟨t, hp, ht⟩ => ⟨t, ht, hp⟩⟩

end Lib
