import FederationObservatory.Misc.LexicographicStreams
import FederationObservatory.Misc.Decimal
import FederationObservatory.Model.Versions
import FederationObservatory.Model.Requirements

/-!
# The order of versions

`compare_version_strings` reads both texts as streams of tokens, a number and the character after it,
and compares the streams. It is a total preorder of all texts. On dotted versions it is the order of
their components, as far as the numbers stay below 2^64.
-/

namespace FederationObservatory

open LexStream

namespace Version

/-! ## Tokens -/

/-- Where a character stands: the end of the text first, then the dot, then all others as signed
numbers. -/
def rank (c : UInt8) : Int := if c = 0 then -130 else if c = 46 then -129 else c.toInt8.toInt

/-- The comparison of the characters after two equal numbers. -/
theorem separator_eq (c d : UInt8) (same : Int) :
    (if c ≠ d then
        if c = 0 then -1 else if d = 0 then 1 else if c = 46 then -1 else if d = 46 then 1
        else if c.toInt8 < d.toInt8 then -1 else 1
      else same) =
      if rank c < rank d then -1 else if rank d < rank c then 1 else same := by
  have hc : -128 ≤ c.toInt8.toInt := c.toInt8.le_toInt
  have hd : -128 ≤ d.toInt8.toInt := d.toInt8.le_toInt
  have hsame : c.toInt8.toInt = d.toInt8.toInt ↔ c = d := by
    rw [Int8.toInt_inj]
    refine ⟨?_, congrArg UInt8.toInt8⟩
    intro h
    simpa using congrArg Int8.toUInt8 h
  simp only [Int8.lt_iff_toInt_lt]
  unfold rank
  grind

/-- The number and the character that a text starts with. -/
def token (text : Text) : Nat ×ₗ Int :=
  toLex ((versionNumber 0 text).1.toNat, rank ((versionNumber 0 text).2.headD 0))

/-- What follows the first token. -/
def rest (text : Text) : Text := (versionNumber 0 text).2.tail

/-- One round of the loop. -/
theorem compareVersionStrings_eq (a b : Text) :
    compareVersionStrings a b =
      if token a < token b then -1 else if token b < token a then 1
      else compareVersionStrings (rest a) (rest b) := by
  have hlt : ∀ x y : Text, token x < token y ↔
      (versionNumber 0 x).1 < (versionNumber 0 y).1 ∨
        (versionNumber 0 x).1 = (versionNumber 0 y).1 ∧
          rank ((versionNumber 0 x).2.headD 0) < rank ((versionNumber 0 y).2.headD 0) := by
    intro x y
    rw [token, token, Prod.Lex.toLex_lt_toLex, UInt64.lt_iff_toNat_lt, UInt64.toNat_inj]
  by_cases hempty : (a.isEmpty && b.isEmpty) = true
  · -- nothing is left of either text, nor after that
    rw [Bool.and_eq_true, List.isEmpty_iff, List.isEmpty_iff] at hempty
    obtain ⟨rfl, rfl⟩ := hempty
    rw [if_neg (lt_irrefl _), if_neg (lt_irrefl _)]
    rfl
  · rw [compareVersionStrings, if_neg hempty]
    dsimp only
    by_cases hnumber : (versionNumber 0 a).1 = (versionNumber 0 b).1
    · rw [if_neg (not_not.mpr hnumber), separator_eq]
      simp only [hlt, hnumber, UInt64.lt_irrefl, false_or, true_and]
      rfl
    · rw [if_pos hnumber]
      simp only [hlt, hnumber, Ne.symm hnumber, false_and, or_false]
      by_cases hless : (versionNumber 0 a).1 < (versionNumber 0 b).1
      · rw [if_pos hless, if_pos hless]
      · have hgreater := (UInt64.lt_or_lt_of_ne hnumber).resolve_left hless
        rw [if_neg hless, if_neg hless, if_pos hgreater]

theorem length_rest_le (text : Text) : (rest text).length ≤ text.length - 1 := by
  have h := length_versionNumber_le 0 text
  rw [rest, List.length_tail]
  omega

/-- The tokens of a text, and after its end those of nothing. -/
def tokens (text : Text) : Lex (ℕ → Nat ×ₗ Int) := emitted token rest text

theorem compareVersionStrings_eq_threeWay (a b : Text) :
    compareVersionStrings a b = threeWay (tokens a) (tokens b) := by
  refine @compare_eq_threeWay _ _ _ _ _ List.length _ compareVersionStrings_eq length_rest_le ?_ a b
  intro a b ha hb
  obtain rfl := List.length_eq_zero_iff.mp ha
  obtain rfl := List.length_eq_zero_iff.mp hb
  refine ⟨rfl, ?_⟩
  rw [compareVersionStrings]
  rfl

theorem compareVersionStrings_nonpos_iff {a b : Text} :
    compareVersionStrings a b ≤ 0 ↔ tokens a ≤ tokens b := by
  rw [compareVersionStrings_eq_threeWay, threeWay_nonpos_iff]

theorem compareVersionStrings_nonneg_iff {a b : Text} :
    0 ≤ compareVersionStrings a b ↔ tokens b ≤ tokens a := by
  rw [compareVersionStrings_eq_threeWay, threeWay_swap, Int.neg_nonneg, threeWay_nonpos_iff]

/-! ## A total preorder -/

section Requirements

variable {formatDouble : Double → Text} {set : CapabilitySet} {entry : CapabilityEntry}
  {requirement : CapabilityRequirement} {published bound : Text}

/-- Published text and a bound that is text are compared as versions. -/
theorem publishedOrder_text (published bound : Text) :
    publishedOrder (.text published) (.text bound) =
      some (compareVersionStrings published bound) := rfl

theorem triFromBool_eq_yes {value : Bool} : triFromBool value = .yes ↔ value = true := by
  cases value <;> simp [triFromBool]

/-- A published version and a bound on it: the comparison decides. -/
theorem satisfied_evaluateRequirement
    (hfind : set.find requirement.key = some entry) (hvalue : entry.value = .text published)
    (hbound : requirement.comparator = .atLeast ∨ requirement.comparator = .atMost) :
    (evaluateRequirement formatDouble { requirement with value := .text bound } set).satisfied =
        .yes ↔
      if requirement.comparator = .atLeast then tokens bound ≤ tokens published
      else tokens published ≤ tokens bound := by
  have hknown : (CapabilityValue.text published).known = true := rfl
  rw [evaluateRequirement]
  simp only [hfind, hvalue, hknown, if_true]
  rcases hbound with hbound | hbound
  · rw [hbound, if_pos rfl, ← compareVersionStrings_nonneg_iff]
    simp only [evaluatePublished, evaluateBound, publishedOrder_text, if_true,
      triFromBool_eq_yes, decide_eq_true_eq]
  · rw [hbound, if_neg (by decide : ¬CapabilityComparator.atMost = .atLeast),
      ← compareVersionStrings_nonpos_iff]
    simp only [evaluatePublished, evaluateBound, publishedOrder_text,
      if_neg (by decide : ¬CapabilityComparator.atMost = .atLeast), triFromBool_eq_yes,
      decide_eq_true_eq]

end Requirements

/-- Versions are totally preordered, and so are the bounds on them. -/
theorem compareVersionStrings_totalPreorder (formatDouble : Double → Text) :
    (∀ a, compareVersionStrings a a = 0) ∧
      (∀ a b, compareVersionStrings a b = -compareVersionStrings b a) ∧
      (∀ a b c, compareVersionStrings a b ≤ 0 → compareVersionStrings b c ≤ 0 →
        compareVersionStrings a c ≤ 0) ∧
      ∀ (requirement : CapabilityRequirement) (s t : CapabilitySet) (e f : CapabilityEntry)
        (a b c : Text),
        requirement.comparator = .atLeast ∨ requirement.comparator = .atMost →
        s.find requirement.key = some e → e.value = .text a →
        t.find requirement.key = some f → f.value = .text b →
        (evaluateRequirement formatDouble { requirement with value := .text b } s).satisfied =
          .yes →
        (evaluateRequirement formatDouble { requirement with value := .text c } t).satisfied =
          .yes →
        (evaluateRequirement formatDouble { requirement with value := .text c } s).satisfied =
          .yes := by
  refine ⟨?_, ?_, ?_, ?_⟩
  · intro a
    rw [compareVersionStrings_eq_threeWay, threeWay_self]
  · intro a b
    rw [compareVersionStrings_eq_threeWay, compareVersionStrings_eq_threeWay, threeWay_swap]
  · intro a b c hab hbc
    rw [compareVersionStrings_nonpos_iff] at *
    exact hab.trans hbc
  · intro requirement s t e f a b c hbound hs ha ht hb hab hbc
    rw [satisfied_evaluateRequirement hs ha hbound] at hab ⊢
    rw [satisfied_evaluateRequirement ht hb hbound] at hbc
    split at hab
    · rename_i hleast
      rw [if_pos hleast] at hbc ⊢
      exact hbc.trans hab
    · rename_i hmost
      rw [if_neg hmost] at hbc ⊢
      exact hab.trans hbc

/-! ## Dotted versions -/

/-- A component of a dotted version: digits, and at least one. -/
def IsComponent (piece : Text) : Prop := piece ≠ [] ∧ ∀ c ∈ piece, Text.isDigit c = true

/-- Components with dots between them. -/
def dotted (pieces : List Text) : Text := [46].intercalate pieces

/-- The order of sequences of components: a missing component comes first. -/
def compareComponents : List Nat → List Nat → Int
  | [], [] => 0
  | [], _ :: _ => -1
  | _ :: _, [] => 1
  | x :: xs, y :: ys => if x < y then -1 else if y < x then 1 else compareComponents xs ys

/-- What the loop keeps of a component. -/
def residue (n : Nat) : Nat := n % 2 ^ 64

theorem decimalFrom_mod (n : Nat) (digits : Text) :
    residue (Text.decimalFrom (residue n) digits) = residue (Text.decimalFrom n digits) := by
  rw [Text.decimalFrom_eq, Text.decimalFrom_eq n, residue, residue, residue]
  exact Nat.ModEq.add_right _ ((Nat.mod_modEq n _).mul_right _)

/-- The loop over the digits computes their number in wrapping arithmetic. -/
theorem toNat_versionNumber_append {digits after : Text} (hdigits : ∀ c ∈ digits, Text.isDigit c = true)
    (hafter : ∀ c ∈ after.head?, Text.isDigit c = false) (n : UInt64) :
    (versionNumber n (digits ++ after)).1.toNat = residue (Text.decimalFrom n.toNat digits) ∧
      (versionNumber n (digits ++ after)).2 = after := by
  induction digits generalizing n with
  | nil =>
    have hn : residue n.toNat = n.toNat := Nat.mod_eq_of_lt n.toNat_lt
    rw [List.nil_append, Text.decimalFrom_nil, hn]
    cases after with
    | nil => exact ⟨rfl, rfl⟩
    | cons c after =>
      have hc : ¬(48 ≤ c ∧ c ≤ 57) := by
        simpa [Text.isDigit] using hafter c rfl
      rw [versionNumber, if_neg hc]
      exact ⟨rfl, rfl⟩
  | cons c digits ih =>
    have hc : 48 ≤ c ∧ c ≤ 57 := by simpa [Text.isDigit] using hdigits c (by simp)
    have hvalue : (n * 10 + (c - 48).toUInt64).toNat =
        residue (10 * n.toNat + (c.toNat - 48)) := by
      have hsub : (c - 48).toNat = c.toNat - 48 := UInt8.toNat_sub_of_le _ _ hc.1
      rw [UInt64.toNat_add, UInt64.toNat_mul, UInt8.toNat_toUInt64, hsub, Nat.mul_comm 10, residue]
      exact Nat.mod_add_mod _ _ _
    obtain ⟨hnumber, hrest⟩ := ih (fun d hd => hdigits d (by simp [hd])) (n * 10 + (c - 48).toUInt64)
    rw [List.cons_append, versionNumber, if_pos hc, hnumber, hvalue, decimalFrom_mod,
      Text.decimalFrom_cons]
    exact ⟨rfl, hrest⟩

theorem dotted_cons (piece : Text) (pieces : List Text) :
    dotted (piece :: pieces) = piece ++ if pieces = [] then [] else 46 :: dotted pieces := by
  cases pieces with
  | nil => simp [dotted]
  | cons next pieces => simp [dotted, List.intercalate_cons_cons]

/-- The first component is the number of the first token, and the rest is what follows the dot. -/
theorem versionNumber_dotted {piece : Text} {pieces : List Text} (h : IsComponent piece) :
    (versionNumber 0 (dotted (piece :: pieces))).1.toNat = residue (Text.decimal piece) ∧
      (versionNumber 0 (dotted (piece :: pieces))).2.headD 0 = (if pieces = [] then 0 else 46) ∧
        rest (dotted (piece :: pieces)) = dotted pieces := by
  have hafter : ∀ c ∈ (if pieces = [] then [] else 46 :: dotted pieces).head?,
      Text.isDigit c = false := by
    split
    · nofun
    · rintro c hc
      obtain rfl := Option.some.inj hc
      rfl
  obtain ⟨hnumber, hrest⟩ := toNat_versionNumber_append h.2 hafter 0
  rw [rest, dotted_cons, hnumber, hrest]
  refine ⟨rfl, ?_⟩
  by_cases hlast : pieces = []
  · subst hlast
    exact ⟨rfl, rfl⟩
  · rw [if_neg hlast, if_neg hlast]
    exact ⟨rfl, rfl⟩

theorem token_dotted {piece : Text} {pieces : List Text} (h : IsComponent piece) :
    token (dotted (piece :: pieces)) =
      toLex (residue (Text.decimal piece), if pieces = [] then -130 else -129) := by
  obtain ⟨hnumber, hseparator, -⟩ := @versionNumber_dotted piece pieces h
  rw [token, hnumber, hseparator]
  split <;> rfl

/-- Dotted versions are compared by what the loop keeps of their components. -/
theorem compareVersionStrings_dotted {ps qs : List Text} (hps : ∀ p ∈ ps, IsComponent p)
    (hqs : ∀ q ∈ qs, IsComponent q) (hp : ps ≠ []) (hq : qs ≠ []) :
    compareVersionStrings (dotted ps) (dotted qs) =
      compareComponents (ps.map fun p => residue (Text.decimal p))
        (qs.map fun q => residue (Text.decimal q)) := by
  induction ps generalizing qs with
  | nil => exact absurd rfl hp
  | cons p ps ih =>
    cases qs with
    | nil => exact absurd rfl hq
    | cons q qs =>
      obtain ⟨hpiece, hps⟩ := List.forall_mem_cons.mp hps
      obtain ⟨hqpiece, hqs⟩ := List.forall_mem_cons.mp hqs
      rw [compareVersionStrings_eq, token_dotted hpiece, token_dotted hqpiece,
        (versionNumber_dotted hpiece).2.2, (versionNumber_dotted hqpiece).2.2, List.map_cons,
        List.map_cons, compareComponents]
      simp only [Prod.Lex.toLex_lt_toLex]
      rcases Nat.lt_trichotomy (residue (Text.decimal p)) (residue (Text.decimal q)) with
        hlt | heq | hgt
      · rw [if_pos hlt, if_pos (.inl hlt)]
      · -- the numbers agree, and what follows them decides
        rw [heq, if_neg (Nat.lt_irrefl _), if_neg (Nat.lt_irrefl _)]
        simp only [Nat.lt_irrefl, false_or, true_and]
        cases ps with
        | nil =>
          cases qs with
          | nil => simp [compareComponents, dotted, compareVersionStrings]
          | cons q' qs => simp [compareComponents]
        | cons p' ps =>
          cases qs with
          | nil => simp [compareComponents]
          | cons q' qs =>
            rw [if_neg (List.cons_ne_nil p' ps), if_neg (List.cons_ne_nil q' qs),
              if_neg (by decide), if_neg (by decide)]
            exact ih hps hqs (List.cons_ne_nil p' ps) (List.cons_ne_nil q' qs)
      · rw [if_neg (by omega), if_pos (.inl hgt), if_neg (by omega), if_pos hgt]

/-! ## Parsed versions -/

/-- A component that is accepted is digits that denote its value, which fits 32 bits. -/
theorem parseDigits_eq_ok {piece digits : Text} {value out : UInt64}
    (h : parseDigits piece value digits = .ok out) (hvalue : value.toNat < 2 ^ 32) :
    out.toNat = Text.decimalFrom value.toNat digits ∧ out.toNat < 2 ^ 32 := by
  induction digits generalizing value with
  | nil =>
    obtain rfl := Except.ok.inj h
    exact ⟨rfl, hvalue⟩
  | cons c digits ih =>
    unfold parseDigits at h
    obtain ⟨u, hdigit, h⟩ := bind_eq_ok.mp h
    obtain ⟨u', hrange, h⟩ := bind_eq_ok.mp h
    rw [failIf_eq_ok, Bool.or_eq_false_iff, decide_eq_false_iff_not, decide_eq_false_iff_not,
      UInt8.lt_iff_toNat_lt, UInt8.lt_iff_toNat_lt] at hdigit
    rw [failIf_eq_ok, decide_eq_false_iff_not, UInt64.lt_iff_toNat_lt] at hrange
    have hc : 48 ≤ c.toNat ∧ c.toNat ≤ 57 := by
      have h48 : (48 : UInt8).toNat = 48 := rfl
      have h57 : (57 : UInt8).toNat = 57 := rfl
      omega
    have hnext : (value * 10 + (c - 48).toUInt64).toNat = 10 * value.toNat + (c.toNat - 48) := by
      have hle : (48 : UInt8) ≤ c := UInt8.le_iff_toNat_le.mpr hc.1
      have h10 : (10 : UInt64).toNat = 10 := rfl
      have h48 : (48 : UInt8).toNat = 48 := rfl
      rw [UInt64.toNat_add, UInt64.toNat_mul, UInt8.toNat_toUInt64, UInt8.toNat_sub_of_le _ _ hle,
        h10, h48]
      omega
    have hmax : (0xFFFFFFFF : UInt64).toNat = 2 ^ 32 - 1 := rfl
    obtain ⟨hout, hlt⟩ := ih h (by omega)
    rw [hout, hnext, Text.decimalFrom_cons]
    exact ⟨rfl, by rw [← hnext, ← hout]; exact hlt⟩

/-- Every component that is accepted is a number below 2^32. -/
theorem parseParts_eq_ok {text : Text} {parts out : List UInt32} {pieces : List Text}
    (h : parseParts text parts pieces = .ok out) :
    out.map UInt32.toNat = parts.map UInt32.toNat ++ pieces.map Text.decimal ∧
      ∀ p ∈ pieces, Text.decimal p < 2 ^ 32 := by
  induction pieces generalizing parts with
  | nil =>
    obtain rfl := Except.ok.inj h
    simp
  | cons piece pieces ih =>
    unfold parseParts at h
    obtain ⟨-, -, h⟩ := bind_eq_ok.mp h
    obtain ⟨value, hvalue, h⟩ := bind_eq_ok.mp h
    obtain ⟨-, -, h⟩ := bind_eq_ok.mp h
    obtain ⟨hnumber, hlt⟩ := parseDigits_eq_ok hvalue (by decide)
    obtain ⟨hout, hpieces⟩ := ih h
    have hdecimal : Text.decimal piece = value.toNat := hnumber.symm
    have hnarrow : value.toUInt32.toNat = value.toNat := by
      rw [UInt64.toNat_toUInt32, Nat.mod_eq_of_lt hlt]
    refine ⟨?_, List.forall_mem_cons.mpr ⟨hdecimal ▸ hlt, hpieces⟩⟩
    rw [hout, List.map_append, List.map_cons, List.map_nil, List.map_cons, hnarrow, hdecimal,
      List.append_assoc, List.singleton_append]

/-- The components that `parse` returns are those of the text. -/
theorem parse_dotted {ps : List Text} {out : List UInt32} (hps : ∀ p ∈ ps, IsComponent p)
    (hp : ps ≠ []) (h : parse (dotted ps) = .ok out) :
    out.map UInt32.toNat = ps.map Text.decimal ∧ ∀ p ∈ ps, Text.decimal p < 2 ^ 32 := by
  have hdots : ∀ p ∈ ps, (46 : UInt8) ∉ p := fun p hpiece hdot =>
    absurd ((hps p hpiece).2 46 hdot) (by decide)
  obtain ⟨-, -, h⟩ := bind_eq_ok.mp h
  rw [dotted, List.splitOn_intercalate 46 hdots hp] at h
  exact parseParts_eq_ok h

/-! ## Where the order is that of the components -/

/-- At the first components that differ, the residues differ the same way, or they agree and those
of the components that follow differ that way. -/
def ResiduesAgree : List Nat → List Nat → Prop
  | x :: xs, y :: ys =>
    if x = y then ResiduesAgree xs ys
    else if residue x = residue y then
      compareComponents (xs.map residue) (ys.map residue) = if x < y then -1 else 1
    else residue x < residue y ↔ x < y
  | _, _ => True

theorem compareComponents_residue_iff (xs ys : List Nat) :
    compareComponents (xs.map residue) (ys.map residue) = compareComponents xs ys ↔
      ResiduesAgree xs ys := by
  induction xs generalizing ys with
  | nil => cases ys <;> simp [compareComponents, ResiduesAgree]
  | cons x xs ih =>
    cases ys with
    | nil => simp [compareComponents, ResiduesAgree]
    | cons y ys =>
      rw [List.map_cons, List.map_cons, compareComponents, compareComponents, ResiduesAgree]
      by_cases heq : x = y
      · subst heq
        simp only [Nat.lt_irrefl, if_false, if_true]
        exact ih ys
      · have hside : (if x < y then -1 else if y < x then 1 else compareComponents xs ys) =
            if x < y then -1 else 1 := by
          rcases Nat.lt_or_gt_of_ne heq with hlt | hgt
          · rw [if_pos hlt, if_pos hlt]
          · rw [if_neg (by omega), if_pos hgt, if_neg (by omega)]
        rw [if_neg heq, hside]
        by_cases hresidue : residue x = residue y
        · rw [if_pos hresidue, hresidue, if_neg (Nat.lt_irrefl _), if_neg (Nat.lt_irrefl _)]
        · rw [if_neg hresidue]
          by_cases hlt : residue x < residue y
          · rw [if_pos hlt]
            by_cases hxy : x < y <;> simp [hlt, hxy]
          · rw [if_neg hlt, if_pos (by omega)]
            by_cases hxy : x < y <;> simp [hlt, hxy]

theorem residue_of_lt {n : Nat} (h : n < 2 ^ 32) : residue n = n :=
  Nat.mod_eq_of_lt (lt_trans h (by decide))

/-- Versions that parse are compared by their components. -/
theorem compareVersionStrings_of_parse {ps qs : List Text} {xs ys : List UInt32}
    (hps : ∀ p ∈ ps, IsComponent p) (hqs : ∀ q ∈ qs, IsComponent q) (hp : ps ≠ []) (hq : qs ≠ [])
    (hxs : parse (dotted ps) = .ok xs) (hys : parse (dotted qs) = .ok ys) :
    compareVersionStrings (dotted ps) (dotted qs) =
      compareComponents (xs.map UInt32.toNat) (ys.map UInt32.toNat) := by
  obtain ⟨hxs, hpsmall⟩ := parse_dotted hps hp hxs
  obtain ⟨hys, hqsmall⟩ := parse_dotted hqs hq hys
  rw [compareVersionStrings_dotted hps hqs hp hq, hxs, hys,
    List.map_congr_left fun p hmem => residue_of_lt (hpsmall p hmem),
    List.map_congr_left fun q hmem => residue_of_lt (hqsmall q hmem)]

/-- Dotted versions are compared by their components just where the residues agree with these. -/
theorem compareVersionStrings_iff {ps qs : List Text} (hps : ∀ p ∈ ps, IsComponent p)
    (hqs : ∀ q ∈ qs, IsComponent q) (hp : ps ≠ []) (hq : qs ≠ []) :
    (compareVersionStrings (dotted ps) (dotted qs) =
        compareComponents (ps.map Text.decimal) (qs.map Text.decimal) ∧
      ∀ xs ys, parse (dotted ps) = .ok xs → parse (dotted qs) = .ok ys →
        compareVersionStrings (dotted ps) (dotted qs) =
          compareComponents (xs.map UInt32.toNat) (ys.map UInt32.toNat)) ↔
      ResiduesAgree (ps.map Text.decimal) (qs.map Text.decimal) := by
  have hcompare := compareVersionStrings_dotted hps hqs hp hq
  rw [← compareComponents_residue_iff, List.map_map, List.map_map]
  constructor
  · rintro ⟨h, -⟩
    exact hcompare.symm.trans h
  · intro h
    refine ⟨hcompare.trans h, ?_⟩
    intro xs ys hxs hys
    exact compareVersionStrings_of_parse hps hqs hp hq hxs hys

theorem isComponent_of_all {piece : Text} (h : (!piece.isEmpty && piece.all Text.isDigit) = true) :
    IsComponent piece := by
  simpa [IsComponent] using h

theorem compareVersionStrings_iff_short :
    (compareVersionStrings (dotted [[49], [50]]) (dotted [[49], [49, 48]]) =
        compareComponents ([[49], [50]].map Text.decimal) ([[49], [49, 48]].map Text.decimal) ∧
      ∀ xs ys, parse (dotted [[49], [50]]) = .ok xs → parse (dotted [[49], [49, 48]]) = .ok ys →
        compareVersionStrings (dotted [[49], [50]]) (dotted [[49], [49, 48]]) =
          compareComponents (xs.map UInt32.toNat) (ys.map UInt32.toNat)) ↔
      ResiduesAgree ([[49], [50]].map Text.decimal) ([[49], [49, 48]].map Text.decimal) :=
  compareVersionStrings_iff (by simp [IsComponent, Text.isDigit])
    (by simp [IsComponent, Text.isDigit]) (by decide) (by decide)

/-- The number 2^64 comes before 5. -/
theorem compareVersionStrings_wraps :
    let large := Text.ofString "18446744073709551616"
    let five := Text.ofString "5"
    IsComponent large ∧ IsComponent five ∧
      compareVersionStrings (dotted [large]) (dotted [five]) ≠
        compareComponents ([large].map Text.decimal) ([five].map Text.decimal) := by
  intro large five
  have hlarge : ∀ p ∈ [large], IsComponent p :=
    List.forall_mem_singleton.mpr (isComponent_of_all (by decide +kernel))
  have hfive : ∀ p ∈ [five], IsComponent p :=
    List.forall_mem_singleton.mpr (isComponent_of_all (by decide +kernel))
  refine ⟨hlarge large (by simp), hfive five (by simp), ?_⟩
  rw [compareVersionStrings_dotted hlarge hfive (List.cons_ne_nil _ _) (List.cons_ne_nil _ _)]
  decide +kernel

end Version

end FederationObservatory
