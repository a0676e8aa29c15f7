import Mailout.Go.Utf8

/-!
# The case mapping and the white space of the `unicode` package

`toLowerRune` is driven by `caseRanges`, the ranges of `unicode.CaseRanges` that have a lower case of
their own. Nothing below is read off the table entry by entry: the table is checked once, as data
(`caseRanges_settled`, `spaceRanges_untouched`), and the checks give that lowering is idempotent
(`toLowerRune_toLowerRune`) and neither makes nor unmakes a character of a range the table leaves
alone (`toLowerRune_mem_range`), white space among them (`isSpace_toLowerRune`).
-/

namespace Go

/-- A range of code points with a lower case: at a fixed distance, or alternating upper and lower
from the first code point on (`UpperLower`). -/
inductive CaseRange where
  | delta (lo hi : Nat) (d : Int)
  | upperLower (lo hi : Nat)
  deriving DecidableEq, Repr

namespace CaseRange

def lo : CaseRange → Nat
  | delta lo _ _ => lo
  | upperLower lo _ => lo

def hi : CaseRange → Nat
  | delta _ hi _ => hi
  | upperLower _ hi => hi

/-- The lower case of a code point of the range. -/
def apply : CaseRange → Nat → Nat
  | delta _ _ d, r => ((r : Int) + d).toNat
  | upperLower lo _, r => lo + (r - lo) / 2 * 2 + 1

/-- Bounds of the lower cases of a range. -/
def image : CaseRange → Nat × Nat
  | delta lo hi d => (((lo : Int) + d).toNat, ((hi : Int) + d).toNat)
  | upperLower lo hi => (lo, hi)

/-- No code point is in both ranges. -/
def disjoint (a b a' b' : Nat) : Bool := b < a' || b' < a

/-- One range ends before the other begins. -/
@[simp] theorem disjoint_iff {a b a' b' : Nat} : disjoint a b a' b' = true ↔ b < a' ∨ b' < a := by
  simp [disjoint]

/-- The beginning of a range with a difference. -/
@[simp] theorem lo_delta (lo hi : Nat) (d : Int) : (delta lo hi d).lo = lo := rfl
/-- The end of a range with a difference. -/
@[simp] theorem hi_delta (lo hi : Nat) (d : Int) : (delta lo hi d).hi = hi := rfl
/-- The beginning of an alternating range. -/
@[simp] theorem lo_upperLower (lo hi : Nat) : (upperLower lo hi).lo = lo := rfl
/-- The end of an alternating range. -/
@[simp] theorem hi_upperLower (lo hi : Nat) : (upperLower lo hi).hi = hi := rfl
/-- In a range with a difference every rune is moved by it. -/
@[simp] theorem apply_delta (lo hi : Nat) (d : Int) (r : Nat) :
    (delta lo hi d).apply r = ((r : Int) + d).toNat := rfl
/-- In an alternating range the runes come in pairs, and the lower case is the second of a pair. -/
@[simp] theorem apply_upperLower (lo hi r : Nat) :
    (upperLower lo hi).apply r = lo + (r - lo) / 2 * 2 + 1 := rfl
/-- A range with a difference is moved as a whole. -/
@[simp] theorem image_delta (lo hi : Nat) (d : Int) :
    (delta lo hi d).image = (((lo : Int) + d).toNat, ((hi : Int) + d).toNat) := rfl
/-- An alternating range is mapped into itself. -/
@[simp] theorem image_upperLower (lo hi : Nat) : (upperLower lo hi).image = (lo, hi) := rfl

end CaseRange

/-- The part of `unicode.CaseRanges` that has lower cases. -/
def caseRanges : List CaseRange := [
    .delta 0x41 0x5A 32, .delta 0xC0 0xD6 32, .delta 0xD8 0xDE 32, .upperLower 0x100 0x12F,
    .delta 0x130 0x130 (-199), .upperLower 0x132 0x137, .upperLower 0x139 0x148,
    .upperLower 0x14A 0x177, .delta 0x178 0x178 (-121), .upperLower 0x179 0x17E,
    .delta 0x181 0x181 210, .upperLower 0x182 0x185, .delta 0x186 0x186 206,
    .upperLower 0x187 0x188, .delta 0x189 0x18A 205, .upperLower 0x18B 0x18C,
    .delta 0x18E 0x18E 79, .delta 0x18F 0x18F 202, .delta 0x190 0x190 203,
    .upperLower 0x191 0x192, .delta 0x193 0x193 205, .delta 0x194 0x194 207,
    .delta 0x196 0x196 211, .delta 0x197 0x197 209, .upperLower 0x198 0x199,
    .delta 0x19C 0x19C 211, .delta 0x19D 0x19D 213, .delta 0x19F 0x19F 214,
    .upperLower 0x1A0 0x1A5, .delta 0x1A6 0x1A6 218, .upperLower 0x1A7 0x1A8,
    .delta 0x1A9 0x1A9 218, .upperLower 0x1AC 0x1AD, .delta 0x1AE 0x1AE 218,
    .upperLower 0x1AF 0x1B0, .delta 0x1B1 0x1B2 217, .upperLower 0x1B3 0x1B6,
    .delta 0x1B7 0x1B7 219, .upperLower 0x1B8 0x1B9, .upperLower 0x1BC 0x1BD,
    .delta 0x1C4 0x1C4 2, .upperLower 0x1C5 0x1C6, .delta 0x1C7 0x1C7 2, .upperLower 0x1C8 0x1C9,
    .delta 0x1CA 0x1CA 2, .upperLower 0x1CB 0x1DC, .upperLower 0x1DE 0x1EF, .delta 0x1F1 0x1F1 2,
    .upperLower 0x1F2 0x1F5, .delta 0x1F6 0x1F6 (-97), .delta 0x1F7 0x1F7 (-56),
    .upperLower 0x1F8 0x21F, .delta 0x220 0x220 (-130), .upperLower 0x222 0x233,
    .delta 0x23A 0x23A 10795, .upperLower 0x23B 0x23C, .delta 0x23D 0x23D (-163),
    .delta 0x23E 0x23E 10792, .upperLower 0x241 0x242, .delta 0x243 0x243 (-195),
    .delta 0x244 0x244 69, .delta 0x245 0x245 71, .upperLower 0x246 0x24F,
    .upperLower 0x370 0x373, .upperLower 0x376 0x377, .delta 0x37F 0x37F 116,
    .delta 0x386 0x386 38, .delta 0x388 0x38A 37, .delta 0x38C 0x38C 64, .delta 0x38E 0x38F 63,
    .delta 0x391 0x3A1 32, .delta 0x3A3 0x3AB 32, .delta 0x3CF 0x3CF 8, .upperLower 0x3D8 0x3EF,
    .delta 0x3F4 0x3F4 (-60), .upperLower 0x3F7 0x3F8, .delta 0x3F9 0x3F9 (-7),
    .upperLower 0x3FA 0x3FB, .delta 0x3FD 0x3FF (-130), .delta 0x400 0x40F 80,
    .delta 0x410 0x42F 32, .upperLower 0x460 0x481, .upperLower 0x48A 0x4BF,
    .delta 0x4C0 0x4C0 15, .upperLower 0x4C1 0x4CE, .upperLower 0x4D0 0x52F,
    .delta 0x531 0x556 48, .delta 0x10A0 0x10C5 7264, .delta 0x10C7 0x10C7 7264,
    .delta 0x10CD 0x10CD 7264, .delta 0x13A0 0x13EF 38864, .delta 0x13F0 0x13F5 8,
    .upperLower 0x1C89 0x1C8A, .delta 0x1C90 0x1CBA (-3008), .delta 0x1CBD 0x1CBF (-3008),
    .upperLower 0x1E00 0x1E95, .delta 0x1E9E 0x1E9E (-7615), .upperLower 0x1EA0 0x1EFF,
    .delta 0x1F08 0x1F0F (-8), .delta 0x1F18 0x1F1D (-8), .delta 0x1F28 0x1F2F (-8),
    .delta 0x1F38 0x1F3F (-8), .delta 0x1F48 0x1F4D (-8), .delta 0x1F59 0x1F59 (-8),
    .delta 0x1F5B 0x1F5B (-8), .delta 0x1F5D 0x1F5D (-8), .delta 0x1F5F 0x1F5F (-8),
    .delta 0x1F68 0x1F6F (-8), .delta 0x1F88 0x1F8F (-8), .delta 0x1F98 0x1F9F (-8),
    .delta 0x1FA8 0x1FAF (-8), .delta 0x1FB8 0x1FB9 (-8), .delta 0x1FBA 0x1FBB (-74),
    .delta 0x1FBC 0x1FBC (-9), .delta 0x1FC8 0x1FCB (-86), .delta 0x1FCC 0x1FCC (-9),
    .delta 0x1FD8 0x1FD9 (-8), .delta 0x1FDA 0x1FDB (-100), .delta 0x1FE8 0x1FE9 (-8),
    .delta 0x1FEA 0x1FEB (-112), .delta 0x1FEC 0x1FEC (-7), .delta 0x1FF8 0x1FF9 (-128),
    .delta 0x1FFA 0x1FFB (-126), .delta 0x1FFC 0x1FFC (-9), .delta 0x2126 0x2126 (-7517),
    .delta 0x212A 0x212A (-8383), .delta 0x212B 0x212B (-8262), .delta 0x2132 0x2132 28,
    .delta 0x2160 0x216F 16, .upperLower 0x2183 0x2184, .delta 0x24B6 0x24CF 26,
    .delta 0x2C00 0x2C2F 48, .upperLower 0x2C60 0x2C61, .delta 0x2C62 0x2C62 (-10743),
    .delta 0x2C63 0x2C63 (-3814), .delta 0x2C64 0x2C64 (-10727), .upperLower 0x2C67 0x2C6C,
    .delta 0x2C6D 0x2C6D (-10780), .delta 0x2C6E 0x2C6E (-10749), .delta 0x2C6F 0x2C6F (-10783),
    .delta 0x2C70 0x2C70 (-10782), .upperLower 0x2C72 0x2C73, .upperLower 0x2C75 0x2C76,
    .delta 0x2C7E 0x2C7F (-10815), .upperLower 0x2C80 0x2CE3, .upperLower 0x2CEB 0x2CEE,
    .upperLower 0x2CF2 0x2CF3, .upperLower 0xA640 0xA66D, .upperLower 0xA680 0xA69B,
    .upperLower 0xA722 0xA72F, .upperLower 0xA732 0xA76F, .upperLower 0xA779 0xA77C,
    .delta 0xA77D 0xA77D (-35332), .upperLower 0xA77E 0xA787, .upperLower 0xA78B 0xA78C,
    .delta 0xA78D 0xA78D (-42280), .upperLower 0xA790 0xA793, .upperLower 0xA796 0xA7A9,
    .delta 0xA7AA 0xA7AA (-42308), .delta 0xA7AB 0xA7AB (-42319), .delta 0xA7AC 0xA7AC (-42315),
    .delta 0xA7AD 0xA7AD (-42305), .delta 0xA7AE 0xA7AE (-42308), .delta 0xA7B0 0xA7B0 (-42258),
    .delta 0xA7B1 0xA7B1 (-42282), .delta 0xA7B2 0xA7B2 (-42261), .delta 0xA7B3 0xA7B3 928,
    .upperLower 0xA7B4 0xA7C3, .delta 0xA7C4 0xA7C4 (-48), .delta 0xA7C5 0xA7C5 (-42307),
    .delta 0xA7C6 0xA7C6 (-35384), .upperLower 0xA7C7 0xA7CA, .delta 0xA7CB 0xA7CB (-42343),
    .upperLower 0xA7CC 0xA7DB, .delta 0xA7DC 0xA7DC (-42561), .upperLower 0xA7F5 0xA7F6,
    .delta 0xFF21 0xFF3A 32, .delta 0x10400 0x10427 40, .delta 0x104B0 0x104D3 40,
    .delta 0x10570 0x1057A 39, .delta 0x1057C 0x1058A 39, .delta 0x1058C 0x10592 39,
    .delta 0x10594 0x10595 39, .delta 0x10C80 0x10CB2 64, .delta 0x10D50 0x10D65 32,
    .delta 0x118A0 0x118BF 32, .delta 0x16E40 0x16E5F 32, .delta 0x16EA0 0x16EB8 27,
    .delta 0x1E900 0x1E921 34]

/-- `unicode.ToLower`. -/
def toLowerRune (r : Nat) : Nat :=
  match caseRanges.find? fun c => c.lo ≤ r && r ≤ c.hi with
  | some c => c.apply r
  | none => r

/-- `unicode.White_Space`. -/
def spaceRanges : List (Nat × Nat) :=
  [(0x09, 0x0D), (0x20, 0x20), (0x85, 0x85), (0xA0, 0xA0), (0x1680, 0x1680), (0x2000, 0x200A),
    (0x2028, 0x2029), (0x202F, 0x202F), (0x205F, 0x205F), (0x3000, 0x3000)]

/-- `unicode.IsSpace`. -/
def isSpace (r : Nat) : Bool := spaceRanges.any fun p => p.1 ≤ r && r ≤ p.2

/-- The code points whose fold is not their lower case: several lower cases share one orbit of
`unicode.SimpleFold`. -/
def foldOrbits : List (Nat × Nat) :=
  [(0x17F, 0x73), (0xB5, 0x3BC), (0x345, 0x3B9), (0x1FBE, 0x3B9), (0x3D0, 0x3B2), (0x3F5, 0x3B5),
    (0x3D1, 0x3B8), (0x3F0, 0x3BA), (0x3D6, 0x3C0), (0x3F1, 0x3C1), (0x3C2, 0x3C3), (0x3D5, 0x3C6),
    (0x1C80, 0x432), (0x1C81, 0x434), (0x1C82, 0x43E), (0x1C83, 0x441), (0x1C84, 0x442),
    (0x1C85, 0x442), (0x1C86, 0x44A), (0x1C87, 0x463), (0x1C88, 0xA64B), (0x1E9B, 0x1E61),
    (0x1FD3, 0x390), (0x1FE3, 0x3B0), (0xFB05, 0xFB06)]

/-- A representative of the orbit of a code point under `unicode.SimpleFold`. `U+0130` is alone in
its orbit although it has a lower case. -/
def foldRune (r : Nat) : Nat :=
  if r = 0x130 then r else (foldOrbits.lookup (toLowerRune r)).getD (toLowerRune r)

/-! ## The table, checked -/

/-- The lower cases of a range are left alone by every range. -/
def settled (c : CaseRange) : Bool :=
  match c with
  | .delta _ _ _ =>
    caseRanges.all fun c' => CaseRange.disjoint c.image.1 c.image.2 c'.lo c'.hi ||
      (c.image.1 == c.image.2 && c'.apply c.image.1 == c.image.1)
  | .upperLower lo hi =>
    (hi - lo) % 2 == 1 && caseRanges.all fun c' => c' == c || CaseRange.disjoint lo hi c'.lo c'.hi

/-- No range of the table is moved onto runes that the table moves again. -/
theorem caseRanges_settled : caseRanges.all settled = true := by decide +kernel

/-- No case range reads or writes a code point between `a` and `b`. -/
def untouched (a b : Nat) : Bool :=
  caseRanges.all fun c => CaseRange.disjoint a b c.lo c.hi &&
    CaseRange.disjoint a b c.image.1 c.image.2

/-- The table leaves the spaces alone, and moves nothing onto them. -/
theorem spaceRanges_untouched : (spaceRanges.all fun p => untouched p.1 p.2) = true := by
  decide +kernel

/-! ## What the checks give -/

/-- A lower case is the code point itself, or the value of the range that holds it. -/
theorem toLowerRune_cases (r : Nat) :
    (toLowerRune r = r ∧ ∀ c ∈ caseRanges, ¬ (c.lo ≤ r ∧ r ≤ c.hi)) ∨
      ∃ c ∈ caseRanges, (c.lo ≤ r ∧ r ≤ c.hi) ∧ toLowerRune r = c.apply r := by
  unfold toLowerRune
  cases hf : caseRanges.find? fun c => c.lo ≤ r && r ≤ c.hi with
  | none =>
    refine .inl ⟨rfl, fun c hc => ?_⟩
    simpa using List.find?_eq_none.mp hf c hc
  | some c => exact .inr ⟨c, List.mem_of_find?_eq_some hf, by simpa using List.find?_some hf, rfl⟩

/-- Lowering twice is lowering once. -/
theorem toLowerRune_toLowerRune (r : Nat) : toLowerRune (toLowerRune r) = toLowerRune r := by
  rcases toLowerRune_cases r with ⟨h, -⟩ | ⟨c, hc, hr, h⟩
  · rw [h, h]
  rw [h]
  have hs := List.all_eq_true.mp caseRanges_settled c hc
  rcases toLowerRune_cases (c.apply r) with ⟨h', -⟩ | ⟨c', hc', hr', h'⟩
  · exact h'
  rw [h']
  cases c with
  | delta lo hi d =>
    have := List.all_eq_true.mp hs c' hc'
    simp only [CaseRange.image_delta, CaseRange.disjoint_iff, CaseRange.apply_delta,
      CaseRange.lo_delta, CaseRange.hi_delta, Bool.or_eq_true, Bool.and_eq_true,
      beq_iff_eq] at this hr hr' ⊢
    rcases this with hd | ⟨he, ha⟩
    · omega
    · have hp : ((r : Int) + d).toNat = ((lo : Int) + d).toNat := by omega
      rw [hp, ha]
  | upperLower lo hi =>
    simp only [settled, Bool.and_eq_true, beq_iff_eq, List.all_eq_true, Bool.or_eq_true,
      CaseRange.disjoint_iff] at hs
    simp only [CaseRange.apply_upperLower, CaseRange.lo_upperLower,
      CaseRange.hi_upperLower] at hr hr' ⊢
    rcases hs.2 c' hc' with rfl | hd
    · rw [CaseRange.apply_upperLower]
      omega
    · omega

/-- Lowering neither enters nor leaves a range the table leaves alone. -/
theorem toLowerRune_mem_range {a b : Nat} (h : untouched a b = true) (r : Nat) :
    (a ≤ toLowerRune r ∧ toLowerRune r ≤ b ↔ a ≤ r ∧ r ≤ b) ∧
      (a ≤ r ∧ r ≤ b → toLowerRune r = r) := by
  rcases toLowerRune_cases r with ⟨h', -⟩ | ⟨c, hc, hr, h'⟩
  · rw [h']
    exact ⟨Iff.rfl, fun _ => rfl⟩
  -- the range that moves `r` meets `[a, b]` neither where it reads nor where it writes
  have hu := List.all_eq_true.mp h c hc
  have hs := List.all_eq_true.mp caseRanges_settled c hc
  rw [Bool.and_eq_true, CaseRange.disjoint_iff, CaseRange.disjoint_iff] at hu
  have hout : ¬ (a ≤ c.apply r ∧ c.apply r ≤ b) := by
    cases c with
    | delta lo hi d =>
      simp only [CaseRange.image_delta, CaseRange.apply_delta, CaseRange.lo_delta,
        CaseRange.hi_delta] at hu hr ⊢
      omega
    | upperLower lo hi =>
      simp only [settled, Bool.and_eq_true, beq_iff_eq] at hs
      simp only [CaseRange.image_upperLower, CaseRange.apply_upperLower, CaseRange.lo_upperLower,
        CaseRange.hi_upperLower] at hu hr ⊢
      omega
  have hin : ¬ (a ≤ r ∧ r ≤ b) := by omega
  rw [h']
  exact ⟨iff_of_false hout hin, fun h => absurd h hin⟩

/-- Lowering keeps white space white space, and makes none. -/
@[simp] theorem isSpace_toLowerRune (r : Nat) : isSpace (toLowerRune r) = isSpace r := by
  have hp : ∀ p ∈ spaceRanges, (p.1 ≤ toLowerRune r ∧ toLowerRune r ≤ p.2 ↔ p.1 ≤ r ∧ r ≤ p.2) :=
    fun p hp => (toLowerRune_mem_range (List.all_eq_true.mp spaceRanges_untouched p hp) r).1
  rw [Bool.eq_iff_iff]
  simp only [isSpace, List.any_eq_true, Bool.and_eq_true, decide_eq_true_eq]
  exact exists_congr fun p => and_congr_right (hp p)

/-- White space is encoded as itself. -/
@[simp] theorem isSpace_toValid (r : Nat) : isSpace (toValid r) = isSpace r := by
  unfold toValid
  split_ifs with h
  · rfl
  · have hr : isSpace r = false := by
      simp only [isSpace, spaceRanges, List.any_cons, List.any_nil, Bool.or_false,
        Bool.or_eq_false_iff, Bool.and_eq_false_iff, decide_eq_false_iff_not]
      omega
    rw [hr]
    decide

/-- A byte that is a rune of its own and has no other case, nor is the other case of anything. -/
def Caseless (c : UInt8) : Prop := c.toNat < runeSelf ∧ untouched c.toNat c.toNat = true

instance (c : UInt8) : Decidable (Caseless c) := inferInstanceAs (Decidable (_ ∧ _))

/-- Only a byte without case itself is lowered to it. -/
theorem Caseless.toLowerRune_eq {c : UInt8} (hc : Caseless c) {r : Nat} :
    toLowerRune r = c.toNat ↔ r = c.toNat := by
  have hrange := toLowerRune_mem_range hc.2 r
  constructor
  · intro h
    have := hrange.1.mp (by omega)
    omega
  · rintro rfl
    exact hrange.2 ⟨Nat.le_refl _, Nat.le_refl _⟩

end Go
