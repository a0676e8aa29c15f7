import Mailout.Go.Unicode

/-!
# The `strings` and `bytes` functions the relay uses

Each function is the documented one: `trimSpace` and `toLower` work rune by rune and see an invalid
byte as `U+FFFD` (`toLower` writes it back so), while `cut`, `index` and `trimRight`, used with
ASCII separators and cutsets only, work byte by byte. `normalize`, lowering what is left after
trimming, is the one normal form the sender policies compare in; `normal_iff` says which strings it
leaves alone.
-/

namespace Go

/-! ## Splitting at a byte -/

/-- `strings.Cut` at a one-byte separator. -/
def cut (c : UInt8) : Bytes → Option (Bytes × Bytes)
  | [] => none
  | b :: s => if b = c then some ([], s) else (cut c s).map fun p => (b :: p.1, p.2)

/-- `strings.Index` of one byte. -/
def indexByte (c : UInt8) : Bytes → Option Nat
  | [] => none
  | b :: s => if b = c then some 0 else (indexByte c s).map (· + 1)

/-- `strings.LastIndex` of one byte. -/
def lastIndexByte (c : UInt8) : Bytes → Option Nat
  | [] => none
  | b :: s =>
    match lastIndexByte c s with
    | some i => some (i + 1)
    | none => if b = c then some 0 else none

/-- `strings.Cut` splits at the first occurrence. -/
theorem cut_eq_some {c : UInt8} : ∀ {s a b : Bytes}, cut c s = some (a, b) ↔ s = a ++ c :: b ∧ c ∉ a
  | [], a, b => by simp [cut]
  | x :: s, a, b => by
    rw [cut]
    split_ifs with hx
    · subst hx
      cases a with
      | nil => simp
      | cons y a =>
        simp only [Option.some.injEq, Prod.mk.injEq, List.nil_eq, List.cons_append, List.cons.injEq,
          List.mem_cons, not_or, reduceCtorEq, false_and, false_iff, not_and]
        rintro ⟨rfl, -⟩ h
        exact absurd rfl h
    · cases a with
      | nil =>
        simp only [Option.map_eq_some_iff, Prod.mk.injEq, reduceCtorEq, false_and, and_false,
          exists_false, List.nil_append, List.cons.injEq, false_iff, not_and]
        rintro ⟨rfl, -⟩
        exact absurd rfl hx
      | cons y a =>
        simp only [Option.map_eq_some_iff, Prod.mk.injEq, Prod.exists, List.cons.injEq,
          List.cons_append, List.mem_cons, not_or]
        constructor
        · rintro ⟨a', b', h, ⟨rfl, rfl⟩, rfl⟩
          obtain ⟨h, hc⟩ := cut_eq_some.mp h
          exact ⟨⟨rfl, h⟩, fun h => hx h.symm, hc⟩
        · rintro ⟨⟨rfl, h⟩, -, hc⟩
          exact ⟨a, b, cut_eq_some.mpr ⟨h, hc⟩, ⟨rfl, rfl⟩, rfl⟩

/-- There is nothing to split at exactly if the byte does not occur. -/
theorem cut_eq_none {c : UInt8} : ∀ {s : Bytes}, cut c s = none ↔ c ∉ s
  | [] => by simp [cut]
  | x :: s => by
    rw [cut]
    split_ifs with hx
    · simp [hx]
    · rw [Option.map_eq_none_iff, cut_eq_none, List.mem_cons, not_or]
      exact ⟨fun h => ⟨fun hc => hx hc.symm, h⟩, fun h => h.2⟩

/-- Cutting a string whose separator is known. -/
theorem cut_append {c : UInt8} {a : Bytes} (ha : c ∉ a) (b : Bytes) :
    cut c (a ++ c :: b) = some (a, b) := cut_eq_some.mpr ⟨rfl, ha⟩

/-- The first occurrence is behind what does not have the byte. -/
theorem indexByte_append {c : UInt8} {a : Bytes} (ha : c ∉ a) (b : Bytes) :
    indexByte c (a ++ c :: b) = some a.length := by
  induction a with
  | nil => simp [indexByte]
  | cons x a ih =>
    rw [List.mem_cons, not_or] at ha
    rw [List.cons_append, indexByte, if_neg (fun h => ha.1 h.symm), ih ha.2]
    rfl

/-- A byte that does not occur has no index. -/
theorem indexByte_eq_none {c : UInt8} : ∀ {s : Bytes}, c ∉ s → indexByte c s = none
  | [], _ => rfl
  | x :: s, h => by
    rw [List.mem_cons, not_or] at h
    rw [indexByte, if_neg fun hx => h.1 hx.symm, indexByte_eq_none h.2]
    rfl

/-- A byte that does not occur has no last index. -/
theorem lastIndexByte_eq_none {c : UInt8} : ∀ {s : Bytes}, c ∉ s → lastIndexByte c s = none
  | [], _ => rfl
  | x :: s, h => by
    rw [List.mem_cons, not_or] at h
    rw [lastIndexByte, lastIndexByte_eq_none h.2]
    exact if_neg fun hx => h.1 hx.symm

/-- The last occurrence is before what does not have the byte. -/
theorem lastIndexByte_append {c : UInt8} (a : Bytes) {b : Bytes} (hb : c ∉ b) :
    lastIndexByte c (a ++ c :: b) = some a.length := by
  induction a with
  | nil => simp [lastIndexByte, lastIndexByte_eq_none hb]
  | cons x a ih => rw [List.cons_append, lastIndexByte, ih, List.length_cons]

/-- What stands behind the last `c` of a string, and what stands before it. -/
theorem append_cons_inj_last {c : UInt8} {a a' b b' : Bytes} (hb : c ∉ b) (hb' : c ∉ b')
    (h : a ++ c :: b = a' ++ c :: b') : a = a' ∧ b = b' := by
  have hlast := congrArg (lastIndexByte c) h
  rw [lastIndexByte_append a hb, lastIndexByte_append a' hb'] at hlast
  obtain ⟨ha, hcb⟩ := List.append_inj h (Option.some.inj hlast)
  exact ⟨ha, List.tail_eq_of_cons_eq hcb⟩

/-- A byte of a string is the separator or in one of the pieces. -/
theorem mem_splitOn {c sep : UInt8} {s : Bytes} (h : c ∈ s) :
    c = sep ∨ ∃ piece ∈ s.splitOn sep, c ∈ piece := by
  induction s with
  | nil => cases h
  | cons b s ih =>
    have hcons : (b :: s).splitOn sep =
        if b == sep then [] :: s.splitOn sep else (s.splitOn sep).modifyHead (List.cons b) :=
      List.splitOnP_cons_eq_if_modifyHead b s
    cases hsplit : s.splitOn sep with
    | nil => exact absurd hsplit (List.splitOnP_ne_nil _ _)
    | cons piece pieces =>
      rw [hsplit] at hcons ih
      rw [hcons]
      split_ifs with hb
      · rcases List.mem_cons.mp h with rfl | h
        · exact .inl (beq_iff_eq.mp hb)
        · refine (ih h).imp_right ?_
          rintro ⟨p, hp, hc⟩
          exact ⟨p, List.mem_cons_of_mem _ hp, hc⟩
      · rw [List.modifyHead_cons]
        rcases List.mem_cons.mp h with rfl | h
        · exact .inr ⟨_, List.mem_cons_self, List.mem_cons_self⟩
        · refine (ih h).imp_right ?_
          rintro ⟨p, hp, hc⟩
          rcases List.mem_cons.mp hp with rfl | hp
          · exact ⟨_, List.mem_cons_self, List.mem_cons_of_mem _ hc⟩
          · exact ⟨p, List.mem_cons_of_mem _ hp, hc⟩

/-! ## Searching for a string -/

/-- `bytes.Index`: the first position at which `sub` stands in `s`. -/
def index (sub : Bytes) : Bytes → Option Nat
  | [] => if sub = [] then some 0 else none
  | b :: s => if sub.isPrefixOf (b :: s) then some 0 else (index sub s).map (· + 1)

/-- `strings.Contains`. -/
def contains (s sub : Bytes) : Bool := (index sub s).isSome

/-- The index is that of an occurrence, and there is none before it. -/
theorem index_eq_some {sub : Bytes} : ∀ {s : Bytes} {i : Nat}, index sub s = some i →
    (∃ t, s = s.take i ++ sub ++ t) ∧ i ≤ s.length ∧ ∀ j < i, ¬ sub <+: s.drop j
  | [], i, h => by
    simp only [index] at h
    split_ifs at h with hs
    cases h
    simp [hs]
  | b :: s, i, h => by
    simp only [index] at h
    split_ifs at h with hp
    · cases h
      obtain ⟨t, ht⟩ := List.isPrefixOf_iff_prefix.mp hp
      exact ⟨⟨t, by simp [ht]⟩, by simp, by simp⟩
    · obtain ⟨k, hk, rfl⟩ := Option.map_eq_some_iff.mp h
      obtain ⟨⟨t, ht⟩, hle, hmin⟩ := index_eq_some hk
      refine ⟨⟨t, by rw [List.take_succ_cons, List.cons_append, List.cons_append, ← ht]⟩,
        by simpa using hle, fun j hj => ?_⟩
      cases j with
      | zero => simpa using hp
      | succ j => exact hmin j (by omega)

/-- A text cut behind the first occurrence. -/
theorem take_index {sub s : Bytes} {i : Nat} (h : index sub s = some i) :
    ∃ u t, s = u ++ sub ++ t ∧ u.length = i ∧ s.take (i + sub.length) = u ++ sub := by
  obtain ⟨⟨t, ht⟩, hle, -⟩ := index_eq_some h
  have hlen : (s.take i).length = i := List.length_take_of_le hle
  refine ⟨s.take i, t, ht, hlen, ?_⟩
  have hcut : (s.take i ++ sub).length = i + sub.length := by rw [List.length_append, hlen]
  conv_lhs => rw [ht, ← hcut]
  rw [List.take_left]

/-- Without an index there is no occurrence at all. -/
theorem index_eq_none {sub : Bytes} : ∀ {s : Bytes}, index sub s = none →
    ∀ j, ¬ sub <+: s.drop j
  | [], h, j => by
    simp only [index] at h
    split_ifs at h with hs
    simpa using hs
  | b :: s, h, j => by
    simp only [index] at h
    split_ifs at h with hp
    rw [Option.map_eq_none_iff] at h
    cases j with
    | zero => simpa using hp
    | succ j => exact index_eq_none h j

/-- A text contains a byte as a text exactly if the byte occurs in it. -/
theorem contains_byte {c : UInt8} {s : Bytes} : contains s [c] = true ↔ c ∈ s := by
  rw [contains, Option.isSome_iff_exists]
  constructor
  · rintro ⟨i, hi⟩
    obtain ⟨⟨t, ht⟩, -⟩ := index_eq_some hi
    rw [ht]
    simp
  · intro h
    by_contra hnone
    rw [not_exists] at hnone
    have hindex : index [c] s = none := Option.eq_none_iff_forall_ne_some.mpr hnone
    obtain ⟨a, b, rfl⟩ := List.append_of_mem h
    exact index_eq_none hindex a.length ⟨b, by simp⟩

/-! ## Trimming bytes -/

/-- `strings.TrimRight` with an ASCII cutset. -/
def trimRight (cutset s : Bytes) : Bytes := s.rdropWhile fun b => cutset.contains b

/-- What `TrimRight` cuts off is made of the cutset. -/
theorem trimRight_append (cutset s : Bytes) :
    ∃ t, s = trimRight cutset s ++ t ∧ ∀ b ∈ t, b ∈ cutset := by
  refine ⟨s.rtakeWhile fun b => cutset.contains b, ?_, fun b hb => ?_⟩
  · exact List.rdropWhile_append_rtakeWhile.symm
  · simpa using List.mem_rtakeWhile_imp hb

/-- `strings.TrimPrefix`. -/
def trimPrefix (pre s : Bytes) : Bytes := if pre.isPrefixOf s then s.drop pre.length else s

/-- `strings.TrimSuffix`. -/
def trimSuffix (suf s : Bytes) : Bytes :=
  if suf.isSuffixOf s then s.take (s.length - suf.length) else s

/-! ## Trimming and lowering runes -/

/-- A visited rune is white space. -/
def RuneAt.space (c : RuneAt) : Bool := isSpace c.rune

/-- The visited runes between the first and the last that are no white space. -/
def trimRunes (l : List RuneAt) : List RuneAt := (l.dropWhile RuneAt.space).rdropWhile RuneAt.space

/-- Dropping from the left stops at what is not dropped, whatever comes behind it. -/
theorem dropWhile_append_stop {α : Type} {p : α → Bool} {x : α} (hx : p x = false) (l r : List α) :
    (l ++ x :: r).dropWhile p = l.dropWhile p ++ x :: r := by
  induction l with
  | nil => simp [hx]
  | cons y l ih =>
    rw [List.cons_append, List.dropWhile_cons, List.dropWhile_cons, ih]
    split_ifs <;> rfl

/-- Dropping from the right stops there too, whatever comes before it. -/
theorem rdropWhile_append_stop {α : Type} {p : α → Bool} {x : α} (hx : p x = false) (l r : List α) :
    (l ++ x :: r).rdropWhile p = l ++ x :: r.rdropWhile p := by
  have h := dropWhile_append_stop hx r.reverse l.reverse
  simp only [List.rdropWhile, List.reverse_append, List.reverse_cons, List.append_assoc,
    List.singleton_append, h, List.reverse_reverse]

/-- `strings.TrimSpace`. -/
def trimSpace (s : Bytes) : Bytes := rawOf (trimRunes (runes s))

/-- `strings.ToLower`. -/
def toLower (s : Bytes) : Bytes := encodeRunes ((runes s).map fun c => toLowerRune c.rune)

/-- `strings.ToLower(strings.TrimSpace(s))`. -/
def normalize (s : Bytes) : Bytes := toLower (trimSpace s)

/-- `strings.EqualFold`. -/
def equalFold (s t : Bytes) : Bool :=
  (runes s).map (fun c => foldRune c.rune) == (runes t).map fun c => foldRune c.rune

/-- Neither end of a list of visited runes is white space. -/
def Trimmed (l : List RuneAt) : Prop :=
  (∀ c ∈ l.head?, c.space = false) ∧ ∀ c ∈ l.getLast?, c.space = false

/-- What is left after trimming is an inner part. -/
theorem trimRunes_inner (l : List RuneAt) : trimRunes l <:+: l :=
  (List.rdropWhile_prefix _ _).isInfix.trans (List.dropWhile_suffix _).isInfix

/-- Where neither end is a space nothing is trimmed. -/
theorem trimRunes_of_trimmed {l : List RuneAt} (h : Trimmed l) : trimRunes l = l := by
  have h₁ : l.dropWhile RuneAt.space = l := by
    cases l with
    | nil => rfl
    | cons c l => rw [List.dropWhile_cons, h.1 c (by simp)]; rfl
  rw [trimRunes, h₁, List.rdropWhile_eq_self_iff]
  intro hl
  rw [h.2 _ (List.getLast_mem_getLast? hl)]
  exact Bool.false_ne_true

/-- After trimming neither end is a space. -/
theorem trimmed_trimRunes (l : List RuneAt) : Trimmed (trimRunes l) := by
  have hlast : ∀ k : List RuneAt, ∀ c ∈ (k.rdropWhile RuneAt.space).getLast?, c.space = false := by
    intro k c hc
    obtain ⟨hl, rfl⟩ := List.mem_getLast?_eq_getLast hc
    simpa using List.rdropWhile_last_not RuneAt.space k hl
  refine ⟨fun c hc => ?_, hlast _⟩
  -- what is kept on the left is a prefix of what dropping the white space on the left leaves
  obtain ⟨t, ht⟩ := List.rdropWhile_prefix RuneAt.space (l.dropWhile RuneAt.space)
  have hc' : c ∈ (l.dropWhile RuneAt.space).head? := by
    rw [← ht]
    exact List.mem_head?_append_of_mem_head? hc
  have hnot := List.head?_dropWhile_not RuneAt.space l
  rw [Option.mem_def.mp hc'] at hnot
  exact hnot

/-- Trimming gives back a run of the runes of the string. -/
theorem runes_trimSpace (s : Bytes) : runes (trimSpace s) = trimRunes (runes s) :=
  (canonical_runes s).inner (trimRunes_inner _)

/-- The text that `TrimSpace` returns has no space at its ends, read as runes again. -/
theorem trimmed_trimSpace (s : Bytes) : Trimmed (runes (trimSpace s)) := by
  rw [runes_trimSpace]
  exact trimmed_trimRunes _

/-- A text without spaces at its ends is returned as it is. -/
theorem trimSpace_of_trimmed {s : Bytes} (h : Trimmed (runes s)) : trimSpace s = s := by
  rw [trimSpace, trimRunes_of_trimmed h, rawOf_runes]

/-- Trimming twice is trimming once. -/
theorem trimSpace_trimSpace (s : Bytes) : trimSpace (trimSpace s) = trimSpace s :=
  trimSpace_of_trimmed (trimmed_trimSpace s)

/-- Trimming stops at ASCII bytes that are no white space. -/
theorem trimSpace_between {c d : UInt8} (hc : c.toNat < runeSelf) (hd : d.toNat < runeSelf)
    (hcs : isSpace c.toNat = false) (hds : isSpace d.toNat = false) (a s b : Bytes) :
    ∃ a' b', trimSpace (a ++ c :: (s ++ d :: b)) = a' ++ c :: (s ++ d :: b') ∧ b' <+: b := by
  refine ⟨rawOf ((runes a).dropWhile RuneAt.space), rawOf ((runes b).rdropWhile RuneAt.space), ?_, ?_⟩
  · have hfirst : RuneAt.space ⟨c.toNat, [c]⟩ = false := hcs
    have hlast : RuneAt.space ⟨d.toNat, [d]⟩ = false := hds
    rw [trimSpace, runes_append_ascii a hc, runes_append_ascii s hd, trimRunes,
      dropWhile_append_stop hfirst, ← List.cons_append, ← List.append_assoc,
      rdropWhile_append_stop hlast]
    simp
  · obtain ⟨t, ht⟩ := List.rdropWhile_prefix RuneAt.space (runes b)
    refine ⟨rawOf t, ?_⟩
    rw [← rawOf_append, ht, rawOf_runes]

/-- Trimming only takes away. -/
theorem mem_of_mem_trimSpace {c : UInt8} {s : Bytes} (h : c ∈ trimSpace s) : c ∈ s := by
  obtain ⟨t, u, heq⟩ := trimRunes_inner (runes s)
  rw [← rawOf_runes s, ← heq, rawOf_append, rawOf_append]
  exact List.mem_append_left _ (List.mem_append_right _ h)

/-- Trimming stops at an ASCII byte that is no white space, on either side of it. -/
theorem trimSpace_at {c : UInt8} (hc : c.toNat < runeSelf) (hcs : isSpace c.toNat = false)
    (a b : Bytes) : trimSpace (a ++ c :: b) =
      rawOf ((runes a).dropWhile RuneAt.space) ++ c :: rawOf ((runes b).rdropWhile RuneAt.space) := by
  have hstop : RuneAt.space ⟨c.toNat, [c]⟩ = false := hcs
  rw [trimSpace, runes_append_ascii a hc, trimRunes, dropWhile_append_stop hstop,
    rdropWhile_append_stop hstop]
  simp

/-- A byte that is no space is not lost by trimming. An ASCII byte is a rune of its own, and only runes that
are spaces go. -/
theorem mem_trimSpace {c : UInt8} (hc : c.toNat < runeSelf) (hcs : isSpace c.toNat = false)
    {s : Bytes} (h : c ∈ s) : c ∈ trimSpace s := by
  obtain ⟨a, b, rfl⟩ := List.append_of_mem h
  rw [trimSpace_at hc hcs]
  exact List.mem_append_right _ List.mem_cons_self

/-- The runes of a lowered string. -/
theorem runes_toLower (s : Bytes) : runes (toLower s) = (runes s).map fun c =>
    ⟨toValid (toLowerRune c.rune), encodeRune (toLowerRune c.rune)⟩ := by
  rw [toLower, runes_encodeRunes, List.map_map]
  rfl

/-- Lowering keeps the ends of a string what they are. -/
theorem toLower_ne_nil {s : Bytes} (h : s ≠ []) : toLower s ≠ [] := by
  intro hnil
  have hrunes := runes_toLower s
  rw [hnil] at hrunes
  have hempty : runes s = [] := List.map_eq_nil_iff.mp hrunes.symm
  exact h (by rw [← rawOf_runes s, hempty, rawOf_nil])

/-- Lower case keeps spaces, and makes none of what was not one. -/
theorem trimmed_toLower {s : Bytes} : Trimmed (runes (toLower s)) ↔ Trimmed (runes s) := by
  rw [runes_toLower, Trimmed, Trimmed, List.head?_map, List.getLast?_map]
  simp [RuneAt.space]

/-- A rune that is written lowered is lowered to itself. -/
theorem encodeRune_toLowerRune_toValid (r : Nat) :
    encodeRune (toLowerRune (toValid (toLowerRune r))) = encodeRune (toLowerRune r) := by
  unfold toValid
  split_ifs with h
  · rw [toLowerRune_toLowerRune]
  · -- an invalid code point is written as `runeError`, which has no other lower case
    have he : toLowerRune runeError = runeError := by decide +kernel
    have hv : toValid (toLowerRune r) = runeError := if_neg h
    rw [he]
    simp only [encodeRune, hv]
    rfl

/-- Lower case twice is lower case once, since the tables lower no rune to one that they lower again. -/
theorem toLower_toLower (s : Bytes) : toLower (toLower s) = toLower s := by
  conv_lhs => rw [toLower, runes_toLower]
  rw [toLower, encodeRunes, encodeRunes, List.map_map]
  simp only [List.flatMap_map, Function.comp_apply, encodeRune_toLowerRune_toValid]

/-- The strings that `normalize` leaves alone: white space at neither end, and every rune written
as its own lower case. -/
theorem normal_iff {s : Bytes} : normalize s = s ↔
    Trimmed (runes s) ∧ ∀ c ∈ runes s, encodeRune (toLowerRune c.rune) = c.raw := by
  constructor
  · intro h
    refine ⟨?_, ?_⟩
    · rw [← h, normalize, trimmed_toLower]
      exact trimmed_trimSpace s
    · rw [← h, normalize, runes_toLower]
      intro c hc
      obtain ⟨d, -, rfl⟩ := List.mem_map.mp hc
      exact encodeRune_toLowerRune_toValid d.rune
  · rintro ⟨ht, hr⟩
    rw [normalize, trimSpace_of_trimmed ht, toLower, encodeRunes, List.flatMap_map]
    conv_rhs => rw [← rawOf_runes s, rawOf]
    exact List.flatMap_congr hr

/-- A text that was normalized stays as it is. -/
theorem normalize_normalize (s : Bytes) : normalize (normalize s) = normalize s := by
  show toLower (trimSpace (toLower (trimSpace s))) = toLower (trimSpace s)
  rw [trimSpace_of_trimmed (trimmed_toLower.mpr (trimmed_trimSpace s)), toLower_toLower]

/-! ## Lowering around a caseless byte -/

/-- Lowering works on either side of a caseless byte. -/
theorem toLower_append_caseless {c : UInt8} (hc : Caseless c) (s t : Bytes) :
    toLower (s ++ c :: t) = toLower s ++ c :: toLower t := by
  simp only [toLower, runes_append_ascii s hc.1, encodeRunes, List.map_append, List.map_cons,
    List.flatMap_append, List.flatMap_cons, hc.toLowerRune_eq.mpr rfl, encodeRune_ascii hc.1,
    List.singleton_append]

/-- A byte without case is there after lowering exactly if it was there before. -/
theorem mem_toLower {c : UInt8} (hc : Caseless c) {s : Bytes} : c ∈ toLower s ↔ c ∈ s := by
  constructor
  · intro h
    induction s using runes_induction with
    | nil => exact h
    | step s hs ih =>
      rw [toLower, runes_of_ne_nil hs, List.map_cons, encodeRunes, List.flatMap_cons,
        List.mem_append] at h
      rcases h with h | h
      · have hrune := hc.toLowerRune_eq.mp (eq_of_mem_encodeRune h hc.1).symm
        obtain ⟨t, rfl⟩ := eq_cons_of_decodeRune hs hc.1 hrune
        exact List.mem_cons_self
      · exact List.mem_of_mem_drop (ih h)
  · intro h
    obtain ⟨a, b, rfl⟩ := List.append_of_mem h
    rw [toLower_append_caseless hc]
    exact List.mem_append_right _ List.mem_cons_self

/-- Cutting a lowered string is lowering what it is cut into. -/
theorem cut_toLower {c : UInt8} (hc : Caseless c) (s : Bytes) :
    cut c (toLower s) = (cut c s).map fun p => (toLower p.1, toLower p.2) := by
  cases hcut : cut c s with
  | none =>
    rw [Option.map_none, cut_eq_none, mem_toLower hc]
    exact cut_eq_none.mp hcut
  | some p =>
    obtain ⟨a, b⟩ := p
    obtain ⟨rfl, ha⟩ := cut_eq_some.mp hcut
    rw [toLower_append_caseless hc, Option.map_some]
    exact cut_append (fun h => ha ((mem_toLower hc).mp h)) _

/-- Only a string that starts with a caseless byte lowers to one that does. -/
theorem toLower_eq_cons {c : UInt8} (hc : Caseless c) {s p : Bytes} :
    toLower s = c :: p ↔ ∃ t, s = c :: t ∧ toLower t = p := by
  have hback : ∀ t, toLower (c :: t) = c :: toLower t := toLower_append_caseless hc []
  constructor
  · intro h
    have hs : s ≠ [] := by
      rintro rfl
      cases h
    obtain ⟨b, bs, hb⟩ :=
      List.exists_cons_of_ne_nil (encodeRune_ne_nil (toLowerRune (decodeRune s).1))
    have hmem : c ∈ encodeRune (toLowerRune (decodeRune s).1) := by
      rw [toLower, runes_of_ne_nil hs, List.map_cons, encodeRunes, List.flatMap_cons, hb,
        List.cons_append] at h
      rw [hb, List.head_eq_of_cons_eq h]
      exact List.mem_cons_self
    have hrune := hc.toLowerRune_eq.mp (eq_of_mem_encodeRune hmem hc.1).symm
    obtain ⟨t, rfl⟩ := eq_cons_of_decodeRune hs hc.1 hrune
    rw [hback] at h
    exact ⟨t, rfl, List.tail_eq_of_cons_eq h⟩
  · rintro ⟨t, rfl, rfl⟩
    exact hback t

/-! ## Strings without white space -/

/-- No rune of a string is white space. -/
def Solid (s : Bytes) : Prop := ∀ c ∈ runes s, c.space = false

instance (s : Bytes) : Decidable (Solid s) := inferInstanceAs (Decidable (∀ c ∈ runes s, _))

/-- A text without any space has none at its ends. -/
theorem Solid.trimmed {s : Bytes} (h : Solid s) : Trimmed (runes s) :=
  ⟨fun c hc => h c (List.mem_of_mem_head? hc), fun c hc => h c (List.mem_of_mem_getLast? hc)⟩

/-- Nothing is trimmed of a text without spaces. -/
theorem Solid.trimSpace {s : Bytes} (h : Solid s) : trimSpace s = s := trimSpace_of_trimmed h.trimmed

/-- Lower case does not change whether there are spaces. -/
theorem solid_toLower {s : Bytes} : Solid (toLower s) ↔ Solid s := by
  rw [Solid, runes_toLower]
  simp [Solid, RuneAt.space]

/-- A text without spaces has none after normalization. -/
theorem Solid.normalize {s : Bytes} (h : Solid s) : Solid (normalize s) := by
  rw [Go.normalize, solid_toLower, h.trimSpace]
  exact h

/-- What stands behind an ASCII byte of a string without white space has none. -/
theorem Solid.behind {c : UInt8} (hc : c.toNat < runeSelf) {a b : Bytes} (h : Solid (a ++ c :: b)) :
    Solid b := by
  intro d hd
  refine h d ?_
  rw [runes_append_ascii a hc]
  exact List.mem_append_right _ (List.mem_cons_of_mem _ hd)

/-- A string that has no white space left once it is trimmed on the right is trimmed by that. -/
theorem trimSpace_of_solid_right {s : Bytes} (h : Solid (rawOf ((runes s).rdropWhile RuneAt.space))) :
    trimSpace s = rawOf ((runes s).rdropWhile RuneAt.space) := by
  have hrunes : runes (rawOf ((runes s).rdropWhile RuneAt.space)) =
      (runes s).rdropWhile RuneAt.space :=
    (canonical_runes s).inner (List.rdropWhile_prefix _ _).isInfix
  rw [Solid, hrunes] at h
  have hsplit := List.rdropWhile_append_rtakeWhile (p := RuneAt.space) (l := runes s)
  have hspaces : ∀ c ∈ (runes s).rtakeWhile RuneAt.space, c.space = true :=
    fun c hc => List.mem_rtakeWhile_imp hc
  rw [trimSpace, trimRunes]
  cases hk : (runes s).rdropWhile RuneAt.space with
  | nil =>
    have hall : (runes s).dropWhile RuneAt.space = [] := by
      rw [← hsplit, hk, List.nil_append, List.dropWhile_eq_nil_iff]
      exact hspaces
    rw [hall]
    rfl
  | cons c k =>
    have hhead : (runes s).dropWhile RuneAt.space = runes s := by
      rw [← hsplit, hk, List.cons_append, List.dropWhile_cons, h c (hk ▸ List.mem_cons_self)]
      rfl
    rw [hhead, hk]

end Go
