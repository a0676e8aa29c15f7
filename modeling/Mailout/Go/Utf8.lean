import Mathlib.Data.List.DropRight
import Mathlib.Tactic.Cases

/-!
# UTF-8 as a Go `string` is read

A Go `string` is a sequence of bytes, and ranging over it visits runes: a well-formed UTF-8
sequence is one rune, and any other byte is visited alone as `U+FFFD` (`runeError`). `runes` is
that traversal; every visited rune keeps the bytes it was read from, so that trimming can give
back the original bytes while mapping writes the rune anew.

Three facts carry what is built on it: what is written rune by rune reads back
(`runes_encodeRunes`), a byte that continues no sequence starts a rune wherever it stands
(`runes_append`), and a run of visited runes, cut out of its string, is visited the same
(`Canonical.inner`).
-/

namespace Go

/-- The bytes of a Go `string` or `[]byte`. -/
abbrev Bytes := List UInt8

/-- Comparing two strings byte by byte is deciding whether they are equal. -/
instance lawfulBEq_bytes : LawfulBEq Bytes := List.instLawfulBEq

/-- `utf8.RuneError`. -/
def runeError : Nat := 0xFFFD

/-- `utf8.RuneSelf`: the bytes below are runes of their own. -/
def runeSelf : Nat := 0x80

/-- The code points UTF-8 encodes; anything else is written as `runeError`. -/
def toValid (r : Nat) : Nat :=
  if r < 0xD800 ∨ (0xE000 ≤ r ∧ r < 0x110000) then r else runeError

/-- A continuation byte. -/
def isCont (b : UInt8) : Bool := 0x80 ≤ b.toNat && b.toNat ≤ 0xBF

/-- What a lead byte promises: how many bytes follow, and the range of the first of them
(`acceptRanges` of `unicode/utf8`). -/
def lead (b : Nat) : Option (Nat × Nat × Nat) :=
  if 0xC2 ≤ b ∧ b ≤ 0xDF then some (1, 0x80, 0xBF)
  else if b = 0xE0 then some (2, 0xA0, 0xBF)
  else if b = 0xED then some (2, 0x80, 0x9F)
  else if 0xE1 ≤ b ∧ b ≤ 0xEF then some (2, 0x80, 0xBF)
  else if b = 0xF0 then some (3, 0x90, 0xBF)
  else if b = 0xF4 then some (3, 0x80, 0x8F)
  else if 0xF1 ≤ b ∧ b ≤ 0xF3 then some (3, 0x80, 0xBF)
  else none

/-- A sequence of two to four bytes at the lead byte `b`: its rune and its width. -/
def decodeMulti (b : Nat) (rest : Bytes) : Option (Nat × Nat) :=
  match lead b, rest with
  | some (1, lo, hi), b₁ :: _ =>
    if lo ≤ b₁.toNat ∧ b₁.toNat ≤ hi then some (b % 32 * 64 + b₁.toNat % 64, 2) else none
  | some (2, lo, hi), b₁ :: b₂ :: _ =>
    if (lo ≤ b₁.toNat ∧ b₁.toNat ≤ hi) ∧ isCont b₂ then
      some (b % 16 * 4096 + b₁.toNat % 64 * 64 + b₂.toNat % 64, 3)
    else none
  | some (3, lo, hi), b₁ :: b₂ :: b₃ :: _ =>
    if (lo ≤ b₁.toNat ∧ b₁.toNat ≤ hi) ∧ isCont b₂ ∧ isCont b₃ then
      some (b % 8 * 262144 + b₁.toNat % 64 * 4096 + b₂.toNat % 64 * 64 + b₃.toNat % 64, 4)
    else none
  | _, _ => none

/-- `utf8.DecodeRune`: the first rune of a string and its width in bytes. -/
def decodeRune : Bytes → Nat × Nat
  | [] => (runeError, 0)
  | b :: rest =>
    if b.toNat < runeSelf then (b.toNat, 1)
    else (decodeMulti b.toNat rest).getD (runeError, 1)

/-- `utf8.AppendRune`: the bytes of one rune. -/
def encodeRune (r : Nat) : Bytes :=
  let v := toValid r
  if v < 0x80 then [UInt8.ofNat v]
  else if v < 0x800 then [UInt8.ofNat (0xC0 + v / 64), UInt8.ofNat (0x80 + v % 64)]
  else if v < 0x10000 then
    [UInt8.ofNat (0xE0 + v / 4096), UInt8.ofNat (0x80 + v / 64 % 64), UInt8.ofNat (0x80 + v % 64)]
  else
    [UInt8.ofNat (0xF0 + v / 262144), UInt8.ofNat (0x80 + v / 4096 % 64),
      UInt8.ofNat (0x80 + v / 64 % 64), UInt8.ofNat (0x80 + v % 64)]

/-- One rune a traversal visits, with the bytes it was read from. -/
structure RuneAt where
  rune : Nat
  raw : Bytes
  deriving DecidableEq, Repr

/-- The traversal of a string whose first `skip` bytes belong to the rune visited last. -/
def runesFrom : Nat → Bytes → List RuneAt
  | _, [] => []
  | 0, b :: s =>
    ⟨(decodeRune (b :: s)).1, (b :: s).take (decodeRune (b :: s)).2⟩ ::
      runesFrom ((decodeRune (b :: s)).2 - 1) s
  | skip + 1, _ :: s => runesFrom skip s

/-- `for _, r := range s`: the runes of a string. -/
def runes (s : Bytes) : List RuneAt := runesFrom 0 s

/-- The bytes a list of visited runes was read from. -/
def rawOf (l : List RuneAt) : Bytes := l.flatMap RuneAt.raw

/-- The bytes of a list of runes, written one after the other. -/
def encodeRunes (rs : List Nat) : Bytes := rs.flatMap encodeRune

/-- The UTF-8 bytes of a string literal. -/
def lit (s : String) : Bytes := encodeRunes (s.toList.map Char.toNat)

/-- No runes are no bytes. -/
@[simp] theorem rawOf_nil : rawOf [] = [] := rfl
/-- The bytes of a rune come before those of the others. -/
@[simp] theorem rawOf_cons (c : RuneAt) (l : List RuneAt) : rawOf (c :: l) = c.raw ++ rawOf l := rfl
/-- The bytes of two sequences of runes are those of one after the other. -/
@[simp] theorem rawOf_append (l k : List RuneAt) : rawOf (l ++ k) = rawOf l ++ rawOf k := by
  simp [rawOf]

/-! ## One rune -/

/-- What a decoded sequence takes: its width is two to four, the bytes after the lead byte are
there and are continuation bytes, and nothing past them matters. -/
theorem decodeMulti_spec {b : Nat} {rest : Bytes} {r w : Nat}
    (h : decodeMulti b rest = some (r, w)) :
    2 ≤ w ∧ w - 1 ≤ rest.length ∧ (∀ c ∈ rest.take (w - 1), isCont c) ∧
      ∀ t, decodeMulti b (rest.take (w - 1) ++ t) = some (r, w) := by
  have hlead : ∀ n lo hi, lead b = some (n, lo, hi) → 0x80 ≤ lo ∧ hi ≤ 0xBF := by
    intro n lo hi hl
    unfold lead at hl
    split_ifs at hl <;> simp only [Option.some.injEq, Prod.mk.injEq] at hl <;> omega
  unfold decodeMulti at h
  split at h
  · rename_i lo hi b₁ s hl
    split_ifs at h with hc
    obtain ⟨rfl, rfl⟩ : _ ∧ _ := by simpa using h
    have := hlead _ _ _ hl
    refine ⟨by omega, by simp, ?_, fun t => by simp [decodeMulti, hl, hc]⟩
    intro c hc'
    obtain rfl : c = b₁ := by simpa using hc'
    simp only [isCont, Bool.and_eq_true, decide_eq_true_eq]
    omega
  · rename_i lo hi b₁ b₂ s hl
    split_ifs at h with hc
    obtain ⟨rfl, rfl⟩ : _ ∧ _ := by simpa using h
    have := hlead _ _ _ hl
    refine ⟨by omega, by simp, ?_, fun t => by simp [decodeMulti, hl, hc]⟩
    intro c hc'
    rcases (by simpa using hc' : c = b₁ ∨ c = b₂) with rfl | rfl
    · simp only [isCont, Bool.and_eq_true, decide_eq_true_eq]
      omega
    · exact hc.2
  · rename_i lo hi b₁ b₂ b₃ s hl
    split_ifs at h with hc
    obtain ⟨rfl, rfl⟩ : _ ∧ _ := by simpa using h
    have := hlead _ _ _ hl
    refine ⟨by omega, by simp, ?_, fun t => by simp [decodeMulti, hl, hc]⟩
    intro c hc'
    rcases (by simpa using hc' : c = b₁ ∨ c = b₂ ∨ c = b₃) with rfl | rfl | rfl
    · simp only [isCont, Bool.and_eq_true, decide_eq_true_eq]
      omega
    · exact hc.2.1
    · exact hc.2.2
  · cases h

/-- The width of a rune, where there is one: at least one byte, and all of them are there. -/
theorem decodeRune_width {s : Bytes} (hs : s ≠ []) :
    1 ≤ (decodeRune s).2 ∧ (decodeRune s).2 ≤ s.length := by
  cases s with
  | nil => exact absurd rfl hs
  | cons b rest =>
    rw [decodeRune]
    split
    · simp
    · cases hm : decodeMulti b.toNat rest with
      | none => simp
      | some p =>
        obtain ⟨h₁, h₂, -, -⟩ := decodeMulti_spec (r := p.1) (w := p.2) hm
        simp only [Option.getD_some, List.length_cons]
        omega

/-- Cutting a string behind its first rune does not change that rune. -/
theorem decodeRune_of_append {p q : Bytes} (hp : p ≠ []) (hw : (decodeRune (p ++ q)).2 ≤ p.length) :
    decodeRune p = decodeRune (p ++ q) := by
  cases p with
  | nil => exact absurd rfl hp
  | cons b rest =>
    rw [List.cons_append] at hw ⊢
    simp only [decodeRune] at hw ⊢
    split_ifs at hw ⊢ with hb
    · rfl
    congr 1
    cases hm : decodeMulti b.toNat (rest ++ q) with
    | some x =>
      obtain ⟨r, w⟩ := x
      rw [hm] at hw
      simp only [Option.getD_some, List.length_cons] at hw
      obtain ⟨-, -, -, ht⟩ := decodeMulti_spec hm
      have := ht (rest.drop (w - 1))
      rwa [List.take_append_of_le_length (by omega), List.take_append_drop] at this
    | none =>
      -- a sequence the cut string holds is one the whole string holds
      cases hm' : decodeMulti b.toNat rest with
      | none => rfl
      | some x =>
        obtain ⟨r, w⟩ := x
        obtain ⟨-, -, -, ht⟩ := decodeMulti_spec hm'
        have := ht (rest.drop (w - 1) ++ q)
        rw [← List.append_assoc, List.take_append_drop, hm] at this
        cases this

/-- No rune reaches over a byte that continues nothing. -/
theorem decodeRune_width_le {s t : Bytes} (hs : s ≠ []) (ht : ∀ c ∈ t.head?, isCont c = false) :
    (decodeRune (s ++ t)).2 ≤ s.length := by
  cases s with
  | nil => exact absurd rfl hs
  | cons b rest =>
    rw [List.cons_append, decodeRune]
    split
    · simp
    cases hm : decodeMulti b.toNat (rest ++ t) with
    | none => simp
    | some x =>
      obtain ⟨r, w⟩ := x
      obtain ⟨h₁, h₂, hc, -⟩ := decodeMulti_spec hm
      simp only [Option.getD_some, List.length_cons]
      by_contra hlt
      cases t with
      | nil => simp only [List.append_nil] at h₂; omega
      | cons c t =>
        have hmem : c ∈ (rest ++ c :: t).take (w - 1) := by
          rw [List.take_append, List.mem_append]
          right
          obtain ⟨k, hk⟩ : ∃ k, w - 1 - rest.length = k + 1 := ⟨w - 2 - rest.length, by omega⟩
          simp [hk]
        have h := ht c (by simp)
        rw [hc c hmem] at h
        cases h

/-- A rune that was written reads back, whatever follows it. -/
theorem decodeRune_encodeRune (r : Nat) (s : Bytes) :
    decodeRune (encodeRune r ++ s) = (toValid r, (encodeRune r).length) := by
  have hv : toValid r < 0xD800 ∨ (0xE000 ≤ toValid r ∧ toValid r < 0x110000) := by
    unfold toValid runeError
    split_ifs <;> omega
  have hnat : ∀ n, n < 256 → (UInt8.ofNat n).toNat = n := fun n hn => by
    simp [Nat.mod_eq_of_lt hn]
  simp only [encodeRune]
  generalize toValid r = v at hv ⊢
  split_ifs with h₁ h₂ h₃
  · simp [decodeRune, runeSelf, hnat v (by omega), h₁]
  · have hl : lead (192 + v / 64) = some (1, 0x80, 0xBF) := by
      unfold lead; rw [if_pos (by omega)]
    simp only [List.cons_append, List.nil_append, decodeRune, runeSelf, hnat (0xC0 + v / 64) (by omega),
      decodeMulti, hl, hnat (0x80 + v % 64) (by omega), List.length_cons, List.length_nil]
    rw [if_neg (by omega), if_pos (by omega)]
    simp only [Option.getD_some, Prod.mk.injEq, and_true]
    omega
  · have hl : ∃ lo hi, lead (0xE0 + v / 4096) = some (2, lo, hi) ∧
        lo ≤ 0x80 + v / 64 % 64 ∧ 0x80 + v / 64 % 64 ≤ hi := by
      unfold lead
      split_ifs <;> first | omega | exact ⟨_, _, rfl, by omega, by omega⟩
    obtain ⟨lo, hi, hl, hlo, hhi⟩ := hl
    simp only [List.cons_append, List.nil_append, decodeRune, runeSelf, hnat (0xE0 + v / 4096) (by omega),
      decodeMulti, hl, hnat (0x80 + v / 64 % 64) (by omega), isCont, hnat (0x80 + v % 64) (by omega),
      List.length_cons, List.length_nil]
    rw [if_neg (by omega), if_pos ⟨⟨hlo, hhi⟩, by simp; omega⟩]
    simp only [Option.getD_some, Prod.mk.injEq, and_true]
    omega
  · have hl : ∃ lo hi, lead (0xF0 + v / 262144) = some (3, lo, hi) ∧
        lo ≤ 0x80 + v / 4096 % 64 ∧ 0x80 + v / 4096 % 64 ≤ hi := by
      unfold lead
      split_ifs <;> first | omega | exact ⟨_, _, rfl, by omega, by omega⟩
    obtain ⟨lo, hi, hl, hlo, hhi⟩ := hl
    simp only [List.cons_append, List.nil_append, decodeRune, runeSelf, hnat (0xF0 + v / 262144) (by omega),
      decodeMulti, hl, hnat (0x80 + v / 4096 % 64) (by omega), isCont,
      hnat (0x80 + v / 64 % 64) (by omega), hnat (0x80 + v % 64) (by omega),
      List.length_cons, List.length_nil]
    rw [if_neg (by omega), if_pos ⟨⟨hlo, hhi⟩, by simp; omega, by simp; omega⟩]
    simp only [Option.getD_some, Prod.mk.injEq, and_true]
    omega

/-- Every code point is written as one byte at least, also an invalid one. -/
theorem encodeRune_ne_nil (r : Nat) : encodeRune r ≠ [] := by
  simp only [encodeRune]
  split_ifs <;> simp

/-- A rune that is not below an ASCII one has no byte below it. -/
theorem le_of_mem_encodeRune {r n : Nat} (hr : n ≤ r) (hn : n < runeSelf) {b : UInt8}
    (hb : b ∈ encodeRune r) : n ≤ b.toNat := by
  unfold runeSelf at hn
  have hv : n ≤ toValid r ∧ (toValid r < 0xD800 ∨ (0xE000 ≤ toValid r ∧ toValid r < 0x110000)) := by
    unfold toValid runeError
    split_ifs <;> omega
  have hnat : ∀ k, k < 256 → (UInt8.ofNat k).toNat = k := fun k hk => by
    simp [Nat.mod_eq_of_lt hk]
  simp only [encodeRune] at hb
  generalize toValid r = v at hv hb
  split_ifs at hb with h₁ h₂ h₃
  · obtain rfl := List.mem_singleton.mp hb
    rw [hnat v (by omega)]
    exact hv.1
  all_goals
    simp only [List.mem_cons, List.not_mem_nil, or_false] at hb
  · rcases hb with rfl | rfl <;> rw [hnat _ (by omega)] <;> omega
  · rcases hb with rfl | rfl | rfl <;> rw [hnat _ (by omega)] <;> omega
  · rcases hb with rfl | rfl | rfl | rfl <;> rw [hnat _ (by omega)] <;> omega

/-- An ASCII byte is written as itself. -/
theorem encodeRune_ascii {c : UInt8} (hc : c.toNat < runeSelf) : encodeRune c.toNat = [c] := by
  unfold runeSelf at hc
  have hv : toValid c.toNat = c.toNat := if_pos (by omega)
  simp only [encodeRune, hv, if_pos hc, UInt8.ofNat_toNat]

/-- A sequence of several bytes is written back with as many. -/
theorem length_encodeRune_of_decodeMulti {b : Nat} {rest : Bytes} {r w : Nat}
    (h : decodeMulti b rest = some (r, w)) : (encodeRune r).length = w := by
  have hlen : ∀ n, (0x80 ≤ n ∧ n < 0x800 → (encodeRune n).length = 2) ∧
      (0x800 ≤ n ∧ n < 0xD800 ∨ 0xE000 ≤ n ∧ n < 0x10000 → (encodeRune n).length = 3) ∧
      (0x10000 ≤ n ∧ n < 0x110000 → (encodeRune n).length = 4) := by
    intro n
    refine ⟨fun hn => ?_, fun hn => ?_, fun hn => ?_⟩
    all_goals
      have hv : toValid n = n := if_pos (by omega)
      simp only [encodeRune, hv]
      split_ifs <;> first | rfl | omega
  unfold decodeMulti at h
  split at h
  · rename_i lo hi b₁ s hl
    split_ifs at h with hc
    obtain ⟨rfl, rfl⟩ : _ ∧ _ := by simpa using h
    refine (hlen _).1 ?_
    unfold lead at hl
    split_ifs at hl <;> simp only [Option.some.injEq, Prod.mk.injEq] at hl <;> omega
  · rename_i lo hi b₁ b₂ s hl
    split_ifs at h with hc
    obtain ⟨rfl, rfl⟩ : _ ∧ _ := by simpa using h
    refine (hlen _).2.1 ?_
    unfold lead at hl
    split_ifs at hl <;> simp only [Option.some.injEq, Prod.mk.injEq] at hl <;> omega
  · rename_i lo hi b₁ b₂ b₃ s hl
    split_ifs at h with hc
    obtain ⟨rfl, rfl⟩ : _ ∧ _ := by simpa using h
    refine (hlen _).2.2 ?_
    unfold lead at hl
    split_ifs at hl <;> simp only [Option.some.injEq, Prod.mk.injEq] at hl <;> omega
  · cases h

/-- An ASCII byte of a written rune is the rune. -/
theorem eq_of_mem_encodeRune {r : Nat} {b : UInt8} (hb : b ∈ encodeRune r)
    (hascii : b.toNat < runeSelf) : b.toNat = r := by
  unfold runeSelf at hascii
  have hv : toValid r = r ∨ toValid r = runeError := by
    unfold toValid
    split_ifs
    · exact .inl rfl
    · exact .inr rfl
  have hbound : toValid r < 0x110000 := by
    unfold toValid runeError
    split_ifs <;> omega
  have hnat : ∀ k, k < 256 → (UInt8.ofNat k).toNat = k := fun k hk => by
    simp [Nat.mod_eq_of_lt hk]
  simp only [encodeRune] at hb
  unfold runeError at hv
  generalize toValid r = v at hv hbound hb
  split_ifs at hb with h₁ h₂ h₃
  · obtain rfl := List.mem_singleton.mp hb
    rw [hnat v (by omega)]
    omega
  all_goals
    -- every byte of a longer sequence is at least 0x80
    simp only [List.mem_cons, List.not_mem_nil, or_false] at hb
  · rcases hb with rfl | rfl <;> rw [hnat _ (by omega)] at hascii <;> omega
  · rcases hb with rfl | rfl | rfl <;> rw [hnat _ (by omega)] at hascii <;> omega
  · rcases hb with rfl | rfl | rfl | rfl <;> rw [hnat _ (by omega)] at hascii <;> omega

/-- The rune a string starts with is written back with the bytes it was read from, an invalid byte
with three. -/
theorem length_encodeRune_decodeRune {s : Bytes} (hs : s ≠ []) :
    (encodeRune (decodeRune s).1).length =
      (decodeRune s).2 + if decodeRune s = (runeError, 1) then 2 else 0 := by
  cases s with
  | nil => exact absurd rfl hs
  | cons b rest =>
    by_cases hascii : b.toNat < runeSelf
    · have hrune : decodeRune (b :: rest) = (b.toNat, 1) := if_pos hascii
      unfold runeSelf at hascii
      have hne : (b.toNat, 1) ≠ (runeError, 1) := by
        rw [Ne, Prod.mk.injEq, runeError]
        omega
      have hv : toValid b.toNat = b.toNat := if_pos (by omega)
      rw [hrune, if_neg hne, encodeRune, hv, if_pos hascii]
      rfl
    · have hrune : decodeRune (b :: rest) = (decodeMulti b.toNat rest).getD (runeError, 1) :=
        if_neg hascii
      rw [hrune]
      cases hmulti : decodeMulti b.toNat rest with
      | none => rfl
      | some q =>
        obtain ⟨r, w⟩ := q
        have hne : (r, w) ≠ (runeError, 1) := by
          have := (decodeMulti_spec hmulti).1
          rw [Ne, Prod.mk.injEq]
          omega
        rw [Option.getD_some, if_neg hne]
        exact length_encodeRune_of_decodeMulti hmulti

/-- A rune below `runeSelf` is read from the one byte it is. -/
theorem eq_cons_of_decodeRune {s : Bytes} {b : UInt8} (hs : s ≠ []) (hb : b.toNat < runeSelf)
    (h : (decodeRune s).1 = b.toNat) : ∃ t, s = b :: t := by
  cases s with
  | nil => exact absurd rfl hs
  | cons a rest =>
    by_cases hascii : a.toNat < runeSelf
    · have hrune : decodeRune (a :: rest) = (a.toNat, 1) := if_pos hascii
      rw [hrune] at h
      exact ⟨rest, by rw [UInt8.toNat.inj h]⟩
    · have hrune : decodeRune (a :: rest) = (decodeMulti a.toNat rest).getD (runeError, 1) :=
        if_neg hascii
      rw [hrune] at h
      unfold runeSelf at hb
      cases hmulti : decodeMulti a.toNat rest with
      | none =>
        rw [hmulti, Option.getD_none, runeError] at h
        omega
      | some q =>
        -- a rune of several bytes is written with several
        obtain ⟨r, w⟩ := q
        have h : r = b.toNat := by rwa [hmulti] at h
        have hwidth := (decodeMulti_spec hmulti).1
        rw [← length_encodeRune_of_decodeMulti hmulti, h, encodeRune,
          show toValid b.toNat = b.toNat from if_pos (by omega), if_pos hb] at hwidth
        simp at hwidth

/-! ## The traversal -/

/-- An empty text has no runes. -/
@[simp] theorem runes_nil : runes [] = [] := rfl

/-- Reading on from an offset is reading what is left. -/
theorem runesFrom_eq : ∀ (k : Nat) (s : Bytes), runesFrom k s = runes (s.drop k)
  | 0, _ => rfl
  | _ + 1, [] => rfl
  | k + 1, _ :: s => runesFrom_eq k s

/-- The traversal of a non-empty string: its first rune, then the string behind it. -/
theorem runes_of_ne_nil {s : Bytes} (hs : s ≠ []) :
    runes s = ⟨(decodeRune s).1, s.take (decodeRune s).2⟩ :: runes (s.drop (decodeRune s).2) := by
  have hw := (decodeRune_width hs).1
  cases s with
  | nil => exact absurd rfl hs
  | cons b s =>
    obtain ⟨k, hk⟩ : ∃ k, (decodeRune (b :: s)).2 = k + 1 := ⟨(decodeRune (b :: s)).2 - 1, by omega⟩
    rw [runes, runesFrom, runesFrom_eq, hk]
    rfl

/-- Induction along a traversal. -/
theorem runes_induction {P : Bytes → Prop} (nil : P [])
    (step : ∀ s, s ≠ [] → P (s.drop (decodeRune s).2) → P s) (s : Bytes) : P s := by
  induction hn : s.length using Nat.strong_induction_on generalizing s with
  | _ n ih =>
    by_cases hs : s = []
    · exact hs ▸ nil
    · have hw := decodeRune_width hs
      exact step s hs (ih _ (by rw [← hn, List.length_drop]; omega) _ rfl)

/-- A traversal reads every byte once, in order. -/
@[simp] theorem rawOf_runes (s : Bytes) : rawOf (runes s) = s := by
  induction s using runes_induction with
  | nil => rfl
  | step s hs ih => rw [runes_of_ne_nil hs, rawOf_cons, ih, List.take_append_drop]

/-- A string splits before a byte that continues nothing, and each half is visited alone. -/
theorem runes_append (s : Bytes) {t : Bytes} (ht : ∀ c ∈ t.head?, isCont c = false) :
    runes (s ++ t) = runes s ++ runes t := by
  induction s using runes_induction with
  | nil => rfl
  | step s hs ih =>
    have hle := decodeRune_width_le hs ht
    have hd := decodeRune_of_append hs hle
    rw [← hd] at hle
    rw [runes_of_ne_nil (by simp [hs] : s ++ t ≠ []), runes_of_ne_nil hs, ← hd,
      List.take_append_of_le_length hle, List.drop_append_of_le_length hle, ih, List.cons_append]

/-- The traversal of an ASCII byte and what follows it. -/
theorem runes_ascii_cons {c : UInt8} (hc : c.toNat < runeSelf) (s : Bytes) :
    runes (c :: s) = ⟨c.toNat, [c]⟩ :: runes s := by
  rw [runes_of_ne_nil (by simp)]
  simp [decodeRune, hc]

/-- A string splits around an ASCII byte. -/
theorem runes_append_ascii (s : Bytes) {c : UInt8} (hc : c.toNat < runeSelf) (t : Bytes) :
    runes (s ++ c :: t) = runes s ++ ⟨c.toNat, [c]⟩ :: runes t := by
  rw [runes_append, runes_ascii_cons hc]
  intro d hd
  obtain rfl : c = d := by simpa using hd
  simp only [runeSelf] at hc
  simp only [isCont, Bool.and_eq_false_iff, decide_eq_false_iff_not]
  omega

/-- What is written rune by rune reads back rune by rune. -/
theorem runes_encodeRunes (rs : List Nat) :
    runes (encodeRunes rs) = rs.map fun r => ⟨toValid r, encodeRune r⟩ := by
  induction rs with
  | nil => rfl
  | cons r rs ih =>
    have hd := decodeRune_encodeRune r (encodeRunes rs)
    have hne : encodeRune r ++ encodeRunes rs ≠ [] := by simp [encodeRune_ne_nil]
    have hcons : encodeRunes (r :: rs) = encodeRune r ++ encodeRunes rs := rfl
    rw [hcons, runes_of_ne_nil hne, hd, List.take_left, List.drop_left, ih, List.map_cons]

/-! ## Cutting a traversal -/

/-- The runes `l` are what their own bytes are visited as. -/
def Canonical (l : List RuneAt) : Prop := runes (rawOf l) = l

/-- What is read of a text is canonical: its bytes are read in the same way again. -/
theorem canonical_runes (s : Bytes) : Canonical (runes s) := by
  rw [Canonical, rawOf_runes]

/-- What a canonical list says of its first rune. -/
theorem Canonical.cons_inv {c : RuneAt} {l : List RuneAt} (h : Canonical (c :: l)) :
    decodeRune (c.raw ++ rawOf l) = (c.rune, c.raw.length) ∧ c.raw ≠ [] ∧ Canonical l := by
  rw [Canonical, rawOf_cons] at h
  have hne : c.raw ++ rawOf l ≠ [] := by
    intro h0
    rw [h0] at h
    cases h
  rw [runes_of_ne_nil hne] at h
  obtain ⟨hc, hl⟩ := List.cons_eq_cons.mp h
  have hw := decodeRune_width hne
  have hraw : c.raw = (c.raw ++ rawOf l).take (decodeRune (c.raw ++ rawOf l)).2 :=
    (congrArg RuneAt.raw hc).symm
  have hlen : (decodeRune (c.raw ++ rawOf l)).2 = c.raw.length := by
    have := congrArg List.length hraw
    rw [List.length_take] at this
    omega
  refine ⟨Prod.ext (congrArg RuneAt.rune hc) hlen, ?_, ?_⟩
  · intro h0
    have : c.raw.length = 0 := by rw [h0, List.length_nil]
    omega
  · rwa [hlen, List.drop_left] at hl

/-- The end of a canonical sequence is canonical. -/
theorem Canonical.right {l k : List RuneAt} (h : Canonical (l ++ k)) : Canonical k := by
  induction l with
  | nil => exact h
  | cons c l ih => exact ih h.cons_inv.2.2

/-- So is its beginning, since how a rune is read does not depend on those behind it. -/
theorem Canonical.left {l k : List RuneAt} (h : Canonical (l ++ k)) : Canonical l := by
  induction l with
  | nil => exact runes_nil
  | cons c l ih =>
    obtain ⟨hd, hne, hl⟩ := Canonical.cons_inv (l := l ++ k) h
    have hp : c.raw ++ rawOf l ≠ [] := by simp [hne]
    have hd' : decodeRune (c.raw ++ rawOf l) = (c.rune, c.raw.length) := by
      rw [rawOf_append, ← List.append_assoc] at hd
      rw [← hd]
      exact decodeRune_of_append hp (by rw [hd]; simp)
    have hraw := ih hl
    rw [Canonical, rawOf_cons, runes_of_ne_nil hp, hd', List.take_left, List.drop_left, hraw]

/-- A run of visited runes, cut out of its string, is visited the same. -/
theorem Canonical.inner {l k : List RuneAt} (h : Canonical k) (hl : l <:+: k) : Canonical l := by
  obtain ⟨p, q, rfl⟩ := hl
  exact h.left.right

/-! ## Bytes that are not UTF-8 -/

/-- A byte that belongs to no well-formed encoding: it is visited as `runeError`, with a width of
one. -/
def RuneAt.invalid (c : RuneAt) : Bool := c.rune == runeError && c.raw.length == 1

/-- How many bytes of a string belong to no well-formed encoding. -/
def invalidBytes (s : Bytes) : Nat := (runes s).countP RuneAt.invalid

/-- A visited rune is written back with the bytes it was read from, an invalid byte with three. -/
theorem length_encodeRune_of_mem_runes {s : Bytes} : ∀ c ∈ runes s,
    (encodeRune c.rune).length = c.raw.length + if c.invalid then 2 else 0 := by
  induction s using runes_induction with
  | nil => simp [runes, runesFrom]
  | step s hs ih =>
    rw [runes_of_ne_nil hs, List.forall_mem_cons]
    refine ⟨?_, ih⟩
    have hwidth := (decodeRune_width hs).2
    rw [length_encodeRune_decodeRune hs]
    simp only [RuneAt.invalid, List.length_take_of_le hwidth, Bool.and_eq_true, beq_iff_eq, Prod.ext_iff]

/-- Writing the runes of a string back takes two bytes more for every invalid byte. -/
theorem length_encodeRunes_runes (s : Bytes) :
    (encodeRunes ((runes s).map RuneAt.rune)).length = s.length + 2 * invalidBytes s := by
  have hsum : ∀ l : List RuneAt, (∀ c ∈ l, (encodeRune c.rune).length =
      c.raw.length + if c.invalid then 2 else 0) →
      (encodeRunes (l.map RuneAt.rune)).length = (rawOf l).length + 2 * l.countP RuneAt.invalid := by
    intro l hl
    induction l with
    | nil => rfl
    | cons c l ih =>
      obtain ⟨hc, hrest⟩ := List.forall_mem_cons.mp hl
      have ih' := ih hrest
      rw [encodeRunes] at ih' ⊢
      rw [List.map_cons, List.flatMap_cons, List.length_append, hc, ih', rawOf_cons,
        List.length_append, List.countP_cons]
      split_ifs <;> omega
  have hall := hsum (runes s) length_encodeRune_of_mem_runes
  rwa [rawOf_runes] at hall

end Go
