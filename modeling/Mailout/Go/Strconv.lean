import Mailout.Go.Utf8
import Mathlib.Data.Nat.Digits.Lemmas

/-!
# Decimal numbers

`formatNat` is the decimal text of a number, as `%d` prints it. It can be read back
(`parseNat_formatNat`), so no two numbers have one text, and it is made of digits. `formatInt` puts a
sign in front.
-/

namespace Go

/-- The byte of a decimal digit. -/
def digitByte (d : Nat) : UInt8 := UInt8.ofNat (0x30 + d)

/-- `fmt.Sprintf("%d", n)`. -/
def formatNat (n : Nat) : Bytes :=
  if n = 0 then [digitByte 0] else ((Nat.digits 10 n).map digitByte).reverse

/-- The number a decimal text stands for. -/
def parseNat (s : Bytes) : Nat := Nat.ofDigits 10 (s.reverse.map fun b => b.toNat - 0x30)

/-- The digits are written as ten bytes in a row. -/
theorem digitByte_toNat {d : Nat} (h : d < 10) : (digitByte d).toNat = 0x30 + d := by
  have hlt : 0x30 + d < 2 ^ 8 := by omega
  rw [digitByte, UInt8.toNat_ofNat', Nat.mod_eq_of_lt hlt]

/-- A number is read back as it was written. -/
theorem parseNat_formatNat (n : Nat) : parseNat (formatNat n) = n := by
  unfold formatNat
  split_ifs with h
  · rw [h]
    rfl
  · have hdigits : (Nat.digits 10 n).map (fun d => (digitByte d).toNat - 0x30) = Nat.digits 10 n := by
      conv_rhs => rw [← List.map_id (Nat.digits 10 n)]
      refine List.map_congr_left fun d hd => ?_
      rw [digitByte_toNat (Nat.digits_lt_base (by decide) hd)]
      exact Nat.add_sub_cancel_left ..
    rw [parseNat, List.reverse_reverse, List.map_map]
    show Nat.ofDigits 10 ((Nat.digits 10 n).map fun d => (digitByte d).toNat - 0x30) = n
    rw [hdigits, Nat.ofDigits_digits]

/-- Two numbers with one decimal text are one number. -/
theorem formatNat_inj {n m : Nat} (h : formatNat n = formatNat m) : n = m := by
  rw [← parseNat_formatNat n, h, parseNat_formatNat]

/-- A decimal text has digits only. -/
theorem mem_formatNat {n : Nat} {c : UInt8} (h : c ∈ formatNat n) :
    0x30 ≤ c.toNat ∧ c.toNat ≤ 0x39 := by
  have hdigit : ∃ d < 10, c = digitByte d := by
    unfold formatNat at h
    split_ifs at h with hn
    · exact ⟨0, by decide, List.mem_singleton.mp h⟩
    · obtain ⟨d, hd, rfl⟩ := List.mem_map.mp (List.mem_reverse.mp h)
      exact ⟨d, Nat.digits_lt_base (by decide) hd, rfl⟩
  obtain ⟨d, hd, rfl⟩ := hdigit
  rw [digitByte_toNat hd]
  omega

/-- `fmt.Sprintf("%d", n)` of a signed number. -/
def formatInt (n : Int) : Bytes :=
  if n < 0 then lit "-" ++ formatNat n.natAbs else formatNat n.natAbs

/-- An integer that is not negative is written without a sign. -/
theorem formatInt_of_nonneg {n : Int} (h : 0 ≤ n) : formatInt n = formatNat n.toNat := by
  have habs : n.natAbs = n.toNat := by omega
  rw [formatInt, if_neg (not_lt.mpr h), habs]

/-- The text of a signed number has digits and a sign only. -/
theorem mem_formatInt {n : Int} {c : UInt8} (h : c ∈ formatInt n) :
    c = 0x2D ∨ 0x30 ≤ c.toNat ∧ c.toNat ≤ 0x39 := by
  unfold formatInt at h
  split_ifs at h
  · rcases List.mem_append.mp h with hsign | hdigit
    · exact .inl (List.mem_singleton.mp hsign)
    · exact .inr (mem_formatNat hdigit)
  · exact .inr (mem_formatNat h)

/-- A number without a sign is not written with one. -/
theorem minus_append_ne_formatNat (s : Bytes) (n : Nat) : lit "-" ++ s ≠ formatNat n := by
  intro h
  have hmem : (0x2D : UInt8) ∈ formatNat n := h ▸ List.mem_append_left s (by decide)
  exact absurd (mem_formatNat hmem).1 (by decide)

/-- Two signed numbers with one text are one number. -/
theorem formatInt_inj {n m : Int} (h : formatInt n = formatInt m) : n = m := by
  unfold formatInt at h
  split_ifs at h with hn hm hm
  · have habs := formatNat_inj (List.append_cancel_left h)
    omega
  · exact absurd h (minus_append_ne_formatNat _ _)
  · exact absurd h.symm (minus_append_ne_formatNat _ _)
  · have habs := formatNat_inj h
    omega

/-- The digits of a decimal number, `none` if there are none or one of them is not a digit. -/
def parseDigits (s : Bytes) : Option Nat :=
  if s ≠ [] ∧ s.all (fun b => 0x30 ≤ b && b ≤ 0x39) then some (parseNat s) else none

/-- `strconv.Atoi`, `none` where it returns an error. -/
def atoi (s : Bytes) : Option Int :=
  let value : Option Int := match s with
    | 0x2B :: ds => (parseDigits ds).map fun n => (n : Int)
    | 0x2D :: ds => (parseDigits ds).map fun n => -(n : Int)
    | ds => (parseDigits ds).map fun n => (n : Int)
  value.filter fun n => -2 ^ 63 ≤ n ∧ n < 2 ^ 63

/-- Every number is written with a digit at least. -/
theorem formatNat_ne_nil (n : Nat) : formatNat n ≠ [] := by
  intro h
  have hn := parseNat_formatNat n
  rw [h] at hn
  subst hn
  cases h

/-- Only zero is written with a leading zero. -/
theorem formatNat_head {n : Nat} (hn : n ≠ 0) : ∃ c s, formatNat n = c :: s ∧ c ≠ 0x30 := by
  have hne : Nat.digits 10 n ≠ [] := Nat.digits_ne_nil_iff_ne_zero.mpr hn
  have hlast := Nat.getLast_digit_ne_zero 10 hn
  have hlt : (Nat.digits 10 n).getLast hne < 10 :=
    Nat.digits_lt_base (by decide) (List.getLast_mem hne)
  refine ⟨digitByte ((Nat.digits 10 n).getLast hne),
    ((Nat.digits 10 n).dropLast.map digitByte).reverse, ?_, ?_⟩
  · rw [formatNat, if_neg hn]
    conv_lhs => rw [← List.dropLast_append_getLast hne]
    simp
  · intro h
    have hbyte := digitByte_toNat hlt
    rw [h] at hbyte
    have hzero : (0x30 : UInt8).toNat = 0x30 := rfl
    omega

/-- The digits of a number are all digits. -/
theorem parseDigits_formatNat (n : Nat) : parseDigits (formatNat n) = some n := by
  have hall : (formatNat n).all (fun b => 0x30 ≤ b && b ≤ 0x39) = true := by
    rw [List.all_eq_true]
    intro c hc
    have hdigit := mem_formatNat hc
    simpa [UInt8.le_iff_toNat_le] using hdigit
  rw [parseDigits, if_pos ⟨formatNat_ne_nil n, hall⟩, parseNat_formatNat]

/-- A minus sign makes the number negative, down to the least `int64`. -/
theorem atoi_minus {ds : Bytes} {m : Nat} (h : parseDigits ds = some m) (hm : m ≤ 2 ^ 63) :
    atoi (0x2D :: ds) = some (-(m : Int)) := by
  simp only [atoi, h]
  simp [Option.filter]
  omega

/-- Without a sign the number must be below the bound of an `int64`. -/
theorem atoi_unsigned {c : UInt8} {ds : Bytes} {m : Nat} (hc : 0x30 ≤ c.toNat)
    (h : parseDigits (c :: ds) = some m) (hm : m < 2 ^ 63) : atoi (c :: ds) = some (m : Int) := by
  have hplus : c ≠ 0x2B := by rintro rfl; exact absurd hc (by decide)
  have hminus : c ≠ 0x2D := by rintro rfl; exact absurd hc (by decide)
  simp [atoi, hplus, hminus, h, Option.filter]
  omega

/-- What is printed is read back. -/
theorem atoi_formatInt {n : Int} (hlo : -2 ^ 63 ≤ n) (hhi : n < 2 ^ 63) :
    atoi (formatInt n) = some n := by
  have hdigits := parseDigits_formatNat n.natAbs
  unfold formatInt
  split_ifs with hneg
  · have habs : -(n.natAbs : Int) = n := by omega
    have hread := atoi_minus hdigits (by omega)
    rwa [habs] at hread
  · have habs : (n.natAbs : Int) = n := by omega
    cases hs : formatNat n.natAbs with
    | nil => exact absurd hs (formatNat_ne_nil _)
    | cons c s =>
      have hc := mem_formatNat (hs ▸ List.mem_cons_self : c ∈ formatNat n.natAbs)
      rw [hs] at hdigits
      rw [atoi_unsigned hc.1 hdigits (by omega), habs]

end Go
