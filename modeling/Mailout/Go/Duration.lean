import Mailout.Go.Scan
import Mathlib.Data.Int.Log
import Mathlib.Data.Rat.Floor
import Mathlib.Algebra.Order.Field.Power

/-!
# Durations

`time.Duration` as text: `formatDuration` is its `String` method and `parseDuration` is
`time.ParseDuration`, which multiplies fractions out in `float64`. A fraction that was printed has at most
as many digits as its unit has zeros, so that the floating-point product is exact, and every duration is
read back as it was printed (`parseDuration_formatDuration`).
-/

namespace Go

/-! ## `float64` -/

/-- The nearest integer, of two that are equally near the even one. -/
def roundEven (x : ℚ) : ℤ :=
  if x - ⌊x⌋ < 1 / 2 then ⌊x⌋
  else if 1 / 2 < x - ⌊x⌋ then ⌊x⌋ + 1
  else if ⌊x⌋ % 2 = 0 then ⌊x⌋
  else ⌊x⌋ + 1

/-- The `float64` nearest to a number that is not negative and far from both ends of the range. -/
def float64 (x : ℚ) : ℚ := roundEven (x / 2 ^ (Int.log 2 x - 52)) * 2 ^ (Int.log 2 x - 52)

/-- An integer is not rounded. -/
theorem roundEven_intCast (n : ℤ) : roundEven n = n := by
  simp [roundEven]

/-- An integer of 53 bits is a `float64`. -/
theorem float64_natCast {n : Nat} (h : n < 2 ^ 53) : float64 n = n := by
  have hlog : Int.log 2 (n : ℚ) - 52 ≤ 0 := by
    rw [Int.log_natCast]
    rcases Nat.eq_zero_or_pos n with rfl | hn
    · simp
    · have := Nat.log_lt_of_lt_pow (b := 2) hn.ne' h
      omega
  obtain ⟨k, hk⟩ := Int.eq_ofNat_of_zero_le (Int.neg_nonneg.mpr hlog)
  have hexp : Int.log 2 (n : ℚ) - 52 = -(k : ℤ) := by omega
  have hint : (n : ℚ) / 2 ^ (-(k : ℤ)) = ((n * 2 ^ k : ℤ) : ℚ) := by
    rw [zpow_neg, div_inv_eq_mul, zpow_natCast]
    push_cast
    rfl
  rw [float64, hexp, hint, roundEven_intCast]
  push_cast
  rw [zpow_neg, zpow_natCast, mul_assoc, mul_inv_cancel₀ (by positivity), mul_one]

/-! ## Printing -/

/-- The loop of `fmtFrac`: `n` digits of `v` from the right, without the zeros at the end. The result
has what is left of `v` as well, and whether anything was printed. -/
def fmtFracLoop : Nat → Nat → Bytes → Bool → Bytes × Bool × Nat
  | 0, v, out, print => (out, print, v)
  | n + 1, v, out, print =>
    let print := print || v % 10 != 0
    fmtFracLoop n (v / 10) (if print then digitByte (v % 10) :: out else out) print

/-- `fmtFrac`, in front of `tail`: the fraction `v / 10 ** prec`, and the integer part of it. -/
def fmtFrac (tail : Bytes) (v prec : Nat) : Bytes × Nat :=
  match fmtFracLoop prec v tail false with
  | (out, print, v) => (if print then 0x2E :: out else out, v)

/-- A number of some unit, with a fraction of `prec` digits. -/
def fmtUnit (v prec : Nat) (unit : Bytes) : Bytes :=
  formatNat (fmtFrac unit v prec).2 ++ (fmtFrac unit v prec).1

/-- A duration of a second or more: hours and minutes are left out while they are zero. -/
def fmtClock (u : Nat) : Bytes :=
  let seconds := fmtFrac (lit "s") u 9
  let text := formatNat (seconds.2 % 60) ++ seconds.1
  if seconds.2 / 60 = 0 then text
  else
    let text := formatNat (seconds.2 / 60 % 60) ++ lit "m" ++ text
    if seconds.2 / 60 / 60 = 0 then text
    else formatNat (seconds.2 / 60 / 60) ++ lit "h" ++ text

/-- The text of a duration without its sign. -/
def fmtMagnitude (u : Nat) : Bytes :=
  if u < 10 ^ 9 then
    if u = 0 then lit "0s"
    else if u < 10 ^ 3 then fmtUnit u 0 (lit "ns")
    else if u < 10 ^ 6 then fmtUnit u 3 (lit "µs")
    else fmtUnit u 6 (lit "ms")
  else fmtClock u

/-- `time.Duration.String`, of a number of nanoseconds. -/
def formatDuration (d : Int) : Bytes :=
  if d < 0 then lit "-" ++ fmtMagnitude d.natAbs else fmtMagnitude d.natAbs

/-! ## Parsing -/

/-- What `time.ParseDuration` reports. -/
inductive DurationError where
  | invalid
  | missingUnit
  | unknownUnit (unit : Bytes)
  deriving DecidableEq, Repr

/-- `leadingInt`, after the value `x`; `none` is its overflow. -/
def leadingInt (x : Nat) : Bytes → Option (Nat × Bytes)
  | [] => some (x, [])
  | c :: s =>
    if isDigit c then
      if 2 ^ 63 / 10 < x then none
      else if 2 ^ 63 < x * 10 + (c.toNat - 0x30) then none
      else leadingInt (x * 10 + (c.toNat - 0x30)) s
    else some (x, c :: s)

/-- `leadingFraction`, after the value `x` with its scale: past an overflow the digits are skipped. -/
def leadingFraction (x : Nat) (scale : ℚ) (overflow : Bool) : Bytes → Nat × ℚ × Bytes
  | [] => (x, scale, [])
  | c :: s =>
    if isDigit c then
      if overflow || (2 ^ 63 - 1) / 10 < x || 2 ^ 63 < x * 10 + (c.toNat - 0x30) then
        leadingFraction x scale true s
      else leadingFraction (x * 10 + (c.toNat - 0x30)) (float64 (scale * 10)) false s
    else (x, scale, c :: s)

/-- The bytes a number may start with. -/
def numberByte (c : UInt8) : Bool := c == 0x2E || isDigit c

/-- `unitMap`, in nanoseconds. -/
def unitMap : List (Bytes × Nat) := [
  (lit "ns", 1),
  (lit "us", 10 ^ 3),
  (lit "µs", 10 ^ 3),
  (lit "μs", 10 ^ 3),
  (lit "ms", 10 ^ 6),
  (lit "s", 10 ^ 9),
  (lit "m", 60 * 10 ^ 9),
  (lit "h", 3600 * 10 ^ 9)]

/-- The fraction behind a number: its digits, their scale, what is left and whether it had a digit. -/
def cutFraction : Bytes → Nat × ℚ × Bytes × Bool
  | 0x2E :: s =>
    match leadingFraction 0 1 false s with
    | (f, scale, rest) => (f, scale, rest, rest.length != s.length)
  | s => (0, 1, s, false)

/-- The nanoseconds of `v` units and a fraction of one. -/
def unitValue (v f : Nat) (scale : ℚ) (unit : Nat) : Except DurationError Nat :=
  if 2 ^ 63 / unit < v then .error .invalid
  else if f = 0 then .ok (v * unit)
  else
    let v := v * unit + ⌊float64 (float64 f * float64 (float64 unit / scale))⌋.toNat
    if 2 ^ 63 < v then .error .invalid else .ok v

/-- One round of the loop of `time.ParseDuration`: a number with its unit, and what is left. -/
def parseSegment (s : Bytes) : Except DurationError (Nat × Bytes) :=
  if ¬ s.head?.any numberByte then .error .invalid
  else
    match leadingInt 0 s with
    | none => .error .invalid
    | some (v, t) =>
      match cutFraction t with
      | (f, scale, r, post) =>
        if t.length = s.length ∧ ¬ post then .error .invalid
        else if r.takeWhile (!numberByte ·) = [] then .error .missingUnit
        else
          match unitMap.lookup (r.takeWhile (!numberByte ·)) with
          | none => .error (.unknownUnit (r.takeWhile (!numberByte ·)))
          | some unit => (unitValue v f scale unit).map fun v => (v, r.dropWhile (!numberByte ·))

/-- The loop of `time.ParseDuration`, of at most `rounds` rounds. The sum is a `uint64`. -/
def parseSegments : Nat → Nat → Bytes → Except DurationError Nat
  | _, d, [] => .ok d
  | 0, _, _ :: _ => .error .invalid
  | rounds + 1, d, c :: s =>
    match parseSegment (c :: s) with
    | .error e => .error e
    | .ok (v, rest) =>
      if 2 ^ 63 < (d + v) % 2 ^ 64 then .error .invalid
      else parseSegments rounds ((d + v) % 2 ^ 64) rest

/-- `time.ParseDuration`. -/
def parseDuration (s : Bytes) : Except DurationError Int :=
  let (sign, t) := cutSign s
  if t = lit "0" then .ok 0
  else if t = [] then .error .invalid
  else do
    -- every round takes a byte at least
    let d ← parseSegments t.length 0 t
    if sign = [0x2D] then .ok (-d)
    else if 2 ^ 63 - 1 < d then .error .invalid
    else .ok d

-- a sum that wraps around is not noticed
example : parseDuration (lit "9223372036854775808ns9223372036854775808ns") = .ok 0 := by
  decide +kernel

/-! ## What is printed is read -/

/-- The last `k` decimal digits of a number. -/
def fixedDigits : Nat → Nat → Bytes
  | 0, _ => []
  | k + 1, v => fixedDigits k (v / 10) ++ [digitByte (v % 10)]

/-- A digit is written as a digit. -/
theorem isDigit_digitByte {d : Nat} (h : d < 10) : isDigit (digitByte d) = true := by
  rw [isDigit_iff, digitByte_toNat h]
  omega

/-- A digit is read back from its byte. -/
theorem digitByte_value {d : Nat} (h : d < 10) : (digitByte d).toNat - 0x30 = d := by
  rw [digitByte_toNat h]
  omega

/-- Once a digit was printed, all that are left of it are. -/
theorem fmtFracLoop_true : ∀ (n v : Nat) (out : Bytes),
    fmtFracLoop n v out true = (fixedDigits n v ++ out, true, v / 10 ^ n)
  | 0, v, out => by simp [fmtFracLoop, fixedDigits]
  | n + 1, v, out => by
    simp only [fmtFracLoop, Bool.true_or, if_true, fmtFracLoop_true n]
    rw [fixedDigits, List.append_assoc, List.singleton_append, Nat.div_div_eq_div_mul,
      Nat.pow_succ']

/-- The text of a fraction `m / 10 ** prec` below one: nothing, or a point and the digits up to the
last that is not zero. -/
inductive FracText (prec m : Nat) : Bytes → Prop
  | zero : m = 0 → FracText prec m []
  | digits {k w : Nat} : k ≤ prec → 0 < w → w < 10 ^ k → m = w * 10 ^ (prec - k) →
      FracText prec m (0x2E :: fixedDigits k w)

/-- Of a number only the digits that are written count. -/
theorem fixedDigits_mod : ∀ (k v : Nat), fixedDigits k (v % 10 ^ k) = fixedDigits k v
  | 0, _ => rfl
  | k + 1, v => by
    have hdiv : v % 10 ^ (k + 1) / 10 = v / 10 % 10 ^ k := by
      rw [Nat.pow_succ', Nat.mod_mul_right_div_self]
    have hmod : v % 10 ^ (k + 1) % 10 = v % 10 :=
      Nat.mod_mod_of_dvd _ (Dvd.intro_left (10 ^ k) (Nat.pow_succ ..).symm)
    rw [fixedDigits, hdiv, hmod, fixedDigits_mod k]
    rfl

/-- What the loop prints while it has seen zeros only. -/
theorem fmtFracLoop_false : ∀ (n v : Nat) (out : Bytes),
    (v % 10 ^ n = 0 ∧ fmtFracLoop n v out false = (out, false, v / 10 ^ n)) ∨
      ∃ k ≤ n, ∃ w, 0 < w % 10 ^ k ∧ v % 10 ^ n = w % 10 ^ k * 10 ^ (n - k) ∧
        fmtFracLoop n v out false = (fixedDigits k w ++ out, true, v / 10 ^ n)
  | 0, v, out => .inl ⟨Nat.mod_one v, by simp [fmtFracLoop]⟩
  | n + 1, v, out => by
    have hmod : v % 10 ^ (n + 1) = v % 10 + 10 * (v / 10 % 10 ^ n) := by
      rw [Nat.pow_succ', Nat.mod_mul]
    have hdiv : v / 10 ^ (n + 1) = v / 10 / 10 ^ n := by
      rw [Nat.pow_succ', Nat.div_div_eq_div_mul]
    by_cases hdigit : v % 10 = 0
    · have hloop : fmtFracLoop (n + 1) v out false = fmtFracLoop n (v / 10) out false := by
        simp [fmtFracLoop, hdigit]
      rcases fmtFracLoop_false n (v / 10) out with ⟨hzero, heq⟩ | ⟨k, hk, w, hw, hval, heq⟩
      · exact .inl ⟨by rw [hmod, hdigit, hzero], by rw [hloop, heq, hdiv]⟩
      · refine .inr ⟨k, Nat.le_succ_of_le hk, w, hw, ?_, by rw [hloop, heq, hdiv]⟩
        rw [hmod, hdigit, hval, Nat.succ_sub hk, Nat.pow_succ]
        ring
    · -- the first digit that is printed: nothing is left out from here on
      refine .inr ⟨n + 1, le_rfl, v, ?_, by simp, ?_⟩
      · rw [hmod]
        omega
      · have hprint : (false || v % 10 != 0) = true := by simp [hdigit]
        simp only [fmtFracLoop, hprint, if_true, fmtFracLoop_true]
        rw [fixedDigits, hdiv, List.append_assoc, List.singleton_append]

/-- `fmtFrac` writes the last digits of a number as a fraction, without trailing zeros, and returns the
rest. -/
theorem fmtFrac_spec (tail : Bytes) (v prec : Nat) :
    ∃ frac, FracText prec (v % 10 ^ prec) frac ∧ fmtFrac tail v prec = (frac ++ tail, v / 10 ^ prec) := by
  rcases fmtFracLoop_false prec v tail with ⟨hzero, heq⟩ | ⟨k, hk, w, hw, hval, heq⟩
  · exact ⟨[], .zero hzero, by simp [fmtFrac, heq]⟩
  · refine ⟨0x2E :: fixedDigits k (w % 10 ^ k),
      .digits hk hw (Nat.mod_lt _ (Nat.pow_pos (by decide))) hval, ?_⟩
    simp [fmtFrac, heq, fixedDigits_mod]

/-- Where a number does not go on. -/
def Unread (s : Bytes) : Prop := ∀ c ∈ s.head?, isDigit c = false

/-- Where no digit is next, `leadingInt` stops. -/
theorem leadingInt_unread {s : Bytes} (h : Unread s) (x : Nat) : leadingInt x s = some (x, s) := by
  cases s with
  | nil => rfl
  | cons c s =>
    rw [leadingInt, h c rfl]
    rfl

/-- Digits are read up to the next byte that is none, if the number does not overflow. -/
theorem leadingInt_digits : ∀ {s : Bytes} {x : Nat} {t : Bytes}, (∀ c ∈ s, isDigit c = true) →
    x * 10 ^ s.length + parseNat s ≤ 2 ^ 63 → Unread t →
    leadingInt x (s ++ t) = some (x * 10 ^ s.length + parseNat s, t)
  | [], x, t, _, _, ht => by simp [leadingInt_unread ht, parseNat]
  | c :: s, x, t, hs, hle, ht => by
    rw [List.forall_mem_cons] at hs
    have hvalue : x * 10 ^ (c :: s).length + parseNat (c :: s) =
        (x * 10 + (c.toNat - 0x30)) * 10 ^ s.length + parseNat s := by
      rw [parseNat_cons, List.length_cons, Nat.pow_succ]
      ring
    rw [hvalue] at hle ⊢
    have hfits : x * 10 + (c.toNat - 0x30) ≤ 2 ^ 63 := by
      have := Nat.le_mul_of_pos_right (x * 10 + (c.toNat - 0x30))
        (Nat.pow_pos (n := s.length) (by decide : 0 < 10))
      omega
    have hguard : ¬ 2 ^ 63 / 10 < x := by omega
    rw [List.cons_append, leadingInt, if_pos hs.1, if_neg hguard, if_neg (not_lt.mpr hfits)]
    exact leadingInt_digits hs.2 hle ht

/-- A number is read back as it was written, up to the largest duration. -/
theorem leadingInt_formatNat {v : Nat} (hv : v ≤ 2 ^ 63) {t : Bytes} (ht : Unread t) :
    leadingInt 0 (formatNat v ++ t) = some (v, t) := by
  have hvalue : 0 * 10 ^ (formatNat v).length + parseNat (formatNat v) = v := by
    rw [Nat.zero_mul, Nat.zero_add, parseNat_formatNat]
  rw [leadingInt_digits (fun c hc => isDigit_of_mem_formatNat hc) (hvalue.symm ▸ hv) ht, hvalue]

/-- Where no digit is next, `leadingFraction` stops. -/
theorem leadingFraction_unread {s : Bytes} (h : Unread s) (x : Nat) (scale : ℚ) (o : Bool) :
    leadingFraction x scale o s = (x, scale, s) := by
  cases s with
  | nil => rfl
  | cons c s =>
    rw [leadingFraction, h c rfl]
    rfl

/-- One more digit of a fraction that is short of the limits of both types. -/
theorem leadingFraction_digit {x k d : Nat} (hx : x < 10 ^ k) (hk : k < 15) (hd : d < 10) (s : Bytes) :
    leadingFraction x ((10 ^ k : Nat) : ℚ) false (digitByte d :: s) =
      leadingFraction (x * 10 + d) ((10 ^ (k + 1) : Nat) : ℚ) false s := by
  have hpow : 10 ^ k ≤ 10 ^ 14 := Nat.pow_le_pow_right (by decide) (by omega)
  have hscale : float64 (((10 ^ k : Nat) : ℚ) * 10) = ((10 ^ (k + 1) : Nat) : ℚ) := by
    have hcast : ((10 ^ k : Nat) : ℚ) * 10 = ((10 ^ (k + 1) : Nat) : ℚ) := by
      push_cast
      ring
    rw [hcast, float64_natCast]
    calc 10 ^ (k + 1) ≤ 10 ^ 15 := Nat.pow_le_pow_right (by decide) (by omega)
      _ < 2 ^ 53 := by decide
  have hguard : (false || decide ((2 ^ 63 - 1) / 10 < x) || decide (2 ^ 63 < x * 10 + d)) = false := by
    simp only [Bool.false_or, Bool.or_eq_false_iff, decide_eq_false_iff_not]
    omega
  rw [leadingFraction, if_pos (isDigit_digitByte hd), digitByte_value hd, hguard, hscale]
  rfl

/-- The digits of a fraction are read as a number and a power of ten. Fifteen digits are read exactly, since
the power of ten is one that a `float64` has. -/
theorem leadingFraction_fixedDigits : ∀ (k w j x : Nat) (s : Bytes), j + k ≤ 15 → x < 10 ^ j →
    w < 10 ^ k → leadingFraction x ((10 ^ j : Nat) : ℚ) false (fixedDigits k w ++ s) =
      leadingFraction (x * 10 ^ k + w) ((10 ^ (j + k) : Nat) : ℚ) false s
  | 0, w, j, x, s, _, _, hw => by
    obtain rfl : w = 0 := by simpa using hw
    simp [fixedDigits]
  | k + 1, w, j, x, s, hk, hx, hw => by
    have hhead : w / 10 < 10 ^ k := by
      rw [Nat.pow_succ] at hw
      omega
    have hx' : x * 10 ^ k + w / 10 < 10 ^ (j + k) := by
      calc x * 10 ^ k + w / 10 < x * 10 ^ k + 10 ^ k := by omega
        _ = (x + 1) * 10 ^ k := by ring
        _ ≤ 10 ^ j * 10 ^ k := Nat.mul_le_mul_right _ hx
        _ = 10 ^ (j + k) := (Nat.pow_add ..).symm
    have hvalue : (x * 10 ^ k + w / 10) * 10 + w % 10 = x * 10 ^ (k + 1) + w := by
      rw [Nat.pow_succ, Nat.add_mul, Nat.mul_assoc]
      omega
    rw [fixedDigits, List.append_assoc, List.singleton_append,
      leadingFraction_fixedDigits k _ j x _ (by omega) hx hhead,
      leadingFraction_digit hx' (by omega) (Nat.mod_lt _ (by decide)), hvalue]
    rfl

/-- The fraction that is cut off a text is the one that was printed there. -/
theorem cutFraction_spec {prec m : Nat} {frac : Bytes} (hfrac : FracText prec m frac) (hprec : prec ≤ 9)
    {unit : Bytes} (hunit : ∀ c ∈ unit.head?, numberByte c = false) :
    ∃ f k post, k ≤ prec ∧ m = f * 10 ^ (prec - k) ∧
      cutFraction (frac ++ unit) = (f, ((10 ^ k : Nat) : ℚ), unit, post) := by
  have hunread : Unread unit := fun c hc => (Bool.or_eq_false_iff.mp (hunit c hc)).2
  cases hfrac with
  | zero hm =>
    refine ⟨0, 0, false, Nat.zero_le _, by simpa using hm, ?_⟩
    cases unit with
    | nil => simp [cutFraction]
    | cons c unit =>
      have hpoint : c ≠ 0x2E := by
        have := (Bool.or_eq_false_iff.mp (hunit c rfl)).1
        simpa using this
      simp [cutFraction, hpoint]
  | @digits k w hk hw hlt hm =>
    refine ⟨w, k, unit.length != (fixedDigits k w ++ unit).length, hk, hm, ?_⟩
    have hread := leadingFraction_fixedDigits k w 0 0 unit (by omega) (by decide) hlt
    rw [Nat.zero_mul, Nat.zero_add, Nat.zero_add, leadingFraction_unread hunread, Nat.pow_zero,
      Nat.cast_one] at hread
    rw [List.cons_append, cutFraction, hread]

/-- The floating-point product of a printed fraction with its unit is exact. -/
theorem unitValue_fraction {v f prec k : Nat} (hprec : prec ≤ 9) (hk : k ≤ prec)
    (hf : f * 10 ^ (prec - k) < 10 ^ prec) (hv : v * 10 ^ prec + f * 10 ^ (prec - k) ≤ 2 ^ 63) :
    unitValue v f ((10 ^ k : Nat) : ℚ) (10 ^ prec) = .ok (v * 10 ^ prec + f * 10 ^ (prec - k)) := by
  have hpow : 10 ^ prec ≤ 10 ^ 9 := Nat.pow_le_pow_right (by decide) hprec
  have hguard : ¬ 2 ^ 63 / 10 ^ prec < v := by
    rw [not_lt, Nat.le_div_iff_mul_le (Nat.pow_pos (by decide))]
    omega
  rw [unitValue, if_neg hguard]
  by_cases hzero : f = 0
  · simp [hzero]
  · have hpos : 0 < 10 ^ (prec - k) := Nat.pow_pos (by decide)
    have hquot : ((10 ^ prec : Nat) : ℚ) / ((10 ^ k : Nat) : ℚ) = ((10 ^ (prec - k) : Nat) : ℚ) := by
      rw [div_eq_iff (by positivity), ← Nat.cast_mul, ← Nat.pow_add, Nat.sub_add_cancel hk]
    have hle : f ≤ f * 10 ^ (prec - k) := Nat.le_mul_of_pos_right f hpos
    have hle' : 10 ^ (prec - k) ≤ f * 10 ^ (prec - k) :=
      Nat.le_mul_of_pos_left _ (Nat.pos_of_ne_zero hzero)
    have hfloat : float64 (float64 (f : ℚ) * float64 (float64 ((10 ^ prec : Nat) : ℚ) /
        ((10 ^ k : Nat) : ℚ))) = ((f * 10 ^ (prec - k) : Nat) : ℚ) := by
      rw [float64_natCast (by omega : f < 2 ^ 53), float64_natCast (by omega : 10 ^ prec < 2 ^ 53),
        hquot, float64_natCast (by omega : 10 ^ (prec - k) < 2 ^ 53), ← Nat.cast_mul,
        float64_natCast (by omega)]
    simp only [if_neg hzero, hfloat, Int.floor_natCast, Int.toNat_natCast]
    rw [if_neg (by omega)]

/-- A whole number of units is their product, without a fraction and without overflow. -/
theorem unitValue_whole {v unit : Nat} {scale : ℚ} (hunit : 0 < unit) (hv : v * unit ≤ 2 ^ 63) :
    unitValue v 0 scale unit = .ok (v * unit) := by
  have hguard : ¬ 2 ^ 63 / unit < v := not_lt.mpr ((Nat.le_div_iff_mul_le hunit).mpr hv)
  rw [unitValue, if_neg hguard, if_pos rfl]

/-- The name of a unit: a number cannot go on into it. -/
structure UnitName (name : Bytes) (unit : Nat) : Prop where
  ne_nil : name ≠ []
  letters : ∀ c ∈ name, numberByte c = false
  known : unitMap.lookup name = some unit

/-- A name of the table, without digits and points, is one that is read as a unit. -/
theorem UnitName.of_all {name : Bytes} {unit : Nat} (hne : name ≠ [])
    (hletters : name.all (!numberByte ·) = true) (hknown : unitMap.lookup name = some unit) :
    UnitName name unit :=
  ⟨hne, fun c hc => by simpa using List.all_eq_true.mp hletters c hc, hknown⟩

/-- The texts behind which a unit ends. -/
def UnitEnd (rest : Bytes) : Prop := ∀ c ∈ rest.head?, numberByte c = true

/-- The parser reads the name of a unit to its end and no further, where a number or nothing follows. -/
theorem UnitName.takeWhile {name : Bytes} {unit : Nat} (h : UnitName name unit) {rest : Bytes}
    (hrest : UnitEnd rest) : (name ++ rest).takeWhile (!numberByte ·) = name ∧
      (name ++ rest).dropWhile (!numberByte ·) = rest := by
  have hname : ∀ c ∈ name, (!numberByte c) = true := fun c hc => by rw [h.letters c hc]; rfl
  rw [List.takeWhile_append_of_pos hname, List.dropWhile_append_of_pos hname]
  cases rest with
  | nil => exact ⟨List.append_nil name, rfl⟩
  | cons c rest => simp [hrest c rfl]

/-- The first byte of a unit is no part of a number, so that the number before it ends there. -/
theorem UnitName.head {name : Bytes} {unit : Nat} (h : UnitName name unit) (rest : Bytes) :
    ∀ c ∈ (name ++ rest).head?, numberByte c = false := by
  intro c hc
  rw [List.head?_append_of_ne_nil _ h.ne_nil] at hc
  exact h.letters c (List.mem_of_mem_head? hc)

/-- A number begins with a digit. -/
theorem formatNat_head_digit (v : Nat) (s : Bytes) :
    ∃ c ∈ (formatNat v ++ s).head?, isDigit c = true := by
  cases htext : formatNat v with
  | nil => exact absurd htext (formatNat_ne_nil v)
  | cons c t => exact ⟨c, rfl, isDigit_of_mem_formatNat (htext ▸ List.mem_cons_self)⟩

/-- A number ends the unit before it. -/
theorem UnitEnd.of_formatNat (v : Nat) (s : Bytes) : UnitEnd (formatNat v ++ s) := by
  intro c hc
  obtain ⟨c', hc', hdigit⟩ := formatNat_head_digit v s
  obtain rfl : c' = c := Option.some.inj (hc'.symm.trans hc)
  rw [numberByte, hdigit, Bool.or_true]

/-- A number with its unit is one round of the loop. -/
theorem parseSegment_spec {v prec m n unit : Nat} {frac name rest : Bytes} (hv : v ≤ 2 ^ 63)
    (hfrac : FracText prec m frac) (hprec : prec ≤ 9) (hname : UnitName name unit)
    (hrest : UnitEnd rest)
    (hvalue : ∀ f k, k ≤ prec → m = f * 10 ^ (prec - k) →
      unitValue v f ((10 ^ k : Nat) : ℚ) unit = .ok n) :
    parseSegment (formatNat v ++ frac ++ name ++ rest) = .ok (n, rest) := by
  obtain ⟨f, k, post, hk, hm, hcut⟩ := cutFraction_spec hfrac hprec (hname.head rest)
  have hunread : Unread (frac ++ (name ++ rest)) := by
    cases hfrac with
    | zero => exact fun c hc => (Bool.or_eq_false_iff.mp (hname.head rest c hc)).2
    | digits => exact fun c hc => by obtain rfl : 0x2E = c := Option.some.inj hc; decide
  have hint := leadingInt_formatNat hv hunread
  have hlength : (frac ++ (name ++ rest)).length ≠ (formatNat v ++ (frac ++ (name ++ rest))).length := by
    have := List.length_pos_of_ne_nil (formatNat_ne_nil v)
    simp only [List.length_append]
    omega
  have hhead : (formatNat v ++ (frac ++ (name ++ rest))).head?.any numberByte = true := by
    obtain ⟨c, hc, -⟩ := formatNat_head_digit v (frac ++ (name ++ rest))
    rw [Option.mem_def.mp hc, Option.any_some]
    exact UnitEnd.of_formatNat v _ c hc
  rw [List.append_assoc, List.append_assoc]
  simp only [parseSegment, hhead, hint, hcut, (hname.takeWhile hrest).1, (hname.takeWhile hrest).2,
    hname.known, hvalue f k hk hm]
  rw [if_neg (not_not.mpr trivial), if_neg fun h => hlength h.1, if_neg hname.ne_nil]
  rfl

/-- A text that the loop reads to its end, with what it adds up to. -/
inductive Segments : Nat → Bytes → Prop
  | nil : Segments 0 []
  | cons {n m : Nat} {s rest : Bytes} : parseSegment (s ++ rest) = .ok (n, rest) → s ≠ [] →
      Segments m rest → Segments (n + m) (s ++ rest)

/-- The loop of `ParseDuration` adds the segments up. A round of fuel for every byte is enough, and the sum
is that of a duration, so that it does not overflow. -/
theorem parseSegments_of_segments {m : Nat} {t : Bytes} (h : Segments m t) :
    ∀ {rounds d : Nat}, t.length ≤ rounds → d + m ≤ 2 ^ 63 → parseSegments rounds d t = .ok (d + m) := by
  induction h with
  | nil =>
    intro rounds d _ _
    cases rounds with
    | zero => rfl
    | succ => rfl
  | @cons n m s rest hseg hs _ ih =>
    intro rounds d hlen hle
    obtain ⟨c, s, rfl⟩ := List.exists_cons_of_ne_nil hs
    obtain ⟨rounds, rfl⟩ : ∃ r, rounds = r + 1 :=
      ⟨rounds - 1, by simp only [List.cons_append, List.length_cons] at hlen; omega⟩
    have hmod : (d + n) % 2 ^ 64 = d + n := Nat.mod_eq_of_lt (by omega)
    rw [List.cons_append] at hseg ⊢
    rw [parseSegments, hseg]
    simp only [hmod]
    rw [if_neg (by omega), ih (by simp only [List.cons_append, List.length_cons,
      List.length_append] at hlen; omega) (by omega), Nat.add_assoc]

/-- One more segment in front, with a whole number. -/
theorem Segments.whole {v unit m : Nat} {name rest : Bytes} (hname : UnitName name unit)
    (hunit : 0 < unit) (hv : v * unit ≤ 2 ^ 63) (hrest : UnitEnd rest) (h : Segments m rest) :
    Segments (v * unit + m) (formatNat v ++ name ++ rest) := by
  refine .cons ?_ (List.append_ne_nil_of_left_ne_nil (formatNat_ne_nil v) _) h
  have hv' : v ≤ 2 ^ 63 := (Nat.le_mul_of_pos_right v hunit).trans hv
  have hfrac : FracText 0 0 [] := .zero rfl
  have := parseSegment_spec (n := v * unit) hv' hfrac (Nat.zero_le _) hname hrest ?_
  · rwa [List.append_nil] at this
  · intro f k hk hm
    obtain rfl : f = 0 := by simpa [Nat.le_zero.mp hk] using hm.symm
    exact unitValue_whole hunit hv

/-- What `fmtFrac` leaves is the number without its last digits. -/
theorem fmtFrac_rest (name : Bytes) (u prec : Nat) : (fmtFrac name u prec).2 = u / 10 ^ prec := by
  obtain ⟨frac, -, heq⟩ := fmtFrac_spec name u prec
  rw [heq]

/-- A last segment with a fraction, which is read back without rounding: at most nine digits are written. -/
theorem Segments.fraction {u v prec : Nat} {name : Bytes} (hprec : prec ≤ 9)
    (hname : UnitName name (10 ^ prec)) (hv : v * 10 ^ prec + u % 10 ^ prec ≤ 2 ^ 63) :
    Segments (v * 10 ^ prec + u % 10 ^ prec) (formatNat v ++ (fmtFrac name u prec).1) := by
  obtain ⟨frac, hfrac, heq⟩ := fmtFrac_spec name u prec
  have hv' : v ≤ 2 ^ 63 := by
    have := Nat.le_mul_of_pos_right v (Nat.pow_pos (n := prec) (by decide : 0 < 10))
    omega
  have hseg : parseSegment (formatNat v ++ frac ++ name ++ []) =
      .ok (v * 10 ^ prec + u % 10 ^ prec, []) := by
    refine parseSegment_spec hv' hfrac hprec hname (fun c hc => by cases hc) fun f k hk hm => ?_
    rw [hm] at hv ⊢
    exact unitValue_fraction hprec hk (hm ▸ Nat.mod_lt _ (Nat.pow_pos (by decide))) hv
  have := Segments.cons hseg (List.append_ne_nil_of_right_ne_nil _ hname.ne_nil) .nil
  rw [heq]
  rwa [Nat.add_zero, List.append_nil, List.append_assoc] at this

/-- The name of a nanosecond. -/
theorem unitName_ns : UnitName (lit "ns") (10 ^ 0) :=
  .of_all (by decide) (by decide) (by decide)
/-- The name of a microsecond, with the micro sign that `String` writes. -/
theorem unitName_us : UnitName (lit "µs") (10 ^ 3) :=
  .of_all (by decide) (by decide) (by decide)
/-- The name of a millisecond. -/
theorem unitName_ms : UnitName (lit "ms") (10 ^ 6) :=
  .of_all (by decide) (by decide) (by decide)
/-- The name of a second. -/
theorem unitName_s : UnitName (lit "s") (10 ^ 9) :=
  .of_all (by decide) (by decide) (by decide)
/-- The name of a minute. -/
theorem unitName_m : UnitName (lit "m") (60 * 10 ^ 9) :=
  .of_all (by decide) (by decide) (by decide)
/-- The name of an hour. -/
theorem unitName_h : UnitName (lit "h") (3600 * 10 ^ 9) :=
  .of_all (by decide) (by decide) (by decide)

/-- A duration below a second is one segment, in the unit that leaves a digit before the point. -/
theorem segments_fmtUnit {u prec : Nat} {name : Bytes} (hu : u ≤ 2 ^ 63) (hprec : prec ≤ 9)
    (hname : UnitName name (10 ^ prec)) : Segments u (fmtUnit u prec name) := by
  have hsum : u / 10 ^ prec * 10 ^ prec + u % 10 ^ prec = u := Nat.div_add_mod' u (10 ^ prec)
  have := Segments.fraction (u := u) hprec hname (hsum.symm ▸ hu)
  rw [hsum] at this
  rwa [fmtUnit, fmtFrac_rest]

/-- A longer one has segments for the hours, the minutes and the seconds, those of them that are written. -/
theorem segments_fmtClock {u : Nat} (hu : u ≤ 2 ^ 63) : Segments u (fmtClock u) := by
  simp only [fmtClock, fmtFrac_rest]
  have hs := Segments.fraction (u := u) (v := u / 10 ^ 9 % 60) le_rfl unitName_s (by omega)
  have hm := Segments.whole unitName_m (v := u / 10 ^ 9 / 60 % 60) (by decide) (by omega)
    (.of_formatNat _ _) hs
  have hend : UnitEnd (formatNat (u / 10 ^ 9 / 60 % 60) ++ lit "m" ++
      (formatNat (u / 10 ^ 9 % 60) ++ (fmtFrac (lit "s") u 9).1)) := by
    rw [List.append_assoc]
    exact .of_formatNat _ _
  have hh := Segments.whole unitName_h (v := u / 10 ^ 9 / 60 / 60) (by decide) (by omega) hend hm
  split_ifs with hminutes hhours
  · convert hs using 1
    omega
  · convert hm using 1
    omega
  · convert hh using 1
    omega

/-- The loop reads all of a printed duration. -/
theorem segments_fmtMagnitude {u : Nat} (hu : u ≤ 2 ^ 63) : Segments u (fmtMagnitude u) := by
  unfold fmtMagnitude
  split_ifs with hlt hzero hns hus
  · subst hzero
    have hend : UnitEnd [] := fun c hc => by cases hc
    exact Segments.whole unitName_s (v := 0) (m := 0) (by decide) (by decide) hend .nil
  · exact segments_fmtUnit hu (by decide) unitName_ns
  · exact segments_fmtUnit hu (by decide) unitName_us
  · exact segments_fmtUnit hu (by decide) unitName_ms
  · exact segments_fmtClock hu

/-- A printed duration starts with a digit. -/
theorem fmtMagnitude_head (u : Nat) : ∃ c ∈ (fmtMagnitude u).head?, isDigit c = true := by
  unfold fmtMagnitude
  split_ifs
  · exact ⟨0x30, rfl, by decide⟩
  · exact formatNat_head_digit _ _
  · exact formatNat_head_digit _ _
  · exact formatNat_head_digit _ _
  · dsimp only [fmtClock]
    split_ifs
    · exact formatNat_head_digit _ _
    · rw [List.append_assoc]
      exact formatNat_head_digit _ _
    · rw [List.append_assoc]
      exact formatNat_head_digit _ _

/-- What begins with a digit has no sign. -/
theorem cutSign_of_digit {s : Bytes} (h : ∃ c ∈ s.head?, isDigit c = true) : cutSign s = ([], s) := by
  obtain ⟨c, hc, hdigit⟩ := h
  obtain ⟨t, rfl⟩ : ∃ t, s = c :: t := List.head?_eq_some_iff.mp hc
  have hplus : c ≠ 0x2B := by rintro rfl; exact absurd hdigit (by decide)
  have hminus : c ≠ 0x2D := by rintro rfl; exact absurd hdigit (by decide)
  simp [cutSign, hplus, hminus]

/-- The sign is the first byte of a negative duration, and only of such a one. -/
theorem cutSign_formatDuration (d : Int) :
    cutSign (formatDuration d) = (if d < 0 then [0x2D] else [], fmtMagnitude d.natAbs) := by
  unfold formatDuration
  split_ifs
  · rfl
  · exact cutSign_of_digit (fmtMagnitude_head _)

/-- What is left of a printed duration behind its sign is read by the loop. -/
theorem parseSegments_fmtMagnitude {u : Nat} (hu : u ≤ 2 ^ 63) :
    fmtMagnitude u ≠ lit "0" ∧ fmtMagnitude u ≠ [] ∧
      parseSegments (fmtMagnitude u).length 0 (fmtMagnitude u) = .ok u := by
  have hread := parseSegments_of_segments (segments_fmtMagnitude hu) le_rfl (d := 0) (by omega)
  rw [Nat.zero_add] at hread
  refine ⟨?_, ?_, hread⟩
  · -- a number needs its unit in the loop
    intro h
    have herr : parseSegments (lit "0").length 0 (lit "0") = .error .missingUnit := by decide
    rw [h, herr] at hread
    cases hread
  · intro h
    obtain ⟨c, hc, -⟩ := fmtMagnitude_head u
    rw [h] at hc
    cases hc

/-- Every `int64` number of nanoseconds is read back as it was printed. -/
theorem parseDuration_formatDuration {d : Int} (hlo : -2 ^ 63 ≤ d) (hhi : d < 2 ^ 63) :
    parseDuration (formatDuration d) = .ok d := by
  obtain ⟨hzero, hnil, hread⟩ := parseSegments_fmtMagnitude (u := d.natAbs) (by omega)
  simp only [parseDuration, cutSign_formatDuration, if_neg hzero, if_neg hnil, hread, bind, Except.bind]
  by_cases hneg : d < 0
  · rw [if_pos hneg, if_pos rfl]
    congr 1
    omega
  · rw [if_neg hneg, if_neg (List.cons_ne_nil _ _).symm, if_neg (by omega)]
    congr 1
    omega

-- hours have no fraction of their own
example : formatDuration (-5400000000001) = lit "-1h30m0.000000001s" := by decide

end Go
