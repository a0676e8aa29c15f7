import Mailout.Go.Strconv
import Mailout.Go.Strings

/-!
# Reading numbers and addresses

`strconv.ParseInt` with base 0, as Go writes its own literals, `fmt.Sscan` of an `int`, which cuts a
token out of its input and hands it to `ParseInt`, and `net.SplitHostPort`. A number that was printed is
read back by `sscanInt` as it is by `atoi` (`sscanInt_formatInt`), although the one takes a leading zero
for the prefix of a base and the other does not.
-/

namespace Go

def underscore : UInt8 := 0x5F

/-- `lower` of `strconv`. -/
def lowerByte (c : UInt8) : UInt8 := c ||| 0x20

/-- An ASCII decimal digit. -/
def isDigit (c : UInt8) : Bool := 0x30 ≤ c && c ≤ 0x39

/-- The digits are ten bytes in a row. -/
theorem isDigit_iff {c : UInt8} : isDigit c = true ↔ 0x30 ≤ c.toNat ∧ c.toNat ≤ 0x39 := by
  simp [isDigit, UInt8.le_iff_toNat_le]

/-- A number is written in digits. -/
theorem isDigit_of_mem_formatNat {n : Nat} {c : UInt8} (h : c ∈ formatNat n) : isDigit c = true :=
  isDigit_iff.mpr (mem_formatNat h)

/-! ## Literals -/

/-- The value of a digit in any base up to 36. -/
def digitValue (c : UInt8) : Option Nat :=
  if isDigit c then some (c.toNat - 0x30)
  else if 0x61 ≤ lowerByte c ∧ lowerByte c ≤ 0x7A then some ((lowerByte c).toNat - 0x61 + 10)
  else none

/-- The prefixes of `ParseUint` with base 0: the base a literal is written in, and its digits. -/
def literalBase : Bytes → Nat × Bytes
  | 0x30 :: c :: d :: s =>
    if lowerByte c = 0x62 then (2, d :: s)
    else if lowerByte c = 0x6F then (8, d :: s)
    else if lowerByte c = 0x78 then (16, d :: s)
    else (8, c :: d :: s)
  | 0x30 :: s => (8, s)
  | s => (10, s)

/-- The loop of `ParseUint`; `n` is the value so far. -/
def parseUintFrom (base n : Nat) : Bytes → Option Nat
  | [] => some n
  | c :: s =>
    if c = underscore then parseUintFrom base n s
    else
      match digitValue c with
      | none => none
      | some d =>
        if base ≤ d ∨ 2 ^ 64 ≤ n * base + d then none else parseUintFrom base (n * base + d) s

/-- The last character `underscoreOK` saw. -/
inductive Saw where
  | start
  | digit
  | underscore
  | other
  deriving DecidableEq, Repr

/-- The loop of `underscoreOK`. -/
def underscoreFrom (hex : Bool) : Saw → Bytes → Bool
  | saw, [] => saw ≠ .underscore
  | saw, c :: s =>
    if isDigit c || hex && 0x61 ≤ lowerByte c && lowerByte c ≤ 0x66 then underscoreFrom hex .digit s
    else if c = underscore then saw = .digit && underscoreFrom hex .underscore s
    else saw ≠ .underscore && underscoreFrom hex .other s

/-- `underscoreOK`: underscores stand between digits, or between the prefix and a digit. -/
def underscoreOK : Bytes → Bool
  | 0x30 :: c :: s =>
    if lowerByte c = 0x62 ∨ lowerByte c = 0x6F ∨ lowerByte c = 0x78 then
      underscoreFrom (lowerByte c = 0x78) .digit s
    else underscoreFrom false .start (0x30 :: c :: s)
  | s => underscoreFrom false .start s

/-- `strconv.ParseUint(s, 0, 64)`, `none` where it returns an error. -/
def parseUint (s : Bytes) : Option Nat :=
  if s = [] then none
  else (parseUintFrom (literalBase s).1 0 (literalBase s).2).filter fun _ =>
    !s.contains underscore || underscoreOK s

/-- The sign a number starts with, and what is behind it. -/
def cutSign : Bytes → Bytes × Bytes
  | 0x2B :: s => ([0x2B], s)
  | 0x2D :: s => ([0x2D], s)
  | s => ([], s)

/-- `strconv.ParseInt(s, 0, 64)`, `none` where it returns an error. -/
def parseInt (s : Bytes) : Option Int :=
  ((parseUint (cutSign s).2).map fun n : Nat =>
    if (cutSign s).1 = [0x2D] then -(n : Int) else n).filter fun n => -2 ^ 63 ≤ n ∧ n < 2 ^ 63

/-- A digit has its value in every base that has it. -/
theorem digitValue_of_isDigit {c : UInt8} (h : isDigit c = true) :
    digitValue c = some (c.toNat - 0x30) := by
  rw [digitValue, if_pos h]

/-- A digit is not an underscore, which a literal may have between digits. -/
theorem ne_underscore_of_isDigit {c : UInt8} (h : isDigit c = true) : c ≠ underscore := by
  rintro rfl
  exact absurd h (by decide)

/-- The first digit counts with the place that it has. -/
theorem parseNat_cons (c : UInt8) (s : Bytes) :
    parseNat (c :: s) = (c.toNat - 0x30) * 10 ^ s.length + parseNat s := by
  simp only [parseNat, List.reverse_cons, List.map_append, List.map_cons, List.map_nil,
    Nat.ofDigits_append, Nat.ofDigits_singleton, List.length_map, List.length_reverse]
  rw [Nat.add_comm, Nat.mul_comm]

/-- The loop over decimal digits, for a number that fits. -/
theorem parseUintFrom_digits : ∀ {s : Bytes} {n : Nat}, (∀ c ∈ s, isDigit c = true) →
    n * 10 ^ s.length + parseNat s < 2 ^ 64 →
    parseUintFrom 10 n s = some (n * 10 ^ s.length + parseNat s)
  | [], n, _, _ => by simp [parseUintFrom, parseNat]
  | c :: s, n, hs, hlt => by
    rw [List.forall_mem_cons] at hs
    have hvalue : n * 10 ^ (c :: s).length + parseNat (c :: s) =
        (n * 10 + (c.toNat - 0x30)) * 10 ^ s.length + parseNat s := by
      rw [parseNat_cons, List.length_cons, Nat.pow_succ]
      ring
    rw [hvalue] at hlt ⊢
    have hd : ¬ (10 ≤ c.toNat - 0x30) := by
      have := isDigit_iff.mp hs.1
      omega
    have hfits : ¬ (2 ^ 64 ≤ n * 10 + (c.toNat - 0x30)) := by
      have hle := Nat.le_mul_of_pos_right (n * 10 + (c.toNat - 0x30))
        (Nat.pow_pos (n := s.length) (by decide : 0 < 10))
      omega
    rw [parseUintFrom, if_neg (ne_underscore_of_isDigit hs.1)]
    simp only [digitValue_of_isDigit hs.1]
    rw [if_neg (not_or.mpr ⟨hd, hfits⟩)]
    exact parseUintFrom_digits hs.2 hlt

/-- A literal that does not begin with a zero is decimal. -/
theorem literalBase_of_ne {c : UInt8} (h : c ≠ 0x30) (s : Bytes) :
    literalBase (c :: s) = (10, c :: s) := by
  simp [literalBase, h]

/-- A number is read back if it fits 64 bits. -/
theorem parseUint_formatNat {n : Nat} (hn : n < 2 ^ 64) : parseUint (formatNat n) = some n := by
  by_cases hzero : n = 0
  · subst hzero
    decide
  · obtain ⟨c, s, hs, hc⟩ := formatNat_head hzero
    have hdigits : ∀ b ∈ formatNat n, isDigit b = true := fun b => isDigit_of_mem_formatNat
    have hvalue : 0 * 10 ^ (formatNat n).length + parseNat (formatNat n) = n := by
      rw [Nat.zero_mul, Nat.zero_add, parseNat_formatNat]
    have hloop := parseUintFrom_digits hdigits (hvalue.symm ▸ hn)
    have hplain : (formatNat n).contains underscore = false := by
      rw [Bool.eq_false_iff]
      intro h
      exact ne_underscore_of_isDigit (hdigits _ (List.contains_iff_mem.mp h)) rfl
    have hbase : literalBase (formatNat n) = (10, formatNat n) := by
      rw [hs, literalBase_of_ne hc]
    rw [parseUint, if_neg (formatNat_ne_nil n), hbase, hloop, hvalue, hplain]
    rfl

/-! ## Scanning -/

/-- `scanBasePrefix` and `scanNumber` of `fmt` with the verb `v`: the token of a number without its
sign, `none` where there is no digit. -/
def scanNumber : Bytes → Option Bytes
  | 0x30 :: c :: s =>
    some (if lowerByte c = 0x62 then
        0x30 :: c :: s.takeWhile fun d => d = 0x30 || d = 0x31 || d = underscore
      else if lowerByte c = 0x6F then
        0x30 :: c :: s.takeWhile fun d => 0x30 ≤ d && d ≤ 0x37 || d = underscore
      else if lowerByte c = 0x78 then
        0x30 :: c :: s.takeWhile fun d =>
          isDigit d || 0x61 ≤ lowerByte d && lowerByte d ≤ 0x66 || d = underscore
      else 0x30 :: (c :: s).takeWhile fun d => 0x30 ≤ d && d ≤ 0x37 || d = underscore)
  | [0x30] => some [0x30]
  | s =>
    let digits := s.takeWhile fun d => isDigit d || d = underscore
    if digits = [] then none else some digits

/-- `fmt.Sscan` of one `int`, `none` where it is left as it was. -/
def sscanInt (s : Bytes) : Option Int :=
  let t := cutSign (rawOf ((runes s).dropWhile RuneAt.space))
  (scanNumber t.2).bind fun digits => parseInt (t.1 ++ digits)

/-- The scanner takes all the digits of a number, and a zero alone. -/
theorem scanNumber_formatNat (n : Nat) : scanNumber (formatNat n) = some (formatNat n) := by
  by_cases hzero : n = 0
  · subst hzero
    rfl
  · obtain ⟨c, s, hs, hc⟩ := formatNat_head hzero
    have hall : (formatNat n).takeWhile (fun d => isDigit d || d = underscore) = formatNat n := by
      rw [List.takeWhile_eq_self_iff]
      intro d hd
      rw [isDigit_of_mem_formatNat hd, Bool.true_or]
    have hscan : scanNumber (formatNat n) =
        if (formatNat n).takeWhile (fun d => isDigit d || d = underscore) = [] then none
        else some ((formatNat n).takeWhile fun d => isDigit d || d = underscore) := by
      rw [hs]
      simp [scanNumber, hc]
    rw [hscan, hall, if_neg (formatNat_ne_nil n)]

/-- The sign that is printed is the sign that is cut off. -/
theorem cutSign_formatInt (n : Int) :
    cutSign (formatInt n) = (if n < 0 then [0x2D] else [], formatNat n.natAbs) := by
  unfold formatInt
  split_ifs
  · rfl
  · cases hs : formatNat n.natAbs with
    | nil => rfl
    | cons c s =>
      have hc := mem_formatNat (hs ▸ List.mem_cons_self : c ∈ formatNat n.natAbs)
      have hplus : c ≠ 0x2B := by rintro rfl; exact absurd hc.1 (by decide)
      have hminus : c ≠ 0x2D := by rintro rfl; exact absurd hc.1 (by decide)
      simp [cutSign, hplus, hminus]

/-- An integer is read back if it fits 64 bits with its sign. -/
theorem parseInt_formatInt {n : Int} (hlo : -2 ^ 63 ≤ n) (hhi : n < 2 ^ 63) :
    parseInt (formatInt n) = some n := by
  have hvalue : (if (if n < 0 then [0x2D] else []) = [(0x2D : UInt8)] then -(n.natAbs : Int)
      else n.natAbs) = n := by
    by_cases hneg : n < 0
    · rw [if_pos hneg, if_pos rfl]
      omega
    · rw [if_neg hneg, if_neg (List.cons_ne_nil _ _).symm]
      omega
  rw [parseInt, cutSign_formatInt]
  simp only [parseUint_formatNat (by omega : n.natAbs < 2 ^ 64), Option.map_some]
  rw [hvalue]
  exact Option.filter_some_pos (decide_eq_true ⟨hlo, hhi⟩)

/-- Nothing of a printed number is white space. -/
theorem runes_formatInt_dropWhile (n : Int) :
    rawOf ((runes (formatInt n)).dropWhile RuneAt.space) = formatInt n := by
  cases hs : formatInt n with
  | nil => rfl
  | cons c s =>
    have hc := mem_formatInt (hs ▸ List.mem_cons_self : c ∈ formatInt n)
    have hself : c.toNat < runeSelf := by
      rcases hc with rfl | hc
      · decide
      · have : runeSelf = 0x80 := rfl
        omega
    have hspace : isSpace c.toNat = false := by
      rcases hc with rfl | hc
      · decide
      · simp only [isSpace, spaceRanges, List.any_cons, List.any_nil, Bool.or_false,
          Bool.or_eq_false_iff, Bool.and_eq_false_iff, decide_eq_false_iff_not]
        omega
    have hhead : runes (c :: s) = ⟨c.toNat, [c]⟩ :: runes s := runes_ascii_cons hself s
    rw [hhead, List.dropWhile_cons_of_neg (by simp [RuneAt.space, hspace]), ← hhead, rawOf_runes]

/-- What is printed is scanned. -/
theorem sscanInt_formatInt {n : Int} (hlo : -2 ^ 63 ≤ n) (hhi : n < 2 ^ 63) :
    sscanInt (formatInt n) = some n := by
  have hjoin : (if n < 0 then [0x2D] else []) ++ formatNat n.natAbs = formatInt n := by
    unfold formatInt
    split_ifs
    · rfl
    · rfl
  rw [sscanInt, runes_formatInt_dropWhile, cutSign_formatInt]
  simp only [scanNumber_formatNat, Option.bind_some]
  rw [hjoin, parseInt_formatInt hlo hhi]

-- a leading zero is the prefix of a base for the one and a digit for the other
example : sscanInt (lit " 010/tcp") = some 8 ∧ atoi (lit "010") = some 10 := by decide +kernel

/-! ## Addresses -/

/-- `AddrError.Error`, which does not name an address that is empty. -/
def addrError (addr why : Bytes) : Bytes :=
  if addr = [] then why else lit "address " ++ addr ++ lit ": " ++ why

/-- `net.SplitHostPort`. -/
def splitHostPort (hostport : Bytes) : Except Bytes (Bytes × Bytes) :=
  let missingPort := addrError hostport (lit "missing port in address")
  let tooManyColons := addrError hostport (lit "too many colons in address")
  match lastIndexByte 0x3A hostport with
  | none => .error missingPort
  | some i => do
    -- the host, and where brackets may not stand any more
    let (host, j, k) ← match hostport with
      | 0x5B :: _ =>
        match indexByte 0x5D hostport with
        | none => .error (addrError hostport (lit "missing ']' in address"))
        | some stop =>
          if stop + 1 = i then .ok ((hostport.take stop).drop 1, 1, stop + 1)
          else if hostport[stop + 1]? = some 0x3A then .error tooManyColons
          else .error missingPort
      | _ =>
        if (0x3A : UInt8) ∈ hostport.take i then .error tooManyColons
        else .ok (hostport.take i, 0, 0)
    if (0x5B : UInt8) ∈ hostport.drop j then
      .error (addrError hostport (lit "unexpected '[' in address"))
    else if (0x5D : UInt8) ∈ hostport.drop k then
      .error (addrError hostport (lit "unexpected ']' in address"))
    else .ok (host, hostport.drop (i + 1))

/-- An address without a host. -/
theorem splitHostPort_port {port : Bytes} (hcolon : 0x3A ∉ port) (hopen : 0x5B ∉ port)
    (hclose : 0x5D ∉ port) : splitHostPort (0x3A :: port) = .ok ([], port) := by
  have hlast : lastIndexByte 0x3A (0x3A :: port) = some 0 := lastIndexByte_append [] hcolon
  have hopen' : (0x5B : UInt8) ∉ 0x3A :: port := by
    simpa using hopen
  have hclose' : (0x5D : UInt8) ∉ 0x3A :: port := by
    simpa using hclose
  simp only [splitHostPort, hlast]
  simp [hopen', hclose', bind, Except.bind]

end Go
