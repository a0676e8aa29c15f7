import Mailout.Go.Strings

/-!
# Messages as header fields and a body

`internal/gateway/message.go`. `parseMessage` reads a message line by line until a line that is
empty once its run of trailing CR and LF is cut off, or a line that has no colon and continues
nothing; the header fields are in the order they appeared.

The loop is over the lines of the message (`splitLines`, what repeated `ReadString('\n')` returns).
`headerLines` says that lines are all read as header fields; `parseMessage_cases` gives the result of
a parse in terms of it, and `splitLines_append` lets a message be cut after any LF.
-/

namespace Mailout

open Go

def cr : UInt8 := 0x0D
def lf : UInt8 := 0x0A
def space : UInt8 := 0x20
def tab : UInt8 := 0x09
def colon : UInt8 := 0x3A
def crlf : Bytes := [cr, lf]

/-- `headerField`. -/
structure HeaderField where
  name : Bytes
  value : Bytes
  deriving DecidableEq, Repr

/-- `parsedMessage`. -/
structure ParsedMessage where
  headers : List HeaderField
  body : Bytes
  deriving DecidableEq, Repr

/-- The lines `ReadString('\n')` returns one after the other, each with its LF. -/
def splitLines : Bytes → List Bytes
  | [] => []
  | b :: s =>
    if b = lf then [b] :: splitLines s
    else
      match splitLines s with
      | [] => [[b]]
      | l :: ls => (b :: l) :: ls

/-- `strings.TrimRight(line, "\r\n")`. -/
def trimLine (line : Bytes) : Bytes := trimRight crlf line

/-- `line[0] == ' ' || line[0] == '\t'` -/
def startsFolded (line : Bytes) : Bool := line.head? == some space || line.head? == some tab

/-- `last.Value += "\r\n" + trimmed` on the last field of the list. -/
def foldOntoLast (hs : List HeaderField) (trimmed : Bytes) : List HeaderField :=
  match hs.getLast? with
  | none => hs
  | some last => hs.dropLast ++ [{ last with value := last.value ++ crlf ++ trimmed }]

/-- The loop of `parseMessage` over the lines left to read, with the fields read so far. -/
def parseLines (hs : List HeaderField) : List Bytes → ParsedMessage
  | [] => ⟨hs, []⟩
  | line :: rest =>
    let trimmed := trimLine line
    if trimmed = [] then ⟨hs, rest.flatten⟩
    else if startsFolded line ∧ hs.length > 0 then parseLines (foldOntoLast hs trimmed) rest
    else
      match cut colon trimmed with
      | none => ⟨hs, line ++ rest.flatten⟩
      | some (name, value) => parseLines (hs ++ [⟨name, trimPrefix [space] value⟩]) rest

/-- `parseMessage`. Reading from memory never fails, so neither does it. -/
def parseMessage (data : Bytes) : ParsedMessage := parseLines [] (splitLines data)

namespace ParsedMessage

/-- The line of one field: `"%s: %s\r\n"`. -/
def fieldLine (f : HeaderField) : Bytes := f.name ++ lit ": " ++ f.value ++ crlf

/-- `parsedMessage.WriteHeaders`: the header block and the blank line that ends it. -/
def writeHeaders (m : ParsedMessage) : Bytes := m.headers.flatMap fieldLine ++ crlf

/-- `parsedMessage.Bytes`. -/
def bytes (m : ParsedMessage) : Bytes := m.headers.flatMap fieldLine ++ crlf ++ m.body

/-- `parsedMessage.addHeader`. -/
def addHeader (m : ParsedMessage) (name value : Bytes) : ParsedMessage :=
  { m with headers := m.headers ++ [⟨name, value⟩] }

/-- `parsedMessage.insertHeader`, at a one-based position. -/
def insertHeader (m : ParsedMessage) (index : Int) (name value : Bytes) : ParsedMessage :=
  let pos := min (index - 1).toNat m.headers.length
  { m with headers := m.headers.take pos ++ ⟨name, value⟩ :: m.headers.drop pos }

/-- The loop of `changeHeader`: `seen` fields of the name passed, the `index`-th of them is replaced,
or removed for an empty value; `none` when there is no such field. -/
def changeFrom (index : Int) (name value : Bytes) : Int → List HeaderField → Option (List HeaderField)
  | _, [] => none
  | seen, f :: fs =>
    if !equalFold f.name name then (changeFrom index name value seen fs).map (f :: ·)
    else if seen + 1 ≠ index then (changeFrom index name value (seen + 1) fs).map (f :: ·)
    else if value = [] then some fs
    else some ({ f with value := value } :: fs)

/-- `parsedMessage.changeHeader`, the `index`-th field of a name. -/
def changeHeader (m : ParsedMessage) (index : Int) (name value : Bytes) : ParsedMessage :=
  match changeFrom index name value 0 m.headers with
  | some hs => { m with headers := hs }
  | none => if value ≠ [] then m.addHeader name value else m

end ParsedMessage

example : parseMessage (lit "A: 1\r\n x\r\nB:2\n\r\nbody\r\n") =
    ⟨[⟨lit "A", lit "1\r\n x"⟩, ⟨lit "B", lit "2"⟩], lit "body\r\n"⟩ := by decide +kernel

/-! ## Lines -/

/-- There is no line in an empty text. -/
@[simp] theorem splitLines_nil : splitLines [] = [] := rfl

/-- The lines of a text make up the text. -/
@[simp] theorem flatten_splitLines : ∀ s : Bytes, (splitLines s).flatten = s
  | [] => rfl
  | b :: s => by
    rw [splitLines]
    split
    · simp [flatten_splitLines s]
    · cases h : splitLines s with
      | nil =>
        have := flatten_splitLines s
        rw [h] at this
        simp [← this]
      | cons l ls =>
        have := flatten_splitLines s
        rw [h] at this
        simp [← this]

/-- No line is empty: each has its line feed at least, or is what is left behind the last one. -/
theorem ne_nil_of_mem_splitLines : ∀ {s l : Bytes}, l ∈ splitLines s → l ≠ []
  | [], l, h => nomatch h
  | b :: s, l, h => by
    rw [splitLines] at h
    split_ifs at h
    · rcases List.mem_cons.mp h with rfl | h
      · exact List.cons_ne_nil _ _
      · exact ne_nil_of_mem_splitLines h
    · cases hs : splitLines s with
      | nil =>
        rw [hs] at h
        rw [List.mem_singleton.mp h]
        exact List.cons_ne_nil _ _
      | cons l' ls =>
        rw [hs] at h
        rcases List.mem_cons.mp h with rfl | h
        · exact List.cons_ne_nil _ _
        · exact ne_nil_of_mem_splitLines (hs ▸ List.mem_cons_of_mem _ h)

/-- A line has one LF, at its end. -/
def IsLine (l : Bytes) : Prop := ∃ u, l = u ++ [lf] ∧ lf ∉ u

/-- A line at the beginning is the first of the lines. -/
theorem splitLines_line {l : Bytes} (h : IsLine l) (s : Bytes) :
    splitLines (l ++ s) = l :: splitLines s := by
  obtain ⟨u, rfl, hu⟩ := h
  induction u with
  | nil => simp [splitLines]
  | cons b u ih =>
    rw [List.mem_cons, not_or] at hu
    have := ih hu.2
    rw [List.cons_append, List.cons_append, splitLines, if_neg (fun h => hu.1 h.symm), this]

/-- A message cut behind an LF has the lines of both parts. -/
theorem splitLines_append : ∀ (u s : Bytes),
    splitLines (u ++ [lf] ++ s) = splitLines (u ++ [lf]) ++ splitLines s
  | [], s => by simp [splitLines]
  | b :: u, s => by
    have ih := splitLines_append u s
    simp only [List.cons_append, splitLines] at ih ⊢
    split
    · rw [ih, List.cons_append]
    · rw [ih]
      cases h : splitLines (u ++ [lf]) with
      | nil =>
        have := flatten_splitLines (u ++ [lf])
        rw [h] at this
        simp at this
      | cons l ls => rfl

/-- Every line of a message that ends in LF has its LF. -/
theorem isLine_of_mem_splitLines : ∀ {u l : Bytes}, l ∈ splitLines (u ++ [lf]) → IsLine l
  | [], l, h => by
    obtain rfl : l = [lf] := by simpa [splitLines] using h
    exact ⟨[], rfl, by simp⟩
  | b :: u, l, h => by
    rw [List.cons_append, splitLines] at h
    split_ifs at h with hb
    · subst hb
      rcases List.mem_cons.mp h with rfl | h
      · exact ⟨[], rfl, by simp⟩
      · exact isLine_of_mem_splitLines h
    · cases hs : splitLines (u ++ [lf]) with
      | nil =>
        have := flatten_splitLines (u ++ [lf])
        rw [hs] at this
        simp at this
      | cons l' ls =>
        have hmem : ∀ x ∈ l' :: ls, IsLine x := fun x hx => isLine_of_mem_splitLines (hs ▸ hx)
        rw [hs] at h
        rcases List.mem_cons.mp h with rfl | h
        · obtain ⟨v, rfl, hv⟩ := hmem l' (by simp)
          refine ⟨b :: v, rfl, ?_⟩
          rw [List.mem_cons, not_or]
          exact ⟨fun h => hb h.symm, hv⟩
        · exact hmem l (List.mem_cons_of_mem _ h)

/-- `TrimRight` cuts CR and LF off a line. -/
theorem trimLine_append (l : Bytes) : ∃ t, l = trimLine l ++ t ∧ ∀ b ∈ t, b = cr ∨ b = lf := by
  obtain ⟨t, heq, ht⟩ := trimRight_append crlf l
  exact ⟨t, heq, fun b hb => by simpa [crlf] using ht b hb⟩

/-- Trimming a line takes only its end. -/
theorem mem_trimLine {l : Bytes} {c : UInt8} (hcr : c ≠ cr) (hlf : c ≠ lf) :
    c ∈ trimLine l ↔ c ∈ l := by
  obtain ⟨t, heq, ht⟩ := trimLine_append l
  have hc : c ∉ t := fun h => (ht c h).elim hcr hlf
  conv_rhs => rw [heq]
  simp [hc]

/-- A folded line is never blank: its white space is left. -/
theorem trimLine_of_startsFolded {l : Bytes} (h : startsFolded l = true) : trimLine l ≠ [] := by
  have hmem : space ∈ l ∨ tab ∈ l := by
    simp only [startsFolded, Bool.or_eq_true, beq_iff_eq] at h
    exact h.imp List.mem_of_mem_head? List.mem_of_mem_head?
  rcases hmem with h | h
  · exact List.ne_nil_of_mem ((mem_trimLine (by decide) (by decide)).mpr h)
  · exact List.ne_nil_of_mem ((mem_trimLine (by decide) (by decide)).mpr h)

/-! ## Header lines -/

/-- A line read as a header field, or, once a field was read, as the continuation of one. -/
def isHeaderLine (started : Bool) (line : Bytes) : Bool :=
  trimLine line ≠ [] ∧ (startsFolded line ∧ started ∨ colon ∈ trimLine line)

/-- Lines that are all read as header lines. -/
def headerLines : Bool → List Bytes → Bool
  | _, [] => true
  | started, l :: ls => isHeaderLine started l && headerLines true ls

/-- A line of a header has something in it. -/
theorem trimLine_of_headerLines {ls : List Bytes} : ∀ {started : Bool},
    headerLines started ls = true → ∀ l ∈ ls, trimLine l ≠ [] := by
  induction ls with
  | nil => exact fun _ l hl => absurd hl List.not_mem_nil
  | cons k ls ih =>
    intro started h l hl
    rw [headerLines, Bool.and_eq_true] at h
    rcases List.mem_cons.mp hl with rfl | hl
    · simp only [isHeaderLine, decide_eq_true_eq] at h
      exact h.1.1
    · exact ih h.2 l hl

/-- The fields that header lines are read as. -/
def fieldsOf (ls : List Bytes) : List HeaderField := (parseLines [] ls).headers

/-- A folded line goes to the last of the fields. -/
theorem foldOntoLast_concat (hs : List HeaderField) (f : HeaderField) (t : Bytes) :
    foldOntoLast (hs ++ [f]) t = hs ++ [{ f with value := f.value ++ crlf ++ t }] := by
  simp [foldOntoLast]

/-- A folded line makes no field. -/
theorem foldOntoLast_length (hs : List HeaderField) (t : Bytes) :
    (foldOntoLast hs t).length = hs.length := by
  unfold foldOntoLast
  cases h : hs.getLast? with
  | none => rfl
  | some last =>
    have : hs ≠ [] := by rintro rfl; simp at h
    have := List.length_pos_of_ne_nil this
    simp
    omega

/-- One header line: the list of fields it leaves is not empty, and the loop goes on with it. -/
theorem parseLines_header {hs : List HeaderField} {l : Bytes}
    (h : isHeaderLine (hs.length > 0) l = true) : ∃ hs' : List HeaderField, hs'.length > 0 ∧
      ∀ rest, parseLines hs (l :: rest) = parseLines hs' rest := by
  simp only [isHeaderLine, decide_eq_true_eq] at h
  obtain ⟨hne, hcase⟩ := h
  by_cases hf : startsFolded l = true ∧ hs.length > 0
  · refine ⟨foldOntoLast hs (trimLine l), by rw [foldOntoLast_length]; exact hf.2, fun rest => ?_⟩
    rw [parseLines]
    simp only [if_neg hne, if_pos hf]
  · cases hcut : cut colon (trimLine l) with
    | none => exact absurd (hcase.resolve_left hf) (cut_eq_none.mp hcut)
    | some q =>
      refine ⟨hs ++ [⟨q.1, trimPrefix [space] q.2⟩], by simp, fun rest => ?_⟩
      rw [parseLines]
      simp only [if_neg hne, if_neg hf, hcut]

/-- A line that is no header line ends the loop. -/
theorem parseLines_stop {hs : List HeaderField} {l : Bytes}
    (h : isHeaderLine (hs.length > 0) l = false) (rest : List Bytes) :
    parseLines hs (l :: rest) =
      ⟨hs, if trimLine l = [] then rest.flatten else (l :: rest).flatten⟩ := by
  simp only [isHeaderLine, decide_eq_false_iff_not, not_and, not_or] at h
  rw [parseLines]
  by_cases hne : trimLine l = []
  · simp only [if_pos hne]
  · obtain ⟨hf, hc⟩ := h hne
    have hf' : ¬ (startsFolded l = true ∧ hs.length > 0) := by simpa using hf
    simp only [if_neg hne, if_neg hf', cut_eq_none.mpr hc, List.flatten_cons]

/-- The loop passes header lines, and reads the same fields off them whatever follows. -/
theorem parseLines_append {ls : List Bytes} {hs : List HeaderField}
    (h : headerLines (hs.length > 0) ls = true) (rest : List Bytes) :
    parseLines hs (ls ++ rest) = parseLines (parseLines hs ls).headers rest := by
  induction ls generalizing hs with
  | nil => rfl
  | cons l ls ih =>
    rw [headerLines, Bool.and_eq_true] at h
    obtain ⟨hs', hpos, heq⟩ := parseLines_header h.1
    rw [List.cons_append, heq, heq, ih (by simpa [hpos] using h.2)]

/-- A header with a line in it has a field: its first line cannot be a folded one. -/
theorem parseLines_headers_pos {ls : List Bytes} {hs : List HeaderField}
    (h : headerLines (hs.length > 0) ls = true) (hne : ls ≠ []) :
    (parseLines hs ls).headers.length > 0 := by
  induction ls generalizing hs with
  | nil => exact absurd rfl hne
  | cons l ls ih =>
    rw [headerLines, Bool.and_eq_true] at h
    obtain ⟨hs', hpos, heq⟩ := parseLines_header h.1
    rw [heq]
    cases ls with
    | nil => exact hpos
    | cons l' ls => exact ih (by simpa [hpos] using h.2) (by simp)

/-- Header lines are read as at least one field. -/
theorem fieldsOf_pos {ls : List Bytes} (h : headerLines false ls = true) :
    ((fieldsOf ls).length > 0 : Bool) = (ls ≠ [] : Bool) := by
  by_cases hne : ls = []
  · subst hne
    rfl
  · have := @parseLines_headers_pos ls [] h hne
    simp only [fieldsOf]
    simp [this, hne]

/-- The lines read as header lines: those up to the first that is not. -/
def readLines : Bool → List Bytes → List Bytes
  | _, [] => []
  | started, l :: ls => if isHeaderLine started l then l :: readLines true ls else []

/-- What is read as a header consists of lines of a header. -/
theorem headerLines_readLines (ls : List Bytes) : ∀ started,
    headerLines started (readLines started ls) = true := by
  induction ls with
  | nil => exact fun _ => rfl
  | cons l ls ih =>
    intro started
    rw [readLines]
    split_ifs with hl
    · simp [headerLines, hl, ih]
    · rfl

/-- Lines of a header are all read, and reading goes on behind them. -/
theorem readLines_append {pre : List Bytes} : ∀ {started : Bool},
    headerLines started pre = true → ∀ rest : List Bytes,
      readLines started (pre ++ rest) = pre ++ readLines (started || pre ≠ []) rest := by
  induction pre with
  | nil => intro started _ rest; simp
  | cons l pre ih =>
    intro started h rest
    rw [headerLines, Bool.and_eq_true] at h
    rw [List.cons_append, readLines, if_pos h.1, ih h.2]
    simp

/-- Lines of a header are read to the end. -/
theorem readLines_of_headerLines {ls : List Bytes} {started : Bool}
    (h : headerLines started ls = true) : readLines started ls = ls := by
  have := readLines_append h []
  rwa [List.append_nil, readLines, List.append_nil] at this

/-- What is not read starts with a line that is no header line. -/
theorem readLines_split (ls : List Bytes) : ∀ started, ∃ rest, ls = readLines started ls ++ rest ∧
    (rest = [] ∨ ∃ l t, rest = l :: t ∧
      isHeaderLine (started || readLines started ls ≠ []) l = false) := by
  induction ls with
  | nil => exact fun _ => ⟨[], rfl, .inl rfl⟩
  | cons l ls ih =>
    intro started
    rw [readLines]
    split_ifs with hl
    · obtain ⟨rest, heq, hrest⟩ := ih true
      refine ⟨rest, congrArg (l :: ·) heq, ?_⟩
      simpa using hrest
    · exact ⟨l :: ls, rfl, .inr ⟨l, ls, rfl, by simpa using hl⟩⟩

/-- **What a parse is.** The lines are header lines up to the first that is not; the fields are
those lines', and the body is what follows a blank line, or starts with the line itself. -/
theorem parseMessage_cases (b : Bytes) : ∃ rest,
    splitLines b = readLines false (splitLines b) ++ rest ∧
      (rest = [] ∧ parseMessage b = ⟨fieldsOf (readLines false (splitLines b)), []⟩ ∨
        ∃ l t, rest = l :: t ∧ isHeaderLine (readLines false (splitLines b) ≠ []) l = false ∧
          parseMessage b = ⟨fieldsOf (readLines false (splitLines b)),
            if trimLine l = [] then t.flatten else (l :: t).flatten⟩) := by
  obtain ⟨rest, heq, hrest⟩ := readLines_split (splitLines b) false
  have hpre := headerLines_readLines (splitLines b) false
  generalize readLines false (splitLines b) = pre at heq hpre hrest
  refine ⟨rest, heq, ?_⟩
  rcases hrest with rfl | ⟨l, t, rfl, hl⟩
  · refine .inl ⟨rfl, ?_⟩
    rw [parseMessage, heq, @parseLines_append pre [] hpre]
    rfl
  · rw [Bool.false_or] at hl
    refine .inr ⟨l, t, rfl, hl, ?_⟩
    rw [parseMessage, heq, @parseLines_append pre [] hpre]
    exact parseLines_stop (by rw [← hl]; exact congrArg (isHeaderLine · l) (fieldsOf_pos hpre)) t

/-- The fields of a message are those of the lines that are read as its header. -/
theorem parseMessage_headers (b : Bytes) :
    (parseMessage b).headers = fieldsOf (readLines false (splitLines b)) := by
  obtain ⟨rest, -, ⟨-, h⟩ | ⟨l, t, -, -, h⟩⟩ := parseMessage_cases b <;> rw [h]

/-! ## Fields and their lines -/

/-- The name on the first line of a field. -/
def lineName (l : Bytes) : Bytes := ((cut colon l).getD ([], [])).1

/-- The name of a field is before the colon, so that the end of the line does not matter. -/
theorem lineName_trimLine {l : Bytes} (h : colon ∈ l) : lineName (trimLine l) = lineName l := by
  obtain ⟨t, heq, -⟩ := trimLine_append l
  obtain ⟨q, hq⟩ : ∃ q, cut colon (trimLine l) = some q := by
    rw [← Option.ne_none_iff_exists']
    exact fun hnone => cut_eq_none.mp hnone ((mem_trimLine (by decide) (by decide)).mpr h)
  obtain ⟨hs, hn⟩ := cut_eq_some.mp hq
  have hl : l = q.1 ++ colon :: (q.2 ++ t) := by
    conv_lhs => rw [heq, hs]
    simp
  have hcut : cut colon l = some (q.1, q.2 ++ t) := cut_eq_some.mpr ⟨hl, hn⟩
  simp [lineName, hq, hcut]

/-- The value of a field that starts on `l` and goes on over the folded lines behind it. -/
def fieldValue (l : Bytes) (after : List Bytes) : Bytes :=
  trimPrefix [space] ((cut colon (trimLine l)).getD ([], [])).2 ++
    (after.takeWhile startsFolded).flatMap (crlf ++ trimLine ·)

/-- The field that starts on `l`. -/
def lineField (l : Bytes) (after : List Bytes) : HeaderField :=
  ⟨lineName (trimLine l), fieldValue l after⟩

/-- The fields that start on some line, folded lines going to the field before them. -/
def fieldsFrom : List Bytes → List HeaderField
  | [] => []
  | l :: ls => if startsFolded l then fieldsFrom ls else lineField l ls :: fieldsFrom ls

/-- The folded lines at the start of `ls` go to the last field read. -/
theorem parseLines_started {ls : List Bytes} : headerLines true ls = true →
    ∀ (hs : List HeaderField) (f : HeaderField), (parseLines (hs ++ [f]) ls).headers =
      hs ++ { f with value := f.value ++ (ls.takeWhile startsFolded).flatMap (crlf ++ trimLine ·) } ::
        fieldsFrom ls := by
  induction ls with
  | nil => intro _ hs f; simp [parseLines, fieldsFrom]
  | cons l ls ih =>
    intro h hs f
    rw [headerLines, Bool.and_eq_true] at h
    have hl := h.1
    simp only [isHeaderLine, decide_eq_true_eq, and_true] at hl
    rw [parseLines, fieldsFrom]
    by_cases hf : startsFolded l = true
    · simp only [if_neg hl.1, hf, List.length_append, List.length_singleton, gt_iff_lt,
        Nat.zero_lt_succ, and_self, if_true, foldOntoLast_concat]
      rw [ih h.2]
      simp [hf, List.append_assoc]
    · obtain ⟨q, hq⟩ : ∃ q, cut colon (trimLine l) = some q := by
        rw [← Option.ne_none_iff_exists']
        exact fun hnone => cut_eq_none.mp hnone (hl.2.resolve_left hf)
      simp only [if_neg hl.1, hf, hq]
      simp only [Bool.false_eq_true, false_and, if_false]
      rw [ih h.2]
      simp [hf, lineField, lineName, fieldValue, hq]

/-- The fields that header lines are read as: one for each line that is not folded, and one for the
first line whatever it is. -/
theorem fieldsOf_cons {l : Bytes} {ls : List Bytes} (h : headerLines false (l :: ls) = true) :
    fieldsOf (l :: ls) = lineField l ls :: fieldsFrom ls := by
  rw [headerLines, Bool.and_eq_true] at h
  have hl := h.1
  simp only [isHeaderLine, decide_eq_true_eq, Bool.false_eq_true, and_false, false_or] at hl
  obtain ⟨q, hq⟩ : ∃ q, cut colon (trimLine l) = some q := by
    rw [← Option.ne_none_iff_exists']
    exact fun hnone => cut_eq_none.mp hnone hl.2
  rw [fieldsOf, parseLines]
  simp only [if_neg hl.1, hq, List.length_nil, gt_iff_lt, Nat.lt_irrefl, and_false, if_false]
  rw [parseLines_started h.2]
  simp [lineField, lineName, fieldValue, hq]

end Mailout
