import Mailout.Message

/-!
# Serializing a parsed message

`parsedMessage.Bytes` and `WriteHeaders` write a field as `name: value` and CRLF, the folding being
part of the value. `Readable` says which lists of fields are read back from what is written: a name
without colon and LF, a value of text lines of which all but the first are folded, and white space
at the start of a name on the first field only. The two halves of the round trip meet there:
`readable_parseMessage` says that a parse gives such fields whatever the bytes are, and
`parseMessage_bytes` that a message with such fields is read back as it is.
-/

namespace Mailout

open Go ParsedMessage

/-! ## Lines of text -/

/-- What is left of a line without its end: no LF in it and no CR behind it. -/
def IsText (t : Bytes) : Prop := lf ∉ t ∧ t.getLast? ≠ some cr

/-- An empty text has no line end in it. -/
theorem isText_nil : IsText [] := by simp [IsText]

/-- A text with a line end behind it is one line. -/
theorem IsText.isLine {t : Bytes} (h : IsText t) : IsLine (t ++ crlf) := by
  refine ⟨t ++ [cr], by simp [crlf], ?_⟩
  rw [List.mem_append, not_or]
  exact ⟨h.1, by decide⟩

/-- `TrimRight` stops at the text. -/
theorem IsText.trimLine_eq {t : Bytes} (h : IsText t) : trimLine t = t := by
  refine List.rdropWhile_eq_self_iff.mpr fun hne hmem => ?_
  have hlast : t.getLast hne = cr ∨ t.getLast hne = lf := by simpa [crlf] using hmem
  rcases hlast with hcr | hlf
  · exact h.2 (by rw [List.getLast?_eq_some_getLast hne, hcr])
  · exact h.1 (hlf ▸ List.getLast_mem hne)

/-- Without its end, that line is the text. -/
theorem IsText.trimLine_crlf {t : Bytes} (h : IsText t) : trimLine (t ++ crlf) = t := by
  have hcut : trimLine (t ++ crlf) = trimLine t := by
    rw [show t ++ crlf = (t ++ [cr]) ++ [lf] by simp [crlf], trimLine, trimRight,
      List.rdropWhile_concat_pos _ _ _ (by decide), List.rdropWhile_concat_pos _ _ _ (by decide)]
    rfl
  rw [hcut, h.trimLine_eq]

/-- The end of a text has no line end in it either. -/
theorem IsText.suffix {t u : Bytes} (h : IsText (t ++ u)) : IsText u := by
  refine ⟨fun hmem => h.1 (List.mem_append_right _ hmem), fun hlast => h.2 ?_⟩
  rw [List.getLast?_append, hlast]
  rfl

/-- A line ends at its LF if it has one. -/
theorem lf_not_mem_dropLast : ∀ {s l : Bytes}, l ∈ splitLines s → lf ∉ l.dropLast
  | [], l, h => nomatch h
  | b :: s, l, h => by
    rw [splitLines] at h
    split_ifs at h with hb
    · rcases List.mem_cons.mp h with rfl | h
      · simp
      · exact lf_not_mem_dropLast h
    · cases hs : splitLines s with
      | nil =>
        rw [hs] at h
        rw [List.mem_singleton.mp h]
        simp
      | cons k ks =>
        rw [hs] at h
        rcases List.mem_cons.mp h with rfl | h
        · have hk : k ∈ splitLines s := by simp [hs]
          rw [List.dropLast_cons_of_ne_nil (ne_nil_of_mem_splitLines hk), List.mem_cons, not_or]
          exact ⟨fun h => hb h.symm, lf_not_mem_dropLast hk⟩
        · exact lf_not_mem_dropLast (hs ▸ List.mem_cons_of_mem _ h)

/-- What `TrimRight` leaves of a line is text. -/
theorem isText_trimLine {s l : Bytes} (h : l ∈ splitLines s) : IsText (trimLine l) := by
  have hlast : ∀ hne : trimLine l ≠ [], ¬ crlf.contains ((trimLine l).getLast hne) :=
    fun hne => List.rdropWhile_last_not (fun b => crlf.contains b) l hne
  have hend : ∀ c, crlf.contains c = true → (trimLine l).getLast? ≠ some c := by
    intro c hc heq
    have hne : trimLine l ≠ [] := by
      intro hnil
      rw [hnil] at heq
      cases heq
    rw [List.getLast?_eq_some_getLast hne, Option.some.injEq] at heq
    exact hlast hne (heq ▸ hc)
  refine ⟨fun hmem => ?_, hend cr (by decide)⟩
  -- An LF inside is one of the line's, which has it at its end only.
  obtain ⟨u, v, hsplit⟩ := List.append_of_mem hmem
  have hv : v ≠ [] := by
    rintro rfl
    exact hend lf (by decide) (by simp [hsplit])
  obtain ⟨t, heq, -⟩ := trimLine_append l
  refine lf_not_mem_dropLast h ?_
  rw [heq, hsplit, List.append_assoc, List.cons_append, List.dropLast_append_of_ne_nil (by simp),
    List.dropLast_cons_of_ne_nil (by simp [hv])]
  simp

/-! ## Fields that are read back -/

/-- A line that continues a field. -/
def Continues (t : Bytes) : Prop := IsText t ∧ startsFolded t = true

/-- A field that is read back from what is written of it. -/
structure HeaderField.Readable (f : HeaderField) : Prop where
  colon_not_mem : colon ∉ f.name
  lf_not_mem : lf ∉ f.name
  lines : ∃ (first : Bytes) (conts : List Bytes), f.value = first ++ conts.flatMap (crlf ++ ·) ∧ IsText first ∧
    ∀ c ∈ conts, Continues c

/-- Fields that are read back: only the first may have a name that starts like a folded line. -/
structure Readable (hs : List HeaderField) : Prop where
  field : ∀ f ∈ hs, f.Readable
  name : ∀ f ∈ hs.tail, startsFolded f.name = false

/-- A header without fields is readable. -/
theorem readable_nil : Readable [] := ⟨by simp, by simp⟩

/-- One more field, whose name starts like a folded line only if it is the first. -/
theorem Readable.concat {hs : List HeaderField} {f : HeaderField} (h : Readable hs)
    (hf : f.Readable) (hname : hs = [] ∨ startsFolded f.name = false) : Readable (hs ++ [f]) := by
  refine ⟨fun g hg => ?_, fun g hg => ?_⟩
  · rcases List.mem_append.mp hg with hg | hg
    · exact h.field g hg
    · rw [List.mem_singleton.mp hg]
      exact hf
  · cases hs with
    | nil => simp at hg
    | cons k ks =>
      rcases List.mem_append.mp (by simpa using hg : g ∈ ks ++ [f]) with hg | hg
      · exact h.name g hg
      · rw [List.mem_singleton.mp hg]
        exact hname.resolve_left (List.cons_ne_nil _ _)

/-- A continuation line goes to the last field and leaves it readable. -/
theorem Readable.foldOntoLast {hs : List HeaderField} {t : Bytes} (h : Readable hs)
    (ht : Continues t) : Readable (foldOntoLast hs t) := by
  rcases List.eq_nil_or_concat hs with rfl | ⟨init, last, rfl⟩
  · exact readable_nil
  · rw [List.concat_eq_append] at h ⊢
    rw [foldOntoLast_concat]
    have hlast := h.field last (by simp)
    obtain ⟨first, conts, hvalue, hfirst, hconts⟩ := hlast.lines
    refine Readable.concat ⟨fun g hg => h.field g (by simp [hg]), fun g hg => h.name g ?_⟩
      ⟨hlast.colon_not_mem, hlast.lf_not_mem, first, conts ++ [t], ?_, hfirst, ?_⟩ ?_
    · cases init with
      | nil => cases hg
      | cons k ks => exact List.mem_append_left _ hg
    · simp [hvalue, List.append_assoc]
    · intro c hc
      rcases List.mem_append.mp hc with hc | hc
      · exact hconts c hc
      · rw [List.mem_singleton.mp hc]
        exact ht
    · cases init with
      | nil => exact .inl rfl
      | cons k ks => exact .inr (h.name last (by simp))

/-- The text before the first colon of a line starts as the line does. -/
theorem startsFolded_append_colon (name rest : Bytes) :
    startsFolded (name ++ colon :: rest) = startsFolded name := by
  cases name with
  | nil => rfl
  | cons b name => rfl

/-- What `TrimRight` leaves of a line starts as the line does. -/
theorem startsFolded_trimLine {l : Bytes} (h : trimLine l ≠ []) :
    startsFolded (trimLine l) = startsFolded l := by
  obtain ⟨t, heq, -⟩ := trimLine_append l
  conv_rhs => rw [heq]
  cases hl : trimLine l with
  | nil => exact absurd hl h
  | cons b s => rfl

/-- A field read from one line. -/
theorem readable_of_cut {t name value : Bytes} (ht : IsText t)
    (hcut : cut colon t = some (name, value)) :
    HeaderField.Readable ⟨name, trimPrefix [space] value⟩ := by
  obtain ⟨heq, hname⟩ := cut_eq_some.mp hcut
  have hvalue : IsText value := by
    rw [heq, ← List.singleton_append, ← List.append_assoc] at ht
    exact ht.suffix
  refine ⟨hname, fun hmem => ht.1 (by simp [heq, hmem]), trimPrefix [space] value, [], by simp, ?_,
    by simp⟩
  unfold trimPrefix
  split_ifs with hsp
  · rw [← List.take_append_drop [space].length value] at hvalue
    exact hvalue.suffix
  · exact hvalue

/-- **The parser's half.** From readable fields, the loop gives readable fields. -/
theorem readable_parseLines : ∀ {ls : List Bytes} {hs : List HeaderField}, Readable hs →
    (∀ l ∈ ls, IsText (trimLine l)) → Readable (parseLines hs ls).headers := by
  intro ls
  induction ls with
  | nil => exact fun h _ => h
  | cons l ls ih =>
    intro hs h htext
    have hls : ∀ k ∈ ls, IsText (trimLine k) := fun k hk => htext k (List.mem_cons_of_mem _ hk)
    have hl : IsText (trimLine l) := htext l (by simp)
    rw [parseLines]
    split_ifs with hblank hfold
    · exact h
    · exact ih (h.foldOntoLast ⟨hl, by rw [startsFolded_trimLine hblank]; exact hfold.1⟩) hls
    · cases hcut : cut colon (trimLine l) with
      | none => exact h
      | some q =>
        refine ih (h.concat (readable_of_cut hl hcut) ?_) hls
        by_cases hnil : hs = []
        · exact .inl hnil
        · right
          have hline : startsFolded l = false := by
            rw [← Bool.not_eq_true]
            exact fun hl => hfold ⟨hl, List.length_pos_of_ne_nil hnil⟩
          rw [← hline, ← startsFolded_trimLine hblank, (cut_eq_some.mp hcut).1,
            startsFolded_append_colon]

/-- The fields of a parse are readable, whatever the bytes. -/
theorem readable_parseMessage (b : Bytes) : Readable (parseMessage b).headers :=
  readable_parseLines readable_nil fun _ hl => isText_trimLine hl

/-! ## Reading back what is written -/

/-- The CRLF in front of each continuation line, seen behind the line before it. -/
theorem flatMap_crlf_append (conts : List Bytes) :
    conts.flatMap (crlf ++ ·) ++ crlf = crlf ++ conts.flatMap (· ++ crlf) := by
  induction conts with
  | nil => simp
  | cons c conts ih => simp [ih, List.append_assoc]

/-- The loop reads continuation lines onto the last field. -/
theorem parseLines_continues {conts : List Bytes} (hs : List HeaderField) (f : HeaderField)
    (h : ∀ c ∈ conts, Continues c) (s : Bytes) :
    parseLines (hs ++ [f]) (splitLines (conts.flatMap (· ++ crlf) ++ s)) =
      parseLines (hs ++ [{ f with value := f.value ++ conts.flatMap (crlf ++ ·) }])
        (splitLines s) := by
  induction conts generalizing f with
  | nil => simp
  | cons c conts ih =>
    obtain ⟨htext, hfolded⟩ := h c (by simp)
    have hne : c ≠ [] := by
      rintro rfl
      cases hfolded
    have hline : startsFolded (c ++ crlf) = true := by
      rw [← startsFolded_trimLine (by rw [htext.trimLine_crlf]; exact hne), htext.trimLine_crlf]
      exact hfolded
    rw [List.flatMap_cons, List.append_assoc, splitLines_line htext.isLine, parseLines]
    simp only [htext.trimLine_crlf, if_neg hne, hline, List.length_append, List.length_singleton,
      gt_iff_lt, Nat.zero_lt_succ, and_self, if_true, foldOntoLast_concat]
    rw [ih _ fun k hk => h k (List.mem_cons_of_mem _ hk)]
    simp [List.append_assoc]

/-- A colon and a space are between the name of a field and its value. -/
theorem lit_colon : lit ": " = [colon, space] := by decide

/-- The first line of a field is text. -/
theorem isText_firstLine {f : HeaderField} (h : f.Readable) {first : Bytes} (hfirst : IsText first) :
    IsText (f.name ++ lit ": " ++ first) := by
  refine ⟨?_, ?_⟩
  · simp only [List.mem_append, not_or]
    exact ⟨⟨h.lf_not_mem, by decide⟩, hfirst.1⟩
  · rw [List.getLast?_append]
    cases hl : first.getLast? with
    | none => simp [lit_colon, space, cr]
    | some b => simpa [hl] using hfirst.2

/-- One field: the loop reads it as it is and goes on behind it. -/
theorem parseLines_field {f : HeaderField} (h : f.Readable) {hs : List HeaderField}
    (hname : hs = [] ∨ startsFolded f.name = false) (s : Bytes) :
    parseLines hs (splitLines (fieldLine f ++ s)) = parseLines (hs ++ [f]) (splitLines s) := by
  obtain ⟨first, conts, hvalue, hfirst, hconts⟩ := h.lines
  have htext := isText_firstLine h hfirst
  have hlines : fieldLine f ++ s =
      (f.name ++ lit ": " ++ first ++ crlf) ++ (conts.flatMap (· ++ crlf) ++ s) := by
    have hcrlf := flatMap_crlf_append conts
    rw [fieldLine, hvalue]
    simp only [List.append_assoc] at hcrlf ⊢
    rw [← List.append_assoc (conts.flatMap _) crlf s, hcrlf, List.append_assoc]
  have hsplit : f.name ++ lit ": " ++ first = f.name ++ colon :: (space :: first) := by
    simp [lit_colon]
  have hcut : cut colon (f.name ++ lit ": " ++ first) = some (f.name, space :: first) := by
    rw [hsplit]
    exact Go.cut_append h.colon_not_mem _
  have hfolded : ¬ (startsFolded (f.name ++ lit ": " ++ first ++ crlf) = true ∧ hs.length > 0) := by
    rintro ⟨hstart, hpos⟩
    have hnil : hs ≠ [] := List.ne_nil_of_length_pos hpos
    rw [hsplit, List.append_assoc, List.cons_append, startsFolded_append_colon,
      hname.resolve_left hnil] at hstart
    cases hstart
  have hvalue' : trimPrefix [space] (space :: first) = first := by simp [trimPrefix]
  rw [hlines, splitLines_line htext.isLine, parseLines]
  simp only [htext.trimLine_crlf, hcut, if_neg hfolded, hvalue']
  rw [if_neg (by simp [hsplit]), parseLines_continues _ _ hconts]
  simp only [← hvalue]

/-- The fields written one after the other. -/
theorem parseLines_fields {fs : List HeaderField} (hs : List HeaderField)
    (h : ∀ f ∈ fs, f.Readable)
    (hname : ∀ f ∈ if hs = [] then fs.tail else fs, startsFolded f.name = false) (s : Bytes) :
    parseLines hs (splitLines (fs.flatMap fieldLine ++ s)) = parseLines (hs ++ fs) (splitLines s) := by
  induction fs generalizing hs with
  | nil => simp
  | cons f fs ih =>
    have hf : hs = [] ∨ startsFolded f.name = false := by
      by_cases hnil : hs = []
      · exact .inl hnil
      · rw [if_neg hnil] at hname
        exact .inr (hname f (by simp))
    rw [List.flatMap_cons, List.append_assoc, parseLines_field (h f (by simp)) hf,
      ih _ (fun g hg => h g (List.mem_cons_of_mem _ hg)) ?_, List.append_assoc, List.singleton_append]
    rw [if_neg (by simp)]
    intro g hg
    refine hname g ?_
    split_ifs
    · exact hg
    · exact List.mem_cons_of_mem _ hg

/-- The blank line ends the fields. -/
theorem parseLines_blank (hs : List HeaderField) (body : Bytes) :
    parseLines hs (splitLines (crlf ++ body)) = ⟨hs, body⟩ := by
  have hblank : trimLine crlf = [] := by decide
  have hline : IsLine crlf := isText_nil.isLine
  rw [splitLines_line hline, parseLines]
  simp only [hblank, if_true, flatten_splitLines]

/-- **The serializer's half.** A message with readable fields is read back as it is. -/
theorem parseMessage_bytes {m : ParsedMessage} (h : Readable m.headers) :
    parseMessage m.bytes = m := by
  rw [parseMessage, bytes, List.append_assoc, parseLines_fields [] h.field (by simpa using h.name),
    List.nil_append, parseLines_blank]

/-- Serializing a parsed message and parsing it again loses nothing, whatever was parsed first. -/
theorem reparse_lossless (b : Bytes) :
    (parseMessage (parseMessage b).bytes).headers = (parseMessage b).headers ∧
      (parseMessage (parseMessage b).bytes).body = (parseMessage b).body ∧
      (parseMessage (parseMessage b).bytes).bytes = (parseMessage b).bytes := by
  rw [parseMessage_bytes (readable_parseMessage b)]
  exact ⟨rfl, rfl, rfl⟩

end Mailout
