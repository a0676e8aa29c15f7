import Mailout.Policy
import Mailout.Spool

/-!
# The visible sender

`checkHeaderFrom` of `internal/gateway/server.go`: the sender policy applied to the From field of a
message. It looks at the fields `parseMessage` reads off the header block, which may be fewer than
the lines before the first empty line: a line without a colon ends the parse, and so does one made of
several CR before its LF.

`froms` collects the From fields of a list of lines. `headerFroms_ok` says that what the check
passes to the policy is `froms` of the lines read, and `accepted_single_from_iff` when these are all
the From lines before the first empty line.
-/

namespace Mailout

open Go

/-- `errSpoolFailed`. -/
def errSpoolFailed (_ : Err) : Err :=
  .smtp ⟨451, (4, 3, 0), lit "Unable to buffer the message, try again later"⟩

/-- `errMalformedHeaders`. -/
def errMalformedHeaders (why : Bytes) : Err :=
  .smtp ⟨550, (5, 6, 0), lit "Malformed message headers: " ++ why⟩

/-- `errSenderNotAllowed`. -/
def errSenderNotAllowed (address : Bytes) : Err :=
  .smtp ⟨550, (5, 7, 1), lit "Sender " ++ address ++ lit " is not allowed for this account"⟩

/-- The white space a field name must not end in. -/
def blanks : Bytes := [space, tab]

/-- The loop of `checkHeaderFrom`: the values of the From fields, in order. -/
def fromValues : List HeaderField → Except Err (List Bytes)
  | [] => .ok []
  | field :: fields =>
    if field.name ≠ trimRight blanks field.name then
      .error (errMalformedHeaders (lit "whitespace before a header's colon"))
    else do
      let found ← fromValues fields
      return if equalFold field.name (lit "From") then field.value :: found else found

/-- The first part of `checkHeaderFrom`, up to the values found. -/
def headerFroms : SpoolOp (List Bytes) := do
  match ← Comp.attempt Spool.headerBlock with
  | .error e => Comp.fail (errSpoolFailed e)
  | .ok (_, false) => Comp.fail (errMalformedHeaders (lit "no end of header block found"))
  | .ok (header, true) => Comp.ofExcept (fromValues (parseMessage header).headers)

/-- `checkHeaderFrom`. -/
def checkHeaderFrom (policy : SenderPolicy) : SpoolOp Unit := do
  match ← headerFroms with
  | [value] =>
    if policy.allows value then return
    else Comp.fail (errSenderNotAllowed (trimSpace value))
  | [] => Comp.fail (errMalformedHeaders (lit "no From header"))
  | _ => Comp.fail (errMalformedHeaders (lit "more than one From header"))

/-! ## From lines -/

/-- A line that starts a From field, as a reader of the message takes it. -/
def isFromLine (l : Bytes) : Bool :=
  !startsFolded l && colon ∈ l && equalFold (trimRight blanks (lineName l)) (lit "From")

/-- The lines of a message before its first empty line. -/
def headerSection (b : Bytes) : List Bytes :=
  (splitLines b).takeWhile fun l => l.getLast? == some lf && !isEmptyLine l

/-- The lines of the header section from the one on where `parseMessage` stops. -/
def unreadSection (b : Bytes) : List Bytes :=
  (headerSection b).drop (readLines false (splitLines b)).length

/-- The values of the From fields that start on some line. -/
def froms : List Bytes → List Bytes
  | [] => []
  | l :: ls => if isFromLine l then fieldValue l ls :: froms ls else froms ls

/-- If no field is refused, no name has blanks behind it, and the values are those of the From fields. -/
theorem fromValues_ok {fs : List HeaderField} {vs : List Bytes} (h : fromValues fs = .ok vs) :
    (∀ f ∈ fs, trimRight blanks f.name = f.name) ∧
      vs = (fs.filter fun f => equalFold f.name (lit "From")).map HeaderField.value := by
  induction fs generalizing vs with
  | nil =>
    cases h
    exact ⟨fun _ hf => absurd hf List.not_mem_nil, rfl⟩
  | cons f fs ih =>
    rw [fromValues] at h
    by_cases hname : f.name ≠ trimRight blanks f.name
    · rw [if_pos hname] at h
      cases h
    rw [if_neg hname] at h
    cases hrest : fromValues fs with
    | error e => rw [hrest] at h; cases h
    | ok found =>
      rw [hrest] at h
      obtain ⟨hclean, rfl⟩ := ih hrest
      cases h
      refine ⟨?_, ?_⟩
      · intro g hg
        rcases List.mem_cons.mp hg with rfl | hg
        · exact (not_not.mp hname).symm
        · exact hclean g hg
      · rw [List.filter_cons]
        split_ifs <;> rfl

/-- A name that starts with white space is not From. -/
theorem equalFold_startsFolded {l : Bytes} (h : startsFolded l = true) :
    equalFold (lineName (trimLine l)) (lit "From") = false := by
  obtain ⟨t, heq, ht⟩ := trimLine_append l
  have hne := trimLine_of_startsFolded h
  cases hl : trimLine l with
  | nil => exact absurd hl hne
  | cons c rest =>
    rw [hl] at heq
    have hc : c = space ∨ c = tab := by
      rw [heq] at h
      simpa [startsFolded] using h
    have hcolon : c ≠ colon := by
      rcases hc with rfl | rfl <;> decide
    have hname : lineName (c :: rest) = [] ∨ lineName (c :: rest) = c :: lineName rest := by
      rw [lineName, cut, if_neg hcolon]
      cases hcut : cut colon rest with
      | none => exact .inl rfl
      | some q => exact .inr (by simp [lineName, hcut])
    rcases hname with hname | hname
    · rw [hname]
      decide +kernel
    · rw [hname, equalFold, runes_ascii_cons (by rcases hc with rfl | rfl <;> decide)]
      rcases hc with rfl | rfl
      all_goals
        rw [List.map_cons, beq_eq_false_iff_ne]
        intro hcontra
        have hhead := congrArg List.head? hcontra
        revert hhead
        rw [List.head?_cons]
        decide +kernel

/-- Of a line that is read, folding and all, the check sees a From field exactly if it is a From
line. -/
theorem isFromLine_iff {l : Bytes} (hc : colon ∈ trimLine l)
    (hclean : trimRight blanks (lineName (trimLine l)) = lineName (trimLine l)) :
    isFromLine l = equalFold (lineName (trimLine l)) (lit "From") := by
  have hc' : colon ∈ l := (mem_trimLine (by decide) (by decide)).mp hc
  rw [lineName_trimLine hc'] at hclean
  rw [isFromLine, hclean, lineName_trimLine hc']
  cases hf : startsFolded l with
  | false => simp [hc']
  | true =>
    have := equalFold_startsFolded hf
    rw [lineName_trimLine hc'] at this
    simp [this]

/-- Read from the lines, the values of the From fields are those of the lines that begin one, each with the
folded lines behind it. -/
theorem froms_fieldsFrom {ls : List Bytes} (h : headerLines true ls = true)
    (hclean : ∀ f ∈ fieldsFrom ls, trimRight blanks f.name = f.name) :
    ((fieldsFrom ls).filter fun f => equalFold f.name (lit "From")).map HeaderField.value =
      froms ls := by
  induction ls with
  | nil => rfl
  | cons l ls ih =>
    rw [headerLines, Bool.and_eq_true] at h
    rw [fieldsFrom] at hclean ⊢
    rw [froms]
    by_cases hf : startsFolded l = true
    · have hl : isFromLine l = false := by simp [isFromLine, hf]
      rw [if_pos hf] at hclean ⊢
      rw [hl]
      exact ih h.2 hclean
    · rw [if_neg hf] at hclean ⊢
      have hcol : colon ∈ trimLine l := by
        have := h.1
        simp only [isHeaderLine, decide_eq_true_eq, hf] at this
        simpa using this.2
      have ih' := ih h.2 fun f hm => hclean f (List.mem_cons_of_mem _ hm)
      rw [isFromLine_iff hcol (hclean (lineField l ls) (List.mem_cons_self ..)), List.filter_cons,
        ← ih']
      show List.map _ (if equalFold (lineName (trimLine l)) (lit "From") = true then _ else _) = _
      split_ifs <;> rfl

/-- What the check collects from the lines it reads. -/
theorem fromValues_fieldsOf {ls : List Bytes} {vs : List Bytes} (h : headerLines false ls = true)
    (hok : fromValues (fieldsOf ls) = .ok vs) : vs = froms ls := by
  cases ls with
  | nil =>
    cases hok
    rfl
  | cons l ls =>
    obtain ⟨hclean, rfl⟩ := fromValues_ok hok
    rw [fieldsOf_cons h] at hclean ⊢
    rw [headerLines, Bool.and_eq_true] at h
    have hcol : colon ∈ trimLine l := by
      have := h.1
      simp only [isHeaderLine, decide_eq_true_eq, Bool.false_eq_true, and_false, false_or] at this
      exact this.2
    rw [froms, isFromLine_iff hcol (hclean (lineField l ls) (List.mem_cons_self ..)),
      List.filter_cons, ← froms_fieldsFrom h.2 fun f hm => hclean f (List.mem_cons_of_mem _ hm)]
    show List.map _ (if equalFold (lineName (trimLine l)) (lit "From") = true then _ else _) = _
    split_ifs <;> rfl

/-! ## All the From lines of a header section -/

/-- What is taken ends in the first part, if the second one does not begin with what is taken. -/
theorem takeWhile_append_of_head {p : Bytes → Bool} (a : List Bytes) {b : List Bytes}
    (hb : ∀ l ∈ b.head?, p l = false) : (a ++ b).takeWhile p = a.takeWhile p := by
  induction a with
  | nil =>
    cases b with
    | nil => rfl
    | cons l b => simp [hb l rfl]
  | cons l a ih => simp only [List.cons_append, List.takeWhile_cons, ih]

/-- Lines that do not start with a folded one have From fields of their own. -/
theorem froms_append (a : List Bytes) {b : List Bytes}
    (hb : ∀ l ∈ b.head?, startsFolded l = false) : froms (a ++ b) = froms a ++ froms b := by
  induction a with
  | nil => rfl
  | cons l a ih =>
    have hvalue : fieldValue l (a ++ b) = fieldValue l a := by
      rw [fieldValue, fieldValue, takeWhile_append_of_head a hb]
    rw [List.cons_append, froms, froms, ih, hvalue]
    split_ifs <;> rfl

/-- There is no From field if no line begins one. -/
theorem froms_eq_nil {ls : List Bytes} : froms ls = [] ↔ ∀ l ∈ ls, isFromLine l = false := by
  induction ls with
  | nil => simp [froms]
  | cons l ls ih =>
    rw [froms]
    cases hl : isFromLine l <;> simp [hl, ih]

/-- There is one if exactly one line does, and its value goes to the next line that is not folded. -/
theorem froms_eq_singleton {ls : List Bytes} {v : Bytes} : froms ls = [v] ↔
    ∃ before l after, ls = before ++ l :: after ∧ isFromLine l = true ∧
      (∀ m ∈ before ++ after, isFromLine m = false) ∧ fieldValue l after = v := by
  constructor
  · intro h
    induction ls with
    | nil => cases h
    | cons l ls ih =>
      rw [froms] at h
      cases hl : isFromLine l with
      | true =>
        rw [if_pos hl, List.cons.injEq] at h
        exact ⟨[], l, ls, rfl, hl, froms_eq_nil.mp h.2, h.1⟩
      | false =>
        rw [if_neg (by simp [hl])] at h
        obtain ⟨before, m, after, rfl, hm, hothers, hv⟩ := ih h
        refine ⟨l :: before, m, after, rfl, hm, fun k hk => ?_, hv⟩
        rcases List.mem_cons.mp hk with rfl | hk
        · exact hl
        · exact hothers k hk
  · rintro ⟨before, l, after, rfl, hl, hothers, rfl⟩
    have hbefore : ∀ m ∈ before, isFromLine m = false :=
      fun m hm => hothers m (List.mem_append_left _ hm)
    have hafter : froms after = [] :=
      froms_eq_nil.mpr fun m hm => hothers m (List.mem_append_right _ hm)
    have hfolded : startsFolded l = false := by
      simp only [isFromLine, Bool.and_eq_true, Bool.not_eq_true'] at hl
      exact hl.1.1
    rw [froms_append before (by simpa using hfolded), froms_eq_nil.mpr hbefore, froms, if_pos hl,
      hafter]
    rfl

/-- Among the lines before the first empty one, one starts a From field, and `v` is its value. -/
def SoleFrom (b v : Bytes) : Prop :=
  ∃ before l after, headerSection b = before ++ l :: after ∧ isFromLine l = true ∧
    (∀ m ∈ before ++ after, isFromLine m = false) ∧ fieldValue l after = v

/-- The part of the header section that is read, and the part that is not. -/
theorem headerSection_split {b block : Bytes} (h : headerBlockOf b = (block, true)) :
    (parseMessage block).headers = fieldsOf (readLines false (splitLines b)) ∧
      headerSection b = readLines false (splitLines b) ++ unreadSection b ∧
      (readLines false (splitLines b) ≠ [] →
        ∀ l ∈ (unreadSection b).head?, startsFolded l = false) := by
  obtain ⟨ls, e, rest, he, hends, hblock, hb, hlines⟩ := headerBlockOf_lines h
  have hread := readLines_empty he ls (splitLines rest) false
  rw [parseMessage_headers, hblock, readLines_empty he, hlines, hread]
  have hpre := headerLines_readLines ls false
  obtain ⟨r, hls, hr⟩ := readLines_split ls false
  generalize hpdef : readLines false ls = pre at *
  have hheader : ∀ l ∈ pre, (l.getLast? == some lf && !isEmptyLine l) = true := by
    intro l hl
    obtain ⟨u, rfl, -⟩ := hends l (hls ▸ List.mem_append_left _ hl)
    have hne := trimLine_of_headerLines hpre _ hl
    have hempty : isEmptyLine (u ++ [lf]) = false :=
      Bool.eq_false_iff.mpr fun hcontra => hne (trimLine_of_isEmptyLine hcontra)
    simp [hempty]
  have hsection : headerSection b = pre ++ r.takeWhile
      fun l => l.getLast? == some lf && !isEmptyLine l := by
    rw [headerSection, hlines, hls, List.append_assoc, List.takeWhile_append_of_pos hheader]
    rw [takeWhile_append_of_head r (by simp [he])]
  refine ⟨rfl, ?_, ?_⟩
  · rw [unreadSection, hsection, hlines, hread, List.drop_left]
  · intro hne l hl
    rw [unreadSection, hsection, hlines, hread, List.drop_left] at hl
    rcases hr with rfl | ⟨k, t, rfl, hk⟩
    · cases hl
    · have hkl : k = l := by
        rw [List.takeWhile_cons] at hl
        split_ifs at hl with hp
        · exact Option.some.inj hl
        · cases hl
      subst hkl
      -- a folded line behind a field would have been read
      by_contra hfolded
      rw [Bool.not_eq_false] at hfolded
      have hne' := trimLine_of_startsFolded hfolded
      simp [isHeaderLine, hfolded, hne, hne'] at hk

/-- What the check passes on is read off the spool: the From fields of the lines read. -/
theorem headerFroms_ok {st : SpoolState} {vs : List Bytes} (h : (headerFroms.run st).1 = .ok vs) :
    ∃ block, headerBlockOf st.spool.contents = (block, true) ∧
      vs = froms (readLines false (splitLines st.spool.contents)) := by
  obtain ⟨-, hok | ⟨-, what, herr⟩⟩ := Spool.headerBlock_yields st
  · have hrun : (headerFroms.run st).1 = match headerBlockOf st.spool.contents with
        | (_, false) => .error (errMalformedHeaders (lit "no end of header block found"))
        | (header, true) => fromValues (parseMessage header).headers := by
      rw [headerFroms, Comp.run_bind, Comp.run_attempt, hok]
      rcases headerBlockOf st.spool.contents with ⟨header, _ | _⟩ <;> rfl
    rw [hrun] at h
    rcases hblock : headerBlockOf st.spool.contents with ⟨block, _ | _⟩
    · rw [hblock] at h
      cases h
    · rw [hblock] at h
      have hfields := (headerSection_split hblock).1
      refine ⟨block, rfl, fromValues_fieldsOf (headerLines_readLines _ _) ?_⟩
      rw [← hfields]
      exact h
  · rw [headerFroms, Comp.run_bind, Comp.run_attempt, herr] at h
    cases h

/-- An accepted message has one From field among the lines read, and the policy allows its value. -/
theorem checkHeaderFrom_ok {policy : SenderPolicy} {st : SpoolState}
    (h : ((checkHeaderFrom policy).run st).1 = .ok ()) :
    ∃ v, (headerFroms.run st).1 = .ok [v] ∧ policy.allows v = true := by
  obtain ⟨found, st', hfound, hrest⟩ := Comp.run_bind_ok (Prod.ext h rfl)
  rcases found with _ | ⟨v, _ | ⟨w, vs⟩⟩
  · exact nomatch (Prod.ext_iff.mp hrest).1
  · refine ⟨v, congrArg Prod.fst hfound, ?_⟩
    by_contra hv
    simp only [if_neg hv] at hrest
    exact nomatch (Prod.ext_iff.mp hrest).1
  · exact nomatch (Prod.ext_iff.mp hrest).1

/-- **The From fields of an accepted message.** The value the policy was asked about is that of the
only From line before the first empty line, unless a From line stands in the part of the header
section that `parseMessage` does not read. -/
theorem accepted_single_from_iff (policy : SenderPolicy) (st : SpoolState)
    (h : ((checkHeaderFrom policy).run st).1 = .ok ()) :
    ∃ v, (headerFroms.run st).1 = .ok [v] ∧ policy.allows v = true ∧
      (SoleFrom st.spool.contents v ↔
        ∀ l ∈ unreadSection st.spool.contents, isFromLine l = false) := by
  obtain ⟨v, hfroms, hallowed⟩ := checkHeaderFrom_ok h
  obtain ⟨block, hblock, hv⟩ := headerFroms_ok hfroms
  obtain ⟨-, hsplit, hfolded⟩ := headerSection_split hblock
  have hne : readLines false (splitLines st.spool.contents) ≠ [] := by
    intro hnil
    rw [hnil] at hv
    cases hv
  refine ⟨v, hfroms, hallowed, ?_⟩
  rw [SoleFrom, ← froms_eq_singleton, hsplit, froms_append _ (hfolded hne), ← hv,
    ← froms_eq_nil, List.singleton_append, List.cons.injEq]
  exact ⟨And.right, fun h => ⟨rfl, h⟩⟩

/-- A message with one From field, which is allowed, and nothing behind its header that reads as another. -/
theorem accepted_single_from_plain : ∃ v,
    (headerFroms.run (inMemory (lit "From: app@allowed.test\r\nTo: x@y\r\n\r\nhi"))).1 = .ok [v] ∧
      (newSenderPolicy [lit "*@allowed.test"]).allows v = true ∧
      (SoleFrom (lit "From: app@allowed.test\r\nTo: x@y\r\n\r\nhi") v ↔
        ∀ l ∈ unreadSection (lit "From: app@allowed.test\r\nTo: x@y\r\n\r\nhi"),
          isFromLine l = false) :=
  accepted_single_from_iff (newSenderPolicy [lit "*@allowed.test"])
    (inMemory (lit "From: app@allowed.test\r\nTo: x@y\r\n\r\nhi")) (by decide +kernel)

/-- A line without a colon hides a second From line from the check, not from its reader. -/
theorem accepted_second_from :
    ((checkHeaderFrom (newSenderPolicy [lit "*@allowed.test"])).run (inMemory
      (lit "From: app@allowed.test\r\nno colon\r\nFrom: ceo@victim.test\r\n\r\nhi"))).1 = .ok () ∧
    (headerSection
      (lit "From: app@allowed.test\r\nno colon\r\nFrom: ceo@victim.test\r\n\r\nhi")).filter
        isFromLine = [lit "From: app@allowed.test\r\n", lit "From: ceo@victim.test\r\n"] ∧
    (newSenderPolicy [lit "*@allowed.test"]).allows (lit "ceo@victim.test") = false := by
  decide +kernel

end Mailout
