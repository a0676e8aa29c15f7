import Mailout.Chain
import Mailout.Serialize

/-!
# Modifications, to the byte

What a filter asks for, as operations on a message of fields and a body, and what `runOne` makes of it
in spools. Fields that are well formed are found again: `headerBlock` cuts a message where its fields
were written to (`headerBlockOf_writeHeaders`), and the parse gives them back. The loop of
`applyModifications` folds `onFields` over them, which says by positions what the positional edits of
`message.go` do, and `newBody` is what the chunks of a new body come to.

`runOne_modifies` puts this together for any disk: a filter's modifications come to the message that is
specified, or the disk failed and so did the filter.
-/

namespace Mailout

open Go Tx

/-! ## The header block of fields that were written -/

/-- A well-formed field. -/
structure HeaderField.WellFormed (f : HeaderField) : Prop where
  name_ne_nil : f.name ≠ []
  colon_not_mem : colon ∉ f.name
  cr_not_mem : cr ∉ f.name
  lf_not_mem : lf ∉ f.name
  unfolded : startsFolded f.name = false
  lines : ∃ (first : Bytes) (conts : List Bytes), f.value = first ++ conts.flatMap (crlf ++ ·) ∧
    IsText first ∧ ∀ c ∈ conts, Continues c

/-- A field that is well formed is read back as it was written. -/
theorem HeaderField.WellFormed.readable {f : HeaderField} (h : f.WellFormed) : f.Readable :=
  ⟨h.colon_not_mem, h.lf_not_mem, h.lines⟩

/-- So are the fields of a header that are. -/
theorem readable_of_wellFormed {hs : List HeaderField} (h : ∀ f ∈ hs, f.WellFormed) : Readable hs :=
  ⟨fun f hf => (h f hf).readable, fun f hf => (h f (List.mem_of_mem_tail hf)).unfolded⟩

/-- A field is written as lines, none of them blank. -/
theorem fieldLine_lines {f : HeaderField} (h : f.Readable) : ∃ ls : List Bytes,
    ParsedMessage.fieldLine f = ls.flatten ∧ ∀ l ∈ ls, IsLine l ∧ l ≠ crlf := by
  obtain ⟨first, conts, hvalue, hfirst, hconts⟩ := h.lines
  refine ⟨(f.name ++ lit ": " ++ first ++ crlf) :: conts.map (· ++ crlf), ?_, fun l hl => ?_⟩
  · have hcrlf := flatMap_crlf_append conts
    rw [ParsedMessage.fieldLine, hvalue, List.flatten_cons, ← List.flatMap_def]
    simp only [List.append_assoc] at hcrlf ⊢
    rw [hcrlf]
  · rcases List.mem_cons.mp hl with rfl | hl
    · refine ⟨(isText_firstLine h hfirst).isLine, fun heq => ?_⟩
      have hlen := congrArg List.length heq
      simp only [lit_colon, List.length_append, List.length_cons, List.length_nil] at hlen
      omega
    · obtain ⟨c, hc, rfl⟩ := List.mem_map.mp hl
      obtain ⟨htext, hfolded⟩ := hconts c hc
      refine ⟨htext.isLine, fun heq => ?_⟩
      rw [List.append_left_eq_self.mp heq] at hfolded
      cases hfolded

/-- Written out, fields are lines, and none of them is the empty one that ends a header. -/
theorem fields_lines {hs : List HeaderField} (h : ∀ f ∈ hs, f.Readable) : ∃ ls : List Bytes,
    hs.flatMap ParsedMessage.fieldLine = ls.flatten ∧ ∀ l ∈ ls, IsLine l ∧ l ≠ crlf := by
  induction hs with
  | nil => exact ⟨[], rfl, nofun⟩
  | cons f hs ih =>
    obtain ⟨ls₁, heq₁, hls₁⟩ := fieldLine_lines (h f List.mem_cons_self)
    obtain ⟨ls₂, heq₂, hls₂⟩ := ih fun g hg => h g (List.mem_cons_of_mem _ hg)
    refine ⟨ls₁ ++ ls₂, by rw [List.flatMap_cons, heq₁, heq₂, List.flatten_append], fun l hl => ?_⟩
    rcases List.mem_append.mp hl with hl | hl
    · exact hls₁ l hl
    · exact hls₂ l hl

/-- Lines that are put together are split into the same lines. -/
theorem splitLines_lines {ls : List Bytes} (h : ∀ l ∈ ls, IsLine l) (s : Bytes) :
    splitLines (ls.flatten ++ s) = ls ++ splitLines s := by
  induction ls with
  | nil => rfl
  | cons l ls ih =>
    rw [List.flatten_cons, List.append_assoc, splitLines_line (h l List.mem_cons_self),
      ih fun k hk => h k (List.mem_cons_of_mem _ hk), List.cons_append]

/-- A blank line is not before the first one. -/
theorem length_le_of_blank {ls : List Bytes} (h : ∀ l ∈ ls, IsLine l ∧ l ≠ crlf) {u s t : Bytes}
    (heq : u ++ crlf ++ crlf ++ t = ls.flatten ++ crlf ++ s) :
    ls.flatten.length ≤ (u ++ crlf).length := by
  have hsuffix : [lf] <:+ u ++ crlf := ⟨u ++ [cr], by simp [crlf]⟩
  have hblank : IsLine crlf := isText_nil.isLine
  have hlines : splitLines (u ++ crlf) ++ crlf :: splitLines t = ls ++ crlf :: splitLines s := by
    rw [← splitLines_blank (.inl rfl) hsuffix, heq, List.append_assoc,
      splitLines_lines fun l hl => (h l hl).1, splitLines_line hblank]
  rcases List.append_eq_append_iff.mp hlines with ⟨extra, hls, hrest⟩ | ⟨extra, hfirst, -⟩
  · cases extra with
    | nil =>
      rw [hls, List.append_nil, flatten_splitLines]
    | cons l extra =>
      -- the line behind `u` would be one of the fields'
      have hl : l = crlf := (List.cons.inj hrest).1.symm
      exact absurd hl (h l (by simp [hls])).2
  · have hflat := congrArg List.flatten hfirst
    rw [flatten_splitLines, List.flatten_append] at hflat
    rw [hflat, List.length_append]
    exact Nat.le_add_right _ _

/-- The header block of a message is what was written of its fields. -/
theorem headerBlockOf_writeHeaders {m : ParsedMessage} (hne : m.headers ≠ [])
    (h : ∀ f ∈ m.headers, f.Readable) (hlen : m.writeHeaders.length ≤ maxHeaderBytes) :
    headerBlockOf (m.writeHeaders ++ m.body) = (m.writeHeaders, true) := by
  obtain ⟨ls, hfields, hls⟩ := fields_lines h
  obtain ⟨u, hu⟩ : ∃ u, m.headers.flatMap ParsedMessage.fieldLine = u ++ crlf := by
    obtain ⟨init, last, hinit⟩ := List.eq_nil_or_concat m.headers |>.resolve_left hne
    refine ⟨init.flatMap ParsedMessage.fieldLine ++ (last.name ++ lit ": " ++ last.value), ?_⟩
    rw [hinit, List.concat_eq_append, List.flatMap_append]
    simp [ParsedMessage.fieldLine, List.append_assoc]
  have hwrite : m.writeHeaders = u ++ (crlf ++ crlf) := by
    rw [ParsedMessage.writeHeaders, hu, List.append_assoc]
  have htake : (m.writeHeaders ++ m.body).take maxHeaderBytes =
      u ++ (crlf ++ crlf) ++ m.body.take (maxHeaderBytes - m.writeHeaders.length) := by
    rw [List.take_append, List.take_of_length_le hlen, hwrite]
  rw [headerBlockOf, htake, cutBlock]
  generalize m.body.take (maxHeaderBytes - m.writeHeaders.length) = rest
  have hthere : crlf ++ crlf <+: (u ++ (crlf ++ crlf) ++ rest).drop u.length := by
    rw [List.append_assoc, List.drop_left]
    exact List.prefix_append _ _
  cases hindex : index (crlf ++ crlf) (u ++ (crlf ++ crlf) ++ rest) with
  | none => exact absurd hthere (index_eq_none hindex _)
  | some i =>
    obtain ⟨⟨t, ht⟩, hle, hfirst⟩ := index_eq_some hindex
    have hi : i ≤ u.length := Nat.le_of_not_lt fun hlt => hfirst _ hlt hthere
    -- and not before it, as there is no blank line among the fields
    have hblank := @length_le_of_blank ls hls ((u ++ (crlf ++ crlf) ++ rest).take i) rest t (by
      rw [← hfields, hu]
      simpa only [List.append_assoc] using ht.symm)
    rw [← hfields, hu, List.length_append, List.length_append, List.length_take_of_le hle] at hblank
    have heq : i = u.length := by omega
    simp only [heq, hwrite]
    rw [show u.length + 4 = (u ++ (crlf ++ crlf)).length by simp [crlf], List.take_left]

/-! ## What is asked for -/

/-- The position of the `index`-th field of a name, counted from one, ignoring case. -/
def positionOf (index : Nat) (name : Bytes) (hs : List HeaderField) : Option Nat :=
  if index = 0 then none else (hs.findIdxs fun f => equalFold f.name name)[index - 1]?

/-- A field at a position gets a value, or is removed if that is empty. -/
def setField (value : Bytes) (hs : List HeaderField) (k : Nat) : List HeaderField :=
  if value = [] then hs.eraseIdx k else hs.modify k fun f => { f with value := value }

namespace ModifyAction

/-- What an action asks for of the fields. -/
def onFields : ModifyAction → List HeaderField → List HeaderField
  | .addHeader name value, hs => hs ++ [⟨name, value⟩]
  | .insertHeader index name value, hs => hs.insertIdx (min (index - 1) hs.length) ⟨name, value⟩
  | .changeHeader index name value, hs =>
    match positionOf index name hs with
    | some k => setField value hs k
    | none => if value = [] then hs else hs ++ [⟨name, value⟩]
  | _, hs => hs

end ModifyAction

/-- The fields after some actions. -/
def onFields (acts : List ModifyAction) (hs : List HeaderField) : List HeaderField :=
  acts.foldl (fun hs act => act.onFields hs) hs

/-- The body that some actions put in place of the old one, if they do. -/
def newBody (acts : List ModifyAction) : Option Bytes :=
  if acts.filterMap ModifyAction.chunk = [] then none
  else some (acts.filterMap ModifyAction.chunk).flatten

/-- Inserting at an index that exists splits the list there. -/
theorem insertIdx_of_le {α : Type} (a : α) : ∀ {l : List α} {k : Nat}, k ≤ l.length →
    l.insertIdx k a = l.take k ++ a :: l.drop k
  | _, 0, _ => rfl
  | b :: l, k + 1, h => by
    rw [List.insertIdx_succ_cons, insertIdx_of_le a (Nat.le_of_succ_le_succ h)]
    rfl

/-- The loop of `changeHeader` finds no field of index zero, and none that it has passed. -/
theorem changeFrom_passed (name value : Bytes) : ∀ (hs : List HeaderField) {index seen : Int},
    index ≤ seen → ParsedMessage.changeFrom index name value seen hs = none
  | [], _, _, _ => rfl
  | f :: hs, index, seen, h => by
    have hnext : index ≤ seen + 1 := by omega
    have hne : seen + 1 ≠ index := by omega
    rw [ParsedMessage.changeFrom, changeFrom_passed name value hs h,
      changeFrom_passed name value hs hnext, if_pos hne]
    split_ifs <;> rfl

/-- The loop of `changeHeader`, `seen` fields of the name into the list. -/
theorem changeFrom_eq (name value : Bytes) : ∀ (hs : List HeaderField) (k seen : Nat),
    ParsedMessage.changeFrom (seen + k + 1 : Nat) name value seen hs =
      ((hs.findIdxs fun f => equalFold f.name name)[k]?).map (setField value hs)
  | [], _, _ => rfl
  | f :: hs, k, seen => by
    have hnext : ∀ j : Nat, setField value (f :: hs) (j + 1) = f :: setField value hs j := by
      intro j
      unfold setField
      split_ifs <;> rfl
    rw [ParsedMessage.changeFrom, List.findIdxs_cons, List.findIdxs_start]
    cases hname : equalFold f.name name with
    | false =>
      rw [changeFrom_eq name value hs k seen]
      simp [Function.comp_def, hnext]
    | true =>
      cases k with
      | zero =>
        have hhere : ¬ ((seen : Int) + 1 ≠ (seen + 0 + 1 : Nat)) := by omega
        rw [if_neg (by simp), if_neg hhere, if_pos rfl]
        show _ = some (setField value (f :: hs) 0)
        unfold setField
        split_ifs <;> rfl
      | succ k =>
        have hrest := changeFrom_eq name value hs k (seen + 1)
        have hlater : (seen : Int) + 1 ≠ (seen + (k + 1) + 1 : Nat) := by omega
        have hindex : seen + (k + 1) + 1 = seen + 1 + k + 1 := by omega
        rw [if_neg (by simp), if_pos hlater, hindex, ← Nat.cast_succ, hrest]
        simp [Function.comp_def, hnext]

/-- `changeHeader` changes the field of the name and index that it is asked for. -/
theorem changeHeader_headers (m : ParsedMessage) (index : Nat) (name value : Bytes) :
    (m.changeHeader index name value).headers =
      (ModifyAction.changeHeader index name value).onFields m.headers := by
  have hloop : ParsedMessage.changeFrom index name value 0 m.headers =
      (positionOf index name m.headers).map (setField value m.headers) := by
    cases index with
    | zero => exact changeFrom_passed name value m.headers (Int.le_refl 0)
    | succ k =>
      have := changeFrom_eq name value m.headers k 0
      rwa [Nat.zero_add] at this
  rw [ParsedMessage.changeHeader, hloop, ModifyAction.onFields]
  cases positionOf index name m.headers with
  | some k => rfl
  | none =>
    by_cases hvalue : value = []
    · simp [hvalue]
    · simp [hvalue, ParsedMessage.addHeader]

/-- The code does to the fields what the action asks for. -/
theorem onHeaders_headers (act : ModifyAction) (m : ParsedMessage) :
    (act.onHeaders m).headers = act.onFields m.headers := by
  cases act with
  | insertHeader index name value =>
    have hpos : ((index : Int) - 1).toNat = index - 1 := by omega
    show (m.insertHeader index name value).headers = m.headers.insertIdx _ _
    rw [insertIdx_of_le _ (Nat.min_le_right _ _), ParsedMessage.insertHeader, hpos]
  | changeHeader index name value => exact changeHeader_headers m index name value
  | _ => rfl

/-! ## Carrying it out -/

section
variable {w w₁ : World} {b : Bytes} {replacement : Option SpoolRef} {new : Option Bytes}

/-- The bytes of a message whose fields or body were changed, or else of the message as it was. -/
def rewritten (changed : Bool) (hs : List HeaderField) (new : Option Bytes) (headerLen : Nat)
    (b : Bytes) : Bytes :=
  if changed = true ∨ new.isSome = true then
    ParsedMessage.writeHeaders ⟨hs, []⟩ ++ new.getD (b.drop headerLen)
  else b

/-- The message has an envelope and bytes now, in its spool or in a new one. -/
structure Became (w : World) (msg : Message) (b : Bytes) (w' : World) : Prop where
  from_ : w'.msg.from_ = msg.from_
  to_ : w'.msg.to_ = msg.to_
  account : w'.msg.account = msg.account
  bytes : w'.bytes = b
  body : w'.msg.body = w.msg.body ∨ w.created ≤ w'.msg.body

/-- What became of a message since a later moment became of it since an earlier one with the same body. -/
theorem Became.of_later {msg : Message} {w' : World} (h : Became w₁ msg b w')
    (hbody : w₁.msg.body = w.msg.body) (hcreated : w.created ≤ w₁.created) : Became w msg b w' :=
  { h with body := h.body.imp (fun hsame => hsame.trans hbody) fun hnew => Nat.le_trans hcreated hnew }

/-- A spool that was there and is not the body is closed. -/
theorem Became.close {msg : Message} {w' : World} {ref : SpoolRef} (h : Became w msg b w')
    (hne : ref ≠ w.msg.body) (hlt : ref < w.created) : Became w msg b ((close ref).run w').2 := by
  have hbody : w'.msg.body ≠ ref := by
    rcases h.body with hsame | hnew
    · rw [hsame]
      exact hne.symm
    · exact Nat.ne_of_gt (Nat.lt_of_lt_of_le hlt hnew)
  have hspool : ((Tx.close ref).run w').2.spools w'.msg.body = w'.spools w'.msg.body :=
    Function.update_of_ne hbody _ _
  exact { h with bytes := (congrArg Spool.contents hspool).trans h.bytes }

/-- The end of the modifications: the message is put together from the fields and the new body if either
changed, or the disk failed. -/
theorem InHand.finishModifications (h : InHand w replacement new) (parsed : ParsedMessage)
    (headerLen : Nat) (changed : Bool) (hto : w.msg.to_ ≠ []) :
    Carries (finishModifications parsed headerLen changed replacement) w fun _ w' =>
      Became w w.msg (rewritten changed parsed.headers new headerLen w.bytes) w' := by
  have hsome : replacement.isSome = new.isSome := by cases h.drafted <;> rfl
  refine .bind (P := fun _ w' =>
    Became w w.msg (rewritten changed parsed.headers new headerLen w.bytes) w') ?_
    fun _ w₁ h₁ => ?_
  · unfold Comp.when rewritten
    rw [hsome]
    split_ifs with hchanged
    · refine (h.rewriteBody parsed headerLen).mono fun _ w' ⟨hmsg, _, hbytes, _⟩ => ?_
      exact ⟨by rw [hmsg], by rw [hmsg], by rw [hmsg], hbytes, .inr (by rw [hmsg])⟩
    · exact carries_pure ⟨rfl, rfl, rfl, rfl, .inl rfl⟩
  · refine .left (run_message w₁) (.refl _) ?_
    rw [if_neg (by rw [h₁.to_, List.length_eq_zero_iff]; exact hto)]
    exact carries_pure h₁

/-- The chunks of a new body, behind the ones so far. -/
def draftAfter (new : Option Bytes) (acts : List ModifyAction) : Option Bytes :=
  acts.foldl (fun new act => (act.chunk.map (new.getD [] ++ ·)).or new) new

/-- A change of the envelope leaves the replacement as it is. -/
theorem InHand.edit (h : InHand w replacement new) (act : ModifyAction) :
    InHand { w with msg := act.onMessage w.msg } replacement new where
  body := by simpa using h.body
  size := by simpa [World.bytes] using h.size
  apart := by simpa using h.apart
  drafted := h.drafted.of_spools rfl

/-- One more chunk in the spool of the new body. -/
theorem InHand.chunk {ref : SpoolRef} (h : InHand w (some ref) new) (p : Bytes) :
    Carries (onSpool ref (Spool.write p)) w fun _ w' =>
      InHand w' (some ref) (some (new.getD [] ++ p)) ∧ w'.msg = w.msg ∧ w'.bytes = w.bytes ∧
        w'.created = w.created := by
  obtain ⟨b, rfl, hdraft⟩ : ∃ b, new = some b ∧ Draft w ref b := by
    cases h.drafted with
    | some hdraft => exact ⟨_, rfl, hdraft⟩
  refine (hdraft.write p).mono fun _ w' ⟨hdraft', hworks⟩ => ?_
  obtain ⟨hlt, hne⟩ := h.apart ref rfl
  have hsame := hworks.spools w.msg.body hne.symm
  have hbytes : w'.bytes = w.bytes := by
    rw [World.bytes, hworks.msg]
    exact hsame.contents
  refine ⟨⟨?_, ?_, ?_, .some hdraft'⟩, hworks.msg, hbytes, hworks.created⟩
  · rw [hworks.msg, hworks.created]
    exact h.body
  · rw [hworks.msg, hsame.n, hbytes]
    exact h.size
  · rw [hworks.msg, hworks.created]
    exact h.apart

/-- The spool of a new body, still empty. -/
theorem InHand.sibling (h : InHand w none none) : ∃ w₁,
    (sibling w.msg.body).run w = (.ok w.created, w₁) ∧ InHand w₁ (some w.created) (some []) ∧
      w₁.msg = w.msg ∧ w₁.bytes = w.bytes ∧ w₁.created = w.created + 1 ∧ w₁.disk = w.disk := by
  have hbody : (w.withSpool (w.spools w.msg.body).sibling).spools w.msg.body = w.spools w.msg.body :=
    withSpool_old h.body
  have hbytes : (w.withSpool (w.spools w.msg.body).sibling).bytes = w.bytes :=
    congrArg Spool.contents hbody
  refine ⟨w.withSpool (w.spools w.msg.body).sibling, rfl,
    ⟨Nat.lt_succ_of_lt h.body, ?_, ?_, .some (draft_withSpool w _)⟩, rfl, hbytes, rfl, rfl⟩
  · rw [hbytes]
    exact (congrArg Spool.n hbody).trans h.size
  · rintro ref ⟨⟩
    exact ⟨Nat.lt_succ_self _, Nat.ne_of_gt h.body⟩

/-- The modifications come to what they ask for. The induction is over the actions, with the fields and
the chunks of the new body so far. -/
theorem carries_applyModifications (f : Milter) (headerLen : Nat) (acts : List ModifyAction) :
    ∀ {w : World} {replacement : Option SpoolRef} {new : Option Bytes} (parsed : ParsedMessage)
      (changed : Bool), InHand w replacement new → (∀ reason, .quarantine reason ∉ acts) →
      (onMessage acts w.msg).to_ ≠ [] →
      Carries (applyModifications f headerLen acts parsed changed replacement) w fun _ w' =>
        Became w (onMessage acts w.msg) (rewritten (acts.any ModifyAction.changesHeaders || changed)
          (onFields acts parsed.headers) (draftAfter new acts) headerLen w.bytes) w' := by
  induction acts with
  | nil =>
    intro w replacement new parsed changed h _ hto
    exact h.finishModifications parsed headerLen changed hto
  | cons act acts ih =>
    intro w replacement new parsed changed h hquarantine hto
    have hrest : ∀ reason, .quarantine reason ∉ acts :=
      fun reason hmem => hquarantine reason (List.mem_cons_of_mem _ hmem)
    have hflag : ∀ touches : Bool, (acts.any ModifyAction.changesHeaders || (touches || changed)) =
        (touches || acts.any ModifyAction.changesHeaders || changed) := by
      intro touches
      rw [Bool.or_left_comm, Bool.or_assoc]
    by_cases hedit : act.edits = true
    · have hchunk : act.chunk = none := by cases act <;> first | rfl | cases hedit
      have hnext := ih (act.onHeaders parsed) (act.changesHeaders || changed) (h.edit act) hrest hto
      have hbytes : World.bytes { w with msg := act.onMessage w.msg } = w.bytes := by
        simp [World.bytes]
      have hdraft : draftAfter new (act :: acts) = draftAfter new acts := by
        simp [draftAfter, hchunk]
      rw [hflag, onHeaders_headers, hbytes] at hnext
      rw [Carries, applyModifications_edit _ _ _ _ _ _ hedit, hdraft, List.any_cons]
      exact hnext.mono fun _ w' h' => h'.of_later (act.onMessage_body w.msg) (Nat.le_refl _)
    cases act with
    | replaceBody p =>
      -- a chunk goes to the spool of the new body, which the first one makes
      have hwrite : ∀ {ref : SpoolRef} {w₁ : World} {b : Option Bytes}, InHand w₁ (some ref) b →
          (onMessage acts w₁.msg).to_ ≠ [] → Carries (do
            onSpool ref (Spool.write p)
            applyModifications f headerLen acts parsed changed (some ref)) w₁ fun _ w' =>
              Became w₁ (onMessage acts w₁.msg)
                (rewritten (acts.any ModifyAction.changesHeaders || changed)
                  (onFields acts parsed.headers) (draftAfter (some (b.getD [] ++ p)) acts) headerLen
                  w₁.bytes) w' := by
        intro ref w₁ b h₁ hto₁
        refine .bind (h₁.chunk p) ?_
        rintro _ w₂ ⟨h₂, hmsg, hbytes, hcreated⟩
        have hnext := ih parsed changed h₂ hrest (by rw [hmsg]; exact hto₁)
        rw [hmsg, hbytes] at hnext
        exact hnext.mono fun _ w' h' => h'.of_later (by rw [hmsg]) (by rw [hcreated])
      cases replacement with
      | some ref => exact hwrite h hto
      | none =>
        cases h.drafted
        obtain ⟨w₁, hsibling, h₁, hmsg, hbytes, hcreated, hdisk⟩ := h.sibling
        have hnext := hwrite h₁ (by rw [hmsg]; exact hto)
        rw [hmsg, hbytes] at hnext
        refine .left (run_message w) (.refl _) (.left hsibling (by rw [hdisk]; exact .refl _) ?_)
        refine Carries.deferred hnext fun _ w' h' => ?_
        have hclosed := h'.close (by rw [hmsg]; exact Nat.ne_of_gt h.body)
          (by rw [hcreated]; exact Nat.lt_succ_self _)
        exact hclosed.of_later (by rw [hmsg]) (by rw [hcreated]; exact Nat.le_succ _)
    | quarantine reason => exact absurd List.mem_cons_self (hquarantine reason)
    | _ => exact absurd rfl hedit

end

/-! ## From the filter's answer to the message -/

/-- The draft has the chunks of the actions behind what it had, and there is none as long as there is no
chunk. -/
theorem draftAfter_eq : ∀ (acts : List ModifyAction) (new : Option Bytes), draftAfter new acts =
    if acts.filterMap ModifyAction.chunk = [] then new
    else some (new.getD [] ++ (acts.filterMap ModifyAction.chunk).flatten)
  | [], new => rfl
  | act :: acts, new => by
    have hcons : draftAfter new (act :: acts) =
      draftAfter ((act.chunk.map (new.getD [] ++ ·)).or new) acts := rfl
    rw [hcons, draftAfter_eq acts, List.filterMap_cons]
    cases hchunk : act.chunk with
    | none => rfl
    | some p =>
      by_cases hnil : acts.filterMap ModifyAction.chunk = []
      · simp [hnil]
      · simp [hnil, List.append_assoc]

/-- From the beginning, the draft is the new body that the actions ask for. -/
theorem draftAfter_none (acts : List ModifyAction) : draftAfter none acts = newBody acts := by
  rw [draftAfter_eq, newBody]
  rfl

/-- The message is put together again if an action is for a field or for the body. -/
theorem any_rewrites (acts : List ModifyAction) :
    (acts.any ModifyAction.changesHeaders = true ∨ (newBody acts).isSome = true) ↔
      ∃ act ∈ acts, act.rewrites = true := by
  have hbody : (newBody acts).isSome = true ↔ ∃ act ∈ acts, act.chunk.isSome = true := by
    rw [newBody]
    split_ifs with hnil
    · simp only [List.filterMap_eq_nil_iff] at hnil
      simpa using hnil
    · simpa [List.filterMap_eq_nil_iff, Option.isSome_iff_ne_none] using hnil
  rw [hbody, List.any_eq_true]
  simp only [ModifyAction.rewrites, Bool.or_eq_true]
  constructor
  · rintro (⟨act, hmem, h⟩ | ⟨act, hmem, h⟩)
    · exact ⟨act, hmem, .inl h⟩
    · exact ⟨act, hmem, .inr h⟩
  · rintro ⟨act, hmem, h | h⟩
    · exact .inl ⟨act, hmem, h⟩
    · exact .inr ⟨act, hmem, h⟩

/-- What a filter was shown of the fields, and where the body began. -/
theorem askFilter_ok {peers : Peers} {f : Milter} {info : SessionInfo} {w w₁ : World} {req : Request}
    (h : (askFilter peers f info).run w = (.ok req, w₁)) :
    req.parsed = (if (headerBlockOf w.bytes).2 = true then parseMessage (headerBlockOf w.bytes).1
      else ⟨[], []⟩) ∧
    req.headerLen =
      (if (headerBlockOf w.bytes).2 = true then (headerBlockOf w.bytes).1 else []).length := by
  rw [askFilter] at h
  obtain ⟨msg, w₂, hmsg, h⟩ := Comp.run_bind_ok h
  cases hmsg
  obtain ⟨_, w₃, hopen, h⟩ := Comp.run_bind_ok h
  obtain ⟨_, w₄, hsay, h⟩ := Comp.run_bind_ok h
  obtain ⟨block, w₅, hblock, h⟩ := Comp.run_bind_ok h
  -- what was said before did not touch the body
  have hopened := openSession_run peers f info w.msg.from_ w
  rw [hopen] at hopened
  obtain ⟨said, -, hsaid, -⟩ := sayAll_run peers f _ w₃
  rw [hsay] at hsaid
  have hbytes : (w₄.spools w.msg.body).contents = w.bytes :=
    ((hopened.trans hsaid).spools w.msg.body).contents
  obtain ⟨w', -, hyield | ⟨-, what, hyield⟩⟩ :=
    onSpool_yields (Spool.headerBlock_yields ⟨w₄.disk, w₄.spools w.msg.body⟩)
  · cases hblock.symm.trans hyield
    rw [hbytes] at h
    obtain ⟨_, w₆, -, h⟩ := Comp.run_bind_ok h
    obtain ⟨r, w₇, -, h⟩ := Comp.run_bind_ok h
    obtain ⟨got, w₈, -, h⟩ := Comp.run_bind_ok h
    obtain ⟨_, w₉, -, h⟩ := Comp.run_bind_ok h
    obtain ⟨_, w₁₀, -, h⟩ := Comp.run_bind_ok h
    obtain ⟨acts, w₁₁, -, h⟩ := Comp.run_bind_ok h
    cases h
    exact ⟨rfl, rfl⟩
  · cases hblock.symm.trans hyield

/-- **Modifications are exact.** A message is well-formed fields and a body, with a header block that is
within the bound; a filter asks for modifications, without a quarantine, that leave it a recipient.
Whatever the disk does: `runOne` gives the message the envelope that was asked for, and leaves its bytes
if no action is on the fields or the body, or else makes them of the fields as the actions change them,
in order, and the chunks of the new body, or of the old one if there are none; or the disk failed, and
so did the filter. -/
theorem runOne_modifies (peers : Peers) (f : Milter) (info : SessionInfo) (m : ParsedMessage)
    (w w₁ : World) (req : Request) (hfields : m.headers ≠ [])
    (hwell : ∀ field ∈ m.headers, field.WellFormed) (hlen : m.writeHeaders.length ≤ maxHeaderBytes)
    (hbytes : w.bytes = m.writeHeaders ++ m.body) (hbody : w.msg.body < w.created)
    (hsize : (w.spools w.msg.body).n = w.bytes.length)
    (hask : (askFilter peers f info).run w = (.ok req, w₁))
    (hquarantine : ∀ reason, .quarantine reason ∉ req.acts)
    (hto : (onMessage req.acts w.msg).to_ ≠ []) :
    (∃ w', (runOne peers f info).run w = (.ok (), w') ∧
      w'.msg.from_ = (onMessage req.acts w.msg).from_ ∧ w'.msg.to_ = (onMessage req.acts w.msg).to_ ∧
      ((∀ act ∈ req.acts, act.rewrites = false) → w'.bytes = w.bytes) ∧
      ((∃ act ∈ req.acts, act.rewrites = true) → w'.bytes =
        ParsedMessage.writeHeaders ⟨onFields req.acts m.headers, []⟩ ++
          (newBody req.acts).getD m.body)) ∨
    ¬ w₁.disk.Healthy ∧ ∃ what w', (runOne peers f info).run w = (.error (.other what), w') := by
  have hreadable := readable_of_wellFormed hwell
  have hblock := headerBlockOf_writeHeaders hfields hreadable.field hlen
  rw [← hbytes] at hblock
  obtain ⟨hparsed, hheaderLen⟩ := askFilter_ok hask
  rw [hblock, if_pos rfl] at hparsed hheaderLen
  have hheaders : req.parsed.headers = m.headers := by
    have hparse := @parseMessage_bytes ⟨m.headers, []⟩ hreadable
    rw [ParsedMessage.bytes, List.append_nil] at hparse
    rw [hparsed]
    exact (congrArg ParsedMessage.headers hparse :)
  -- asking leaves the message as it is
  obtain ⟨es, hobs⟩ : Watches w w₁ := by
    have := watches_askFilter peers f info w
    rwa [hask] at this
  have hbytes₁ : w₁.bytes = w.bytes := by
    rw [World.bytes, hobs.msg]
    exact (hobs.spools w.msg.body).contents
  have hhand : InHand w₁ none none := by
    refine ⟨?_, ?_, ?_, .none⟩
    · rw [hobs.msg, hobs.created]
      exact hbody
    · rw [hobs.msg, (hobs.spools w.msg.body).n, hbytes₁]
      exact hsize
    · intro ref h
      cases h
  have hcarries := carries_applyModifications f req.headerLen req.acts req.parsed false hhand
    hquarantine (by rw [hobs.msg]; exact hto)
  have hrun : (runOne peers f info).run w =
      (applyModifications f req.headerLen req.acts req.parsed false none).run w₁ := by
    rw [runOne_eq, Comp.run_bind_of_ok hask]
  rw [hobs.msg, hheaders, draftAfter_none, hbytes₁, Bool.or_false] at hcarries
  obtain ⟨w', -, ⟨_, hok, hbecame⟩ | ⟨hfailed, what, herr⟩⟩ := hcarries
  · refine .inl ⟨w', hrun.trans hok, hbecame.from_, hbecame.to_, fun hnone => ?_, fun hsome => ?_⟩
    · rw [hbecame.bytes, rewritten, if_neg]
      rw [any_rewrites]
      rintro ⟨act, hmem, hact⟩
      rw [hnone act hmem] at hact
      cases hact
    · rw [hbecame.bytes, rewritten, if_pos ((any_rewrites req.acts).mpr hsome), hheaderLen, hbytes]
      simp
  · exact .inr ⟨fun hd => hd.not_failed hfailed, what, w', hrun.trans herr⟩

deriving instance DecidableEq for Request

/-- A field in front, another value for a field, and a body in two chunks. -/
def someEdits : List ModifyAction :=
  [.insertHeader 1 (lit "X") (lit "y"), .changeHeader 1 (lit "subject") (lit "b"),
    .replaceBody (lit "good"), .replaceBody (lit "bye")]

/-- A filter that asks for them. -/
def editor : Peers := { agreeable with milterEnd := fun _ => .ok (someEdits, none) }

def av : Milter := ⟨lit "av", false⟩

def unknownClient : SessionInfo := ⟨[], [], 0, [], [], [], []⟩

/-- A message with one field. -/
def subjectOnly : ParsedMessage := ⟨[⟨lit "Subject", lit "a"⟩], lit "hi"⟩

/-- The message in memory, for one recipient. -/
def subjectMessage : World := .about (lit "a@x") [lit "c@x"] subjectOnly.bytes

/-- What that filter asks for, with the header it was told. -/
theorem editor_asks : ((askFilter editor av unknownClient).run subjectMessage).1 =
    .ok ⟨someEdits, ⟨subjectOnly.headers, []⟩, 14⟩ := by
  decide +kernel

/-- The field of that message is well formed. -/
theorem subjectOnly_wellFormed : ∀ field ∈ subjectOnly.headers, field.WellFormed := by
  intro field hfield
  rw [List.mem_singleton.mp hfield]
  exact ⟨by decide, by decide, by decide, by decide, by decide, lit "a", [], by decide,
    ⟨by decide, by decide⟩, nofun⟩

/-- A field is inserted, another one is changed, and the body is replaced. -/
theorem runOne_modifies_field : ∃ w', (runOne editor av unknownClient).run subjectMessage =
      (.ok (), w') ∧ w'.bytes = lit "X: y\r\nSubject: b\r\n\r\ngoodbye" := by
  obtain ⟨es, hobs⟩ := watches_askFilter editor av unknownClient subjectMessage
  have hasks := editor_asks
  rcases hask : (askFilter editor av unknownClient).run subjectMessage with ⟨r, w₁⟩
  rw [hask] at hobs hasks
  simp only at hasks
  subst hasks
  obtain ⟨w', hrun, -, -, -, hbytes⟩ | ⟨hsick, -⟩ := runOne_modifies editor av unknownClient subjectOnly
    subjectMessage w₁ _ (by decide) subjectOnly_wellFormed (by decide +kernel) rfl (by decide) rfl hask
    (by simp [someEdits]) (by decide +kernel)
  · refine ⟨w', hrun, (hbytes ⟨.replaceBody (lit "bye"), by simp [someEdits], rfl⟩).trans ?_⟩
    decide +kernel
  · exact absurd (Disk.Healthy.later (fun _ _ => rfl) hobs.disk) hsick

end Mailout
