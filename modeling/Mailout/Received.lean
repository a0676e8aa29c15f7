import Mailout.Serialize
import Mailout.Session

/-!
# The Received field in front of a message

`session.receivedHeader` writes four values that a client chooses or influences in front of what the
client sends. `headerSafe` leaves no control character in any of them (`mem_headerSafe`), so the
text is one field of three lines (`receivedHeader_eq`), and a parser that reads it in front of a
message that does not start like a folded line goes on as if it had read the message alone
(`parseMessage_field`). A value is cut before it is cleaned, so the bound on its length holds only
where cleaning does not make it longer (`headerSafe_bounded_iff`).
-/

namespace Mailout

open Go ParsedMessage

/-! ## A field in front of a message -/

/-- A folded line does not reach the first of several fields. -/
theorem foldOntoLast_cons (f : HeaderField) {hs : List HeaderField} (hne : hs ≠ []) (t : Bytes) :
    foldOntoLast (f :: hs) t = f :: foldOntoLast hs t := by
  obtain ⟨init, last, rfl⟩ : ∃ init last, hs = init ++ [last] :=
    ⟨hs.dropLast, hs.getLast hne, (List.dropLast_append_getLast hne).symm⟩
  rw [← List.cons_append, foldOntoLast_concat, foldOntoLast_concat, List.cons_append]

/-- A field read before changes nothing of what the loop reads, unless the first line continues
it. -/
theorem parseLines_cons {ls : List Bytes} (f : HeaderField) (hs : List HeaderField)
    (h : hs ≠ [] ∨ ∀ l ∈ ls.head?, startsFolded l = false) :
    parseLines (f :: hs) ls =
      ⟨f :: (parseLines hs ls).headers, (parseLines hs ls).body⟩ := by
  induction ls generalizing hs with
  | nil => rfl
  | cons l ls ih =>
    have hfold : (startsFolded l = true ∧ (f :: hs).length > 0) ↔
        (startsFolded l = true ∧ hs.length > 0) := by
      refine and_congr_right fun hl => ⟨fun _ => ?_, fun _ => by simp⟩
      rcases h with hne | hhead
      · exact List.length_pos_of_ne_nil hne
      · rw [hhead l rfl] at hl
        cases hl
    rw [parseLines, parseLines]
    simp only [hfold]
    split_ifs with hblank hcont
    · rfl
    · have hne : hs ≠ [] := List.ne_nil_of_length_pos hcont.2
      rw [foldOntoLast_cons f hne, ih _ (.inl ?_)]
      rw [← List.length_pos_iff, foldOntoLast_length]
      exact hcont.2
    · cases cut colon (trimLine l) with
      | none => rfl
      | some q => exact ih _ (.inl (by simp))

/-- A text begins with a folded line exactly if its first line is one. -/
theorem startsFolded_head_splitLines {b l : Bytes} (h : l ∈ (splitLines b).head?) :
    startsFolded l = startsFolded b := by
  have hb := flatten_splitLines b
  have hne : l ≠ [] := ne_nil_of_mem_splitLines (List.mem_of_mem_head? h)
  cases hs : splitLines b with
  | nil =>
    rw [hs] at h
    cases h
  | cons k ks =>
    rw [hs] at h hb
    obtain rfl : k = l := by simpa using h
    cases k with
    | nil => exact absurd rfl hne
    | cons x k =>
      rw [← hb]
      rfl

/-- A field written in front of a message is read as one more field. -/
theorem parseMessage_field {f : HeaderField} (hf : f.Readable) {b : Bytes}
    (hb : startsFolded b = false) : parseMessage (fieldLine f ++ b) =
      ⟨f :: (parseMessage b).headers, (parseMessage b).body⟩ := by
  rw [parseMessage, parseLines_field hf (.inl rfl), List.nil_append]
  exact parseLines_cons f [] (.inr fun l hl => by rw [startsFolded_head_splitLines hl, hb])

/-! ## What `headerSafe` leaves -/

/-- No control character is left, whatever the bytes and wherever the value was cut. -/
theorem mem_headerSafe {value : Bytes} {b : UInt8} (h : b ∈ headerSafe value) : 0x20 ≤ b.toNat := by
  unfold headerSafe encodeRunes at h
  obtain ⟨r, hr, hb⟩ := List.mem_flatMap.mp h
  obtain ⟨c, -, rfl⟩ := List.mem_map.mp hr
  refine le_of_mem_encodeRune ?_ (by decide) hb
  split_ifs with hc
  · omega
  · omega

/-- What is made safe for a header has no line end in it, so that nothing behind a field can be forged. -/
theorem headerSafe_text {value : Bytes} {b : UInt8} (h : b ∈ headerSafe value) : b ≠ cr ∧ b ≠ lf := by
  have hge := mem_headerSafe h
  constructor <;> (rintro rfl; revert hge; decide)

/-- A value is written with one byte for each control character, as it was read. -/
theorem length_headerSafe (value : Bytes) : (headerSafe value).length =
    (value.take headerSafeLimit).length + 2 * invalidBytes (value.take headerSafeLimit) := by
  have hsafe : ∀ r, (encodeRune (if r < 0x20 ∨ r = 0x7F then 0x3F else r)).length =
      (encodeRune r).length := by
    intro r
    split_ifs with hr
    · have hv : toValid r = r := if_pos (by omega)
      have hascii : r < 0x80 := by omega
      simp only [encodeRune, hv, if_pos hascii]
      rfl
    · rfl
  rw [← length_encodeRunes_runes, headerSafe, encodeRunes, encodeRunes, List.length_flatMap,
    List.length_flatMap, List.map_map, List.map_map]
  exact congrArg List.sum (List.map_congr_left fun c _ => hsafe c.rune)

/-- The delete character is replaced as well. -/
theorem delete_not_mem_headerSafe (value : Bytes) : 0x7F ∉ headerSafe value := by
  intro h
  unfold headerSafe encodeRunes at h
  obtain ⟨r, hr, hb⟩ := List.mem_flatMap.mp h
  obtain ⟨c, -, rfl⟩ := List.mem_map.mp hr
  have heq := eq_of_mem_encodeRune hb (by decide)
  have hdel : (0x7F : UInt8).toNat = 0x7F := rfl
  split_ifs at heq with hc
  · cases heq
  · exact hc (.inr (heq.symm.trans hdel))

/-- **What `headerSafe` bounds.** -/
theorem headerSafe_bounded_iff (value : Bytes) :
    ((∀ b ∈ headerSafe value, 0x20 ≤ b.toNat ∧ b ≠ 0x7F) ∧
      (headerSafe value).length ≤ headerSafeLimit) ↔
    (value.take headerSafeLimit).length + 2 * invalidBytes (value.take headerSafeLimit) ≤
      headerSafeLimit := by
  rw [length_headerSafe]
  refine and_iff_right fun b hb => ⟨mem_headerSafe hb, ?_⟩
  rintro rfl
  exact delete_not_mem_headerSafe value hb

/-- A string of bytes that are not UTF-8 gets longer than the limit: the limit is on the bytes before each
of them is written as a rune. -/
theorem headerSafe_grows :
    ¬ ((∀ b ∈ headerSafe (List.replicate 128 0xFF), 0x20 ≤ b.toNat ∧ b ≠ 0x7F) ∧
      (headerSafe (List.replicate 128 0xFF)).length ≤ headerSafeLimit) := by
  decide +kernel

/-- Bytes none of which ends a line are text. -/
theorem isText_of_forall {t : Bytes} (h : ∀ b ∈ t, b ≠ cr ∧ b ≠ lf) : IsText t :=
  ⟨fun hmem => (h lf hmem).2 rfl, fun hlast => (h cr (List.mem_of_getLast? hlast)).1 rfl⟩

/-! ## The Received field -/

/-- The first line of the Received field behind its name. -/
def receivedFrom (s : Session) : Bytes :=
  lit "from " ++ headerSafe s.conn.hostname ++ lit " (" ++ headerSafe s.conn.remoteAddr ++ lit ")"

/-- The second line. -/
def receivedBy (s : Session) (acct : Account) : Bytes :=
  lit "\tby " ++ headerSafe s.snap.hostname ++ lit " (mailout) with ESMTPSA id " ++
    headerSafe acct.username ++ lit ";"

/-- The field `receivedHeader` writes. -/
def receivedField (s : Session) (acct : Account) (date : Bytes) : HeaderField where
  name := lit "Received"
  value := receivedFrom s ++ [receivedBy s acct, tab :: date].flatMap (crlf ++ ·)

/-- The Received header is written as one field. -/
theorem receivedHeader_eq (s : Session) (acct : Account) (date : Bytes) :
    receivedHeader s acct date = fieldLine (receivedField s acct date) := by
  have hfrom : lit "Received: from " = lit "Received" ++ lit ": " ++ lit "from " := by decide
  have hby : lit ")\r\n\tby " = lit ")" ++ crlf ++ lit "\tby " := by decide
  have hdate : lit ";\r\n\t" = lit ";" ++ crlf ++ [tab] := by decide
  simp only [receivedHeader, fieldLine, receivedField, receivedFrom, receivedBy, hfrom, hby, hdate,
    List.flatMap_cons, List.flatMap_nil, List.append_assoc, List.append_nil, List.cons_append,
    List.nil_append]

/-- The check of the two bytes that end a line, byte by byte. -/
theorem text_of_all {t : Bytes} (h : (t.all fun b => b ≠ cr ∧ b ≠ lf) = true) :
    ∀ b ∈ t, b ≠ cr ∧ b ≠ lf := by
  simpa using h

/-- The part that the client chose has no line end in it. -/
theorem isText_receivedFrom (s : Session) : IsText (receivedFrom s) := by
  have h₁ : ∀ b ∈ lit "from ", b ≠ cr ∧ b ≠ lf := text_of_all (by decide)
  have h₂ : ∀ b ∈ lit " (", b ≠ cr ∧ b ≠ lf := text_of_all (by decide)
  have h₃ : ∀ b ∈ lit ")", b ≠ cr ∧ b ≠ lf := text_of_all (by decide)
  refine isText_of_forall fun b hb => ?_
  simp only [receivedFrom, List.mem_append] at hb
  rcases hb with (((hb | hb) | hb) | hb) | hb
  · exact h₁ b hb
  · exact headerSafe_text hb
  · exact h₂ b hb
  · exact headerSafe_text hb
  · exact h₃ b hb

/-- Each of the lines behind the first begins with a space, so that it is read as folded. -/
theorem continues_receivedBy (s : Session) (acct : Account) : Continues (receivedBy s acct) := by
  have h₁ : ∀ b ∈ lit "\tby ", b ≠ cr ∧ b ≠ lf := text_of_all (by decide)
  have h₂ : ∀ b ∈ lit " (mailout) with ESMTPSA id ", b ≠ cr ∧ b ≠ lf := text_of_all (by decide)
  have h₃ : ∀ b ∈ lit ";", b ≠ cr ∧ b ≠ lf := text_of_all (by decide)
  constructor
  · refine isText_of_forall fun b hb => ?_
    simp only [receivedBy, List.mem_append] at hb
    rcases hb with (((hb | hb) | hb) | hb) | hb
    · exact h₁ b hb
    · exact headerSafe_text hb
    · exact h₂ b hb
    · exact headerSafe_text hb
    · exact h₃ b hb
  · have htab : lit "\tby " = tab :: lit "by " := by decide
    simp [receivedBy, htab, startsFolded]

/-- The field is read back as one field, with whatever name the client gave itself. -/
theorem readable_receivedField (s : Session) (acct : Account) {date : Bytes} (hcr : cr ∉ date)
    (hlf : lf ∉ date) : (receivedField s acct date).Readable := by
  have hcolon : colon ∉ lit "Received" := by decide
  have hline : lf ∉ lit "Received" := by decide
  refine ⟨hcolon, hline, receivedFrom s, [receivedBy s acct, tab :: date], rfl,
    isText_receivedFrom s, ?_⟩
  simp only [List.mem_cons, List.not_mem_nil, or_false, forall_eq_or_imp, forall_eq]
  refine ⟨continues_receivedBy s acct, isText_of_forall fun b hb => ?_, rfl⟩
  rcases List.mem_cons.mp hb with rfl | hb
  · decide
  · exact ⟨fun h => hcr (h ▸ hb), fun h => hlf (h ▸ hb)⟩

/-- **The Received field is one field and nothing more**, whatever the EHLO name, the remote
address, the gateway's hostname and the username are. -/
theorem received_one_field (s : Session) (acct : Account) (date b : Bytes) (hcr : cr ∉ date)
    (hlf : lf ∉ date) (hb : startsFolded b = false) :
    ∃ f : HeaderField, f.name = lit "Received" ∧
      (parseMessage (receivedHeader s acct date ++ b)).headers = f :: (parseMessage b).headers ∧
      (parseMessage (receivedHeader s acct date ++ b)).body = (parseMessage b).body := by
  rw [receivedHeader_eq, parseMessage_field (readable_receivedField s acct hcr hlf) hb]
  exact ⟨_, rfl, rfl, rfl⟩

/-- A session of a client whose EHLO name would start another field. -/
def forgingSession : Session :=
  .connect ⟨lit "x\r\nBcc: all@example.test", lit "192.0.2.1:25", [], 0, [], []⟩
    ⟨lit "relay.test", [], 0, [], newAccountStore [], newRelayer (.plain [] []), [], [], none,
      fun _ => none⟩

/-- A client whose name has a line end and a field in it forges nothing. -/
theorem received_one_field_forged :
    ∃ f : HeaderField, f.name = lit "Received" ∧
      (parseMessage (receivedHeader forgingSession ⟨lit "app", [], false, [], false⟩ (lit "Mon") ++
        lit "From: a@b\r\n\r\nx")).headers =
          f :: (parseMessage (lit "From: a@b\r\n\r\nx")).headers ∧
      (parseMessage (receivedHeader forgingSession ⟨lit "app", [], false, [], false⟩ (lit "Mon") ++
        lit "From: a@b\r\n\r\nx")).body = (parseMessage (lit "From: a@b\r\n\r\nx")).body :=
  received_one_field _ _ _ _ (by decide) (by decide) (by decide)

end Mailout
