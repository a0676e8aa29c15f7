import Mailout.Milter

/-!
# Carrying out what a filter asks for

`applyModifications` and `rewriteBody` of `internal/gateway/milter.go`, taken apart for the proofs
about whole runs. `runOne` asks a filter first and changes the message after (`runOne_eq`). Of the
actions a filter asks for, all but two are edits of the header fields or of the envelope, which cannot
fail (`applyModifications_edit`); a body chunk is written to a spool, and a quarantine refuses the
message. `rewriteBody_cases` says what is left behind when the message is put together again, also
where that fails.

`InHand` is a message whose modifications are being carried out. `InHand.rewriteBody` says what
`rewriteBody` makes of it.
-/

namespace Mailout

open Go

/-! ## What an action asks for -/

namespace ModifyAction

/-- The actions that are carried out on the spot: all but a body chunk and a quarantine. -/
def edits : ModifyAction → Bool
  | .replaceBody _ | .quarantine _ => false
  | _ => true

/-- What an action does to the header fields. -/
def onHeaders : ModifyAction → ParsedMessage → ParsedMessage
  | .addHeader name value, parsed => parsed.addHeader name value
  | .insertHeader index name value, parsed => parsed.insertHeader index name value
  | .changeHeader index name value, parsed => parsed.changeHeader index name value
  | _, parsed => parsed

/-- An action on the header fields. -/
def changesHeaders : ModifyAction → Bool
  | .addHeader .. | .insertHeader .. | .changeHeader .. => true
  | _ => false

/-- The chunk of a new body. -/
def chunk : ModifyAction → Option Bytes
  | .replaceBody body => some body
  | _ => none

/-- An action on the header fields or on the body. -/
def rewrites (act : ModifyAction) : Bool := act.changesHeaders || act.chunk.isSome

/-- What an action does to the envelope of a message. -/
def onMessage : ModifyAction → Message → Message
  | .changeFrom from_, msg => { msg with from_ := unbracket from_ }
  | .addRcpt rcpt, msg => { msg with to_ := msg.to_ ++ [unbracket rcpt] }
  | .delRcpt rcpt, msg => { msg with to_ := removeRecipient msg.to_ (unbracket rcpt) }
  | _, msg => msg

/-- No action changes the spool of the message by itself. -/
@[simp] theorem onMessage_body (act : ModifyAction) (msg : Message) :
    (act.onMessage msg).body = msg.body := by
  cases act <;> rfl

end ModifyAction

/-- The message after some actions, as far as they are about its envelope. -/
def onMessage (acts : List ModifyAction) (msg : Message) : Message :=
  acts.foldl (fun msg act => act.onMessage msg) msg

/-- Nor do several. -/
@[simp] theorem onMessage_body (acts : List ModifyAction) :
    ∀ msg : Message, (onMessage acts msg).body = msg.body := by
  induction acts with
  | nil => exact fun _ => rfl
  | cons act acts ih => exact fun msg => (ih (act.onMessage msg)).trans (act.onMessage_body msg)

section
variable (f : Milter) (headerLen : Nat) (acts : List ModifyAction) (parsed : ParsedMessage)
  (changed : Bool) (replacement : Option SpoolRef)

/-- An edit is carried out, and the loop goes on. -/
theorem applyModifications_edit {act : ModifyAction} (h : act.edits = true) (w : World) :
    (applyModifications f headerLen (act :: acts) parsed changed replacement).run w =
      (applyModifications f headerLen acts (act.onHeaders parsed) (act.changesHeaders || changed)
        replacement).run { w with msg := act.onMessage w.msg } := by
  cases act with
  | replaceBody body => cases h
  | quarantine reason => cases h
  | _ => rfl

end

/-! ## Asking a filter -/

section
variable (peers : Peers)

open Tx

/-- The answer a filter ends with: what it asks for, unless it refuses the message. -/
def finalAnswer (err : Option Err) (answer : Except Bytes (List ModifyAction × Option Action)) :
    Except Err (List ModifyAction) :=
  match err, answer with
  | some _, _ => .error (.other (lit "send body: read spool file"))
  | none, .error e => .error (.other (lit "send body: " ++ e))
  | none, .ok (acts, act) => (check act).map fun _ => acts

/-- What a filter asked for, the header fields it was shown, and how long their block is. -/
structure Request where
  acts : List ModifyAction
  parsed : ParsedMessage
  headerLen : Nat

/-- `runOne` up to the modifications. -/
def askFilter (f : Milter) (info : SessionInfo) : Tx Request := do
  let msg ← message
  openSession peers f info msg.from_
  sayAll peers f ([.conn info.hostname (if peers.isIPv6 info.remoteIP then .inet6 else .inet)
      info.remotePort info.remoteIP, .helo info.hostname, .mail msg.from_] ++
    msg.to_.map .rcpt ++ [.dataStart])
  let (block, terminated) ← onSpool msg.body Spool.headerBlock
  let header := if terminated then block else []
  let parsed := if terminated then parseMessage block else ⟨[], []⟩
  sayAll peers f (parsed.headers.map .headerField ++ [.headerEnd])
  let r ← onSpool msg.body (Spool.readerAt header.length)
  let (data, err) ← onSpool msg.body (Spool.deliver r none)
  emit (.milter f.name (.body data err.isNone))
  let acts ← Comp.ofExcept (finalAnswer err (peers.milterEnd (← Comp.get).trace))
  return ⟨acts, parsed, header.length⟩

/-- The answer to the end of the message is judged first, and what it asks for is carried out then. -/
theorem endBody_eq (f : Milter) (parsed : ParsedMessage) (headerLen : Nat) (err : Option Err)
    (answer : Except Bytes (List ModifyAction × Option Action)) :
    endBody f parsed headerLen err answer = (do
      let acts ← Comp.ofExcept (finalAnswer err answer)
      applyModifications f headerLen acts parsed false none) := by
  cases err with
  | some e => rfl
  | none =>
    cases answer with
    | error e => rfl
    | ok end_ =>
      obtain ⟨acts, act⟩ := end_
      show (Comp.ofExcept (check act) >>= fun _ => _) =
        (Comp.ofExcept ((check act).map fun _ => acts) >>= fun acts => _)
      cases check act <;> rfl

/-- A filter is asked first, and then its modifications are carried out. -/
theorem runOne_eq (f : Milter) (info : SessionInfo) :
    runOne peers f info = (do
      let req ← askFilter peers f info
      applyModifications f req.headerLen req.acts req.parsed false none) := by
  rw [runOne, askFilter]
  simp only [bind_assoc, pure_bind, sendBody, endBody_eq]

/-- Asking a filter reads the message and changes nothing of it. -/
theorem watches_askFilter (f : Milter) (info : SessionInfo) :
    Comp.Keeps Watches (askFilter peers f info) := by
  have hsay : ∀ calls, Comp.Keeps Watches (sayAll peers f calls) := by
    intro calls w
    obtain ⟨said, -, hobs, -⟩ := sayAll_run peers f calls w
    exact ⟨_, hobs⟩
  refine .bind Watches.trans watches_message fun msg => ?_
  refine .bind Watches.trans (fun w => ⟨_, openSession_run peers f info msg.from_ w⟩) fun _ => ?_
  refine .bind Watches.trans (hsay _) fun _ => ?_
  refine .bind Watches.trans (watches_onSpool fun st => (Spool.headerBlock_yields st).1) fun block => ?_
  refine .bind Watches.trans (hsay _) fun _ => ?_
  refine .bind Watches.trans (watches_onSpool fun st => (Spool.readerAt_opens st _).1) fun r => ?_
  refine .bind Watches.trans (watches_onSpool (Spool.deliver_reading r none)) fun got => ?_
  refine .bind Watches.trans (watches_emit _) fun _ => ?_
  refine .bind Watches.trans (.get Watches.refl) fun w => ?_
  exact .bind Watches.trans (.ofExcept Watches.refl _) fun acts => .pure Watches.refl _

end

/-! ## Putting the message together again -/

section
open Tx

/-- Writing fields works on the spool they are written to. -/
theorem works_writeHeaders (out : SpoolRef) (fields : List HeaderField) :
    Comp.Keeps (Works out) (writeHeaders out fields) := by
  induction fields with
  | nil => exact works_onSpool _
  | cons field fields ih => exact .bind Works.trans (works_onSpool _) fun _ => ih

/-- Opening what is copied only reads. -/
theorem watches_openSource (body : SpoolRef) (headerLen : Nat) (replacement : Option SpoolRef) :
    Comp.Keeps Watches (openSource body headerLen replacement) := by
  cases replacement with
  | none => exact watches_onSpool fun st => (Spool.readerAt_opens st _).1
  | some ref => exact watches_onSpool fun st => (Spool.reader_opens st).1

/-- A copy to a spool works on that spool. -/
theorem works_copy (src out : SpoolRef) (r : Reader) :
    Comp.Keeps (Works out) (copy src r fun p => onSpool out (Spool.write p)) :=
  copy_keeps Works.refl Works.trans (works_of_watches (watches_onSpool (Spool.deliver_reading _ _)))
    (fun _ => works_onSpool _) r

/-- What `rewriteBody` does before it gives the message its new body. -/
def fillBody (parsed : ParsedMessage) (headerLen : Nat) (replacement : Option SpoolRef)
    (body out : SpoolRef) : Tx Unit := do
  writeHeaders out parsed.headers
  let source ← openSource body headerLen replacement
  copy (replacement.getD body) source fun p => onSpool out (Spool.write p)

/-- Filling the new body works on that spool alone. -/
theorem works_fillBody (parsed : ParsedMessage) (headerLen : Nat) (replacement : Option SpoolRef)
    (body out : SpoolRef) : Comp.Keeps (Works out) (fillBody parsed headerLen replacement body out) :=
  .bind Works.trans (works_writeHeaders _ _) fun _ =>
    .bind Works.trans (works_of_watches (watches_openSource _ _ _)) fun _ => works_copy _ _ _

/-- A world that is as another one was, for the spools that were there. -/
def World.WithSpools (w : World) (spools : SpoolRef → Spool) : Prop :=
  ∀ ref, ref < w.created → (w.spools ref).SameBody (spools ref)

/-- `rewriteBody` either gives the message a new body and closes the old one, or it fails, closes the
new one, and leaves the message and every other body as they were. -/
theorem rewriteBody_cases (parsed : ParsedMessage) (headerLen : Nat) (replacement : Option SpoolRef)
    (w : World) :
    (∃ w₁, (rewriteBody parsed headerLen replacement).run w = (.ok (), w₁) ∧
      w₁.msg = { w.msg with body := w.created } ∧ w₁.created = w.created + 1 ∧
      w₁.closed = w.closed ++ [w.msg.body]) ∨
    ∃ e w₁, (rewriteBody parsed headerLen replacement).run w = (.error e, w₁) ∧
      w₁.msg = w.msg ∧ w₁.created = w.created + 1 ∧ w₁.closed = w.closed ++ [w.created] ∧
      w.WithSpools w₁.spools := by
  obtain ⟨w₀, hw₀⟩ : ∃ w₀ : World, w₀ = { w with
      spools := Function.update w.spools w.created (w.spools w.msg.body).sibling,
      created := w.created + 1 } := ⟨_, rfl⟩
  have hold : ∀ ref, ref < w.created → w₀.spools ref = w.spools ref := by
    intro ref hlt
    rw [hw₀]
    exact Function.update_of_ne (Nat.ne_of_lt hlt) _ _
  have hstart : (rewriteBody parsed headerLen replacement).run w = (do
      Comp.onError (close w.created) (fillBody parsed headerLen replacement w.msg.body w.created)
      close w.msg.body
      setMessage { w.msg with body := w.created } : Tx Unit).run w₀ := by
    rw [hw₀]
    rfl
  have hworks := works_fillBody parsed headerLen replacement w.msg.body w.created w₀
  cases hfill : (fillBody parsed headerLen replacement w.msg.body w.created).run w₀ with
  | mk r w₁ =>
    rw [hfill] at hworks
    have hmsg : w₁.msg = w.msg := hworks.msg.trans (by rw [hw₀])
    have hcreated : w₁.created = w.created + 1 := hworks.created.trans (by rw [hw₀])
    have hclosed : w₁.closed = w.closed := hworks.closed.trans (by rw [hw₀])
    cases r with
    | ok u =>
      rw [Comp.run_bind_of_ok (Comp.run_onError_of_ok hfill)] at hstart
      exact .inl ⟨_, hstart, rfl, hcreated, by rw [← hclosed]⟩
    | error e =>
      rw [Comp.run_bind_of_error (Comp.run_onError_of_error hfill)] at hstart
      refine .inr ⟨e, _, hstart, hmsg, hcreated, by rw [← hclosed]; rfl, fun ref hlt => ?_⟩
      have hne : ref ≠ w.created := Nat.ne_of_lt hlt
      have hsame := hworks.spools ref hne
      rw [hold ref hlt] at hsame
      rw [run_close]
      simp only [Function.update_of_ne hne]
      exact hsame

end

/-! ## A message in hand -/

/-- The body that filters put in place of the old one, if they do: a spool that holds it. -/
inductive Drafted (w : World) : Option SpoolRef → Option Bytes → Prop
  | none : Drafted w none none
  | some {ref : SpoolRef} {b : Bytes} (h : Draft w ref b) : Drafted w (some ref) (some b)

section
open Tx

variable {w w' w₁ : World} {out : SpoolRef} {b : Bytes} {replacement : Option SpoolRef}
  {new : Option Bytes}

/-- A draft is one as long as the spools are the same. -/
theorem Drafted.of_spools {replacement : Option SpoolRef} {new : Option Bytes}
    (h : Drafted w replacement new) (hspools : w'.spools = w.spools) : Drafted w' replacement new := by
  cases h with
  | none => exact .none
  | some h => exact .some (h.of_eq (by rw [hspools]))

/-- The fields and the empty line come behind what the draft had, unless the disk failed. -/
theorem Draft.writeHeaders (fields : List HeaderField) : ∀ {w : World} {b : Bytes}, Draft w out b →
    Carries (writeHeaders out fields) w fun _ w' =>
      Draft w' out (b ++ (fields.flatMap ParsedMessage.fieldLine ++ crlf)) ∧ Works out w w' := by
  induction fields with
  | nil => exact fun hdraft => hdraft.write crlf
  | cons field fields ih =>
    intro w b hdraft
    refine .bind (hdraft.write (ParsedMessage.fieldLine field)) fun _ w₁ ⟨hdraft₁, hworks₁⟩ => ?_
    refine (ih hdraft₁).mono fun _ w₂ ⟨hdraft₂, hworks₂⟩ => ⟨?_, Works.trans _ _ _ hworks₁ hworks₂⟩
    rwa [List.append_assoc, ← List.append_assoc (ParsedMessage.fieldLine field),
      ← List.flatMap_cons] at hdraft₂

/-- The message is in a spool that was made, and the chunks of a new body so far in another one. -/
structure InHand (w : World) (replacement : Option SpoolRef) (new : Option Bytes) : Prop where
  body : w.msg.body < w.created
  size : (w.spools w.msg.body).n = w.bytes.length
  apart : ∀ ref, replacement = some ref → ref < w.created ∧ ref ≠ w.msg.body
  drafted : Drafted w replacement new

/-- The reader of what comes behind the headers, while these are in a spool of their own. -/
theorem InHand.openSource (h : InHand w replacement new) (hout : w.created ≤ out)
    (hkept : w.WithSpools w₁.spools) (headerLen : Nat) :
    Carries (openSource w.msg.body headerLen replacement) w₁ fun r w₂ => ∃ k,
      (w₂.spools (replacement.getD w.msg.body)).ReadsFrom k r ∧
      (w₂.spools (replacement.getD w.msg.body)).contents.drop k =
        new.getD (w.bytes.drop headerLen) ∧ w₂.spools out = w₁.spools out := by
  cases h.drafted with
  | none =>
    have hne : out ≠ w.msg.body := Nat.ne_of_gt (Nat.lt_of_lt_of_le h.body hout)
    have hsame := hkept w.msg.body h.body
    obtain ⟨w₂, hobs, ⟨r, hrun, hfrom⟩ | hfailed⟩ :=
      onSpool_opens (Spool.readerAt_opens ⟨w₁.disk, w₁.spools w.msg.body⟩ headerLen)
    · refine ⟨w₂, hobs.disk, .inl ⟨r, hrun, _, hfrom, ?_, onSpool_frame hrun hne⟩⟩
      have hbytes : (w₂.spools w.msg.body).contents = w.bytes :=
        (hobs.spools w.msg.body).contents.trans hsame.contents
      show (w₂.spools w.msg.body).contents.drop (min headerLen (w₁.spools w.msg.body).n) = _
      rw [hbytes, hsame.n, h.size, ← List.drop_eq_drop_min]
      rfl
    · exact ⟨w₂, hobs.disk, .inr hfailed⟩
  | @some ref b hdraft =>
    have hne : out ≠ ref := Nat.ne_of_gt (Nat.lt_of_lt_of_le (h.apart ref rfl).1 hout)
    have hsame := hkept ref (h.apart ref rfl).1
    obtain ⟨w₂, hobs, ⟨r, hrun, hfrom⟩ | hfailed⟩ :=
      onSpool_opens (Spool.reader_opens ⟨w₁.disk, w₁.spools ref⟩)
    · refine ⟨w₂, hobs.disk, .inl ⟨r, hrun, 0, hfrom, ?_, onSpool_frame hrun hne⟩⟩
      exact (hobs.spools ref).contents.trans (hsame.contents.trans hdraft.contents)
    · exact ⟨w₂, hobs.disk, .inr hfailed⟩

/-- `rewriteBody` makes a body of the headers given and what goes with them. -/
theorem InHand.rewriteBody (h : InHand w replacement new) (parsed : ParsedMessage) (headerLen : Nat) :
    Carries (rewriteBody parsed headerLen replacement) w fun _ w' =>
      w'.msg = { w.msg with body := w.created } ∧ w'.created = w.created + 1 ∧
      w'.bytes = parsed.writeHeaders ++ new.getD (w.bytes.drop headerLen) ∧
      (w'.spools w'.msg.body).n = w'.bytes.length := by
  have hsrc : replacement.getD w.msg.body ≠ w.created := by
    cases replacement with
    | none => exact Nat.ne_of_lt h.body
    | some ref => exact Nat.ne_of_lt (h.apart ref rfl).1
  have hfill : Carries (fillBody parsed headerLen replacement w.msg.body w.created)
      (w.withSpool (w.spools w.msg.body).sibling) fun _ w₃ =>
        Draft w₃ w.created (parsed.writeHeaders ++ new.getD (w.bytes.drop headerLen)) := by
    have hheaders := (draft_withSpool w (w.spools w.msg.body)).writeHeaders parsed.headers
    refine .bind hheaders fun _ w₁ ⟨hdraft₁, hworks₁⟩ => ?_
    have hkept : w.WithSpools w₁.spools := by
      intro ref hlt
      have := hworks₁.spools ref (Nat.ne_of_lt hlt)
      rwa [withSpool_old hlt] at this
    refine .bind (h.openSource (Nat.le_refl _) hkept headerLen) fun r w₂ ⟨k, hfrom, hdrop, hframe⟩ => ?_
    have hcopy := (hdraft₁.of_eq hframe).copy hsrc hfrom
    rwa [hdrop, List.nil_append] at hcopy
  refine .left (run_message w) (.refl _) (.left rfl (.refl _) ?_)
  refine .bind (Carries.onError (hfill.keeps (works_fillBody _ _ _ _ _)))
    fun _ w₃ ⟨hdraft₃, hworks₃⟩ => ?_
  -- the old body is closed, which is another spool than the new one
  have hspool : Function.update w₃.spools w.msg.body (w₃.spools w.msg.body).close w.created =
      w₃.spools w.created := Function.update_of_ne (Nat.ne_of_gt h.body) _ _
  have hcontents := (congrArg Spool.contents hspool).trans hdraft₃.contents
  refine carries_of_run rfl (.refl _) ⟨rfl, hworks₃.created, hcontents, ?_⟩
  have hsize : (w₃.spools w.created).n = (w₃.spools w.created).contents.length := hdraft₃.sound.size
  rw [← hspool] at hsize
  exact hsize

end

/-! ## On a failing disk -/

section
open Tx

/-- The headers are written unless the disk fails. -/
theorem writeHeaders_carries (out : SpoolRef) : ∀ (fields : List HeaderField) (w : World),
    Carries (writeHeaders out fields) w fun _ _ => True
  | [], w => (carries_write out crlf w).mono fun _ _ _ => trivial
  | field :: fields, w => .bind (carries_write out (ParsedMessage.fieldLine field) w)
      fun _ w₁ _ => writeHeaders_carries out fields w₁

/-- What comes behind them is opened unless the disk fails. -/
theorem openSource_carries (body : SpoolRef) (headerLen : Nat) (replacement : Option SpoolRef)
    (w : World) : Carries (openSource body headerLen replacement) w fun r w' =>
      ∃ k, (w'.spools (replacement.getD body)).ReadsFrom k r := by
  cases replacement with
  | none =>
    obtain ⟨w', hobs, ⟨r, hrun, hfrom⟩ | hfailed⟩ :=
      onSpool_opens (Spool.readerAt_opens ⟨w.disk, w.spools body⟩ headerLen)
    · exact carries_of_run hrun hobs.disk ⟨_, hfrom⟩
    · exact ⟨w', hobs.disk, .inr hfailed⟩
  | some ref =>
    obtain ⟨w', hobs, ⟨r, hrun, hfrom⟩ | hfailed⟩ :=
      onSpool_opens (Spool.reader_opens ⟨w.disk, w.spools ref⟩)
    · exact carries_of_run hrun hobs.disk ⟨_, hfrom⟩
    · exact ⟨w', hobs.disk, .inr hfailed⟩

/-- `rewriteBody` fails only with the disk, since it does not read the spool it writes. -/
theorem rewriteBody_carries (parsed : ParsedMessage) (headerLen : Nat) {replacement : Option SpoolRef}
    {w : World} (hne : replacement.getD w.msg.body ≠ w.created) :
    Carries (rewriteBody parsed headerLen replacement) w fun _ _ => True := by
  refine .left (run_message w) (.refl _) (.left rfl (.refl _) ?_)
  refine .bind (P := fun _ _ => True) (Carries.onError ?_) fun _ w' _ => carries_of_run rfl (.refl _) trivial
  refine .bind (writeHeaders_carries _ _ _) fun _ w₁ _ => ?_
  refine .bind (openSource_carries _ _ _ w₁) fun r w₂ ⟨k, hfrom⟩ => ?_
  refine copy_carries (I := fun _ _ => True) (fun _ _ _ => trivial) (fun _ p w' _ => ?_) hfrom trivial
  exact (carries_write _ p w').mono fun _ _ hframe => ⟨trivial, hframe _ hne⟩

/-- Putting a message together again fails when the disk does. -/
theorem warns_fillBody (parsed : ParsedMessage) (headerLen : Nat) (replacement : Option SpoolRef)
    (body out : SpoolRef) : Warns IsOther (fillBody parsed headerLen replacement body out) := by
  have hheaders : ∀ fields, Warns IsOther (writeHeaders out fields) := by
    intro fields
    induction fields with
    | nil => exact warns_write out _
    | cons field fields ih => exact (warns_write out _).next fun _ => ih
  refine (hheaders _).next fun _ => Alarms.next ?_ fun source => ?_
  · cases replacement with
    | none => exact (Spool.reports_readerAt _).onSpool body
    | some ref => exact Spool.reports_reader.onSpool ref
  · exact warns_copy (fun _ h => h) (warns_write out)
      (fun p => raises_onSpool (raises_write p) out) source

/-- So does `rewriteBody`, which closes what it made then. -/
theorem warns_rewriteBody (parsed : ParsedMessage) (headerLen : Nat)
    (replacement : Option SpoolRef) : Warns IsOther (rewriteBody parsed headerLen replacement) := by
  refine Alarms.next (.calm fun _ => rfl) fun msg => Alarms.next (.calm fun _ => rfl) fun out => ?_
  refine ((warns_fillBody parsed headerLen replacement msg.body out).onError fun _ => rfl).next
    fun _ => ?_
  exact Alarms.next (.calm fun _ => rfl) fun _ => .calm fun _ => rfl

/-- The end of `applyModifications`: the check of the recipients does not ask the disk. -/
theorem warns_finishModifications (parsed : ParsedMessage) (headerLen : Nat) (changed : Bool)
    (replacement : Option SpoolRef) :
    Warns IsOther (finishModifications parsed headerLen changed replacement) := by
  refine Alarms.next ?_ fun _ => Alarms.next (.calm fun _ => rfl) fun msg => ?_
  · unfold Comp.when
    split_ifs
    · exact warns_rewriteBody parsed headerLen replacement
    · exact .calm fun _ => rfl
  · split_ifs <;> exact .calm fun _ => rfl

/-- Carrying out what a filter asks for fails when the disk does, at the body chunk that could not be
written or when the message is put together. -/
theorem warns_applyModifications (f : Milter) (headerLen : Nat) (acts : List ModifyAction) :
    ∀ parsed changed replacement,
      Warns IsOther (applyModifications f headerLen acts parsed changed replacement) := by
  induction acts with
  | nil => exact fun _ _ _ => warns_finishModifications _ _ _ _
  | cons act acts ih =>
    intro parsed changed replacement
    cases act with
    | addHeader name value => exact ih _ _ _
    | insertHeader index name value => exact ih _ _ _
    | changeHeader index name value => exact ih _ _ _
    | replaceBody body =>
      cases replacement with
      | some ref => exact (warns_write ref body).next fun _ => ih _ _ _
      | none =>
        refine Alarms.next (.calm fun _ => rfl) fun msg => Alarms.next (.calm fun _ => rfl) fun ref => ?_
        exact ((warns_write ref body).next fun _ => ih _ _ _).deferred fun _ => rfl
    | changeFrom from_ =>
      exact Alarms.next (.calm fun _ => rfl) fun _ => Alarms.next (.calm fun _ => rfl) fun _ => ih _ _ _
    | addRcpt rcpt =>
      exact Alarms.next (.calm fun _ => rfl) fun _ => Alarms.next (.calm fun _ => rfl) fun _ => ih _ _ _
    | delRcpt rcpt =>
      exact Alarms.next (.calm fun _ => rfl) fun _ => Alarms.next (.calm fun _ => rfl) fun _ => ih _ _ _
    | quarantine reason => exact .calm fun _ => rfl
    | other => exact ih _ _ _

end

end Mailout
