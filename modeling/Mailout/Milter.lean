import Mailout.Policy
import Mailout.Peers

/-!
# Filters

`internal/gateway/milter.go`: a message passes the filters in order, each of which may change it or
stop it. `runOne` shows a filter the fields of the header block and streams what follows the block.

`shown` is what a filter is shown of a body. `runOne_shows` says so of every run that streams a body to
its end, and `runOne_shows_message_iff` when that is the message as `parseMessage` reads it whole.
-/

namespace Mailout

open Go

/-- `Milter`, with the name it was given when the chain was built. -/
structure Milter where
  name : Bytes
  failOpen : Bool
  deriving DecidableEq, Repr

/-- `sessionInfo`. -/
structure SessionInfo where
  hostname : Bytes
  remoteIP : Bytes
  remotePort : Nat
  tlsVersion : Bytes
  tlsCipher : Bytes
  authUser : Bytes
  mtaName : Bytes
  deriving DecidableEq, Repr

/-- The macros of `runOne`. -/
def macros (info : SessionInfo) (from_ : Bytes) : List (Macro × Bytes) :=
  [(.mtaFQDN, info.mtaName), (.daemonName, lit "mailout"), (.ifName, info.mtaName)] ++
  (if info.authUser ≠ [] then [(.authAuthen, info.authUser), (.authType, lit "PLAIN")] else []) ++
  (if info.tlsVersion ≠ [] then [(.tlsVersion, info.tlsVersion), (.cipher, info.tlsCipher)] else []) ++
  [(.mailAddr, from_)]

/-- `smtpErrorFromAction`. -/
def smtpErrorFromAction (act : Action) : SMTPError :=
  let code := if act.smtpCode < 400 then 550 else act.smtpCode
  let message := if trimSpace act.smtpReply = [] then lit "Rejected by filter"
    else trimSpace act.smtpReply
  -- the reply is a whole line, its code comes first
  let message := match cut space message with
    | some (first, rest) => if first.length = 3 then rest else message
    | none => message
  ⟨code, if code < 500 then (4, 7, 1) else (5, 7, 1), message⟩

/-- `check`, on an answer that is no error. -/
def check : Option Action → Except Err Unit
  | none => .ok ()
  | some act =>
    if act.stopProcessing then .error (.smtp (smtpErrorFromAction act))
    else if act.type_ = .discard then .error .discard
    else .ok ()

/-- `unbracket`. -/
def unbracket (addr : Bytes) : Bytes := trimSuffix [greaterThan] (trimPrefix [lessThan] addr)

/-- `removeRecipient`. -/
def removeRecipient (list : List Bytes) (addr : Bytes) : List Bytes :=
  list.filter fun r => !equalFold r addr

section
variable (peers : Peers)

open Tx

/-- `check` of what a filter answers to the last thing it was told. -/
def verdict (trace : List Event) : Except Err Unit :=
  match peers.milter trace with
  | .error e => .error (.other e)
  | .ok act => check act

/-- One call of the milter client, and its verdict. -/
def say (f : Milter) (call : MilterCall) : Tx Unit := do
  emit (.milter f.name call)
  Comp.ofExcept (verdict peers (← Comp.get).trace)

/-- Calls made one after the other, up to the first that is not answered with a go-on. -/
def sayAll (f : Milter) : List MilterCall → Tx Unit
  | [] => pure ()
  | call :: calls => do
    say peers f call
    sayAll f calls

/-- `f.client.Session(macros)`. -/
def openSession (f : Milter) (info : SessionInfo) (from_ : Bytes) : Tx Unit := do
  emit (.milter f.name (.session (macros info from_)))
  match peers.milter (← Comp.get).trace with
  | .error e => Comp.fail (.other (lit "open milter session: " ++ e))
  | .ok _ => return

/-- `parsedMessage.WriteHeaders`, to a spool. -/
def writeHeaders (out : SpoolRef) : List HeaderField → Tx Unit
  | [] => onSpool out (Spool.write crlf)
  | field :: fields => do
    onSpool out (Spool.write (ParsedMessage.fieldLine field))
    writeHeaders out fields

/-- The reader of what `rewriteBody` puts behind the headers. -/
def openSource (body : SpoolRef) (headerLen : Nat) : Option SpoolRef → Tx Reader
  | some ref => onSpool ref Spool.reader
  | none => onSpool body (Spool.readerAt headerLen)

/-- `rewriteBody`: the message from the headers given and the replacement or, without one, what
follows the header block. -/
def rewriteBody (parsed : ParsedMessage) (headerLen : Nat) (replacement : Option SpoolRef) :
    Tx Unit := do
  let msg ← message
  let out ← sibling msg.body
  Comp.onError (close out) (do
    writeHeaders out parsed.headers
    let source ← openSource msg.body headerLen replacement
    copy (replacement.getD msg.body) source fun p => onSpool out (Spool.write p))
  close msg.body
  setMessage { msg with body := out }

/-- The end of `applyModifications`, after its loop. -/
def finishModifications (parsed : ParsedMessage) (headerLen : Nat) (headersChanged : Bool)
    (replacement : Option SpoolRef) : Tx Unit := do
  Comp.when (headersChanged ∨ replacement.isSome) (rewriteBody parsed headerLen replacement)
  if (← message).to_.length = 0 then
    Comp.fail (.smtp ⟨554, (5, 7, 1), lit "All recipients removed by filters"⟩)

/-- `applyModifications`, from some action on. The spool of a replacement is closed when it returns. -/
def applyModifications (f : Milter) (headerLen : Nat) : List ModifyAction → ParsedMessage → Bool →
    Option SpoolRef → Tx Unit
  | [], parsed, changed, replacement => finishModifications parsed headerLen changed replacement
  | .addHeader name value :: acts, parsed, _, replacement =>
    applyModifications f headerLen acts (parsed.addHeader name value) true replacement
  | .insertHeader index name value :: acts, parsed, _, replacement =>
    applyModifications f headerLen acts (parsed.insertHeader index name value) true replacement
  | .changeHeader index name value :: acts, parsed, _, replacement =>
    applyModifications f headerLen acts (parsed.changeHeader index name value) true replacement
  | .replaceBody body :: acts, parsed, changed, some ref => do
    onSpool ref (Spool.write body)
    applyModifications f headerLen acts parsed changed (some ref)
  | .replaceBody body :: acts, parsed, changed, none => do
    let ref ← sibling (← message).body
    Comp.deferred (close ref) (do
      onSpool ref (Spool.write body)
      applyModifications f headerLen acts parsed changed (some ref))
  | .changeFrom from_ :: acts, parsed, changed, replacement => do
    setMessage { (← message) with from_ := unbracket from_ }
    applyModifications f headerLen acts parsed changed replacement
  | .addRcpt rcpt :: acts, parsed, changed, replacement => do
    let msg ← message
    setMessage { msg with to_ := msg.to_ ++ [unbracket rcpt] }
    applyModifications f headerLen acts parsed changed replacement
  | .delRcpt rcpt :: acts, parsed, changed, replacement => do
    let msg ← message
    setMessage { msg with to_ := removeRecipient msg.to_ (unbracket rcpt) }
    applyModifications f headerLen acts parsed changed replacement
  | .quarantine _ :: _, _, _, _ =>
    -- there is nowhere to keep a quarantined message
    Comp.fail (.smtp ⟨554, (5, 7, 1), lit "Message quarantined by " ++ f.name⟩)
  | .other :: acts, parsed, changed, replacement =>
    applyModifications f headerLen acts parsed changed replacement

/-- What `runOne` does with the answer of `BodyReadFrom`: the final verdict and the modifications. -/
def endBody (f : Milter) (parsed : ParsedMessage) (headerLen : Nat) (err : Option Err)
    (answer : Except Bytes (List ModifyAction × Option Action)) : Tx Unit :=
  match err, answer with
  | some _, _ => Comp.fail (.other (lit "send body: read spool file"))
  | none, .error e => Comp.fail (.other (lit "send body: " ++ e))
  | none, .ok (acts, act) => do
    Comp.ofExcept (check act)
    applyModifications f headerLen acts parsed false none

/-- The end of `runOne`, from `ReaderAt` on. -/
def sendBody (f : Milter) (body : SpoolRef) (parsed : ParsedMessage) (headerLen : Nat) :
    Tx Unit := do
  let r ← onSpool body (Spool.readerAt headerLen)
  let (data, err) ← onSpool body (Spool.deliver r none)
  emit (.milter f.name (.body data err.isNone))
  endBody f parsed headerLen err (peers.milterEnd (← Comp.get).trace)

/-- `milterChain.runOne`. -/
def runOne (f : Milter) (info : SessionInfo) : Tx Unit := do
  let msg ← message
  openSession peers f info msg.from_
  sayAll peers f ([.conn info.hostname (if peers.isIPv6 info.remoteIP then .inet6 else .inet)
      info.remotePort info.remoteIP, .helo info.hostname, .mail msg.from_] ++
    msg.to_.map .rcpt ++ [.dataStart])
  let (block, terminated) ← onSpool msg.body Spool.headerBlock
  -- without an end of the header block in the bound, all of the message is its body
  let header := if terminated then block else []
  let parsed := if terminated then parseMessage block else ⟨[], []⟩
  sayAll peers f (parsed.headers.map .headerField ++ [.headerEnd])
  sendBody peers f msg.body parsed header.length

/-- `milterChain.run`. -/
def runChain (info : SessionInfo) : List Milter → Tx Unit
  | [] => pure ()
  | f :: filters => do
    match ← Comp.attempt (runOne peers f info) with
    | .ok () =>
      emit (.milterDecided f.name .accept)
      runChain info filters
    | .error (.smtp e) =>
      emit (.milterDecided f.name .reject)
      Comp.fail (.smtp e)
    | .error .discard =>
      emit (.milterDecided f.name .discard)
      Comp.fail .discard
    | .error (.other _) =>
      emit (.milterDecided f.name .unavailable)
      if f.failOpen then runChain info filters
      else Comp.fail (.smtp ⟨451, (4, 7, 1),
        lit "Filter " ++ f.name ++ lit " unavailable, try again later"⟩)

end

/-! ## Modifications say nothing -/

namespace Tx

open Comp

/-- Fields are written to a spool without a report. -/
theorem silent_writeHeaders (out : SpoolRef) (fields : List HeaderField) :
    Keeps Silent (writeHeaders out fields) := by
  induction fields with
  | nil => exact silent_onSpool _ _
  | cons field fields ih => exact .bind Silent.trans (silent_onSpool _ _) fun _ => ih

/-- A message is rewritten without a report. -/
theorem silent_rewriteBody (parsed : ParsedMessage) (headerLen : Nat)
    (replacement : Option SpoolRef) : Keeps Silent (rewriteBody parsed headerLen replacement) := by
  refine .bind Silent.trans silent_message fun msg => ?_
  refine .bind Silent.trans (silent_sibling _) fun out => ?_
  refine .bind Silent.trans (.onError Silent.trans (silent_close _) ?_) fun _ => ?_
  · refine .bind Silent.trans (silent_writeHeaders _ _) fun _ => ?_
    refine .bind Silent.trans ?_ fun source => ?_
    · cases replacement <;> exact silent_onSpool _ _
    · exact copy_keeps Silent.refl Silent.trans (silent_onSpool _ _) (fun _ => silent_onSpool _ _) _
  · exact .bind Silent.trans (silent_close _) fun _ => silent_setMessage _

/-- So the modifications end without one. -/
theorem silent_finishModifications (parsed : ParsedMessage) (headerLen : Nat) (changed : Bool)
    (replacement : Option SpoolRef) :
    Keeps Silent (finishModifications parsed headerLen changed replacement) := by
  refine .bind Silent.trans (.when Silent.refl (silent_rewriteBody _ _ _)) fun _ => ?_
  refine .bind Silent.trans silent_message fun msg => ?_
  split_ifs
  · exact .fail Silent.refl _
  · exact .pure Silent.refl ()

/-- Applying what a filter asked for is not told to anyone. -/
theorem silent_applyModifications (f : Milter) (headerLen : Nat) (acts : List ModifyAction) :
    ∀ parsed changed replacement,
      Keeps Silent (applyModifications f headerLen acts parsed changed replacement) := by
  induction acts with
  | nil => exact fun _ _ _ => silent_finishModifications _ _ _ _
  | cons act acts ih =>
    intro parsed changed replacement
    cases act with
    | addHeader name value => exact ih _ _ _
    | insertHeader index name value => exact ih _ _ _
    | changeHeader index name value => exact ih _ _ _
    | replaceBody body =>
      cases replacement with
      | some ref => exact .bind Silent.trans (silent_onSpool _ _) fun _ => ih _ _ _
      | none =>
        refine .bind Silent.trans silent_message fun msg => ?_
        refine .bind Silent.trans (silent_sibling _) fun ref => ?_
        refine .deferred Silent.trans (silent_close _) ?_
        exact .bind Silent.trans (silent_onSpool _ _) fun _ => ih _ _ _
    | changeFrom from_ =>
      refine .bind Silent.trans silent_message fun msg => ?_
      exact .bind Silent.trans (silent_setMessage _) fun _ => ih _ _ _
    | addRcpt rcpt =>
      refine .bind Silent.trans silent_message fun msg => ?_
      exact .bind Silent.trans (silent_setMessage _) fun _ => ih _ _ _
    | delRcpt rcpt =>
      refine .bind Silent.trans silent_message fun msg => ?_
      exact .bind Silent.trans (silent_setMessage _) fun _ => ih _ _ _
    | quarantine reason => exact .fail Silent.refl _
    | other => exact ih _ _ _

/-- What a filter asks for is carried out without a report. -/
theorem silent_endBody (f : Milter) (parsed : ParsedMessage) (headerLen : Nat) (err : Option Err)
    (answer : Except Bytes (List ModifyAction × Option Action)) :
    Keeps Silent (endBody f parsed headerLen err answer) := by
  cases err with
  | some e => exact .fail Silent.refl _
  | none =>
    cases answer with
    | error e => exact .fail Silent.refl _
    | ok end_ =>
      exact .bind Silent.trans (.ofExcept Silent.refl _)
        fun _ => silent_applyModifications _ _ _ _ _ _

end Tx

/-! ## What is said while a filter runs -/

section
variable (peers : Peers) {P : Event → Prop}

open Tx Comp

/-- In a conversation only calls of this filter are reported. -/
theorem says_sayAll (f : Milter) (hmilter : ∀ call, P (.milter f.name call)) :
    ∀ calls : List MilterCall, Keeps (Says P) (sayAll peers f calls)
  | [] => .pure Says.refl _
  | call :: calls => by
    refine .bind Says.trans ?_ fun _ => says_sayAll f hmilter calls
    refine .bind Says.trans (says_emit (hmilter call)) fun _ => ?_
    exact .bind Says.trans (.get Says.refl) fun _ => .ofExcept Says.refl _

/-- So they are when a session is opened. -/
theorem says_openSession (f : Milter) (info : SessionInfo) (from_ : Bytes)
    (hmilter : ∀ call, P (.milter f.name call)) :
    Keeps (Says P) (openSession peers f info from_) := by
  refine .bind Says.trans (says_emit (hmilter _)) fun _ => ?_
  refine .bind Says.trans (.get Says.refl) fun w => ?_
  cases peers.milter w.trace with
  | error e => exact .fail Says.refl _
  | ok act => exact .pure Says.refl _

/-- So they are while the message is sent to it. -/
theorem says_sendBody (f : Milter) (body : SpoolRef) (parsed : ParsedMessage) (headerLen : Nat)
    (hmilter : ∀ call, P (.milter f.name call)) :
    Keeps (Says P) (sendBody peers f body parsed headerLen) := by
  refine .bind Says.trans (says_of_silent (silent_onSpool _ _)) fun r => ?_
  refine .bind Says.trans (says_of_silent (silent_onSpool _ _)) fun got => ?_
  refine .bind Says.trans (says_emit (hmilter _)) fun _ => ?_
  exact .bind Says.trans (.get Says.refl) fun w => says_of_silent (silent_endBody _ _ _ _ _)

/-- A filter that runs is spoken to, and no one else is. -/
theorem says_runOne (f : Milter) (info : SessionInfo) (hmilter : ∀ call, P (.milter f.name call)) :
    Keeps (Says P) (runOne peers f info) := by
  refine .bind Says.trans (says_of_silent silent_message) fun msg => ?_
  refine .bind Says.trans (says_openSession peers f info _ hmilter) fun _ => ?_
  refine .bind Says.trans (says_sayAll peers f hmilter _) fun _ => ?_
  refine .bind Says.trans (says_of_silent (silent_onSpool _ _)) fun block => ?_
  refine .bind Says.trans (says_sayAll peers f hmilter _) fun _ => ?_
  exact says_sendBody peers f _ _ _ hmilter

/-- The filters are spoken to, and their decisions are counted. -/
theorem says_runChain (info : SessionInfo) (hmilter : ∀ f call, P (.milter f call))
    (hdecided : ∀ f decision, P (.milterDecided f decision)) :
    ∀ filters : List Milter, Keeps (Says P) (runChain peers info filters)
  | [] => .pure Says.refl _
  | f :: filters => by
    refine .bind Says.trans (.attempt (says_runOne peers f info (hmilter _))) fun r => ?_
    match r with
    | .ok () =>
      exact .bind Says.trans (says_emit (hdecided _ _)) fun _ =>
        says_runChain info hmilter hdecided filters
    | .error (.smtp e) =>
      exact .bind Says.trans (says_emit (hdecided _ _)) fun _ => .fail Says.refl _
    | .error .discard =>
      exact .bind Says.trans (says_emit (hdecided _ _)) fun _ => .fail Says.refl _
    | .error (.other what) =>
      refine .bind Says.trans (says_emit (hdecided _ _)) fun _ => ?_
      split_ifs
      · exact says_runChain info hmilter hdecided filters
      · exact .fail Says.refl _

end

/-! ## What a filter is shown -/

/-- The header fields a filter is told. -/
def fieldsSaid (es : List Event) : List HeaderField :=
  es.filterMap fun
    | .milter _ (.headerField field) => some field
    | _ => none

/-- The bodies a filter is told, and whether they were read to their end. -/
def bodiesSaid (es : List Event) : List (Bytes × Bool) :=
  es.filterMap fun
    | .milter _ (.body data whole) => some (data, whole)
    | _ => none

/-- The header fields and the body that a filter is shown of a message. -/
def shown (b : Bytes) : List HeaderField × Bytes :=
  match headerBlockOf b with
  | (block, true) => ((parseMessage block).headers, b.drop block.length)
  | (_, false) => ([], b)

/-- The fields that are told in two stretches are told in one after the other. -/
theorem fieldsSaid_append (es es' : List Event) :
    fieldsSaid (es ++ es') = fieldsSaid es ++ fieldsSaid es' := List.filterMap_append

/-- So are the bodies. -/
theorem bodiesSaid_append (es es' : List Event) :
    bodiesSaid (es ++ es') = bodiesSaid es ++ bodiesSaid es' := List.filterMap_append

/-- A run that streams one body at most: behind the header fields `fields`, and `body` if it is read
to its end. -/
def Shows (x : Tx Unit) (w : World) (fields : List HeaderField) (body : Bytes) : Prop :=
  ∃ es, (x.run w).2.trace = w.trace ++ es ∧ ∀ d ∈ bodiesSaid es, bodiesSaid es = [d] ∧
    fieldsSaid es = fields ∧ (d.2 = true → d.1 = body)

/-- Before the body, a run is observed; where it stops, no body was shown. -/
theorem Shows.bind {α : Type} {x : Tx α} {k : α → Tx Unit} {w w₁ : World} {r : Except Err α}
    {es : List Event} {fields fields' : List HeaderField} {body : Bytes}
    (hrun : x.run w = (r, w₁)) (hx : Tx.Observed w w₁ es) (hes : bodiesSaid es = [])
    (hk : ∀ a, r = .ok a → Shows (k a) w₁ fields' body ∧ fieldsSaid es ++ fields' = fields) :
    Shows (x >>= k) w fields body := by
  cases r with
  | error e =>
    rw [Shows, Comp.run_bind_of_error hrun]
    exact ⟨es, hx.trace, fun d hd => by rw [hes] at hd; cases hd⟩
  | ok a =>
    obtain ⟨⟨es', htrace, hbody⟩, hfields⟩ := hk a rfl
    rw [Shows, Comp.run_bind_of_ok hrun]
    refine ⟨es ++ es', ?_, fun d hd => ?_⟩
    · rw [htrace, hx.trace, List.append_assoc]
    · rw [bodiesSaid_append, hes, List.nil_append] at hd ⊢
      obtain ⟨hd, rfl, hall⟩ := hbody d hd
      exact ⟨hd, by rw [fieldsSaid_append, hfields], hall⟩

section
variable (peers : Peers) (f : Milter)

open Tx

/-- Calls are made in order; all of them, if none is answered with a verdict. -/
theorem sayAll_run (calls : List MilterCall) : ∀ w : World, ∃ said, said <+: calls ∧
    Observed w ((sayAll peers f calls).run w).2 (said.map (.milter f.name)) ∧
      (((sayAll peers f calls).run w).1 = .ok () → said = calls) := by
  induction calls with
  | nil => exact fun w => ⟨[], List.prefix_rfl, .refl w, fun _ => rfl⟩
  | cons call calls ih =>
    intro w
    have hsay : (say peers f call).run w =
        (verdict peers (w.trace ++ [.milter f.name call]),
          { w with trace := w.trace ++ [.milter f.name call] }) := rfl
    have hobs : Observed w { w with trace := w.trace ++ [.milter f.name call] }
        [.milter f.name call] := .emit _ w
    rw [sayAll]
    cases hv : verdict peers (w.trace ++ [.milter f.name call]) with
    | error e =>
      rw [hv] at hsay
      rw [Comp.run_bind_of_error hsay]
      exact ⟨[call], by simp, hobs, fun h => nomatch h⟩
    | ok u =>
      rw [hv] at hsay
      rw [Comp.run_bind_of_ok hsay]
      obtain ⟨said, hpre, hsaid, hall⟩ := ih { w with trace := w.trace ++ [.milter f.name call] }
      refine ⟨call :: said, List.cons_prefix_cons.mpr ⟨rfl, hpre⟩, hobs.trans hsaid, fun h => ?_⟩
      rw [hall h]

/-- Opening a session reports the macros, whether or not the filter can be reached. -/
theorem openSession_run (info : SessionInfo) (from_ : Bytes) (w : World) :
    Observed w ((openSession peers f info from_).run w).2
      [.milter f.name (.session (macros info from_))] := by
  have hrun : ((openSession peers f info from_).run w).2 =
      { w with trace := w.trace ++ [.milter f.name (.session (macros info from_))] } := by
    rw [openSession]
    simp only [Comp.run_bind, run_emit, Comp.run_get]
    split <;> rfl
  rw [hrun]
  exact .emit _ w

/-- A body is streamed once, from behind the header block on. -/
theorem sendBody_shows {body : SpoolRef} {w : World}
    (hsize : (w.spools body).n = (w.spools body).contents.length)
    (parsed : ParsedMessage) (headerLen : Nat) :
    Shows (sendBody peers f body parsed headerLen) w []
      ((w.spools body).contents.drop headerLen) := by
  have hmin : (w.spools body).contents.drop (min headerLen (w.spools body).n) =
      (w.spools body).contents.drop headerLen := by
    rw [hsize, ← List.drop_eq_drop_min]
  obtain ⟨w₁, hobs₁, ⟨r, hopen, hfrom⟩ | ⟨-, what, hopen⟩⟩ :=
    onSpool_opens (Spool.readerAt_opens ⟨w.disk, w.spools body⟩ headerLen)
  · obtain ⟨data, err, w₂, hdeliver, hobs₂, -, hdata, -⟩ := onSpool_deliver hfrom none
    rw [Shows, sendBody, Comp.run_bind_of_ok hopen, Comp.run_bind_of_ok hdeliver,
      Comp.run_bind_of_ok (run_emit _ _), Comp.run_bind_of_ok (Comp.run_get _)]
    have hobs := (hobs₁.trans hobs₂).trans (.emit (.milter f.name (.body data err.isNone)) w₂)
    refine ⟨[.milter f.name (.body data err.isNone)], ?_, ?_⟩
    · exact Eq.trans (silent_endBody f parsed headerLen err _ _) hobs.trace
    · intro x hx
      obtain rfl : x = (data, err.isNone) := by simpa [bodiesSaid] using hx
      refine ⟨rfl, rfl, fun hwhole => ?_⟩
      rw [hdata (Option.isNone_iff_eq_none.mp hwhole), (hobs₁.spools body).contents]
      exact hmin
  · rw [Shows, sendBody, Comp.run_bind_of_error hopen]
    exact ⟨[], hobs₁.trace, fun x hx => nomatch hx⟩

/-- Calls that are neither a header field nor the body. -/
theorem nothing_said {calls said : List MilterCall} (hpre : said <+: calls)
    (hcalls : ∀ call ∈ calls, (∀ field, call ≠ .headerField field) ∧ ∀ d b, call ≠ .body d b) :
    fieldsSaid (said.map (.milter f.name)) = [] ∧ bodiesSaid (said.map (.milter f.name)) = [] := by
  constructor
  · rw [fieldsSaid, List.filterMap_eq_nil_iff]
    intro e he
    obtain ⟨call, hcall, rfl⟩ := List.mem_map.mp he
    have h := (hcalls call (hpre.subset hcall)).1
    cases call <;> first | rfl | exact absurd rfl (h _)
  · rw [bodiesSaid, List.filterMap_eq_nil_iff]
    intro e he
    obtain ⟨call, hcall, rfl⟩ := List.mem_map.mp he
    have h := (hcalls call (hpre.subset hcall)).2
    cases call <;> first | rfl | exact absurd rfl (h _ _)

/-- The header fields of a message, said to a filter. -/
theorem headerFields_said {fields : List HeaderField} {said : List MilterCall}
    (hpre : said <+: fields.map .headerField ++ [.headerEnd]) :
    bodiesSaid (said.map (.milter f.name)) = [] ∧
      (said = fields.map .headerField ++ [.headerEnd] →
        fieldsSaid (said.map (.milter f.name)) = fields) := by
  constructor
  · rw [bodiesSaid, List.filterMap_eq_nil_iff]
    intro e he
    obtain ⟨call, hcall, rfl⟩ := List.mem_map.mp he
    rcases List.mem_append.mp (hpre.subset hcall) with h | h
    · obtain ⟨field, -, rfl⟩ := List.mem_map.mp h
      rfl
    · rw [List.mem_singleton.mp h]
  · rintro rfl
    rw [List.map_append, List.map_map, fieldsSaid_append]
    have hend : fieldsSaid (List.map (Event.milter f.name) [.headerEnd]) = [] := rfl
    rw [hend, List.append_nil, fieldsSaid, List.filterMap_map]
    exact List.filterMap_some

/-- From the header fields on, only the fields and where the body starts matter. -/
theorem message_shows {body : SpoolRef} {w : World}
    (hsize : (w.spools body).n = (w.spools body).contents.length)
    (parsed : ParsedMessage) (headerLen : Nat) : Shows (do
      sayAll peers f (parsed.headers.map .headerField ++ [.headerEnd])
      sendBody peers f body parsed headerLen) w parsed.headers
        ((w.spools body).contents.drop headerLen) := by
  obtain ⟨said, hpre, hobs, hall⟩ :=
    sayAll_run peers f (parsed.headers.map .headerField ++ [.headerEnd]) w
  obtain ⟨hbodies, hfields⟩ := headerFields_said f hpre
  rcases hrun : (sayAll peers f (parsed.headers.map .headerField ++ [.headerEnd])).run w with
    ⟨r, w'⟩
  rw [hrun] at hobs hall
  have hbody := hobs.spools body
  have hsent := @sendBody_shows peers f body w'
    (by rw [hbody.n, hbody.contents]; exact hsize) parsed headerLen
  rw [hbody.contents] at hsent
  refine Shows.bind hrun hobs hbodies fun _ hok => ⟨hsent, ?_⟩
  rw [hfields (hall hok), List.append_nil]

/-- **What a filter is shown.** Whatever the filter answers and the disk does, a body is streamed
once at most, behind the fields of the header block. -/
theorem runOne_shows (info : SessionInfo) {w : World}
    (hsize : (w.spools w.msg.body).n = w.bytes.length) :
    Shows (runOne peers f info) w (shown w.bytes).1 (shown w.bytes).2 := by
  refine Shows.bind (run_message w) (.refl w) rfl fun msg hmsg => ⟨?_, rfl⟩
  obtain rfl : w.msg = msg := Except.ok.inj hmsg
  have hopen := openSession_run peers f info w.msg.from_ w
  rcases hrun₁ : (openSession peers f info w.msg.from_).run w with ⟨r₁, w₁⟩
  rw [hrun₁] at hopen
  refine Shows.bind hrun₁ hopen rfl fun _ _ => ⟨?_, rfl⟩
  generalize hcalls : [MilterCall.conn info.hostname
    (if peers.isIPv6 info.remoteIP then .inet6 else .inet) info.remotePort info.remoteIP,
    .helo info.hostname, .mail w.msg.from_] ++ w.msg.to_.map .rcpt ++ [.dataStart] = calls
  have hnone : ∀ call ∈ calls, (∀ field, call ≠ .headerField field) ∧ ∀ d b, call ≠ .body d b := by
    subst hcalls
    intro call hcall
    simp only [List.cons_append, List.nil_append, List.mem_cons, List.mem_append, List.mem_map,
      List.not_mem_nil, or_false] at hcall
    rcases hcall with rfl | rfl | rfl | ⟨a, -, rfl⟩ | rfl <;> exact ⟨nofun, nofun⟩
  obtain ⟨said, hpre, hobs₂, -⟩ := sayAll_run peers f calls w₁
  obtain ⟨hfields₂, hbodies₂⟩ := nothing_said f hpre hnone
  rcases hrun₂ : (sayAll peers f calls).run w₁ with ⟨r₂, w₂⟩
  rw [hrun₂] at hobs₂
  refine Shows.bind hrun₂ hobs₂ hbodies₂ fun _ _ => ⟨?_, by rw [hfields₂]; rfl⟩
  obtain ⟨w₃, hobs₃, hblock⟩ :=
    onSpool_yields (Spool.headerBlock_yields ⟨w₂.disk, w₂.spools w.msg.body⟩)
  have hbytes : (w₂.spools w.msg.body).contents = w.bytes :=
    ((hopen.trans hobs₂).spools _).contents
  simp only [hbytes] at hblock
  obtain hblock | ⟨-, what, hblock⟩ := hblock
  · refine Shows.bind hblock hobs₃ rfl fun p hp => ⟨?_, rfl⟩
    obtain rfl := Except.ok.inj hp
    have hbody : (w.spools w.msg.body).SameBody (w₃.spools w.msg.body) :=
      ((hopen.trans hobs₂).trans hobs₃).spools _
    have hrest : ∀ (parsed : ParsedMessage) (header : Bytes), Shows (do
        sayAll peers f (parsed.headers.map .headerField ++ [.headerEnd])
        sendBody peers f w.msg.body parsed header.length) w₃ parsed.headers
          (w.bytes.drop header.length) := by
      intro parsed header
      have hsent := @message_shows peers f w.msg.body w₃
        (by rw [hbody.n, hbody.contents]; exact hsize) parsed header.length
      rwa [hbody.contents] at hsent
    rcases hb : headerBlockOf w.bytes with ⟨block, _ | _⟩
    · have h := hrest ⟨[], []⟩ []
      simpa [shown, hb] using h
    · have h := hrest (parseMessage block) block
      simpa [shown, hb] using h
  · rw [Shows, Comp.run_bind_of_error hblock]
    exact ⟨[], hobs₃.trace, fun d hd => nomatch hd⟩

end

/-- The two ways to cut a message agree: the lines of its header block are all read as header lines,
or it has no header block and starts like a body. -/
def splitsAlike (b : Bytes) : Bool :=
  match headerBlockOf b with
  | (block, true) => headerLines false (splitLines block).dropLast
  | (_, false) =>
    match splitLines b with
    | [] => true
    | l :: _ => trimLine l ≠ [] ∧ colon ∉ trimLine l

/-- A message with a header block: the fields always agree, the bodies if no line of the block ends
the parse before its empty line. -/
theorem shown_terminated {b block : Bytes} (h : headerBlockOf b = (block, true)) :
    ((parseMessage block).headers, b.drop block.length) =
        ((parseMessage b).headers, (parseMessage b).body) ↔
      headerLines false (splitLines block).dropLast = true := by
  obtain ⟨ls, e, rest, he, -, hblock, hb, hlines⟩ := headerBlockOf_lines h
  have hread : readLines false (splitLines b) = readLines false ls := by
    rw [hlines, readLines_empty he]
  have hheaders : (parseMessage block).headers = (parseMessage b).headers := by
    rw [parseMessage_headers, parseMessage_headers, hread, hblock, readLines_empty he]
  have hdrop : b.drop block.length = rest := by
    conv_lhs => rw [hb]
    exact List.drop_left
  rw [hheaders, hdrop, hblock, List.dropLast_concat, Prod.mk.injEq, and_iff_right rfl]
  obtain ⟨rest', hsplit, hcases⟩ := parseMessage_cases b
  rw [hread] at hsplit
  constructor
  · intro hbody
    obtain ⟨r, hls, -⟩ := readLines_split ls false
    cases r with
    | nil =>
      rw [hls, List.append_nil]
      exact headerLines_readLines ls false
    | cons l t =>
      -- the parse stopped inside the block, so its body is longer than what follows the block
      have hrest' : rest' = l :: (t ++ e :: splitLines rest) := by
        have := hlines.symm.trans hsplit
        rw [hls, List.append_assoc] at this
        conv at this => rhs; rw [← hls]
        exact (List.append_cancel_left this).symm
      have hlen : rest.length < (parseMessage b).body.length := by
        have hne : 0 < e.length := by
          rcases isEmptyLine_iff.mp he with rfl | rfl <;> decide
        rcases hcases with ⟨hnil, -⟩ | ⟨l', t', hlt, -, hparse⟩
        · rw [hrest'] at hnil
          cases hnil
        · rw [hrest'] at hlt
          cases hlt
          rw [hparse]
          show rest.length < (if _ then _ else _ : Bytes).length
          split_ifs <;> simp <;> omega
      rw [← hbody] at hlen
      exact absurd hlen (Nat.lt_irrefl _)
  · intro hall
    rw [readLines_of_headerLines hall, hlines] at hsplit
    obtain rfl := List.append_cancel_left hsplit
    rcases hcases with ⟨hnil, -⟩ | ⟨l, t, hlt, -, hparse⟩
    · cases hnil
    · cases hlt
      rw [hparse]
      simp [trimLine_of_isEmptyLine he]

/-- A message without a header block is all body to a filter. -/
theorem shown_unterminated (b : Bytes) :
    ([], b) = ((parseMessage b).headers, (parseMessage b).body) ↔
      (match splitLines b with
        | [] => true
        | l :: _ => (trimLine l ≠ [] ∧ colon ∉ trimLine l : Bool)) = true := by
  have hflat := flatten_splitLines b
  cases hb : splitLines b with
  | nil =>
    rw [hb] at hflat
    subst hflat
    simp [parseMessage, parseLines]
  | cons l t =>
    rw [hb] at hflat
    have hl : l ≠ [] := ne_nil_of_mem_splitLines (hb ▸ List.mem_cons_self ..)
    have hstop : isHeaderLine false l = false →
        parseMessage b = ⟨[], if trimLine l = [] then t.flatten else (l :: t).flatten⟩ := by
      intro h
      rw [parseMessage, hb]
      exact @parseLines_stop [] l h t
    simp only [decide_eq_true_eq]
    constructor
    · intro heq
      rw [Prod.mk.injEq] at heq
      have hread : isHeaderLine false l = false := by
        by_contra h
        rw [Bool.not_eq_false] at h
        have hpos := fieldsOf_pos (headerLines_readLines (splitLines b) false)
        rw [← parseMessage_headers, ← heq.1, hb, readLines, if_pos h] at hpos
        simp at hpos
      have hbody := heq.2
      rw [hstop hread] at hbody
      have hblank : trimLine l ≠ [] := by
        intro hblank
        rw [if_pos hblank, ← hflat, List.flatten_cons] at hbody
        exact hl (by simpa using hbody)
      exact ⟨hblank, by simpa [isHeaderLine, hblank] using hread⟩
    · rintro ⟨hblank, hcolon⟩
      rw [hstop (by simp [isHeaderLine, hcolon]), if_neg hblank, hflat]

/-- What a filter is shown is the message as the parser splits it exactly if both find the end of the header
in the same place. -/
theorem shown_eq_iff (b : Bytes) :
    shown b = ((parseMessage b).headers, (parseMessage b).body) ↔ splitsAlike b = true := by
  rcases h : headerBlockOf b with ⟨block, _ | _⟩
  · simp only [shown, splitsAlike, h]
    exact shown_unterminated b
  · simp only [shown, splitsAlike, h]
    exact shown_terminated h

/-- **When a filter is shown the message.** In every run that streams a body to its end, the fields
and the body are those of the whole message, parsed at once, exactly if the two ways to cut it
agree. -/
theorem runOne_shows_message_iff (peers : Peers) (f : Milter) (info : SessionInfo) (w : World)
    (hsize : (w.spools w.msg.body).n = w.bytes.length) (data : Bytes)
    (hbody : (data, true) ∈ bodiesSaid (newEvents w ((runOne peers f info).run w).2)) :
    (fieldsSaid (newEvents w ((runOne peers f info).run w).2) = (parseMessage w.bytes).headers ∧
      data = (parseMessage w.bytes).body) ↔ splitsAlike w.bytes = true := by
  obtain ⟨es, htrace, hshows⟩ := runOne_shows peers f info hsize
  have hnew : newEvents w ((runOne peers f info).run w).2 = es := by
    rw [newEvents, htrace, List.drop_left]
  rw [hnew] at hbody ⊢
  obtain ⟨-, hfields, hdata⟩ := hshows _ hbody
  have hdata : data = (shown w.bytes).2 := hdata rfl
  rw [hfields, hdata, ← shown_eq_iff, Prod.ext_iff]

/-- A message whose header ends with an empty line is shown as it is parsed. -/
theorem runOne_shows_plain :
    (fieldsSaid (newEvents (.about [] [] (lit "A: b\r\n\r\nhi")) ((runOne agreeable ⟨lit "av", false⟩
        ⟨[], [], 0, [], [], [], []⟩).run (.about [] [] (lit "A: b\r\n\r\nhi"))).2) =
      (parseMessage (lit "A: b\r\n\r\nhi")).headers ∧
        lit "hi" = (parseMessage (lit "A: b\r\n\r\nhi")).body) ↔
      splitsAlike (lit "A: b\r\n\r\nhi") = true :=
  runOne_shows_message_iff agreeable ⟨lit "av", false⟩ ⟨[], [], 0, [], [], [], []⟩
    (.about [] [] (lit "A: b\r\n\r\nhi")) (by decide +kernel) (lit "hi") (by decide +kernel)

/-- A blank line that ends in LF, before a CRLF CRLF: what stands between them is relayed and no
filter sees it. -/
theorem runOne_hides :
    bodiesSaid (newEvents (.about [] [] (lit "A: b\n\nvirus\r\n\r\nclean"))
      ((runOne agreeable ⟨lit "av", false⟩ ⟨[], [], 0, [], [], [], []⟩).run
        (.about [] [] (lit "A: b\n\nvirus\r\n\r\nclean"))).2) = [(lit "clean", true)] ∧
    (parseMessage (lit "A: b\n\nvirus\r\n\r\nclean")).body = lit "virus\r\n\r\nclean" ∧
    (lit "A: b\n\nvirus\r\n\r\nclean").length -
      (parseMessage (lit "A: b\n\nvirus\r\n\r\nclean")).body.length ≤ maxHeaderBytes := by
  decide +kernel

end Mailout
