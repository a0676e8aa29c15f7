import Mailout.Peers

/-!
# Relaying

`internal/gateway/relay.go`: the message is handed to the upstream server before the client is
answered. Closing the DATA writer is what commits it, so what matters is what was written before.

`written` is what the DATA writer took. `send` closes the writer on every path behind a granted DATA,
also where the body could not be read or written to its end; `send_commits_whole_iff` says when what
it commits is the whole message.
-/

namespace Mailout

open Go

/-- The modes of `Upstream.TLS`. -/
inductive TLSMode where
  | none | startTLS | implicit
  deriving DecidableEq, Repr

/-- `relayer`, with what of its configuration it reads. -/
structure Relayer where
  tls : TLSMode
  username : Bytes
  password : Bytes
  heloName : Bytes
  deriving DecidableEq, Repr

/-- `upstreamUnavailable`. -/
def upstreamUnavailable : Err := .smtp ⟨421, (4, 4, 1), lit "Upstream server unavailable"⟩

/-- `wrapUpstream`: the upstream's own reply is handed on, anything else is temporary. -/
def wrapUpstream (stage : Bytes) : Err → Err
  | .smtp e => .smtp e
  | _ => .smtp ⟨451, (4, 4, 2), lit "Upstream failure during " ++ stage⟩

section
variable (peers : Peers)

open Tx

/-- A call of the SMTP client, and the error it returns. -/
def callUpstream (call : UpstreamCall) : Tx (Option Err) := do
  emit (.upstream call)
  match peers.upstream (← Comp.get).trace with
  | some e => return some e
  | none =>
    emit (.accepted call)
    return none

/-- A call whose error is returned under the name of its stage. -/
def command (stage : Bytes) (call : UpstreamCall) : Tx Unit := do
  match ← callUpstream peers call with
  | some e => Comp.fail (wrapUpstream stage e)
  | none => return

/-- `relayer.dial`. -/
def dial (r : Relayer) : Tx Unit := do
  match ← callUpstream peers .dial with
  | some _ => Comp.fail upstreamUnavailable
  | none => Comp.when (r.tls = .startTLS) (command peers (lit "STARTTLS") .startTLS)

/-- The loop of `send` over the recipients. -/
def sendRecipients : List Bytes → Tx Unit
  | [] => pure ()
  | rcpt :: rcpts => do
    command peers (lit "RCPT TO") (.rcpt rcpt)
    sendRecipients rcpts

/-- `relayer.send` up to the DATA writer. -/
def startData (r : Relayer) : Tx Unit := do
  dial peers r
  command peers (lit "EHLO") (.hello r.heloName)
  Comp.when (r.username ≠ []) (command peers (lit "AUTH") (.auth r.username r.password))
  let msg ← message
  command peers (lit "MAIL FROM") (.mail msg.from_)
  sendRecipients peers msg.to_
  command peers (lit "DATA") .data

/-- `w.Write` on the DATA writer. -/
def writeData (chunk : Bytes) : Tx Unit := do
  match ← callUpstream peers (.write chunk) with
  | some e => Comp.fail e
  | none => return

/-- `relayer.send` once the DATA writer is there. -/
def sendData : Tx Unit := do
  let msg ← message
  match ← Comp.attempt (onSpool msg.body Spool.reader) with
  | .error e =>
    let _ ← callUpstream peers .close
    Comp.fail e
  | .ok body =>
    match ← Comp.attempt (copy msg.body body (writeData peers)) with
    | .error e =>
      let _ ← callUpstream peers .close
      Comp.fail (wrapUpstream (lit "DATA write") e)
    | .ok () =>
      command peers (lit "DATA close") .close
      -- the message was accepted, whatever becomes of QUIT
      let _ ← callUpstream peers .quit
      return

/-- `relayer.send`. -/
def send (r : Relayer) : Tx Unit := do
  startData peers r
  sendData peers

end

/-! ## What is said while a message is relayed -/

section
variable (peers : Peers) {P : Event → Prop} (hupstream : ∀ call, P (.upstream call))
  (haccepted : ∀ call, P (.accepted call))
include hupstream haccepted

open Tx Comp

/-- A call of the upstream server says that it is made and how it ended. -/
theorem says_callUpstream (call : UpstreamCall) : Keeps (Says P) (callUpstream peers call) := by
  refine .bind Says.trans (says_emit (hupstream call)) fun _ => ?_
  refine .bind Says.trans (.get Says.refl) fun w => ?_
  cases peers.upstream w.trace with
  | some e => exact .pure Says.refl _
  | none => exact .bind Says.trans (says_emit (haccepted call)) fun _ => .pure Says.refl _

/-- A command says no more than its call. -/
theorem says_command (stage : Bytes) (call : UpstreamCall) :
    Keeps (Says P) (command peers stage call) := by
  refine .bind Says.trans (says_callUpstream peers hupstream haccepted call) fun r => ?_
  cases r with
  | some e => exact .fail Says.refl _
  | none => exact .pure Says.refl _

/-- The recipients are announced with a call each. -/
theorem says_sendRecipients : ∀ rcpts : List Bytes, Keeps (Says P) (sendRecipients peers rcpts)
  | [] => .pure Says.refl _
  | _ :: rcpts => .bind Says.trans (says_command peers hupstream haccepted _ _) fun _ =>
      says_sendRecipients rcpts

/-- The dialog before the message consists of such calls. -/
theorem says_startData (r : Relayer) : Keeps (Says P) (startData peers r) := by
  have hcommand := says_command peers hupstream haccepted
  refine .bind Says.trans ?_ fun _ => ?_
  · refine .bind Says.trans (says_callUpstream peers hupstream haccepted _) fun r' => ?_
    cases r' with
    | some e => exact .fail Says.refl _
    | none => exact .when Says.refl (hcommand _ _)
  refine .bind Says.trans (hcommand _ _) fun _ => ?_
  refine .bind Says.trans (.when Says.refl (hcommand _ _)) fun _ => ?_
  refine .bind Says.trans (says_of_silent silent_message) fun msg => ?_
  refine .bind Says.trans (hcommand _ _) fun _ => ?_
  refine .bind Says.trans (says_sendRecipients peers hupstream haccepted _) fun _ => ?_
  exact hcommand _ _

/-- A piece of the message is one call. -/
theorem says_writeData (chunk : Bytes) : Keeps (Says P) (writeData peers chunk) := by
  refine .bind Says.trans (says_callUpstream peers hupstream haccepted _) fun r => ?_
  cases r with
  | some e => exact .fail Says.refl _
  | none => exact .pure Says.refl _

/-- So the whole transfer consists of calls of the upstream server. -/
theorem says_sendData : Keeps (Says P) (sendData peers) := by
  have hcall := says_callUpstream peers hupstream haccepted
  refine .bind Says.trans (says_of_silent silent_message) fun msg => ?_
  refine .bind Says.trans (.attempt (says_of_silent (silent_onSpool _ _))) fun body => ?_
  cases body with
  | error e => exact .bind Says.trans (hcall _) fun _ => .fail Says.refl _
  | ok body =>
    refine .bind Says.trans (.attempt (copy_keeps Says.refl Says.trans
      (says_of_silent (silent_onSpool _ _)) (says_writeData peers hupstream haccepted) _)) fun r' => ?_
    cases r' with
    | error e => exact .bind Says.trans (hcall _) fun _ => .fail Says.refl _
    | ok u =>
      refine .bind Says.trans (says_command peers hupstream haccepted _ _) fun _ => ?_
      exact .bind Says.trans (hcall _) fun _ => .pure Says.refl _

/-- Relaying speaks to the upstream server, and to no one else. -/
theorem says_send (r : Relayer) : Keeps (Says P) (send peers r) :=
  .bind Says.trans (says_startData peers hupstream haccepted r) fun _ =>
    says_sendData peers hupstream haccepted

end

/-! ## What the DATA writer took -/

/-- The bytes the DATA writer took. -/
def written (es : List Event) : Bytes :=
  es.flatMap fun
    | .accepted (.write chunk) => chunk
    | _ => []

/-- What is written in two stretches is written in one after the other. -/
theorem written_append (es es' : List Event) : written (es ++ es') = written es ++ written es' :=
  List.flatMap_append

section
variable (peers : Peers)

open Tx

/-- The DATA writer takes `chunk` after all that was said. -/
def takes (chunk : Bytes) (trace : List Event) : Bool :=
  (peers.upstream (trace ++ [.upstream (.write chunk)])).isNone

/-- What is left of a file gets to the DATA writer: every buffer is read and taken. A read that
fails is too late to matter if it transferred the last byte. -/
def passes : Nat → Bytes → Disk → List Event → Bool
  | 0, left, _, _ => left = []
  | fuel + 1, left, d, trace =>
    if left = [] then true
    else
      match d.answers d.asked with
      | none => takes peers (left.take copyBuffer) trace &&
          passes fuel (left.drop copyBuffer) (d.after 1)
            (trace ++ [.upstream (.write (left.take copyBuffer)),
              .accepted (.write (left.take copyBuffer))])
      | some m => (left.take copyBuffer).take m = left && takes peers left trace

/-- The whole body gets to the DATA writer once that is granted. -/
def transfers (w : World) : Bool :=
  match (w.spools w.msg.body).file with
  | none => (w.spools w.msg.body).buf = [] || takes peers (w.spools w.msg.body).buf w.trace
  | some f => f.content = [] || ((w.disk.answers w.disk.asked).isNone &&
      passes peers (f.content.length + 1) f.content (w.disk.after 1) w.trace)

/-- A call of the upstream server is accepted, or it fails with the error that the server gave. -/
theorem callUpstream_cases (call : UpstreamCall) (w : World) :
    (peers.upstream (w.trace ++ [.upstream call]) = none ∧ (callUpstream peers call).run w =
      (.ok none, { w with trace := w.trace ++ [.upstream call, .accepted call] })) ∨
    ∃ e, peers.upstream (w.trace ++ [.upstream call]) = some e ∧ (callUpstream peers call).run w =
      (.ok (some e), { w with trace := w.trace ++ [.upstream call] }) := by
  have hstart : (callUpstream peers call).run w = (match peers.upstream (w.trace ++ [.upstream call]) with
      | some e => (.ok (some e), { w with trace := w.trace ++ [.upstream call] })
      | none => (.ok none, { w with trace := w.trace ++ [.upstream call, .accepted call] })) := by
    rw [callUpstream, Comp.run_bind_of_ok (run_emit _ _), Comp.run_bind_of_ok (Comp.run_get _)]
    cases peers.upstream (w.trace ++ [.upstream call]) with
    | some e => rfl
    | none =>
      show (_, _) = (_, _)
      simp
  cases h : peers.upstream (w.trace ++ [.upstream call]) with
  | none => exact .inl ⟨rfl, by rw [hstart, h]⟩
  | some e => exact .inr ⟨e, rfl, by rw [hstart, h]⟩

/-- A stretch of a run that only talks. -/
theorem observed_said (w : World) (es : List Event) :
    Observed w { w with trace := w.trace ++ es } es :=
  ⟨rfl, rfl, fun _ => .refl _, .refl _, rfl, rfl⟩

/-- A write to the DATA writer. -/
theorem writeData_cases (chunk : Bytes) (w : World) :
    (takes peers chunk w.trace = true ∧ (writeData peers chunk).run w =
      (.ok (), { w with trace := w.trace ++ [.upstream (.write chunk), .accepted (.write chunk)] })) ∨
    takes peers chunk w.trace = false ∧ ∃ e, (writeData peers chunk).run w =
      (.error e, { w with trace := w.trace ++ [.upstream (.write chunk)] }) := by
  rcases callUpstream_cases peers (.write chunk) w with ⟨h, hrun⟩ | ⟨e, h, hrun⟩
  · refine .inl ⟨by simp [takes, h], ?_⟩
    rw [writeData, Comp.run_bind_of_ok hrun]
    rfl
  · refine .inr ⟨by simp [takes, h], e, ?_⟩
    rw [writeData, Comp.run_bind_of_ok hrun]
    rfl

/-- What a copy to the DATA writer left to be said about it: it did not close the writer, which took
all of `left` exactly if `whole`, and it returned no error only then. -/
def Copied (w w' : World) (r : Except Err Unit) (left : Bytes) (whole : Bool) : Prop :=
  ∃ es, Observed w w' es ∧ .upstream .close ∉ es ∧ (written es = left ↔ whole = true) ∧
    (r = .ok () → whole = true)

/-- A copy that has nothing left to pass on. -/
theorem Copied.nothing {w w' : World} (h : Observed w w' []) (r : Except Err Unit) :
    Copied w w' r [] true :=
  ⟨[], h, List.not_mem_nil, by simp [written], fun _ => rfl⟩

/-- A copy that stops before the DATA writer took everything. -/
theorem Copied.stopped {w w' : World} {es : List Event} (h : Observed w w' es)
    (hclose : .upstream .close ∉ es) {left : Bytes} (hes : written es ≠ left) (e : Err) :
    Copied w w' (.error e) left false :=
  ⟨es, h, hclose, by simp [hes], fun h => nomatch h⟩

/-- A copy one buffer of which was taken goes on with the rest. -/
theorem Copied.step {w w₁ w₂ w₃ : World} {r : Except Err Unit} {chunk rest : Bytes} {whole : Bool}
    (h : Observed w w₁ []) (hw₂ : w₂ = { w₁ with
      trace := w₁.trace ++ [.upstream (.write chunk), .accepted (.write chunk)] })
    (hrest : Copied w₂ w₃ r rest whole) : Copied w w₃ r (chunk ++ rest) whole := by
  obtain ⟨es, hobs, hclose, hwhole, hok⟩ := hrest
  subst hw₂
  refine ⟨[.upstream (.write chunk), .accepted (.write chunk)] ++ es,
    h.trans ((observed_said w₁ _).trans hobs), ?_, ?_, hok⟩
  · simpa using hclose
  · rw [written_append, ← hwhole]
    have hchunk : written [.upstream (.write chunk), .accepted (.write chunk)] = chunk := by
      simp [written]
    rw [hchunk, List.append_cancel_left_eq]

/-- A turn whose read fails: only if it transferred all that was left, and the DATA writer took it,
nothing is missing. -/
theorem copied_unread {src : SpoolRef} {w w₁ : World} {left data : Bytes} {e : Err} {fuel : Nat}
    (hread : (onSpool src (Spool.deliver .file (some copyBuffer))).run w = (.ok (data, some e), w₁))
    (hobs : Observed w w₁ []) (hleft : [] ≠ left) :
    Copied w ((copyFile src (writeData peers) (fuel + 1)).run w).2
      ((copyFile src (writeData peers) (fuel + 1)).run w).1 left
      (data = left && takes peers left w.trace) := by
  have htrace : w₁.trace = w.trace := by rw [hobs.trace, List.append_nil]
  by_cases hdata : data = []
  · subst hdata
    rw [run_copyFile_unread hread rfl, decide_eq_false hleft, Bool.false_and]
    exact .stopped hobs (by simp) hleft _
  have hpass : pass (writeData peers) data = writeData peers data := if_neg hdata
  rcases writeData_cases peers data w₁ with ⟨htakes, hwrite⟩ | ⟨htakes, e', hwrite⟩
  · rw [run_copyFile_unread hread (hpass ▸ hwrite)]
    rw [htrace] at htakes
    by_cases hall : data = left
    · subst hall
      have hstep : Copied w { w₁ with trace := w₁.trace ++
          [.upstream (.write data), .accepted (.write data)] } (.error e) (data ++ []) true :=
        .step hobs rfl (.nothing (.refl _) _)
      rw [List.append_nil] at hstep
      rw [decide_eq_true rfl, Bool.true_and, htakes]
      exact hstep
    · rw [decide_eq_false hall, Bool.false_and]
      exact .stopped (hobs.trans (observed_said w₁ _)) (by simp) (by simpa [written] using hall) _
  · rw [run_copyFile_unwritten hread (hpass ▸ hwrite)]
    rw [htrace] at htakes
    have hfail : (decide (data = left) && takes peers left w.trace) = false := by
      by_cases hall : data = left
      · rw [← hall, htakes, Bool.and_false]
      · rw [decide_eq_false hall, Bool.false_and]
    rw [hfail]
    exact .stopped (hobs.trans (observed_said w₁ _)) (by simp) (by simpa [written] using hleft) e'

/-- The loop of `io.Copy` from a file to the DATA writer. -/
theorem copyFile_copied {src : SpoolRef} (fuel : Nat) : ∀ {w : World} {f : SpoolFile},
    (w.spools src).file = some f → (f.content.drop f.offset).length < fuel →
      Copied w ((copyFile src (writeData peers) fuel).run w).2
        ((copyFile src (writeData peers) fuel).run w).1 (f.content.drop f.offset)
        (passes peers fuel (f.content.drop f.offset) w.disk w.trace) := by
  induction fuel with
  | zero => exact fun _ h => absurd h (Nat.not_lt_zero _)
  | succ fuel ih =>
    intro w f hf hfuel
    obtain ⟨w₁, hobs, hdisk, hbuffer⟩ := bufferRead hf
    have htrace : w₁.trace = w.trace := by rw [hobs.trace, List.append_nil]
    rw [passes]
    generalize f.content.drop f.offset = left at *
    cases hbuffer with
    | failed m hanswer hread =>
      by_cases hempty : left = []
      · -- nothing is left to pass on, whatever the last read answers
        rw [hempty, List.take_nil, List.take_nil] at hread
        rw [hempty, if_pos rfl, run_copyFile_unread hread rfl]
        exact .nothing hobs _
      · rw [if_neg hempty, hanswer]
        exact copied_unread peers hread hobs fun h => hempty h.symm
    | ended hanswer hleft hread =>
      rw [hleft, if_pos rfl, run_copyFile_end hread]
      exact .nothing hobs _
    | filled f₁ hanswer hread hchunk hfile hrest hshort =>
      have hne : left ≠ [] := fun hnil => hchunk (by rw [hnil, List.take_nil])
      have hpass : pass (writeData peers) (left.take copyBuffer) =
        writeData peers (left.take copyBuffer) := if_neg hchunk
      rw [if_neg hne, hanswer]
      rcases writeData_cases peers (left.take copyBuffer) w₁ with
        ⟨htakes, hwrite⟩ | ⟨htakes, e, hwrite⟩
      · rw [run_copyFile_next hread (hpass ▸ hwrite) hchunk]
        rw [htrace] at htakes
        have hnext := ih (w := { w₁ with trace := w₁.trace ++
          [.upstream (.write (left.take copyBuffer)), .accepted (.write (left.take copyBuffer))] })
          hfile (by rw [hrest]; omega)
        rw [hrest] at hnext
        have hstep := Copied.step hobs rfl hnext
        rw [List.take_append_drop] at hstep
        simpa [htakes, hdisk, htrace] using hstep
      · rw [run_copyFile_unwritten hread (hpass ▸ hwrite)]
        rw [htrace] at htakes
        show Copied _ _ _ _ (takes peers (left.take copyBuffer) w.trace && _)
        rw [htakes, Bool.false_and]
        exact .stopped (hobs.trans (observed_said w₁ _)) (by simp)
          (by simpa [written] using hne.symm) e

/-- What `send` did once the DATA writer was there: it closed the writer once, after the writer took
the whole message exactly if `whole`, and it returned no error only if the close was acknowledged. -/
def Commits (w w' : World) (r : Except Err Unit) (whole : Bool) : Prop :=
  ∃ es tail, w'.trace = w.trace ++ es ++ .upstream .close :: tail ∧ .upstream .close ∉ es ∧
    .upstream .close ∉ tail ∧ (written es = w.bytes ↔ whole = true) ∧
    (r = .ok () → .accepted .close ∈ tail)

/-- Closing the writer after an error. -/
theorem commits_failed {w w₁ : World} {es : List Event} {whole : Bool} (e : Err)
    (hobs : Observed w w₁ es) (hclose : .upstream .close ∉ es)
    (hwhole : written es = w.bytes ↔ whole = true) :
    Commits w ((callUpstream peers .close >>= fun _ => (Comp.fail e : Tx Unit)).run w₁).2
      ((callUpstream peers .close >>= fun _ => (Comp.fail e : Tx Unit)).run w₁).1 whole := by
  rcases callUpstream_cases peers .close w₁ with ⟨-, hrun⟩ | ⟨e', -, hrun⟩
  · rw [Comp.run_bind_of_ok hrun]
    refine ⟨es, [.accepted .close], ?_, hclose, by simp, hwhole, fun h => nomatch h⟩
    show w₁.trace ++ _ = _
    rw [hobs.trace, List.append_assoc]
  · rw [Comp.run_bind_of_ok hrun]
    refine ⟨es, [], ?_, hclose, by simp, hwhole, fun h => nomatch h⟩
    show w₁.trace ++ _ = _
    rw [hobs.trace, List.append_assoc]

/-- Closing the writer after a copy without an error. -/
theorem commits_closed {w w₁ : World} {es : List Event} {whole : Bool}
    (hobs : Observed w w₁ es) (hclose : .upstream .close ∉ es)
    (hwhole : written es = w.bytes ↔ whole = true) :
    Commits w ((command peers (lit "DATA close") .close >>= fun _ =>
        callUpstream peers .quit >>= fun _ => (pure () : Tx Unit)).run w₁).2
      ((command peers (lit "DATA close") .close >>= fun _ =>
        callUpstream peers .quit >>= fun _ => (pure () : Tx Unit)).run w₁).1 whole := by
  rcases callUpstream_cases peers .close w₁ with ⟨-, hrun⟩ | ⟨e, -, hrun⟩
  · have hcommand : (command peers (lit "DATA close") .close).run w₁ =
        (.ok (), { w₁ with trace := w₁.trace ++ [.upstream .close, .accepted .close] }) := by
      rw [command, Comp.run_bind_of_ok hrun]
      rfl
    rw [Comp.run_bind_of_ok hcommand]
    rcases callUpstream_cases peers .quit
      { w₁ with trace := w₁.trace ++ [.upstream .close, .accepted .close] } with
      ⟨-, hquit⟩ | ⟨e', -, hquit⟩
    · rw [Comp.run_bind_of_ok hquit]
      refine ⟨es, [.accepted .close, .upstream .quit, .accepted .quit], ?_, hclose, by simp, hwhole,
        fun _ => by simp⟩
      show w₁.trace ++ _ ++ _ = _
      rw [hobs.trace]
      simp
    · rw [Comp.run_bind_of_ok hquit]
      refine ⟨es, [.accepted .close, .upstream .quit], ?_, hclose, by simp, hwhole, fun _ => by simp⟩
      show w₁.trace ++ _ ++ _ = _
      rw [hobs.trace]
      simp
  · have hcommand : (command peers (lit "DATA close") .close).run w₁ =
        (.error (wrapUpstream (lit "DATA close") e),
          { w₁ with trace := w₁.trace ++ [.upstream .close] }) := by
      rw [command, Comp.run_bind_of_ok hrun]
      rfl
    rw [Comp.run_bind_of_error hcommand]
    refine ⟨es, [], ?_, hclose, by simp, hwhole, fun h => nomatch h⟩
    show w₁.trace ++ _ = _
    rw [hobs.trace, List.append_assoc]

/-- From the copy on. -/
theorem commits_of_copied {w w₁ w₂ : World} {body : Reader} {r : Except Err Unit} {whole : Bool}
    (hopen : (onSpool w.msg.body Spool.reader).run w = (.ok body, w₁)) (hobs : Observed w w₁ [])
    (hcopy : (copy w.msg.body body (writeData peers)).run w₁ = (r, w₂))
    (hcopied : Copied w₁ w₂ r w.bytes whole) :
    Commits w ((sendData peers).run w).2 ((sendData peers).run w).1 whole := by
  obtain ⟨es, hobs₂, hclose, hwhole, -⟩ := hcopied
  have hobs' : Observed w w₂ es := hobs.trans hobs₂
  rw [sendData, Comp.run_bind_of_ok (run_message w), Comp.run_bind, Comp.run_attempt, hopen]
  show Commits w (Comp.run (Comp.attempt _ >>= _) w₁).2 (Comp.run (Comp.attempt _ >>= _) w₁).1 whole
  rw [Comp.run_bind, Comp.run_attempt, hcopy]
  cases r with
  | error e => exact commits_failed peers _ hobs' hclose hwhole
  | ok u => exact commits_closed peers hobs' hclose hwhole

/-- A body in memory is written in one piece. -/
theorem sendData_mem {w : World} (hf : (w.spools w.msg.body).file = none) :
    Commits w ((sendData peers).run w).2 ((sendData peers).run w).1 (transfers peers w) := by
  have hrun := @Spool.run_reader_mem ⟨w.disk, w.spools w.msg.body⟩ hf
  have hbytes : w.bytes = (w.spools w.msg.body).buf := by simp [World.bytes, Spool.contents, hf]
  have hobs : Observed w ((onSpool w.msg.body Spool.reader).run w).2 [] :=
    .onSpool (by rw [hrun]; exact .refl _)
  have hopen : (onSpool w.msg.body Spool.reader).run w =
      (.ok (.mem (w.spools w.msg.body).buf), ((onSpool w.msg.body Spool.reader).run w).2) :=
    Prod.ext (by rw [run_onSpool, hrun]) rfl
  generalize ((onSpool w.msg.body Spool.reader).run w).2 = w₁ at hobs hopen
  have htrace : w₁.trace = w.trace := by rw [hobs.trace, List.append_nil]
  refine commits_of_copied peers hopen hobs rfl ?_
  show Copied w₁ ((pass (writeData peers) (w.spools w.msg.body).buf).run w₁).2
    ((pass (writeData peers) (w.spools w.msg.body).buf).run w₁).1 _ _
  rw [hbytes, transfers, hf]
  show Copied _ _ _ _ (decide ((w.spools w.msg.body).buf = []) || takes peers _ w.trace)
  generalize (w.spools w.msg.body).buf = buf
  by_cases hempty : buf = []
  · subst hempty
    exact .nothing (.refl _) _
  · rw [Tx.pass, if_neg hempty, decide_eq_false hempty, Bool.false_or]
    rcases writeData_cases peers buf w₁ with ⟨htakes, hwrite⟩ | ⟨htakes, e, hwrite⟩
    · rw [hwrite, ← htrace, htakes]
      have hstep : Copied w₁ { w₁ with trace := w₁.trace ++
          [.upstream (.write buf), .accepted (.write buf)] } (.ok ()) (buf ++ []) true :=
        .step (.refl w₁) rfl (.nothing (.refl _) _)
      rwa [List.append_nil] at hstep
    · rw [hwrite, ← htrace, htakes]
      exact .stopped (observed_said w₁ _) (by simp) (by simpa [written] using Ne.symm hempty) e

/-- A body on disk is read from its start, one buffer after the other. -/
theorem sendData_file {w : World} {f : SpoolFile} (hf : (w.spools w.msg.body).file = some f) :
    Commits w ((sendData peers).run w).2 ((sendData peers).run w).1 (transfers peers w) := by
  have hrun := @Spool.run_reader_file ⟨w.disk, w.spools w.msg.body⟩ f hf
  have hbytes : w.bytes = f.content := by simp [World.bytes, Spool.contents, hf]
  have hobs : Observed w ((onSpool w.msg.body Spool.reader).run w).2 [] := .onSpool (by
    rw [hrun]
    split_ifs
    · exact ⟨.refl _, 1, rfl⟩
    · exact ⟨Spool.SameBody.offset hf 0, 1, rfl⟩)
  have htransfers : transfers peers w = (decide (f.content = []) ||
      ((w.disk.answers w.disk.asked).isNone &&
        passes peers (f.content.length + 1) f.content (w.disk.after 1) w.trace)) := by
    rw [transfers, hf]
  cases hgot : w.disk.answers w.disk.asked with
  | some m =>
    have hopen : (onSpool w.msg.body Spool.reader).run w =
        (.error (.other (lit "rewind spool")), ((onSpool w.msg.body Spool.reader).run w).2) :=
      Prod.ext (by rw [run_onSpool, hrun, hgot]; rfl) rfl
    rw [sendData, Comp.run_bind_of_ok (run_message w), Comp.run_bind, Comp.run_attempt, hopen]
    refine commits_failed peers _ hobs List.not_mem_nil ?_
    rw [htransfers, hbytes, hgot]
    simp [written, eq_comm]
  | none =>
    have hopen : (onSpool w.msg.body Spool.reader).run w =
        (.ok .file, ((onSpool w.msg.body Spool.reader).run w).2) :=
      Prod.ext (by rw [run_onSpool, hrun, hgot]; rfl) rfl
    have hdisk : ((onSpool w.msg.body Spool.reader).run w).2.disk = w.disk.after 1 := by
      rw [run_onSpool, hrun, hgot]
      rfl
    have hfile : (((onSpool w.msg.body Spool.reader).run w).2.spools w.msg.body).file =
        some { f with offset := 0 } := by
      rw [run_onSpool, hrun, hgot]
      simp
    generalize ((onSpool w.msg.body Spool.reader).run w).2 = w₁ at *
    have htrace : w₁.trace = w.trace := by rw [hobs.trace, List.append_nil]
    have hcopied := copyFile_copied peers (f.content.length + 1) hfile (Nat.lt_succ_self _)
    rw [List.drop_zero, hdisk, htrace] at hcopied
    have hcopy : (copy w.msg.body .file (writeData peers)).run w₁ =
        (((copyFile w.msg.body (writeData peers) (f.content.length + 1)).run w₁).1,
          ((copyFile w.msg.body (writeData peers) (f.content.length + 1)).run w₁).2) := by
      show (copyFile _ _ ((w₁.spools w.msg.body).contents.length + 1)).run w₁ = _
      rw [show (w₁.spools w.msg.body).contents = f.content by simp [Spool.contents, hfile]]
    have hwhole : transfers peers w =
        passes peers (f.content.length + 1) f.content (w.disk.after 1) w.trace := by
      rw [htransfers, hgot]
      by_cases hempty : f.content = []
      · simp [hempty, passes]
      · simp [hempty]
    rw [hwhole]
    refine commits_of_copied peers hopen hobs hcopy ?_
    rw [hbytes]
    exact hcopied

/-- The DATA writer is closed once, and it took the whole message before that exactly if `transfers` says so,
from memory as from a file. -/
theorem sendData_commits (w : World) :
    Commits w ((sendData peers).run w).2 ((sendData peers).run w).1 (transfers peers w) := by
  cases hf : (w.spools w.msg.body).file with
  | none => exact sendData_mem peers hf
  | some f => exact sendData_file peers hf

/-! ## The dialog before the body -/

/-- A stretch of a run that neither closes nor feeds the DATA writer. -/
def Prepares (w w' : World) : Prop :=
  ∃ es, Observed w w' es ∧ .upstream .close ∉ es ∧ written es = []

/-- Nothing was sent. -/
theorem Prepares.refl (w : World) : Prepares w w := ⟨[], .refl w, List.not_mem_nil, rfl⟩

/-- Two stretches before the message make one. -/
theorem Prepares.trans (w₁ w₂ w₃ : World) (h : Prepares w₁ w₂) (h' : Prepares w₂ w₃) :
    Prepares w₁ w₃ := by
  obtain ⟨es, hobs, hclose, hes⟩ := h
  obtain ⟨es', hobs', hclose', hes'⟩ := h'
  refine ⟨es ++ es', hobs.trans hobs', ?_, ?_⟩
  · rw [List.mem_append, not_or]
    exact ⟨hclose, hclose'⟩
  · rw [written_append, hes, hes']
    rfl

/-- A call that is neither a piece of the message nor its end comes before the message. -/
theorem prepares_callUpstream (call : UpstreamCall) (hclose : call ≠ .close)
    (hwrite : ∀ chunk, call ≠ .write chunk) :
    Comp.Keeps Prepares (callUpstream peers call) := by
  intro w
  have hsaid : ∀ e : Event, e = .upstream call ∨ e = .accepted call → written [e] = [] := by
    intro e he
    cases call with
    | write chunk => exact absurd rfl (hwrite chunk)
    | _ => rcases he with rfl | rfl <;> rfl
  rcases callUpstream_cases peers call w with ⟨-, hrun⟩ | ⟨e, -, hrun⟩
  · rw [hrun]
    refine ⟨_, observed_said w _, by simpa using hclose.symm, ?_⟩
    have := written_append [.upstream call] [.accepted call]
    rw [hsaid _ (.inl rfl), hsaid _ (.inr rfl)] at this
    exact this
  · rw [hrun]
    exact ⟨_, observed_said w _, by simpa using hclose.symm, hsaid _ (.inl rfl)⟩

/-- So does a command. -/
theorem prepares_command (call : UpstreamCall) (hclose : call ≠ .close)
    (hwrite : ∀ chunk, call ≠ .write chunk) (stage : Bytes) :
    Comp.Keeps Prepares (command peers stage call) := by
  refine .bind Prepares.trans (prepares_callUpstream peers call hclose hwrite) fun answer => ?_
  cases answer with
  | some e => exact .fail Prepares.refl _
  | none => exact .pure Prepares.refl ()

/-- So do the recipients. -/
theorem prepares_sendRecipients (rcpts : List Bytes) :
    Comp.Keeps Prepares (sendRecipients peers rcpts) := by
  induction rcpts with
  | nil => exact .pure Prepares.refl ()
  | cons rcpt rcpts ih =>
    exact .bind Prepares.trans (prepares_command peers (.rcpt rcpt) nofun nofun _) fun _ => ih

/-- So does the connection. -/
theorem prepares_dial (r : Relayer) : Comp.Keeps Prepares (dial peers r) := by
  refine .bind Prepares.trans (prepares_callUpstream peers .dial nofun nofun) fun answer => ?_
  cases answer with
  | some e => exact .fail Prepares.refl _
  | none => exact .when Prepares.refl (prepares_command peers .startTLS nofun nofun _)

/-- Up to the DATA command nothing of the message is sent. -/
theorem prepares_startData (r : Relayer) : Comp.Keeps Prepares (startData peers r) := by
  refine .bind Prepares.trans (prepares_dial peers r) fun _ => ?_
  refine .bind Prepares.trans (prepares_command peers (.hello _) nofun nofun _) fun _ => ?_
  refine .bind Prepares.trans (.when Prepares.refl
    (prepares_command peers (.auth _ _) nofun nofun _)) fun _ => ?_
  refine .bind Prepares.trans (fun w => .refl w) fun msg => ?_
  refine .bind Prepares.trans (prepares_command peers (.mail _) nofun nofun _) fun _ => ?_
  refine .bind Prepares.trans (prepares_sendRecipients peers _) fun _ => ?_
  exact prepares_command peers .data nofun nofun _

/-- Relaying talks and reads: it changes neither the message nor a body. -/
theorem watches_send (relay : Relayer) : Comp.Keeps Watches (send peers relay) := by
  have hcall : ∀ call, Comp.Keeps Watches (callUpstream peers call) := by
    intro call
    refine .bind Watches.trans (watches_emit _) fun _ => .bind Watches.trans (.get Watches.refl)
      fun w => ?_
    cases peers.upstream w.trace with
    | some e => exact .pure Watches.refl _
    | none => exact .bind Watches.trans (watches_emit _) fun _ => .pure Watches.refl _
  have hwrite : ∀ chunk, Comp.Keeps Watches (writeData peers chunk) := by
    intro chunk
    refine .bind Watches.trans (hcall _) fun r => ?_
    cases r with
    | some e => exact .fail Watches.refl _
    | none => exact .pure Watches.refl _
  have hstart : Comp.Keeps Watches (startData peers relay) := by
    intro w
    obtain ⟨es, hobs, -⟩ := prepares_startData peers relay w
    exact ⟨es, hobs⟩
  refine .bind Watches.trans hstart fun _ => ?_
  refine .bind Watches.trans watches_message fun msg => ?_
  refine .bind Watches.trans (.attempt (watches_onSpool fun st => (Spool.reader_opens st).1))
    fun body => ?_
  cases body with
  | error e => exact .bind Watches.trans (hcall _) fun _ => .fail Watches.refl _
  | ok body =>
    refine .bind Watches.trans (.attempt (copy_keeps Watches.refl Watches.trans
      (watches_onSpool (Spool.deliver_reading _ _)) hwrite _)) fun r => ?_
    cases r with
    | error e => exact .bind Watches.trans (hcall _) fun _ => .fail Watches.refl _
    | ok u =>
      refine .bind Watches.trans (.bind Watches.trans (hcall _) fun r => ?_) fun _ => ?_
      · cases r with
        | some e => exact .fail Watches.refl _
        | none => exact .pure Watches.refl _
      · exact .bind Watches.trans (hcall _) fun _ => .pure Watches.refl _

/-- A command without an error was accepted. -/
theorem accepted_of_command {stage : Bytes} {call : UpstreamCall} {w w' : World}
    (h : (command peers stage call).run w = (.ok (), w')) : .accepted call ∈ newEvents w w' := by
  obtain ⟨answer, w₁, hcall, hrest⟩ := Comp.run_bind_ok h
  rcases callUpstream_cases peers call w with ⟨-, hrun⟩ | ⟨e, -, hrun⟩
  · rw [hrun] at hcall
    cases hcall
    cases hrest
    simp [newEvents]
  · rw [hrun] at hcall
    cases hcall
    cases hrest

/-- What was said first is said. -/
theorem newEvents_mono {w w₁ w₂ : World} (h : Prepares w w₁) (h' : Prepares w₁ w₂) {e : Event}
    (he : e ∈ newEvents w w₁ ∨ e ∈ newEvents w₁ w₂) : e ∈ newEvents w w₂ := by
  obtain ⟨es, hobs, -⟩ := h
  obtain ⟨es', hobs', -⟩ := h'
  have hnew : newEvents w w₂ = newEvents w w₁ ++ newEvents w₁ w₂ := by
    rw [newEvents, newEvents, newEvents, hobs'.trace, hobs.trace, List.append_assoc,
      List.drop_left, List.drop_left, ← List.append_assoc, List.drop_left]
  rw [hnew]
  exact List.mem_append.mpr he

/-- If the loop over the recipients ends well, the upstream server has accepted every one of them. -/
theorem accepted_recipients {rcpts : List Bytes} : ∀ {w w' : World},
    (sendRecipients peers rcpts).run w = (.ok (), w') →
      ∀ rcpt ∈ rcpts, .accepted (.rcpt rcpt) ∈ newEvents w w' := by
  induction rcpts with
  | nil => exact fun _ rcpt h => absurd h List.not_mem_nil
  | cons first rcpts ih =>
    intro w w' h rcpt hrcpt
    obtain ⟨_, w₁, hfirst, hrest⟩ := Comp.run_bind_ok h
    have hprep : Prepares w w₁ := by
      have := prepares_command peers (.rcpt first) nofun nofun (lit "RCPT TO") w
      rwa [hfirst] at this
    have hprep' : Prepares w₁ w' := by
      have := prepares_sendRecipients peers rcpts w₁
      rwa [hrest] at this
    rcases List.mem_cons.mp hrcpt with rfl | hrcpt
    · exact newEvents_mono hprep hprep' (.inl (accepted_of_command peers hfirst))
    · exact newEvents_mono hprep hprep' (.inr (ih hrest rcpt hrcpt))

/-- The same of a run that there is. -/
theorem prepares_run {α : Type} {x : Tx α} (hx : Comp.Keeps Prepares x) {w w' : World}
    {r : Except Err α} (h : x.run w = (r, w')) : Prepares w w' := by
  have := hx w
  rwa [h] at this

/-- Every recipient was accepted where DATA was granted. -/
theorem accepted_of_startData {r : Relayer} {w w' : World}
    (h : (startData peers r).run w = (.ok (), w')) :
    ∀ rcpt ∈ w.msg.to_, .accepted (.rcpt rcpt) ∈ newEvents w w' := by
  obtain ⟨_, w₁, hdial, h⟩ := Comp.run_bind_ok h
  obtain ⟨_, w₂, hhello, h⟩ := Comp.run_bind_ok h
  obtain ⟨_, w₃, hauth, h⟩ := Comp.run_bind_ok h
  obtain ⟨msg, w₃', hmsg, h⟩ := Comp.run_bind_ok h
  obtain ⟨_, w₄, hmail, h⟩ := Comp.run_bind_ok h
  obtain ⟨_, w₅, hrcpts, hdata⟩ := Comp.run_bind_ok h
  cases hmsg
  have hstart : Prepares w w₃ := .trans _ _ _ (prepares_run (prepares_dial peers r) hdial)
    (.trans _ _ _ (prepares_run (prepares_command peers (.hello _) nofun nofun _) hhello)
      (prepares_run (.when Prepares.refl (prepares_command peers (.auth _ _) nofun nofun _)) hauth))
  have hmsg : w₃.msg = w.msg := by
    obtain ⟨es, hobs, -⟩ := hstart
    exact hobs.msg
  have hbefore : Prepares w w₄ := .trans _ _ _ hstart
    (prepares_run (prepares_command peers (.mail _) nofun nofun _) hmail)
  have hafter : Prepares w₅ w' := prepares_run (prepares_command peers .data nofun nofun _) hdata
  have hbetween : Prepares w₄ w₅ := prepares_run (prepares_sendRecipients peers _) hrcpts
  intro rcpt hrcpt
  have hmem := accepted_recipients peers hrcpts rcpt (by rw [hmsg]; exact hrcpt)
  exact newEvents_mono (.trans _ _ _ hbefore hbetween) hafter
    (.inl (newEvents_mono hbefore hbetween (.inr hmem)))

end

/-- A run of `send` that commits nothing but the whole message: the end-of-data mark is sent once at
most, when the DATA writer took every byte, and no error means that every recipient was accepted and
the mark acknowledged. -/
def CommitsWhole (w : World) (result : Except Err Unit) (es : List Event) : Prop :=
  es.count (.upstream .close) ≤ 1 ∧
    (∀ pre post, es = pre ++ .upstream .close :: post → written pre = w.bytes) ∧
    (result = .ok () →
      (∀ rcpt ∈ w.msg.to_, .accepted (.rcpt rcpt) ∈ es) ∧ .accepted .close ∈ es)

/-- **When `send` commits the whole message or nothing.** DATA is not granted, or the whole body gets
to the DATA writer. -/
theorem send_commits_whole_iff (peers : Peers) (r : Relayer) (w : World) :
    CommitsWhole w ((send peers r).run w).1 (newEvents w ((send peers r).run w).2) ↔
      ∀ w', (startData peers r).run w = (.ok (), w') → transfers peers w' = true := by
  rcases hstart : (startData peers r).run w with ⟨result, w₁⟩
  obtain ⟨es₁, hobs, hclose₁, hes₁⟩ := prepares_run (prepares_startData peers r) hstart
  cases result with
  | error e =>
    rw [send, Comp.run_bind_of_error hstart]
    have hnew : newEvents w w₁ = es₁ := by rw [newEvents, hobs.trace, List.drop_left]
    rw [hnew]
    refine ⟨?_, fun _ => ⟨?_, ?_, ?_⟩⟩
    · intro _ w' h
      cases h
    · rw [List.count_eq_zero_of_not_mem hclose₁]
      exact Nat.zero_le _
    · rintro pre post rfl
      exact absurd (List.mem_append_right _ (List.mem_cons_self ..)) hclose₁
    · intro h
      cases h
  | ok u =>
    rw [send, Comp.run_bind_of_ok hstart]
    obtain ⟨es, tail, htrace, hclose, htail, hwhole, hack⟩ := sendData_commits peers w₁
    have hnew : newEvents w ((sendData peers).run w₁).2 = (es₁ ++ es) ++ .upstream .close :: tail := by
      rw [newEvents, htrace, hobs.trace]
      simp
    have hpre : .upstream .close ∉ es₁ ++ es := by
      rw [List.mem_append, not_or]
      exact ⟨hclose₁, hclose⟩
    have hbytes : w₁.bytes = w.bytes := by
      rw [World.bytes, hobs.msg]
      exact (hobs.spools _).contents
    have hwritten : written (es₁ ++ es) = w.bytes ↔ transfers peers w₁ = true := by
      rw [written_append, hes₁, List.nil_append, ← hbytes]
      exact hwhole
    rw [hnew]
    constructor
    · rintro ⟨-, hcommit, -⟩ w' h
      cases h
      exact hwritten.mp (hcommit _ _ rfl)
    · intro htransfers
      refine ⟨?_, ?_, fun hok => ⟨fun rcpt hrcpt => ?_, ?_⟩⟩
      · rw [List.count_append, List.count_cons_self, List.count_eq_zero_of_not_mem hpre,
          List.count_eq_zero_of_not_mem htail]
      · intro pre post heq
        obtain ⟨rfl, -, -⟩ := (List.append_cons_inj_of_notMem hpre htail).mp heq
        exact hwritten.mpr (htransfers w₁ rfl)
      · have hmem := accepted_of_startData peers hstart rcpt hrcpt
        rw [newEvents, hobs.trace, List.drop_left] at hmem
        exact List.mem_append_left _ (List.mem_append_left _ hmem)
      · exact List.mem_append_right _ (List.mem_cons_of_mem _ (hack hok))

/-- A body on disk whose first read fails after three bytes. -/
def cutShort : World where
  disk := ⟨fun i => if i = 1 then some 3 else none, 0⟩
  spools _ := { dir := [], threshold := 0, buf := [], file := some ⟨lit "whole message", 13⟩, n := 13 }
  created := 1
  closed := []
  msg := ⟨lit "app@example.com", [lit "to@example.org"], 0, lit "app"⟩
  trace := []

/-- The upstream server acknowledges the first three bytes as the message. -/
theorem send_commits_cutShort :
    written (newEvents cutShort
      ((send agreeable ⟨.none, [], [], lit "mail.example.com"⟩).run cutShort).2) = lit "who" ∧
    .accepted .close ∈ newEvents cutShort
      ((send agreeable ⟨.none, [], [], lit "mail.example.com"⟩).run cutShort).2 ∧
    cutShort.bytes = lit "whole message" := by
  decide +kernel

end Mailout
