import Mailout.Chain

/-!
# When the disk fails

A message that could not be buffered should be tried again. Receiving, the header check and the filters
raise the alarm when the disk fails (`intake_failed`, `warns_filterStage`), not always as a temporary
refusal. What the relay makes of it is decided by the answers of the upstream server: `Settles` says which
of them end the message other than by a temporary refusal (`send_not_temporary_iff`).

`Mishandled` lists the runs of Data that answer a failure of the disk otherwise than by a temporary
refusal, and `data_failed_temporary_iff` says that there are no more.
-/

namespace Mailout

open Go

/-! ## Temporary refusals -/

/-- A reply of the 4xx class, which asks the client to try again. -/
def Temporary (e : Err) : Prop := ∃ reply, e = .smtp reply ∧ 400 ≤ reply.code ∧ reply.code < 500

/-- The reply that Data gives for a spool that could not be written is temporary, whatever the error. -/
theorem temporary_errSpoolFailed (e : Err) : Temporary (errSpoolFailed e) :=
  ⟨_, rfl, by decide, by decide⟩

/-- The reply for a filter that failed is temporary. -/
theorem temporary_errFilterUnavailable (f : Milter) : Temporary (errFilterUnavailable f) :=
  ⟨_, rfl, by simp, by simp⟩

/-- A header block that cannot be read is a temporary refusal: `headerFroms` wraps the error. All that comes
behind the reading is decided without the disk. -/
theorem alarms_checkHeaderFrom (policy : SenderPolicy) :
    Alarms SpoolState.disk (FailsWith Temporary) (checkHeaderFrom policy) := by
  have hfroms : Alarms SpoolState.disk (FailsWith Temporary) headerFroms := by
    refine Spool.reports_headerBlock.caught ?_ ?_
    · rintro (e | ⟨header, _ | _⟩) <;> exact .calm fun _ => rfl
    · exact fun e _ st => ⟨_, rfl, temporary_errSpoolFailed e⟩
  refine hfroms.next fun found => ?_
  rcases found with _ | ⟨v, _ | ⟨v', found⟩⟩
  · exact .calm fun _ => rfl
  · simp only
    split_ifs <;> exact .calm fun _ => rfl
  · exact .calm fun _ => rfl

section
open Tx Comp

variable (peers : Peers)

/-- Talking to a filter does not involve the disk. -/
theorem calm_say (f : Milter) (call : MilterCall) : Keeps Calm (say peers f call) := fun _ => rfl

/-- Nor does a conversation with it. -/
theorem calm_sayAll (f : Milter) : ∀ calls, Keeps Calm (sayAll peers f calls)
  | [] => .pure Calm.refl _
  | call :: calls => .bind Calm.trans (calm_say peers f call) fun _ => calm_sayAll f calls

/-- Nor does opening a session. -/
theorem calm_openSession (f : Milter) (info : SessionInfo) (from_ : Bytes) :
    Keeps Calm (openSession peers f info from_) := by
  refine .bind Calm.trans (fun _ => rfl) fun _ => .bind Calm.trans (.get Calm.refl) fun w => ?_
  cases peers.milter w.trace with
  | error e => exact .fail Calm.refl _
  | ok act => exact .pure Calm.refl _

/-- The bytes for a filter come from the spool. If they cannot be read the filter stage fails with that
error and not with a reply. -/
theorem warns_askFilter (f : Milter) (info : SessionInfo) :
    Warns IsOther (askFilter peers f info) := by
  refine Alarms.next (.calm fun _ => rfl) fun msg => ?_
  refine Alarms.next (.calm (calm_openSession peers f info _)) fun _ => ?_
  refine Alarms.next (.calm (calm_sayAll peers f _)) fun _ => ?_
  refine Alarms.next (Spool.reports_headerBlock.onSpool _) fun block => ?_
  refine Alarms.next (.calm (calm_sayAll peers f _)) fun _ => ?_
  refine Alarms.next ((Spool.reports_readerAt _).onSpool _) fun r => ?_
  refine ((Spool.alarms_deliver _ _).onSpool _).bind ?_ ?_ ?_
  · rintro ⟨data, err⟩
    exact .calm fun w => by
      simp only [Comp.run_bind, run_emit, Comp.run_get, Comp.run_ofExcept]
      cases finalAnswer err _ <;> rfl
  · rintro got ⟨data, e, heq, -⟩ w
    cases heq
    exact ⟨_, rfl, _, rfl⟩
  · rintro e ⟨data, e', heq, -⟩
    cases heq

/-- A filter that the disk fails under fails, in asking it or in carrying out what it asks for. -/
theorem warns_runOne (f : Milter) (info : SessionInfo) : Warns IsOther (runOne peers f info) := by
  rw [runOne_eq]
  exact (warns_askFilter peers f info).next fun req => warns_applyModifications _ _ _ _ _ _

/-- A chain none of whose filters fails open refuses the message for the time being. -/
theorem warns_runChain (info : SessionInfo) : ∀ filters : List Milter,
    (∀ f ∈ filters, f.failOpen = false) → Warns Temporary (runChain peers info filters)
  | [], _ => .calm fun _ => rfl
  | f :: filters, hclosed => by
    have hf : f.failOpen = false := hclosed f List.mem_cons_self
    have hrest : Warns Temporary (runChain peers info filters) :=
      warns_runChain info filters fun g hg => hclosed g (List.mem_cons_of_mem f hg)
    refine (warns_runOne peers f info).caught ?_ ?_
    · rintro (_ | _)
      · rename_i e
        cases e with
        | smtp e => exact .calm fun _ => rfl
        | discard => exact .calm fun _ => rfl
        | other what =>
          refine Alarms.next (.calm fun _ => rfl) fun _ => ?_
          rw [hf]
          exact .calm fun _ => rfl
      · exact Alarms.next (.calm fun _ => rfl) fun _ => hrest
    · rintro e ⟨what, rfl⟩ w
      refine ⟨errFilterUnavailable f, ?_, temporary_errFilterUnavailable f⟩
      show ((emit _ >>= fun _ => _ : Tx Unit).run w).1 = _
      rw [Comp.run_bind_of_ok (run_emit _ _), hf]
      rfl

/-- Where no filter fails open, a disk that fails in the filter stage is a temporary refusal: the chain
answers for the filter. -/
theorem warns_filterStage (info : SessionInfo) (acct : Account) (policy : AccountPolicy)
    (hclosed : ∀ f ∈ policy.milters, f.failOpen = false) :
    Warns Temporary (filterStage peers info acct policy) := by
  unfold filterStage
  split_ifs
  · exact .calm fun _ => rfl
  refine (warns_runChain peers info policy.milters hclosed).caught ?_ ?_
  · rintro (e | u)
    · cases e <;> exact .calm fun _ => rfl
    · exact .calm fun _ => rfl
  · rintro e ⟨reply, rfl, hcode⟩ w
    exact ⟨_, rfl, reply, rfl, hcode⟩

/-! ## The other stages -/

/-- A disk that fails in the header check is a temporary refusal. -/
theorem warns_headerStage (acct : Account) (policy : AccountPolicy) (body : SpoolRef) :
    Warns Temporary (headerStage acct policy body) := by
  unfold headerStage
  split_ifs
  · exact .calm fun _ => rfl
  refine ((alarms_checkHeaderFrom policy.senders).onSpool body).caught ?_ ?_
  · rintro (e | u) <;> exact .calm fun _ => rfl
  · exact fun e he w => ⟨e, rfl, he⟩

/-- A disk that fails while the client's bytes are received is an error that is no reply, which `Data` hands
on as it is. -/
theorem warns_copyFrom (body : SpoolRef) (err : Option Err) :
    ∀ chunks, Warns IsOther (copyFrom body err chunks)
  | [] => by cases err <;> exact .calm fun _ => rfl
  | chunk :: chunks => (warns_pass (warns_write body) chunk).next fun _ => warns_copyFrom body err chunks

/-- A call of the upstream server does not involve the disk. -/
theorem calm_callUpstream (call : UpstreamCall) : Keeps Calm (callUpstream peers call) := by
  refine .bind Calm.trans (fun _ => rfl) fun _ => .bind Calm.trans (.get Calm.refl) fun w => ?_
  cases peers.upstream w.trace with
  | some e => exact .pure Calm.refl _
  | none => exact .bind Calm.trans (fun _ => rfl) fun _ => .pure Calm.refl _

/-- Nor does one whose error is wrapped. -/
theorem calm_command (stage : Bytes) (call : UpstreamCall) :
    Keeps Calm (command peers stage call) := by
  refine .bind Calm.trans (calm_callUpstream peers call) fun r => ?_
  cases r with
  | some e => exact .fail Calm.refl _
  | none => exact .pure Calm.refl _

/-- Nor do those up to the DATA command. -/
theorem calm_startData (relay : Relayer) : Keeps Calm (startData peers relay) := by
  have hrcpts : ∀ rcpts, Keeps Calm (sendRecipients peers rcpts) := by
    intro rcpts
    induction rcpts with
    | nil => exact .pure Calm.refl _
    | cons rcpt rcpts ih => exact .bind Calm.trans (calm_command peers _ _) fun _ => ih
  refine .bind Calm.trans ?_ fun _ => .bind Calm.trans (calm_command peers _ _) fun _ => ?_
  · refine .bind Calm.trans (calm_callUpstream peers _) fun r => ?_
    cases r with
    | some e => exact .fail Calm.refl _
    | none => exact .when Calm.refl (calm_command peers _ _)
  refine .bind Calm.trans (.when Calm.refl (calm_command peers _ _)) fun _ => ?_
  refine .bind Calm.trans (fun _ => rfl) fun msg => ?_
  refine .bind Calm.trans (calm_command peers _ _) fun _ => ?_
  exact .bind Calm.trans (hrcpts _) fun _ => calm_command peers _ _

/-- Nor does sending a piece of the message. -/
theorem calm_writeData (chunk : Bytes) : Keeps Calm (writeData peers chunk) := by
  refine .bind Calm.trans (calm_callUpstream peers _) fun r => ?_
  cases r with
  | some e => exact .fail Calm.refl _
  | none => exact .pure Calm.refl _

end

/-! ## Relaying from a failing disk -/

section
variable (peers : Peers) (relay : Relayer)

open Tx Comp

/-- The call made last is refused for good: the upstream server answers it with a reply that does not
ask to try again. A dial that fails has no reply. -/
def RefusedForGood (trace : List Event) : Prop :=
  ∃ before call reply, trace = before ++ [.upstream call] ∧ call ≠ .dial ∧
    peers.upstream trace = some (.smtp reply) ∧ ¬ (400 ≤ reply.code ∧ reply.code < 500)

/-- The upstream server waits for the message, and the spool cannot be rewound. -/
def Unread (w : World) : Prop :=
  ∃ w₁ e, (startData peers relay).run w = (.ok (), w₁) ∧
    ((onSpool w₁.msg.body Spool.reader).run w₁).1 = .error e

/-- The upstream server refuses a part of the message for good. -/
def Refused (w : World) : Prop :=
  ∃ w₁ source w₂ e w₃, (startData peers relay).run w = (.ok (), w₁) ∧
    (onSpool w₁.msg.body Spool.reader).run w₁ = (.ok source, w₂) ∧
    (copy w₁.msg.body source (writeData peers)).run w₂ = (.error e, w₃) ∧
    RefusedForGood peers w₃.trace

/-- The upstream server has the last word about the message: it refuses a command or a part of the
message for good or, when it has got all of it, takes it or refuses it for good. -/
inductive Settles (w : World) : Prop
  | command {e : Err} {w₁ : World} (hstart : (startData peers relay).run w = (.error e, w₁))
      (h : RefusedForGood peers w₁.trace)
  | part (h : Refused peers relay w)
  | whole {w₁ w₂ w₃ : World} {source : Reader} (hstart : (startData peers relay).run w = (.ok (), w₁))
      (hread : (onSpool w₁.msg.body Spool.reader).run w₁ = (.ok source, w₂))
      (hcopy : (copy w₁.msg.body source (writeData peers)).run w₂ = (.ok (), w₃))
      (h : peers.upstream (w₃.trace ++ [.upstream .close]) = none ∨
        RefusedForGood peers (w₃.trace ++ [.upstream .close]))

/-- An error that is no reply is no temporary refusal. -/
theorem not_temporary_other {e : Err} (h : IsOther e) : ¬ Temporary e := by
  obtain ⟨what, rfl⟩ := h
  rintro ⟨reply, heq, -⟩
  cases heq

/-- An error of the connection, unlike a reply of the server, is answered with a temporary refusal. -/
theorem temporary_wrapUpstream (stage : Bytes) {e : Err} (h : ∀ reply, e ≠ .smtp reply) :
    Temporary (wrapUpstream stage e) := by
  cases e with
  | smtp reply => exact absurd rfl (h reply)
  | discard => exact ⟨_, rfl, by simp, by simp⟩
  | other what => exact ⟨_, rfl, by simp, by simp⟩

/-! ### The call that is refused -/

/-- The last thing said is no call to the upstream server: none of them waits for its answer. -/
def Answered (trace : List Event) : Prop := ∀ before call, trace ≠ before ++ [.upstream call]

/-- Relaying stops at a call that is refused, and returns what `wrapUpstream` makes of the answer; a
dial has an error of its own. -/
inductive StopsAt (trace : List Event) : Err → Prop
  | dial {before : List Event} {answer : Err} (htrace : trace = before ++ [.upstream .dial])
      (hanswer : peers.upstream trace = some answer) : StopsAt trace upstreamUnavailable
  | call {before : List Event} {call : UpstreamCall} {answer : Err} (stage : Bytes)
      (htrace : trace = before ++ [.upstream call]) (hcall : call ≠ .dial)
      (hanswer : peers.upstream trace = some answer) : StopsAt trace (wrapUpstream stage answer)

/-- How a part of the relay ends: all it said is answered, or it stops at the call that is refused. -/
def Ends : Except Err Unit → World → Prop
  | .ok (), w => Answered w.trace
  | .error e, w => StopsAt peers w.trace e

/-- Behind an event that is no call, none waits. -/
theorem answered_append {e : Event} (trace : List Event) (he : ∀ call, e ≠ .upstream call) :
    Answered (trace ++ [e]) := by
  intro before call heq
  exact he call (List.singleton_inj.mp (List.append_inj' heq rfl).2)

variable {peers} in
/-- An error at a refused call is temporary unless the call is refused for good. -/
theorem StopsAt.not_temporary_iff {trace : List Event} {e : Err} (h : StopsAt peers trace e) :
    ¬ Temporary e ↔ RefusedForGood peers trace := by
  cases h with
  | dial htrace hanswer =>
    refine iff_of_false (not_not_intro ⟨_, rfl, by decide, by decide⟩) ?_
    rintro ⟨before', call, reply, htrace', hcall, -⟩
    rw [htrace] at htrace'
    exact hcall (Event.upstream.inj (List.singleton_inj.mp (List.append_inj' htrace' rfl).2)).symm
  | @call before call answer stage htrace hcall hanswer =>
    cases answer with
    | smtp reply =>
      constructor
      · exact fun h => ⟨before, call, reply, htrace, hcall, hanswer, fun hcode => h ⟨reply, rfl, hcode⟩⟩
      · rintro ⟨before', call', reply', -, -, hanswer', hcode⟩ ⟨reply'', heq, hcode'⟩
        rw [hanswer] at hanswer'
        cases hanswer'
        cases heq
        exact hcode hcode'
    | _ =>
      refine iff_of_false (not_not_intro (temporary_wrapUpstream stage ?_)) ?_
      · rintro reply ⟨⟩
      · rintro ⟨before', call', reply', -, -, hanswer', -⟩
        rw [hanswer] at hanswer'
        cases hanswer'

/-- Where no call waits, none is refused for good. -/
theorem Answered.not_refused {trace : List Event} (h : Answered trace) : ¬ RefusedForGood peers trace := by
  rintro ⟨before, call, -, htrace, -⟩
  exact h before call htrace

/-- A call that is answered, or refused. -/
theorem callUpstream_ends (call : UpstreamCall) (w : World) : Ensures (callUpstream peers call) w
    fun r w' => (r = .ok none ∧ Answered w'.trace) ∨ ∃ e, r = .ok (some e) ∧
      w'.trace = w.trace ++ [.upstream call] ∧ peers.upstream w'.trace = some e := by
  rcases callUpstream_cases peers call w with ⟨-, hrun⟩ | ⟨e, hanswer, hrun⟩
  · refine ensures_of_run hrun (.inl ⟨rfl, ?_⟩)
    rw [show w.trace ++ [.upstream call, .accepted call] =
      (w.trace ++ [.upstream call]) ++ [.accepted call] by simp]
    exact answered_append _ fun _ h => by cases h
  · exact ensures_of_run hrun (.inr ⟨e, rfl, rfl, hanswer⟩)

/-- A command ends with its answer, or is the one that is refused. -/
theorem command_ends (stage : Bytes) {call : UpstreamCall} (hcall : call ≠ .dial) (w : World) :
    Ensures (command peers stage call) w (Ends peers) := by
  refine (callUpstream_ends peers call w).bind ?_ ?_
  · rintro answer w' (⟨⟨⟩, h⟩ | ⟨e, ⟨⟩, htrace, hanswer⟩)
    · exact h
    · exact .call stage htrace hcall hanswer
  · rintro e w' (⟨⟨⟩, -⟩ | ⟨e', ⟨⟩, -⟩)

/-- A command that is made on a condition. -/
theorem when_ends {c : Prop} [Decidable c] (stage : Bytes) {call : UpstreamCall} (hcall : call ≠ .dial)
    {w : World} (hw : Answered w.trace) :
    Ensures (Comp.when c (command peers stage call)) w (Ends peers) := by
  unfold Comp.when
  split_ifs
  · exact command_ends peers stage hcall w
  · exact hw

/-- The loop over the recipients stops at the first that is refused. -/
theorem sendRecipients_ends : ∀ (rcpts : List Bytes) (w : World), Answered w.trace →
    Ensures (sendRecipients peers rcpts) w (Ends peers)
  | [], _, hw => hw
  | rcpt :: rcpts, w, _ => by
    refine (command_ends peers _ (by rintro ⟨⟩) w).bind (fun _ w' h => ?_) fun _ _ h => h
    exact sendRecipients_ends rcpts w' h

/-- Up to the DATA writer, relaying stops at the first call that is refused. -/
theorem startData_ends (w : World) : Ensures (startData peers relay) w (Ends peers) := by
  have hdial : Ensures (dial peers relay) w (Ends peers) := by
    refine (callUpstream_ends peers .dial w).bind ?_ ?_
    · rintro answer w' (⟨⟨⟩, h⟩ | ⟨e, ⟨⟩, htrace, hanswer⟩)
      · exact when_ends peers _ (by rintro ⟨⟩) h
      · exact .dial htrace hanswer
    · rintro e w' (⟨⟨⟩, -⟩ | ⟨e', ⟨⟩, -⟩)
  refine hdial.bind (fun _ w₁ _ => ?_) fun _ _ h => h
  refine (command_ends peers _ (by rintro ⟨⟩) w₁).bind (fun _ w₂ h₂ => ?_) fun _ _ h => h
  refine (when_ends peers _ (by rintro ⟨⟩) h₂).bind (fun _ w₃ _ => ?_) fun _ _ h => h
  refine Ensures.bind (P := fun r w' => r = .ok w₃.msg ∧ w' = w₃) ⟨rfl, rfl⟩ ?_ ?_
  · rintro msg w' ⟨⟨⟩, rfl⟩
    refine (command_ends peers _ (by rintro ⟨⟩) w').bind (fun _ w₄ h₄ => ?_) fun _ _ h => h
    refine (sendRecipients_ends peers _ w₄ h₄).bind (fun _ w₅ _ => ?_) fun _ _ h => h
    exact command_ends peers _ (by rintro ⟨⟩) w₅
  · rintro e w' ⟨⟨⟩, -⟩

/-- How copying a body to the DATA writer ends: with an answer to every part, at the part that is
refused, or at a read that failed. -/
def CopyEnds : Except Err Unit → World → Prop
  | .ok (), w => Answered w.trace
  | .error e, w => StopsAt peers w.trace (wrapUpstream (lit "DATA write") e) ∨
      IsOther e ∧ Answered w.trace

/-- A part is written, unless it is empty. -/
theorem pass_ends (data : Bytes) {w : World} (hw : Answered w.trace) :
    Ensures (Tx.pass (writeData peers) data) w (CopyEnds peers) := by
  unfold Tx.pass
  split_ifs
  · exact hw
  · refine (callUpstream_ends peers (.write data) w).bind ?_ ?_
    · rintro answer w' (⟨⟨⟩, h⟩ | ⟨e, ⟨⟩, htrace, hanswer⟩)
      · exact h
      · exact .inl (.call _ htrace (by rintro ⟨⟩) hanswer)
    · rintro e w' (⟨⟨⟩, -⟩ | ⟨e', ⟨⟩, -⟩)

/-- The loop of `io.Copy` stops at the first part that is refused, or behind a read that failed. -/
theorem copyFile_ends (src : SpoolRef) : ∀ (fuel : Nat) (w : World), Answered w.trace →
    Ensures (copyFile src (writeData peers) fuel) w (CopyEnds peers)
  | 0, _, hw => hw
  | fuel + 1, w, hw => by
    obtain ⟨data, err, hread, hother⟩ :=
      Spool.deliver_file_run (some copyBuffer) ⟨w.disk, w.spools src⟩
    refine Ensures.bind (P := fun r w' => r = .ok (data, err) ∧ w'.trace = w.trace) ⟨hread, rfl⟩ ?_ ?_
    · rintro _ w₁ ⟨⟨⟩, htrace⟩
      refine (pass_ends peers data (w := w₁) (htrace ▸ hw)).bind (fun _ w₂ h₂ => ?_) fun _ _ h => h
      cases err with
      | some e => exact .inr ⟨hother e rfl, h₂⟩
      | none =>
        simp only
        split_ifs
        · exact h₂
        · exact copyFile_ends src fuel w₂ h₂
    · rintro e w' ⟨⟨⟩, -⟩

/-- The same for a copy from memory. -/
theorem copy_ends (src : SpoolRef) (source : Reader) {w : World} (hw : Answered w.trace) :
    Ensures (copy src source (writeData peers)) w (CopyEnds peers) := by
  cases source with
  | mem data => exact pass_ends peers data hw
  | file => exact copyFile_ends peers src _ w hw

/-! ### What relaying returns -/

/-- A body that cannot be opened: its error is returned as it is. -/
theorem run_sendData_unread {w w₁ : World} {e : Err}
    (hread : (onSpool w.msg.body Spool.reader).run w = (.error e, w₁)) :
    ((sendData peers).run w).1 = .error e := by
  have hattempt : (Comp.attempt (onSpool w.msg.body Spool.reader)).run w = _ := Comp.run_attempt _ _
  rw [sendData, Comp.run_bind_of_ok (run_message w), Comp.run_bind_of_ok hattempt, hread]
  show ((callUpstream peers .close >>= fun _ => _ : Tx Unit).run w₁).1 = _
  rcases callUpstream_cases peers .close w₁ with ⟨-, hrun⟩ | ⟨e', -, hrun⟩
  · rw [Comp.run_bind_of_ok hrun, run_fail]
  · rw [Comp.run_bind_of_ok hrun, run_fail]

/-- A body that is opened and copied up to an error. -/
theorem run_sendData_uncopied {w w₁ w₂ : World} {source : Reader} {e : Err}
    (hread : (onSpool w.msg.body Spool.reader).run w = (.ok source, w₁))
    (hcopy : (copy w.msg.body source (writeData peers)).run w₁ = (.error e, w₂)) :
    ((sendData peers).run w).1 = .error (wrapUpstream (lit "DATA write") e) := by
  have hattempt : (Comp.attempt (onSpool w.msg.body Spool.reader)).run w = _ := Comp.run_attempt _ _
  rw [sendData, Comp.run_bind_of_ok (run_message w), Comp.run_bind_of_ok hattempt, hread]
  have hattempt' : (Comp.attempt (copy w.msg.body source (writeData peers))).run w₁ = _ :=
    Comp.run_attempt _ _
  show ((Comp.attempt (copy w.msg.body source (writeData peers)) >>= fun _ => _ : Tx Unit).run w₁).1 = _
  rw [Comp.run_bind_of_ok hattempt', hcopy]
  show ((callUpstream peers .close >>= fun _ => _ : Tx Unit).run w₂).1 = _
  rcases callUpstream_cases peers .close w₂ with ⟨-, hrun⟩ | ⟨e', -, hrun⟩
  · rw [Comp.run_bind_of_ok hrun, run_fail]
  · rw [Comp.run_bind_of_ok hrun, run_fail]

/-- What `send` does behind the last byte. -/
def endData : Tx Unit := do
  command peers (lit "DATA close") .close
  let _ ← callUpstream peers .quit
  return

/-- Ending the message does not involve the disk. -/
theorem calm_endData : Keeps Calm (endData peers) :=
  .bind Calm.trans (calm_command peers _ _) fun _ =>
    .bind Calm.trans (calm_callUpstream peers _) fun _ => .pure Calm.refl _

/-- A body that is opened and copied to its end. -/
theorem run_sendData_copied {w w₁ w₂ : World} {source : Reader}
    (hread : (onSpool w.msg.body Spool.reader).run w = (.ok source, w₁))
    (hcopy : (copy w.msg.body source (writeData peers)).run w₁ = (.ok (), w₂)) :
    (sendData peers).run w = (endData peers).run w₂ := by
  have hattempt : (Comp.attempt (onSpool w.msg.body Spool.reader)).run w = _ := Comp.run_attempt _ _
  rw [sendData, Comp.run_bind_of_ok (run_message w), Comp.run_bind_of_ok hattempt, hread]
  have hattempt' : (Comp.attempt (copy w.msg.body source (writeData peers))).run w₁ = _ :=
    Comp.run_attempt _ _
  show (Comp.attempt (copy w.msg.body source (writeData peers)) >>= fun _ => _ : Tx Unit).run w₁ = _
  rw [Comp.run_bind_of_ok hattempt', hcopy]
  rfl

/-- A body that cannot be rewound is reported as it is. -/
theorem send_unread {w : World} (h : Unread peers relay w) :
    FailsWith IsOther ((send peers relay).run w).1 := by
  obtain ⟨w₁, e, hstart, hread⟩ := h
  rw [send, Comp.run_bind_of_ok hstart, run_sendData_unread peers (Prod.ext hread rfl)]
  refine ⟨e, rfl, ?_⟩
  obtain ⟨-, ⟨r, hr, -⟩ | ⟨-, what, hwhat⟩⟩ := Spool.reader_opens ⟨w₁.disk, w₁.spools w₁.msg.body⟩
  · cases hread.symm.trans hr
  · exact ⟨what, Except.error.inj (hread.symm.trans hwhat)⟩

variable {peers relay} {w w₁ w₂ w₃ : World} {source : Reader} {e : Err}

/-- A relay that stops before the DATA writer: what settles the message is the refused command. -/
theorem settles_iff_of_unstarted (hstart : (startData peers relay).run w = (.error e, w₁)) :
    Unread peers relay w ∨ Settles peers relay w ↔ RefusedForGood peers w₁.trace := by
  refine ⟨?_, fun h => .inr (.command hstart h)⟩
  rintro (⟨w₁', e', hstart', -⟩ | ⟨hstart', h⟩ | ⟨w₁', _, _, _, _, hstart', -⟩ | ⟨hstart', -⟩)
  all_goals cases hstart.symm.trans hstart'
  exact h

/-- A relay that stops at a part of the message. -/
theorem settles_iff_of_uncopied (hstart : (startData peers relay).run w = (.ok (), w₁))
    (hread : (onSpool w₁.msg.body Spool.reader).run w₁ = (.ok source, w₂))
    (hcopy : (copy w₁.msg.body source (writeData peers)).run w₂ = (.error e, w₃)) :
    Unread peers relay w ∨ Settles peers relay w ↔ RefusedForGood peers w₃.trace := by
  refine ⟨?_, fun h => .inr (.part ⟨w₁, source, w₂, e, w₃, hstart, hread, hcopy, h⟩)⟩
  rintro (⟨w₁', e', hstart', hread'⟩ | ⟨hstart', -⟩ | ⟨w₁', _, _, _, _, hstart', hread', hcopy', h⟩ |
    ⟨hstart', hread', hcopy', -⟩)
  · cases hstart.symm.trans hstart'
    cases (congrArg Prod.fst hread).symm.trans hread'
  · cases hstart.symm.trans hstart'
  · cases hstart.symm.trans hstart'
    cases hread.symm.trans hread'
    cases hcopy.symm.trans hcopy'
    exact h
  · cases hstart.symm.trans hstart'
    cases hread.symm.trans hread'
    cases hcopy.symm.trans hcopy'

/-- A relay that wrote the whole message: what settles it is the answer to its end. -/
theorem settles_iff_of_copied (hstart : (startData peers relay).run w = (.ok (), w₁))
    (hread : (onSpool w₁.msg.body Spool.reader).run w₁ = (.ok source, w₂))
    (hcopy : (copy w₁.msg.body source (writeData peers)).run w₂ = (.ok (), w₃)) :
    Unread peers relay w ∨ Settles peers relay w ↔
      peers.upstream (w₃.trace ++ [.upstream .close]) = none ∨
        RefusedForGood peers (w₃.trace ++ [.upstream .close]) := by
  refine ⟨?_, fun h => .inr (.whole hstart hread hcopy h)⟩
  rintro (⟨w₁', e', hstart', hread'⟩ | ⟨hstart', -⟩ | ⟨w₁', _, _, _, _, hstart', hread', hcopy', -⟩ |
    ⟨hstart', hread', hcopy', h⟩)
  · cases hstart.symm.trans hstart'
    cases (congrArg Prod.fst hread).symm.trans hread'
  · cases hstart.symm.trans hstart'
  · cases hstart.symm.trans hstart'
    cases hread.symm.trans hread'
    cases hcopy.symm.trans hcopy'
  · cases hstart.symm.trans hstart'
    cases hread.symm.trans hread'
    cases hcopy.symm.trans hcopy'
    exact h

/-- A result that is an error is a temporary refusal if the error is one. -/
theorem failsWith_error_iff {E : Err → Prop} {α : Type} :
    FailsWith E (.error e : Except Err α) ↔ E e := by
  constructor
  · rintro ⟨e', ⟨⟩, h⟩
    exact h
  · exact fun h => ⟨e, rfl, h⟩

/-- The end of the data: it is accepted, or stops at the refused call. -/
theorem endData_not_temporary_iff (w : World) : ¬ FailsWith Temporary ((endData peers).run w).1 ↔
    peers.upstream (w.trace ++ [.upstream .close]) = none ∨
      RefusedForGood peers (w.trace ++ [.upstream .close]) := by
  rcases callUpstream_cases peers .close w with ⟨hanswer, hrun⟩ | ⟨e, hanswer, hrun⟩
  · obtain ⟨answer, w', hquit⟩ : ∃ answer w', (callUpstream peers .quit).run
        { w with trace := w.trace ++ [.upstream .close, .accepted .close] } = (.ok answer, w') := by
      rcases callUpstream_cases peers .quit
          { w with trace := w.trace ++ [.upstream .close, .accepted .close] } with ⟨-, h⟩ | ⟨e, -, h⟩
      · exact ⟨_, _, h⟩
      · exact ⟨_, _, h⟩
    have hclose : (command peers (lit "DATA close") .close).run w = (.ok (), _) :=
      Comp.run_bind_of_ok hrun
    rw [endData, Comp.run_bind_of_ok hclose, Comp.run_bind_of_ok hquit]
    exact iff_of_true (not_failsWith_ok _) (.inl hanswer)
  · have hclose : (command peers (lit "DATA close") .close).run w =
        (.error (wrapUpstream (lit "DATA close") e), _) := Comp.run_bind_of_ok hrun
    have hstops : StopsAt peers (w.trace ++ [.upstream .close]) (wrapUpstream (lit "DATA close") e) :=
      .call _ rfl (by rintro ⟨⟩) hanswer
    rw [endData, Comp.run_bind_of_error hclose, failsWith_error_iff, hstops.not_temporary_iff, hanswer]
    simp only [reduceCtorEq, false_or]

/-- **The replies of the relay.** Relaying returns something else than a temporary refusal exactly if
the spool cannot be rewound, or the upstream server has the last word about the message. -/
theorem send_not_temporary_iff (w : World) : ¬ FailsWith Temporary ((send peers relay).run w).1 ↔
    Unread peers relay w ∨ Settles peers relay w := by
  have hends := startData_ends peers relay w
  rcases hstart : (startData peers relay).run w with ⟨e | u, w₁⟩
  · have hstops : StopsAt peers w₁.trace e := hends.of_run hstart
    rw [settles_iff_of_unstarted hstart, send, Comp.run_bind_of_error hstart, failsWith_error_iff,
      hstops.not_temporary_iff]
  have hanswered : Answered w₁.trace := hends.of_run hstart
  rcases hread : (onSpool w₁.msg.body Spool.reader).run w₁ with ⟨e | source, w₂⟩
  · have hunread : Unread peers relay w := ⟨w₁, e, hstart, congrArg Prod.fst hread⟩
    obtain ⟨e', he', hother⟩ := send_unread peers relay hunread
    refine iff_of_true ?_ (.inl hunread)
    rw [he', failsWith_error_iff]
    exact not_temporary_other hother
  have htrace : w₂.trace = w₁.trace := (congrArg (fun r => r.2.trace) hread).symm
  have hcopies := copy_ends peers w₁.msg.body source (w := w₂) (htrace ▸ hanswered)
  rcases hcopy : (copy w₁.msg.body source (writeData peers)).run w₂ with ⟨e | u, w₃⟩
  · rw [settles_iff_of_uncopied hstart hread hcopy, send, Comp.run_bind_of_ok hstart,
      run_sendData_uncopied peers hread hcopy, failsWith_error_iff]
    obtain hstops | ⟨hother, hwaits⟩ : CopyEnds peers (.error e) w₃ := hcopies.of_run hcopy
    · exact hstops.not_temporary_iff
    · refine iff_of_false (not_not_intro (temporary_wrapUpstream _ ?_)) (hwaits.not_refused peers)
      obtain ⟨what, rfl⟩ := hother
      rintro reply ⟨⟩
  · rw [settles_iff_of_copied hstart hread hcopy, send, Comp.run_bind_of_ok hstart,
      run_sendData_copied peers hread hcopy]
    exact endData_not_temporary_iff w₃

/-- A failure of the disk under the relay is answered with a temporary refusal, unless the spool cannot
be rewound or a part of the message is refused for good. -/
theorem send_failed (hfailed : w.disk.Failed ((send peers relay).run w).2.disk)
    (htemp : ¬ FailsWith Temporary ((send peers relay).run w).1) :
    Unread peers relay w ∨ Refused peers relay w := by
  have hcalm := calm_startData peers relay w
  rcases (send_not_temporary_iff w).mp htemp with hunread | ⟨hstart, -⟩ | hrefused |
    @⟨w₁, w₂, w₃, source, hstart, hread, hcopy, -⟩
  · exact .inl hunread
  · rw [hstart] at hcalm
    rw [send, Comp.run_bind_of_error hstart, show _ = w.disk from hcalm] at hfailed
    exact absurd hfailed (Disk.not_failed _)
  · exact .inr hrefused
  · -- a copy that came to its end met no failure, and neither did what is before and behind it
    rw [hstart] at hcalm
    have hreader : Warns IsOther (onSpool w₁.msg.body Spool.reader) := Spool.reports_reader.onSpool _
    have hcopies : Warns (fun _ => True) (copy w₁.msg.body source (writeData peers)) :=
      warns_copy (fun _ _ => trivial) (fun p => .calm (calm_writeData peers p))
        (fun _ _ _ _ => trivial) source
    rw [send, Comp.run_bind_of_ok hstart, run_sendData_copied peers hread hcopy,
      show _ = w₃.disk from calm_endData peers w₃, ← show w₁.disk = w.disk from hcalm] at hfailed
    rcases hfailed.split (hreader.later hread) with h | h
    · exact absurd h (hreader.not_failed hread (not_failsWith_ok _))
    · exact absurd h (hcopies.not_failed hcopy (not_failsWith_ok _))

end

/-! ## Receiving on a failing disk -/

section
variable (s : Session) (acct : Account) (date : Bytes) (r : ClientData)

open Tx Comp

/-- The disk fails under what the client sends, which is behind the Received field. -/
def CopyFails (body : SpoolRef) (w : World) : Prop :=
  ∃ w₁, (onSpool body (Spool.write (receivedHeader s acct date))).run w = (.ok (), w₁) ∧
    w₁.disk.Failed ((copyFrom body r.err r.chunks).run w₁).2.disk

variable {s acct date r} {body : SpoolRef} {w w₁ : World}

/-- A Received field that cannot be written is a temporary refusal. -/
theorem run_receive_unwritten {e : Err}
    (hwrite : (onSpool body (Spool.write (receivedHeader s acct date))).run w = (.error e, w₁)) :
    (receive s acct date r body).run w = (.error (errSpoolFailed e), w₁) := by
  have hattempt : (Comp.attempt (onSpool body (Spool.write (receivedHeader s acct date)))).run w = _ :=
    Comp.run_attempt _ _
  rw [receive, Comp.run_bind_of_ok hattempt, hwrite]
  rfl

/-- Behind the Received field come the client's bytes. -/
theorem run_receive_written
    (hwrite : (onSpool body (Spool.write (receivedHeader s acct date))).run w = (.ok (), w₁)) :
    (receive s acct date r body).run w = (copyFrom body r.err r.chunks).run w₁ := by
  have hattempt : (Comp.attempt (onSpool body (Spool.write (receivedHeader s acct date)))).run w = _ :=
    Comp.run_attempt _ _
  rw [receive, Comp.run_bind_of_ok hattempt, hwrite]

/-- A failure of the disk while the message is received and its From field is checked is a temporary
refusal, but under the client's bytes. -/
theorem intake_failed {res : Except Err Unit}
    (hrun : (intake s acct date r body).run w = (res, w₁)) : w.disk.Later w₁.disk ∧
      (CopyFails s acct date r body w → FailsWith IsOther res) ∧
      (w.disk.Failed w₁.disk → ¬ CopyFails s acct date r body w → FailsWith Temporary res) := by
  have hwrites := warns_write body (receivedHeader s acct date)
  have hcopies := warns_copyFrom body r.err r.chunks
  have hrest : Warns Temporary (do
      let w ← Comp.get
      Comp.when ((w.spools body).spooled = true) (emit (.messageSpooled acct.username))
      setMessage ⟨s.from_, s.to_, body, acct.username⟩
      headerStage acct (s.snap.policyFor acct.username) body : Tx Unit) := by
    refine Alarms.next (.calm fun _ => rfl) fun w => Alarms.next (.calm ?_) fun _ => ?_
    · exact Keeps.when Calm.refl fun _ => rfl
    · exact Alarms.next (.calm fun _ => rfl) fun _ => warns_headerStage _ _ _
  cases hwrite : (onSpool body (Spool.write (receivedHeader s acct date))).run w with
  | mk written w₂ =>
    cases written with
    | error e =>
      rw [intake, Comp.run_bind_of_error (run_receive_unwritten hwrite)] at hrun
      cases hrun
      refine ⟨hwrites.later hwrite, ?_, fun _ _ => ⟨_, rfl, temporary_errSpoolFailed e⟩⟩
      rintro ⟨w₂, hwrite', -⟩
      rw [hwrite] at hwrite'
      cases hwrite'
    | ok u =>
      have hcopyfails : CopyFails s acct date r body w ↔
          w₂.disk.Failed ((copyFrom body r.err r.chunks).run w₂).2.disk := by
        refine ⟨?_, fun h => ⟨w₂, hwrite, h⟩⟩
        rintro ⟨w₂', hwrite', h⟩
        rw [hwrite] at hwrite'
        cases hwrite'
        exact h
      have hwritten : ¬ w.disk.Failed w₂.disk := hwrites.not_failed hwrite (not_failsWith_ok _)
      have hreceive : (receive s acct date r body).run w = _ := run_receive_written hwrite
      rw [hcopyfails]
      cases hcopy : (copyFrom body r.err r.chunks).run w₂ with
      | mk copied w₃ =>
        rw [hcopy] at hreceive
        have hl := (hwrites.later hwrite).trans (hcopies.later hcopy)
        cases copied with
        | error e =>
          rw [intake, Comp.run_bind_of_error hreceive] at hrun
          cases hrun
          have hother := (hcopies w₂).2
          rw [hcopy] at hother
          refine ⟨hl, hother, fun hfailed hcopied => ?_⟩
          exact absurd (hfailed.split (hwrites.later hwrite)) (not_or.mpr ⟨hwritten, hcopied⟩)
        | ok u =>
          have hcopied : ¬ w₂.disk.Failed w₃.disk := hcopies.not_failed hcopy (not_failsWith_ok _)
          rw [intake, Comp.run_bind_of_ok hreceive] at hrun
          refine ⟨hl.trans (hrest.later hrun), fun h => absurd h hcopied, fun hfailed _ => ?_⟩
          have htemp := (hrest w₃).2
          rw [hrun] at htemp
          rcases hfailed.split hl with h | h
          · exact absurd (h.split (hwrites.later hwrite)) (not_or.mpr ⟨hwritten, hcopied⟩)
          · exact htemp h

end

/-! ## Data on a failing disk -/

section
variable (peers : Peers) (s : Session) (acct : Account) (date : Bytes) (r : ClientData)

open Tx Comp

/-- The quota lets the message in, and the disk fails under what the client sends. -/
def CopyFailed (w : World) : Prop :=
  ∃ w₀, (perform peers (Limiter.check s.snap.limiter acct.username s.to_.length)).run w =
      (.ok (.ok ()), w₀) ∧
    CopyFails s acct date r w₀.created (w₀.withSpool s.snap.newSpool)

/-- The message got past the filters in `w₁`, and past the signature in `w₂`. -/
def Relaying (w w₁ w₂ : World) : Prop :=
  ∃ body w₀, (opening peers s acct date r).run w = (.ok body, w₀) ∧
    (filterStage peers (sessionInfo s acct) acct (s.snap.policyFor acct.username)).run w₀ =
      (.ok true, w₁) ∧
    (signStage peers s.snap.dkim acct (s.snap.policyFor acct.username)).run w₁ = (.ok (), w₂)

/-- The runs of Data that answer a failure of the disk otherwise than with a temporary refusal: while
the client's bytes are copied; while the From field is read for the key to sign with, so that the message
goes on unsigned and the upstream server has the last word; when the spool is rewound for the relay; and
when the upstream server refuses for good a part that could be read. -/
inductive Mishandled (w : World) : Prop
  | copied (h : CopyFailed peers s acct date r w)
  | unsigned {w₁ w₂ : World} (hrelaying : Relaying peers s acct date r w w₁ w₂)
      (hfailed : w₁.disk.Failed w₂.disk) (hsettles : Settles peers s.snap.relay w₂)
  | unread {w₁ w₂ : World} (hrelaying : Relaying peers s acct date r w w₁ w₂)
      (h : Unread peers s.snap.relay w₂)
  | refused {w₁ w₂ : World} (hrelaying : Relaying peers s acct date r w w₁ w₂)
      (h : Refused peers s.snap.relay w₂)

variable {peers s acct date r} {w : World}

/-- But for the client's bytes, the failure of the disk is hidden in what the relay answers. -/
theorem Mishandled.relaying (h : Mishandled peers s acct date r w)
    (hcopied : ¬ CopyFailed peers s acct date r w) :
    ∃ w₁ w₂, Relaying peers s acct date r w w₁ w₂ ∧
      ¬ FailsWith Temporary ((send peers s.snap.relay).run w₂).1 := by
  cases h with
  | copied h => exact absurd h hcopied
  | unsigned hrelaying _ h => exact ⟨_, _, hrelaying, (send_not_temporary_iff _).mpr (.inr h)⟩
  | unread hrelaying h => exact ⟨_, _, hrelaying, (send_not_temporary_iff _).mpr (.inl h)⟩
  | refused hrelaying h => exact ⟨_, _, hrelaying, (send_not_temporary_iff _).mpr (.inr (.part h))⟩

/-- Data up to the filters. -/
theorem opening_failed {w₁ : World} {res : Except Err SpoolRef}
    (hrun : (opening peers s acct date r).run w = (res, w₁)) : w.disk.Later w₁.disk ∧
      (CopyFailed peers s acct date r w → FailsWith IsOther res) ∧
      (w.disk.Failed w₁.disk → ¬ CopyFailed peers s acct date r w → FailsWith Temporary res) := by
  obtain ⟨a, es, hquota, -⟩ := perform_run peers
    (Limiter.check s.snap.limiter acct.username s.to_.length) w
  rw [opening, Comp.run_bind_of_ok hquota] at hrun
  cases a with
  | error e =>
    cases hrun
    refine ⟨.refl _, ?_, fun hfailed => absurd hfailed (Disk.not_failed _)⟩
    rintro ⟨w₀, hquota', -⟩
    rw [hquota] at hquota'
    cases hquota'
  | ok u =>
    have hcopied : CopyFailed peers s acct date r w ↔ CopyFails s acct date r w.created
        (World.withSpool { w with trace := w.trace ++ es } s.snap.newSpool) := by
      refine ⟨?_, fun h => ⟨_, hquota, h⟩⟩
      rintro ⟨w₀, hquota', h⟩
      rw [hquota] at hquota'
      cases hquota'
      exact h
    have hopen : (do intake s acct date r w.created; return w.created : Tx SpoolRef).run
        (World.withSpool { w with trace := w.trace ++ es } s.snap.newSpool) = (res, w₁) := hrun
    rw [hcopied]
    cases hintake : (intake s acct date r w.created).run
        (World.withSpool { w with trace := w.trace ++ es } s.snap.newSpool) with
    | mk got w₂ =>
      obtain ⟨hl, hother, htemp⟩ := intake_failed hintake
      cases got with
      | error e =>
        rw [Comp.run_bind_of_error hintake] at hopen
        cases hopen
        refine ⟨hl, fun h => ?_, fun hfailed h => ?_⟩
        · obtain ⟨e', he, hE⟩ := hother h
          exact ⟨e', congrArg Except.error (Except.error.inj he), hE⟩
        · obtain ⟨e', he, hE⟩ := htemp hfailed h
          exact ⟨e', congrArg Except.error (Except.error.inj he), hE⟩
      | ok u =>
        rw [Comp.run_bind_of_ok hintake] at hopen
        cases hopen
        exact ⟨hl, fun h => absurd (hother h) (not_failsWith_ok _),
          fun hfailed h => absurd (htemp hfailed h) (not_failsWith_ok _)⟩

/-- The signing stage fails with one reply, whatever went wrong when the message was signed. -/
theorem signStage_error {w₁ : World} {signer : DKIMSigner} {policy : AccountPolicy} {e : Err}
    (hrun : (signStage peers signer acct policy).run w = (.error e, w₁)) : e = errUnsigned := by
  unfold signStage at hrun
  split_ifs at hrun
  · cases hrun
  have hattempt : (Comp.attempt (sign peers signer policy.senders)).run w = _ := Comp.run_attempt _ _
  rw [Comp.run_bind_of_ok hattempt] at hrun
  cases hsign : ((sign peers signer policy.senders).run w).1 with
  | ok u =>
    rw [hsign] at hrun
    cases hrun
  | error e' =>
    rw [hsign] at hrun
    cases hrun
    rfl

/-- The relay stage ends as `send` does. -/
theorem relayStage_run (relay : Relayer) (w : World) :
    ((relayStage peers relay acct).run w).1 = ((send peers relay).run w).1 ∧
      ((relayStage peers relay acct).run w).2.disk = ((send peers relay).run w).2.disk := by
  have hattempt : (Comp.attempt (send peers relay)).run w = _ := Comp.run_attempt _ _
  rw [relayStage, Comp.run_bind_of_ok hattempt]
  cases (send peers relay).run w with
  | mk res w₁ =>
    cases res with
    | ok u => exact ⟨rfl, rfl⟩
    | error e => exact ⟨rfl, rfl⟩

/-- The signing stage, too, asks the disk for more and never undoes what was asked. -/
theorem onward_signStage (signer : DKIMSigner) (policy : AccountPolicy) :
    Keeps Onward (signStage peers signer acct policy) := by
  have hemit : ∀ e, Keeps Onward (emit e) := fun _ _ => .refl _
  have hkey : Keeps Onward (keyFor signer) := by
    refine .bind Onward.trans (fun _ => .refl _) fun msg => ?_
    cases signer.byDomain (domainOf msg.from_) with
    | some key => exact .pure Onward.refl _
    | none =>
      refine .bind Onward.trans (.attempt (Warns.onward (Spool.reports_headerBlock.onSpool _))) fun got => ?_
      rcases got with e | ⟨header, terminated⟩
      · exact .pure Onward.refl _
      · exact .pure Onward.refl _
  have hdkim : ∀ key body source signed, Keeps Onward (peers.dkim.sign key body source signed) :=
    fun key body source signed => Warns.onward (peers.dkim.reports key body source signed)
  have hsign : ∀ key, Keeps Onward (signWith peers key) := by
    intro key
    refine .bind Onward.trans (fun _ => .refl _) fun msg => ?_
    refine .bind Onward.trans (.attempt (Warns.onward (Spool.reports_reader.onSpool _))) fun source => ?_
    cases source with
    | error e => exact .bind Onward.trans (hemit _) fun _ => .fail Onward.refl _
    | ok source =>
      refine .bind Onward.trans (fun _ => .refl _) fun signed => ?_
      refine .bind Onward.trans (.attempt (hdkim _ _ _ _)) fun done => ?_
      cases done with
      | error e =>
        refine .bind Onward.trans (fun _ => .refl _) fun _ => ?_
        exact .bind Onward.trans (hemit _) fun _ => .fail Onward.refl _
      | ok u =>
        refine .bind Onward.trans (fun _ => .refl _) fun _ => ?_
        exact .bind Onward.trans (fun _ => .refl _) fun _ => hemit _
  unfold signStage
  split_ifs
  · exact .pure Onward.refl _
  refine .bind Onward.trans (.attempt (.bind Onward.trans hkey fun key => ?_)) fun done => ?_
  · cases key with
    | none => exact .pure Onward.refl _
    | some key =>
      simp only
      split_ifs
      · exact hsign key
      · exact hemit _
  · cases done with
    | ok u => exact .pure Onward.refl _
    | error e => exact .bind Onward.trans (hemit _) fun _ => .fail Onward.refl _

/-- Data behind the filters: a failure of the disk is hidden in what the relay answers, or it is a
temporary refusal. -/
theorem finish_failed {w w' : World} {res : Except Err Unit}
    (hrun : (finish peers s acct).run w = (res, w')) (hfailed : w.disk.Failed w'.disk) :
    (FailsWith Temporary res ∧ ∀ w₂, (signStage peers s.snap.dkim acct
        (s.snap.policyFor acct.username)).run w = (.ok (), w₂) →
          FailsWith Temporary ((send peers s.snap.relay).run w₂).1) ∨
    ¬ FailsWith Temporary res ∧ ∃ w₂, (signStage peers s.snap.dkim acct
        (s.snap.policyFor acct.username)).run w = (.ok (), w₂) ∧
      (w.disk.Failed w₂.disk ∧ ¬ FailsWith Temporary ((send peers s.snap.relay).run w₂).1 ∨
        Unread peers s.snap.relay w₂ ∨ Refused peers s.snap.relay w₂) := by
  have honward := @onward_signStage peers acct s.snap.dkim (s.snap.policyFor acct.username) w
  cases hsign : (signStage peers s.snap.dkim acct (s.snap.policyFor acct.username)).run w with
  | mk signed w₂ =>
    rw [hsign] at honward
    cases signed with
    | error e =>
      rw [finish, Comp.run_bind_of_error hsign] at hrun
      cases hrun
      refine .inl ⟨⟨e, rfl, ?_⟩, ?_⟩
      · rw [signStage_error hsign]
        exact ⟨_, rfl, by decide, by decide⟩
      · intro w₂' h
        cases h
    | ok u =>
      rw [finish, Comp.run_bind_of_ok hsign] at hrun
      obtain ⟨hres, hdisk⟩ := @relayStage_run peers acct s.snap.relay w₂
      rw [hrun] at hres hdisk
      by_cases htemp : FailsWith Temporary ((send peers s.snap.relay).run w₂).1
      · refine .inl ⟨by rw [show res = _ from hres]; exact htemp, ?_⟩
        rintro w₂' ⟨⟩
        exact htemp
      · refine .inr ⟨by rw [show res = _ from hres]; exact htemp, w₂, rfl, ?_⟩
        rw [show w'.disk = _ from hdisk] at hfailed
        rcases hfailed.split honward with h | h
        · exact .inl ⟨h, htemp⟩
        · exact .inr (send_failed h htemp)

/-- Data from the filters on. -/
theorem process_failed {w w' : World} {res : Except Err Unit}
    (hclosed : ∀ f ∈ (s.snap.policyFor acct.username).milters, f.failOpen = false)
    (hrun : (process peers s acct).run w = (res, w')) (hfailed : w.disk.Failed w'.disk) :
    (FailsWith Temporary res ∧ ∀ w₁ w₂, (filterStage peers (sessionInfo s acct) acct
        (s.snap.policyFor acct.username)).run w = (.ok true, w₁) →
      (signStage peers s.snap.dkim acct (s.snap.policyFor acct.username)).run w₁ = (.ok (), w₂) →
        FailsWith Temporary ((send peers s.snap.relay).run w₂).1) ∨
    ¬ FailsWith Temporary res ∧ ∃ w₁ w₂, (filterStage peers (sessionInfo s acct) acct
        (s.snap.policyFor acct.username)).run w = (.ok true, w₁) ∧
      (signStage peers s.snap.dkim acct (s.snap.policyFor acct.username)).run w₁ = (.ok (), w₂) ∧
      (w₁.disk.Failed w₂.disk ∧ ¬ FailsWith Temporary ((send peers s.snap.relay).run w₂).1 ∨
        Unread peers s.snap.relay w₂ ∨ Refused peers s.snap.relay w₂) := by
  have hfilters := warns_filterStage peers (sessionInfo s acct) acct
    (s.snap.policyFor acct.username) hclosed
  cases hfilter : (filterStage peers (sessionInfo s acct) acct
      (s.snap.policyFor acct.username)).run w with
  | mk got w₁ =>
    cases got with
    | error e =>
      rw [process, Comp.run_bind_of_error hfilter] at hrun
      cases hrun
      have htemp := (hfilters w).2
      rw [hfilter] at htemp
      obtain ⟨e', he', htemp'⟩ := htemp hfailed
      refine .inl ⟨⟨e', congrArg Except.error (Except.error.inj he'), htemp'⟩, ?_⟩
      intro w₁' w₂ h
      cases h
    | ok there =>
      have hsound : ¬ w.disk.Failed w₁.disk := hfilters.not_failed hfilter (not_failsWith_ok _)
      rw [process, Comp.run_bind_of_ok hfilter] at hrun
      cases there with
      | false =>
        cases hrun
        exact absurd hfailed hsound
      | true =>
        have hrest := (hfailed.split (hfilters.later hfilter)).resolve_left hsound
        rcases finish_failed hrun hrest with ⟨htemp, hall⟩ | ⟨hnot, w₂, hsign, hwhere⟩
        · refine .inl ⟨htemp, ?_⟩
          rintro w₁' w₂ ⟨⟩ hsign
          exact hall w₂ hsign
        · exact .inr ⟨hnot, w₁, w₂, rfl, hsign, hwhere⟩

/-- A delivery on a failing disk. -/
theorem deliver_failed {w w' : World} {res : Except Err Unit}
    (hclosed : ∀ f ∈ (s.snap.policyFor acct.username).milters, f.failOpen = false)
    (hrun : (deliver peers s acct date r).run w = (res, w')) (hfailed : w.disk.Failed w'.disk) :
    FailsWith Temporary res ↔ ¬ Mishandled peers s acct date r w := by
  rcases deliver_cases peers s acct date r w with
    ⟨e, w₁, w₂, hopen, hdeliver, -, hdisk⟩ | ⟨body, w₀, hopen, hdeliver⟩
  · obtain ⟨-, hother, htemp⟩ := opening_failed hopen
    rw [hdeliver] at hrun
    cases hrun
    rw [hdisk] at hfailed
    by_cases hcopied : CopyFailed peers s acct date r w
    · refine iff_of_false ?_ (not_not_intro (.copied hcopied))
      rintro ⟨e', he', htemp'⟩
      obtain ⟨e'', he'', hE⟩ := hother hcopied
      cases he'
      cases he''
      exact not_temporary_other hE htemp'
    · obtain ⟨e', he', htemp'⟩ := htemp hfailed hcopied
      refine iff_of_true ⟨e', congrArg Except.error (Except.error.inj he'), htemp'⟩ fun hmis => ?_
      obtain ⟨w₁, w₂, ⟨body, w₀, hopen', -⟩, -⟩ := hmis.relaying hcopied
      rw [hopen] at hopen'
      cases hopen'
  · obtain ⟨hl, hother, htemp⟩ := opening_failed hopen
    have hcopied : ¬ CopyFailed peers s acct date r w :=
      fun h => absurd (hother h) (not_failsWith_ok _)
    rw [hdeliver, Comp.run_deferred] at hrun
    obtain ⟨hres, hworld⟩ := Prod.mk.inj hrun
    have hend : w₀.disk.Failed ((process peers s acct).run w₀).2.disk := by
      rw [← hworld] at hfailed
      rcases hfailed.split hl with h | h
      · exact absurd (htemp h hcopied) (not_failsWith_ok _)
      · exact h
    rcases process_failed hclosed (Prod.ext hres rfl) hend with
      ⟨htemp', hall⟩ | ⟨hnot, w₁, w₂, hfilter, hsign, hwhere⟩
    · refine iff_of_true htemp' fun hmis => ?_
      obtain ⟨w₁, w₂, ⟨body', w₀', hopen', hfilter, hsign⟩, hsent⟩ := hmis.relaying hcopied
      rw [hopen] at hopen'
      cases hopen'
      exact hsent (hall w₁ w₂ hfilter hsign)
    · have hrelaying : Relaying peers s acct date r w w₁ w₂ := ⟨body, w₀, hopen, hfilter, hsign⟩
      refine iff_of_false hnot (not_not_intro ?_)
      rcases hwhere with ⟨hlookup, hsent⟩ | hunread | hrefused
      · rcases (send_not_temporary_iff w₂).mp hsent with hunread | hsettles
        · exact .unread hrelaying hunread
        · exact .unsigned hrelaying hlookup hsettles
      · exact .unread hrelaying hunread
      · exact .refused hrelaying hrefused

end

/-- **Failures of the disk and the reply.** For every behaviour of the parties, every client and every
disk, on a gateway none of whose filters fails open: if a file operation fails during Data, Data
answers with a temporary refusal, exactly but for the runs listed by `Mishandled`. -/
theorem data_failed_temporary_iff (peers : Peers) (date : Bytes) (r : ClientData) {host : Host}
    {cfg : Config} {st st' : ServerState} {res : Except Err Unit}
    (hsnap : newSnapshot host cfg = .ok st.current)
    (hclosed : ∀ f ∈ st.current.milters, f.failOpen = false)
    (hrun : (Session.data peers date r).run st = (res, st'))
    (hfailed : st.world.disk.Failed st'.world.disk) :
    FailsWith Temporary res ↔ ¬ ∃ account acct, st.session.account = some account ∧
      Session.InService st.current account acct ∧
      Mishandled peers (Session.adopt st acct) acct date r st.world := by
  obtain ⟨e, closed, hdata⟩ | ⟨account, acct, haccount, -, hin, hdata⟩ :=
    Session.data_cases peers date r st
  · rw [hdata] at hrun
    cases hrun
    exact absurd hfailed (Disk.not_failed _)
  rw [hdata] at hrun
  cases hrun
  have hmilters : ∀ f ∈ (st.current.policyFor acct.username).milters, f.failOpen = false := by
    rw [policyFor_milters hsnap]
    exact hclosed
  have hdeliver : FailsWith Temporary ((deliver peers (Session.adopt st acct) acct date r).run
      st.world).1 ↔ ¬ Mishandled peers (Session.adopt st acct) acct date r st.world :=
    deliver_failed hmilters (Prod.ext rfl rfl) hfailed
  rw [hdeliver, not_iff_not]
  constructor
  · exact fun h => ⟨account, acct, haccount, hin, h⟩
  · rintro ⟨account', acct', haccount', hin', h⟩
    rw [haccount] at haccount'
    cases haccount'
    have hacct : some acct = some acct' := hin.1.symm.trans hin'.1
    cases hacct
    exact h

/-- An account, and a gateway that keeps every message on disk. -/
def spoolingConfig : Config :=
  { Config.plain [⟨lit "app", lit "pw", false, [lit "a@x"], true⟩] [] with spoolThreshold := -1 }

/-- That configuration is one that is loaded. -/
theorem spoolingConfig_loads : (newSnapshot .plain spoolingConfig).toOption.isSome := by
  decide +kernel

/-- A session of that account with an envelope, before DATA, on a disk whose operation `i` fails. -/
def spooling (i : Nat) : ServerState :=
  { guarded with
    current := (newSnapshot .plain spoolingConfig).toOption.get spoolingConfig_loads
    world := { World.about [] [] [] with disk := ⟨fun j => if j = i then some 0 else none, 0⟩ } }

/-- The spool file cannot be created: the client is asked to try again. -/
theorem data_failed_uncreated :
    (spooling 0).world.disk.Failed
      ((Session.data agreeable [] ⟨[lit "hi"], none⟩).run (spooling 0)).2.world.disk ∧
    ¬ ∃ account acct, (spooling 0).session.account = some account ∧
      Session.InService (spooling 0).current account acct ∧
      Mishandled agreeable (Session.adopt (spooling 0) acct) acct [] ⟨[lit "hi"], none⟩
        (spooling 0).world := by
  have hfailed : (spooling 0).world.disk.Failed
      ((Session.data agreeable [] ⟨[lit "hi"], none⟩).run (spooling 0)).2.world.disk :=
    ⟨0, Nat.le_refl _, by decide +kernel, rfl⟩
  have hres : ((Session.data agreeable [] ⟨[lit "hi"], none⟩).run (spooling 0)).1 =
      .error (errSpoolFailed .discard) := by
    decide +kernel
  have hsnap : newSnapshot .plain spoolingConfig = .ok (spooling 0).current :=
    newSnapshot_of_isSome spoolingConfig_loads
  have hiff := data_failed_temporary_iff agreeable [] ⟨[lit "hi"], none⟩ hsnap (by decide +kernel)
    rfl hfailed
  exact ⟨hfailed, hiff.mp ⟨_, hres, temporary_errSpoolFailed _⟩⟩

/-- The disk fails when the first of the client's bytes is written: Data returns the error as it is. -/
theorem data_failed_permanent :
    (spooling 4).world.disk.Failed
      ((Session.data agreeable [] ⟨[lit "hi"], none⟩).run (spooling 4)).2.world.disk ∧
    ((Session.data agreeable [] ⟨[lit "hi"], none⟩).run (spooling 4)).1 =
      .error (.other (lit "write spool file")) :=
  ⟨⟨4, by decide, by decide +kernel, rfl⟩, by decide +kernel⟩

end Mailout
