import Mailout.DiskFailure

/-!
# What is counted of a message

`mailout_messages_total` counts what became of every message Data got to look at. `Tally` says that a
run counted one message under the class of its reply. Every stage that refuses a message counts
it, by the code of the refusal, but for three exits of Data: a message that could not be received is
not counted, one whose header block could not be read is counted as rejected and refused for the time
being, and one that could not be rewound for the relay is counted as deferred and refused for good.

These exits fail only when the disk did (`Blames`), which tells them from the others, so that
`data_counted_iff` lists exactly them (`Miscounted`).
-/

namespace Mailout

open Go

/-! ## Receiving -/

/-- The code a client gets: the SMTP library sends an error that is no reply as 554. -/
def replyCode : Err → Nat
  | .smtp e => e.code
  | .discard => 554
  | .other _ => 554

/-- A malformed field is refused for good. -/
theorem fromValues_error {fields : List HeaderField} {e : Err} (h : fromValues fields = .error e) :
    replyCode e = 550 := by
  induction fields generalizing e with
  | nil => cases h
  | cons field fields ih =>
    by_cases hblank : field.name ≠ trimRight blanks field.name
    · rw [fromValues, if_pos hblank] at h
      cases h
      rfl
    · rw [fromValues, if_neg hblank] at h
      cases hrest : fromValues fields with
      | error e' =>
        rw [hrest] at h
        cases h
        exact ih hrest
      | ok found =>
        rw [hrest] at h
        cases h

/-- The check of the From field refuses for good, unless the disk fails. -/
theorem blames_checkHeaderFrom (policy : SenderPolicy) :
    Blames SpoolState.disk (fun e => replyCode e ≠ 550) (checkHeaderFrom policy) := by
  have hrefuses : ∀ {α : Type} (e : Err), replyCode e = 550 →
      Blames SpoolState.disk (fun e => replyCode e ≠ 550) (Comp.fail e : SpoolOp α) := by
    intro α e hcode
    refine .never ?_
    rintro st ⟨e', he, hne⟩
    cases he
    exact hne hcode
  have hfroms : Blames SpoolState.disk (fun e => replyCode e ≠ 550) headerFroms := by
    refine .caught (fun st => (Spool.reports_headerBlock st).1) Spool.blames_headerBlock
      (fun _ _ => .refl _) ?_
    rintro ⟨header, _ | _⟩
    · exact hrefuses _ rfl
    · refine .never ?_
      rintro st ⟨e, he, hne⟩
      exact hne (fromValues_error he)
  have hlater : ∀ st, SpoolState.disk st |>.Later (headerFroms.run st).2.disk := by
    have hreport : Alarms SpoolState.disk (FailsWith fun _ => True) headerFroms := by
      refine Spool.reports_headerBlock.caught ?_ ?_
      · rintro (e | ⟨header, _ | _⟩) <;> exact .calm fun _ => rfl
      · exact fun e _ st => ⟨_, rfl, trivial⟩
    exact fun st => (hreport st).1
  refine .bind hlater hfroms fun found => ?_
  rcases found with _ | ⟨v, _ | ⟨v', found⟩⟩
  · exact hrefuses _ rfl
  · simp only
    split_ifs
    · exact .never fun _ => not_failsWith_ok _
    · exact hrefuses _ rfl
  · exact hrefuses _ rfl

section
variable {E : Err → Prop}

open Tx Comp

/-- With a client that sends everything, only the disk can make the copy fail. -/
theorem blames_copyFrom (body : SpoolRef) :
    ∀ chunks, Blames World.disk E (copyFrom body none chunks)
  | [] => .never fun _ => not_failsWith_ok _
  | chunk :: chunks => by
    exact .bind (fun w => (warns_pass (warns_write body) chunk w).1) (blames_pass body chunk) fun _ =>
      blames_copyFrom body chunks

/-- A client that breaks off has its error returned, unless the disk fails first. -/
theorem copyFrom_broken (body : SpoolRef) (err : Err) :
    ∀ (chunks : List Bytes) (w : World), ∃ e, ((copyFrom body (some err) chunks).run w).1 = .error e
  | [], w => ⟨err, rfl⟩
  | chunk :: chunks, w => by
    rw [copyFrom]
    cases hrun : (Tx.pass (fun p => onSpool body (Spool.write p)) chunk).run w with
    | mk res w₁ =>
      cases res with
      | error e =>
        rw [Comp.run_bind_of_error hrun]
        exact ⟨e, rfl⟩
      | ok u =>
        rw [Comp.run_bind_of_ok hrun]
        exact copyFrom_broken body err chunks w₁

variable {s : Session} {acct : Account} {date : Bytes} {r : ClientData} {body : SpoolRef}

/-- A disk that fails while a message is received makes that fail, with one error or another. -/
theorem warns_receive : Warns (fun _ => True) (receive s acct date r body) := by
  refine (warns_write body (receivedHeader s acct date)).caught ?_ fun e _ w => ⟨_, rfl, trivial⟩
  rintro (e | u)
  · exact .calm fun _ => rfl
  · intro w
    obtain ⟨hl, hfails⟩ := warns_copyFrom body r.err r.chunks w
    refine ⟨hl, fun hfailed => ?_⟩
    obtain ⟨e, he, -⟩ := hfails hfailed
    exact ⟨e, he, trivial⟩

/-- A message is received unless the client breaks off or the disk fails. -/
theorem receive_fails_iff (w : World) : (∃ e, ((receive s acct date r body).run w).1 = .error e) ↔
    r.err.isSome ∨ w.disk.Failed ((receive s acct date r body).run w).2.disk := by
  constructor
  · rintro ⟨e, he⟩
    cases herr : r.err with
    | some err => exact .inl rfl
    | none =>
      have hblames : Blames World.disk (fun _ => True) (receive s acct date r body) := by
        refine .caught (fun w => (warns_write body _ w).1)
          ((Spool.blames_write (receivedHeader s acct date)).onSpool body) (fun _ _ => .refl _) ?_
        rintro ⟨⟩
        rw [herr]
        exact blames_copyFrom body r.chunks
      exact .inr (hblames w ⟨e, he, trivial⟩)
  · rintro (herr | hfailed)
    · obtain ⟨err, herr⟩ := Option.isSome_iff_exists.mp herr
      cases hwrite : (onSpool body (Spool.write (receivedHeader s acct date))).run w with
      | mk written w₁ =>
        cases written with
        | error e => exact ⟨_, congrArg Prod.fst (run_receive_unwritten hwrite)⟩
        | ok u =>
          rw [run_receive_written hwrite, herr]
          exact copyFrom_broken body err r.chunks w₁
    · obtain ⟨e, he, -⟩ := (warns_receive w).2 hfailed
      exact ⟨e, he⟩

end

/-! ## The quota -/

/-- Over quota, and not reaching the store, are temporary. -/
theorem checkDimensions_returns (l : Limiter) (account : Bytes) (ds : List Dimension) :
    (l.checkDimensions account ds).Returns fun res => ∀ e, res = .error e → Temporary e := by
  induction ds with
  | nil => exact fun e he => nomatch he
  | cons d ds ih =>
    by_cases hd : d.Counted
    · rw [Limiter.checkDimensions_counted hd]
      intro start at_ incr expire
      have hunavailable : Temporary errStoreUnavailable := ⟨_, rfl, by decide, by decide⟩
      have hover : Temporary (errOverQuota d.what) :=
        ⟨_, rfl, (by decide : 400 ≤ 452), (by decide : 452 < 500)⟩
      cases incr with
      | error m =>
        rintro e ⟨⟩
        exact hunavailable
      | ok count =>
        cases expire with
        | error m =>
          rintro e ⟨⟩
          exact hunavailable
        | ok u =>
          show (if count > d.limit then Prog.ret (.error (errOverQuota d.what))
            else l.checkDimensions account ds : StoreProg _).Returns _
          split_ifs
          · rintro e ⟨⟩
            exact hover
          · exact ih
    · rw [Limiter.checkDimensions_skipped hd]
      exact ih

/-- What a program of the store returns it returns in a transaction too. -/
theorem perform_returns (peers : Peers) {α : Type} {P : α → Prop} {p : StoreProg α}
    (hp : p.Returns P) : ∀ {w w' : World} {a : α}, (Tx.perform peers p).run w = (.ok a, w') → P a := by
  induction p with
  | ret b =>
    rintro w w' a ⟨⟩
    exact hp
  | call op k ih =>
    intro w w' a hrun
    rw [Tx.perform, Comp.run_bind_of_ok (Tx.run_emit _ _), Comp.run_bind_of_ok (Comp.run_get _)] at hrun
    exact ih _ (hp _) hrun

/-- The quota refuses for the time being. -/
theorem check_temporary (peers : Peers) {l : Option Limiter} {account : Bytes} {n : Nat}
    {w w' : World} {e : Err}
    (hrun : (Tx.perform peers (Limiter.check l account n)).run w = (.ok (.error e), w')) :
    Temporary e := by
  cases l with
  | none => cases hrun
  | some l =>
    exact perform_returns peers (checkDimensions_returns l account (l.dimensions n)) hrun e rfl

/-! ## Counting -/

/-- The account and the label an event counts in `mailout_messages_total`. -/
def Event.outcome : Event → Option (Bytes × MessageResult)
  | .messageHandled account result => some (account, result)
  | .messageRelayed account _ => some (account, .relayed)
  | _ => none

/-- The label that belongs to what Data returns. -/
def Suits : Except Err Unit → MessageResult → Prop
  | .ok (), o => o = .relayed ∨ o = .discarded
  | .error e, o => (500 ≤ replyCode e ∧ replyCode e < 600 → o = .rejected) ∧
      (400 ≤ replyCode e ∧ replyCode e < 500 → o = .deferred)

/-- One message of an account was counted, as what Data returned. -/
def Tally (username : Bytes) (os : List (Bytes × MessageResult)) (res : Except Err Unit) : Prop :=
  ∃ o, os = [(username, o)] ∧ Suits res o

/-- A message that is not counted has no tally. -/
theorem not_tally_nil {username : Bytes} {res : Except Err Unit} : ¬ Tally username [] res := by
  rintro ⟨o, ho, -⟩
  cases ho

/-- One count is a tally if it suits the reply. -/
theorem tally_singleton {username : Bytes} {o : MessageResult} {res : Except Err Unit} :
    Tally username [(username, o)] res ↔ Suits res o := by
  constructor
  · rintro ⟨o', ho, hsuits⟩
    cases ho
    exact hsuits
  · exact fun h => ⟨o, rfl, h⟩

/-- A temporary refusal is counted as deferred. -/
theorem suits_deferred {e : Err} (h : Temporary e) : Suits (.error e) .deferred := by
  obtain ⟨reply, rfl, hle, hlt⟩ := h
  have hcode : replyCode (.smtp reply) = reply.code := rfl
  refine ⟨fun hpermanent => ?_, fun _ => rfl⟩
  omega

/-- A temporary refusal is not one for good, and should not be counted as one. -/
theorem not_suits_rejected {e : Err} (h : Temporary e) : ¬ Suits (.error e) .rejected := by
  obtain ⟨reply, rfl, hle, hlt⟩ := h
  exact fun hsuits => nomatch hsuits.2 ⟨hle, hlt⟩

/-- `resultFor` goes by the code of a reply. -/
theorem suits_resultFor (reply : SMTPError) (fallback : MessageResult) :
    Suits (.error (.smtp reply)) (resultFor (.smtp reply) fallback) := by
  have hcode : replyCode (.smtp reply) = reply.code := rfl
  rw [resultFor]
  split_ifs with h
  · exact ⟨fun _ => rfl, fun htemp => by omega⟩
  · exact ⟨fun hpermanent => by omega, fun _ => rfl⟩

/-- What the filter stage counts suits what it returns, whatever the error. -/
theorem suits_filterResult (e : Err) : Suits (.error e) (filterResult e) := by
  cases e with
  | smtp reply => exact suits_resultFor reply _
  | discard => exact ⟨fun _ => rfl, fun htemp => absurd htemp.2 (by decide)⟩
  | other what => exact ⟨fun _ => rfl, fun htemp => absurd htemp.2 (by simp [replyCode])⟩

/-- An error that is no reply is sent as 554, while the relay stage counts it as deferred. -/
theorem not_suits_relayResult {e : Err} (h : IsOther e) : ¬ Suits (.error e) (relayResult e) := by
  obtain ⟨what, rfl⟩ := h
  have hcode : replyCode (.other what) = 554 := rfl
  exact fun hsuits => nomatch hsuits.1 (by omega)

section
open Tx Comp

/-- A stretch of a run that counts these. -/
def Counts (os : List (Bytes × MessageResult)) (w w' : World) : Prop :=
  ∃ es, w'.trace = w.trace ++ es ∧ es.filterMap Event.outcome = os

variable {w w₁ w₂ : World} {os os' : List (Bytes × MessageResult)}

/-- What is counted in two stretches is counted in one after the other. -/
theorem Counts.trans (h : Counts os w w₁) (h' : Counts os' w₁ w₂) : Counts (os ++ os') w w₂ := by
  obtain ⟨es, htrace, hes⟩ := h
  obtain ⟨es', htrace', hes'⟩ := h'
  refine ⟨es ++ es', by rw [htrace', htrace, List.append_assoc], ?_⟩
  rw [List.filterMap_append, hes, hes']

/-- Events that are no outcomes are not counted. -/
theorem Counts.of_uncounted (h : Says (fun e => e.outcome = none) w w₁) : Counts [] w w₁ := by
  obtain ⟨es, htrace, hes⟩ := h
  exact ⟨es, htrace, List.filterMap_eq_nil_iff.mpr hes⟩

/-- Silence counts nothing. -/
theorem Counts.of_silent (h : Silent w w₁) : Counts [] w w₁ := .of_uncounted (.of_silent h)

/-- A stretch that counts nothing, and an event behind it. -/
theorem Counts.emit (h : Counts [] w w₁) {e : Event} {o : Bytes × MessageResult}
    (he : e.outcome = some o) : Counts [o] w ((emit e).run w₁).2 := by
  refine h.trans ⟨[e], rfl, ?_⟩
  rw [List.filterMap_cons_some he, List.filterMap_nil]

/-- The outcomes among the new events are those that were counted. -/
theorem Counts.newEvents (h : Counts os w w₁) : (newEvents w w₁).filterMap Event.outcome = os := by
  obtain ⟨es, htrace, hes⟩ := h
  rw [newEvents_eq htrace, hes]

variable (peers : Peers) {acct : Account} {policy : AccountPolicy}

/-- The stages of Data, each with what it counts on its ways out. -/
theorem headerStage_counts (body : SpoolRef) (w : World) :
    (∃ w₁, (headerStage acct policy body).run w = (.ok (), w₁) ∧ Counts [] w w₁ ∧
      (policy.skipHeaderFromCheck = true ∨
        ((checkHeaderFrom policy.senders).run ⟨w.disk, w.spools body⟩).1 = .ok ())) ∨
    ∃ e w₁, (headerStage acct policy body).run w = (.error e, w₁) ∧
      Counts [(acct.username, .rejected)] w w₁ ∧ policy.skipHeaderFromCheck = false ∧
      ((checkHeaderFrom policy.senders).run ⟨w.disk, w.spools body⟩).1 = .error e := by
  unfold headerStage
  split_ifs with hskip
  · exact .inl ⟨w, rfl, .of_silent (.refl w), .inl hskip⟩
  · have hattempt : (Comp.attempt (onSpool body (checkHeaderFrom policy.senders))).run w = _ :=
      Comp.run_attempt _ _
    have hsilent : Counts [] w ((onSpool body (checkHeaderFrom policy.senders)).run w).2 :=
      .of_silent (silent_onSpool body _ w)
    rw [Comp.run_bind_of_ok hattempt]
    cases hres : ((checkHeaderFrom policy.senders).run ⟨w.disk, w.spools body⟩).1 with
    | ok u =>
      have hres' : ((onSpool body (checkHeaderFrom policy.senders)).run w).1 = .ok u := hres
      rw [hres']
      exact .inl ⟨_, rfl, hsilent, .inr rfl⟩
    | error e =>
      have hres' : ((onSpool body (checkHeaderFrom policy.senders)).run w).1 = .error e := hres
      rw [hres']
      exact .inr ⟨e, _, rfl, hsilent.emit rfl, Bool.eq_false_iff.mpr hskip, rfl⟩

/-- The filter stage lets a message through and counts nothing, or discards or refuses it and counts that.
-/
theorem filterStage_counts (info : SessionInfo) (w : World) :
    (∃ w₁, (filterStage peers info acct policy).run w = (.ok true, w₁) ∧ Counts [] w w₁) ∨
    (∃ w₁, (filterStage peers info acct policy).run w = (.ok false, w₁) ∧
      Counts [(acct.username, .discarded)] w w₁) ∨
    ∃ e w₁, (filterStage peers info acct policy).run w = (.error e, w₁) ∧
      Counts [(acct.username, filterResult e)] w w₁ := by
  unfold filterStage
  split_ifs
  · exact .inl ⟨w, rfl, .of_silent (.refl w)⟩
  · have hattempt : (Comp.attempt (runChain peers info policy.milters)).run w = _ :=
      Comp.run_attempt _ _
    have hchain : Counts [] w ((runChain peers info policy.milters).run w).2 :=
      .of_uncounted (says_runChain peers info (fun _ _ => rfl) (fun _ _ => rfl) _ w)
    rw [Comp.run_bind_of_ok hattempt]
    match ((runChain peers info policy.milters).run w).1 with
    | .ok () => exact .inl ⟨_, rfl, hchain⟩
    | .error .discard => exact .inr (.inl ⟨_, rfl, hchain.emit rfl⟩)
    | .error (.smtp e) => exact .inr (.inr ⟨_, _, rfl, hchain.emit rfl⟩)
    | .error (.other e) => exact .inr (.inr ⟨_, _, rfl, hchain.emit rfl⟩)

/-- The signing stage counts nothing, or it refuses the message for now and counts that. -/
theorem signStage_counts (signer : DKIMSigner) (w : World) :
    (∃ w₁, (signStage peers signer acct policy).run w = (.ok (), w₁) ∧ Counts [] w w₁) ∨
    ∃ w₁, (signStage peers signer acct policy).run w = (.error errUnsigned, w₁) ∧
      Counts [(acct.username, .deferred)] w w₁ := by
  unfold signStage
  split_ifs
  · exact .inl ⟨w, rfl, .of_silent (.refl w)⟩
  · have hattempt : (Comp.attempt (sign peers signer policy.senders)).run w = _ :=
      Comp.run_attempt _ _
    have hsign : Counts [] w ((sign peers signer policy.senders).run w).2 :=
      .of_uncounted (says_sign peers signer _ (fun _ => rfl) (fun _ => rfl) (fun _ _ => rfl) w)
    rw [Comp.run_bind_of_ok hattempt]
    cases ((sign peers signer policy.senders).run w).1 with
    | ok u => exact .inl ⟨_, rfl, hsign⟩
    | error e => exact .inr ⟨_, rfl, hsign.emit rfl⟩

/-- The relay stage counts a message in either case: as relayed, or by the code of the error. -/
theorem relayStage_counts (relay : Relayer) (w : World) :
    (∃ w₁, (relayStage peers relay acct).run w = (.ok (), w₁) ∧
      Counts [(acct.username, .relayed)] w w₁ ∧ ((send peers relay).run w).1 = .ok ()) ∨
    ∃ e w₁, (relayStage peers relay acct).run w = (.error e, w₁) ∧
      Counts [(acct.username, relayResult e)] w w₁ ∧ ((send peers relay).run w).1 = .error e := by
  have hattempt : (Comp.attempt (send peers relay)).run w = _ := Comp.run_attempt _ _
  have hsend : Counts [] w ((send peers relay).run w).2 :=
    .of_uncounted (says_send peers (fun _ => rfl) (fun _ => rfl) relay w)
  rw [relayStage, Comp.run_bind_of_ok hattempt]
  cases ((send peers relay).run w).1 with
  | ok u => exact .inl ⟨_, rfl, hsend.emit rfl, rfl⟩
  | error e => exact .inr ⟨e, _, rfl, hsend.emit rfl, rfl⟩

/-! ## Replies of the relay -/

/-- An error that is a reply. -/
def IsReply (e : Err) : Prop := ∃ reply, e = .smtp reply

/-- Every error of the upstream server is turned into a reply. -/
theorem isReply_wrapUpstream (stage : Bytes) (e : Err) : IsReply (wrapUpstream stage e) := by
  cases e with
  | smtp reply => exact ⟨reply, rfl⟩
  | discard => exact ⟨_, rfl⟩
  | other what => exact ⟨_, rfl⟩

/-- A call returns its error, it does not fail with it. -/
theorem raises_callUpstream {E : Err → Prop} (call : UpstreamCall) :
    Raises E (callUpstream peers call) := by
  refine .of_ok fun w => ?_
  rcases callUpstream_cases peers call w with ⟨-, hrun⟩ | ⟨e, -, hrun⟩
  · exact ⟨_, congrArg Prod.fst hrun⟩
  · exact ⟨_, congrArg Prod.fst hrun⟩

/-- A command fails with a reply. -/
theorem raises_command (stage : Bytes) (call : UpstreamCall) :
    Raises IsReply (command peers stage call) := by
  refine .bind (raises_callUpstream peers call) fun r => ?_
  cases r with
  | some e => exact .fail (isReply_wrapUpstream stage e)
  | none => exact .of_ok fun _ => ⟨_, rfl⟩

/-- So does one that is only sent under a condition. -/
theorem raises_when {c : Prop} [Decidable c] {x : Tx Unit} (h : Raises IsReply x) :
    Raises IsReply (Comp.when c x) := by
  unfold Comp.when
  split_ifs
  · exact h
  · exact .of_ok fun _ => ⟨_, rfl⟩

/-- Up to the DATA writer, the relay fails with a reply. -/
theorem raises_startData (relay : Relayer) : Raises IsReply (startData peers relay) := by
  have hrcpts : ∀ rcpts, Raises IsReply (sendRecipients peers rcpts) := by
    intro rcpts
    induction rcpts with
    | nil => exact .of_ok fun _ => ⟨_, rfl⟩
    | cons rcpt rcpts ih => exact .bind (raises_command peers _ _) fun _ => ih
  refine .bind ?_ fun _ => .bind (raises_command peers _ _) fun _ => ?_
  · refine .bind (raises_callUpstream peers .dial) fun r => ?_
    cases r with
    | some e => exact .fail ⟨_, rfl⟩
    | none => exact raises_when (raises_command peers _ _)
  refine .bind (raises_when (raises_command peers _ _)) fun _ => ?_
  refine .bind (.of_ok fun _ => ⟨_, rfl⟩) fun msg => .bind (raises_command peers _ _) fun _ => ?_
  exact .bind (hrcpts _) fun _ => raises_command peers _ _

/-- The relay fails with a reply, unless the body cannot be rewound. -/
theorem send_fails {relay : Relayer} {w : World} {e : Err}
    (h : ((send peers relay).run w).1 = .error e) : IsReply e ∨ Unread peers relay w := by
  cases hstart : (startData peers relay).run w with
  | mk res w₁ =>
    cases res with
    | error e' =>
      rw [send, Comp.run_bind_of_error hstart] at h
      cases h
      exact .inl (raises_startData peers relay w _ (congrArg Prod.fst hstart))
    | ok u =>
      rw [send, Comp.run_bind_of_ok hstart] at h
      cases hread : (onSpool w₁.msg.body Spool.reader).run w₁ with
      | mk opened w₂ =>
        cases opened with
        | error e' => exact .inr ⟨w₁, e', hstart, congrArg Prod.fst hread⟩
        | ok source =>
          cases hcopy : (copy w₁.msg.body source (writeData peers)).run w₂ with
          | mk copied w₃ =>
            cases copied with
            | error e' =>
              rw [run_sendData_uncopied peers hread hcopy] at h
              cases h
              exact .inl (isReply_wrapUpstream _ _)
            | ok u =>
              rw [run_sendData_copied peers hread hcopy] at h
              have hend : Raises IsReply (endData peers) :=
                .bind (raises_command peers _ _) fun _ =>
                  .bind (raises_callUpstream peers _) fun _ => .of_ok fun _ => ⟨_, rfl⟩
              exact .inl (hend w₃ e h)

/-! ## What Data counts -/

variable (s : Session) (acct : Account) (date : Bytes) (r : ClientData)

/-- The message got past the filters and the signature, and cannot be rewound for the relay. -/
def UnreadBehind (w : World) : Prop :=
  ∃ w₁ w₂, (filterStage peers (sessionInfo s acct) acct (s.snap.policyFor acct.username)).run w =
      (.ok true, w₁) ∧
    (signStage peers s.snap.dkim acct (s.snap.policyFor acct.username)).run w₁ = (.ok (), w₂) ∧
    Unread peers s.snap.relay w₂

/-- How a message whose spool cannot be rewound got behind the filters. -/
theorem UnreadBehind.filtered {w w₁ : World} {got : Except Err Bool}
    (h : UnreadBehind peers s acct w)
    (hfilter : (filterStage peers (sessionInfo s acct) acct
      (s.snap.policyFor acct.username)).run w = (got, w₁)) :
    got = .ok true ∧ ∃ w₂, (signStage peers s.snap.dkim acct
        (s.snap.policyFor acct.username)).run w₁ = (.ok (), w₂) ∧ Unread peers s.snap.relay w₂ := by
  obtain ⟨w₁', w₂, hfilter', hsign, hunread⟩ := h
  rw [hfilter] at hfilter'
  cases hfilter'
  exact ⟨rfl, w₂, hsign, hunread⟩

/-- The relay. -/
theorem relayStage_tally (relay : Relayer) (w : World) :
    ∃ os, Counts os w ((relayStage peers relay acct).run w).2 ∧
      (Tally acct.username os ((relayStage peers relay acct).run w).1 ↔ ¬ Unread peers relay w) := by
  rcases @relayStage_counts peers acct relay w with
    ⟨w₁, hrelay, hcounts, hsent⟩ | ⟨e, w₁, hrelay, hcounts, hsent⟩
  · rw [hrelay]
    refine ⟨_, hcounts, iff_of_true (tally_singleton.mpr (.inl rfl)) fun h => ?_⟩
    obtain ⟨e, he, -⟩ := send_unread peers relay h
    rw [hsent] at he
    cases he
  · rw [hrelay]
    refine ⟨_, hcounts, tally_singleton.trans ?_⟩
    constructor
    · intro hsuits h
      obtain ⟨e', he', hother⟩ := send_unread peers relay h
      cases hsent.symm.trans he'
      exact not_suits_relayResult hother hsuits
    · intro h
      obtain ⟨reply, rfl⟩ := (send_fails peers hsent).resolve_right h
      exact suits_resultFor reply _

/-- Data from the filters on. -/
theorem process_counts (w : World) :
    ∃ os, Counts os w ((process peers s acct).run w).2 ∧
      (Tally acct.username os ((process peers s acct).run w).1 ↔ ¬ UnreadBehind peers s acct w) := by
  rw [process]
  rcases @filterStage_counts peers acct (s.snap.policyFor acct.username) (sessionInfo s acct) w with
    ⟨w₁, hfilter, hcounts⟩ | ⟨w₁, hfilter, hcounts⟩ | ⟨e, w₁, hfilter, hcounts⟩
  · rw [Comp.run_bind_of_ok hfilter]
    show ∃ os, Counts os w ((finish peers s acct).run w₁).2 ∧ (Tally acct.username os
      ((finish peers s acct).run w₁).1 ↔ _)
    rw [finish]
    rcases @signStage_counts peers acct (s.snap.policyFor acct.username) s.snap.dkim w₁ with
      ⟨w₂, hsign, hcounts'⟩ | ⟨w₂, hsign, hcounts'⟩
    · rw [Comp.run_bind_of_ok hsign]
      obtain ⟨os, hos, htally⟩ := relayStage_tally peers acct s.snap.relay w₂
      refine ⟨_, hcounts.trans (hcounts'.trans hos), htally.trans (not_congr ?_)⟩
      refine ⟨fun h => ⟨w₁, w₂, hfilter, hsign, h⟩, fun h => ?_⟩
      obtain ⟨-, w₂', hsign', hunread⟩ := h.filtered peers s acct hfilter
      rw [hsign] at hsign'
      cases hsign'
      exact hunread
    · rw [Comp.run_bind_of_error hsign]
      refine ⟨_, hcounts.trans hcounts', iff_of_true ?_ fun h => ?_⟩
      · exact tally_singleton.mpr (suits_deferred ⟨_, rfl, by decide, by decide⟩)
      · obtain ⟨-, w₂', hsign', -⟩ := h.filtered peers s acct hfilter
        rw [hsign] at hsign'
        cases hsign'
  · rw [Comp.run_bind_of_ok hfilter]
    refine ⟨_, hcounts, iff_of_true (tally_singleton.mpr (.inr rfl)) fun h => ?_⟩
    cases (h.filtered peers s acct hfilter).1
  · rw [Comp.run_bind_of_error hfilter]
    refine ⟨_, hcounts, iff_of_true (tally_singleton.mpr (suits_filterResult e)) fun h => ?_⟩
    cases (h.filtered peers s acct hfilter).1

/-- Data between the client's last byte and the check of the From field. -/
theorem intake_received {body : SpoolRef} {w w₁ : World}
    (hreceive : (receive s acct date r body).run w = (.ok (), w₁)) :
    ∃ w₂, (intake s acct date r body).run w =
        (headerStage acct (s.snap.policyFor acct.username) body).run w₂ ∧
      Counts [] w w₂ ∧ w₂.disk = w₁.disk ∧ w₂.spools = w₁.spools := by
  have hsilent : Counts [] w w₁ := by
    have h := silent_receive s acct date r body w
    rw [hreceive] at h
    exact .of_silent h
  rw [intake, Comp.run_bind_of_ok hreceive, Comp.run_bind_of_ok (Comp.run_get w₁)]
  cases hspooled : (w₁.spools body).spooled with
  | true =>
    refine ⟨_, rfl, ?_, rfl, rfl⟩
    exact hsilent.trans ⟨[.messageSpooled acct.username], rfl, rfl⟩
  | false => exact ⟨_, rfl, hsilent, rfl, rfl⟩

/-- The runs of Data that do not count their message, or under another class than their reply: the
client breaks off or the disk fails while the message is received; the disk fails while its From field
is checked; its spool cannot be rewound for the relay. -/
inductive Miscounted (w : World) : Prop
  | unreceived {w₀ : World}
      (hquota : (perform peers (Limiter.check s.snap.limiter acct.username s.to_.length)).run w =
        (.ok (.ok ()), w₀))
      (h : r.err.isSome ∨ w₀.disk.Failed
        ((receive s acct date r w₀.created).run (w₀.withSpool s.snap.newSpool)).2.disk)
  | unchecked {w₀ w₁ : World}
      (hquota : (perform peers (Limiter.check s.snap.limiter acct.username s.to_.length)).run w =
        (.ok (.ok ()), w₀))
      (hreceive : (receive s acct date r w₀.created).run (w₀.withSpool s.snap.newSpool) = (.ok (), w₁))
      (hcheck : (s.snap.policyFor acct.username).skipHeaderFromCheck = false)
      (h : w₁.disk.Failed ((checkHeaderFrom (s.snap.policyFor acct.username).senders).run
        ⟨w₁.disk, w₁.spools w₀.created⟩).2.disk)
  | unread {body : SpoolRef} {w₀ : World} (hopen : (opening peers s acct date r).run w = (.ok body, w₀))
      (h : UnreadBehind peers s acct w₀)

/-- A refusal of the From field is counted as what it is, unless the disk failed. -/
theorem suits_rejected_iff {policy : SenderPolicy} {st : SpoolState} {e : Err}
    (h : ((checkHeaderFrom policy).run st).1 = .error e) : Suits (.error e) .rejected ↔
      ¬ st.disk.Failed ((checkHeaderFrom policy).run st).2.disk := by
  constructor
  · intro hsuits hfailed
    obtain ⟨e', he', htemp⟩ := (alarms_checkHeaderFrom policy st).2 hfailed
    cases h.symm.trans he'
    exact not_suits_rejected htemp hsuits
  · intro hsound
    have hcode : replyCode e = 550 := by
      by_contra hne
      exact hsound (blames_checkHeaderFrom policy st ⟨e, h, hne⟩)
    exact ⟨fun _ => rfl, fun htemp => by omega⟩

section
variable {w w₀ w₁ : World}

/-- A message that was received is miscounted at the check of its From field, or behind it. -/
theorem Miscounted.received (h : Miscounted peers s acct date r w)
    (hquota : (perform peers (Limiter.check s.snap.limiter acct.username s.to_.length)).run w =
      (.ok (.ok ()), w₀))
    (hreceive : (receive s acct date r w₀.created).run (w₀.withSpool s.snap.newSpool) =
      (.ok (), w₁)) :
    ((s.snap.policyFor acct.username).skipHeaderFromCheck = false ∧
      w₁.disk.Failed ((checkHeaderFrom (s.snap.policyFor acct.username).senders).run
        ⟨w₁.disk, w₁.spools w₀.created⟩).2.disk) ∨
    ∃ body w', (opening peers s acct date r).run w = (.ok body, w') ∧
      UnreadBehind peers s acct w' := by
  cases h with
  | unreceived hquota' h =>
    rw [hquota] at hquota'
    cases hquota'
    obtain ⟨e, he⟩ := receive_fails_iff (w₀.withSpool s.snap.newSpool) |>.mpr h
    rw [hreceive] at he
    cases he
  | unchecked hquota' hreceive' hcheck h =>
    rw [hquota] at hquota'
    cases hquota'
    rw [hreceive] at hreceive'
    cases hreceive'
    exact .inl ⟨hcheck, h⟩
  | unread hopen h => exact .inr ⟨_, _, hopen, h⟩

/-- Data once the quota let the message in, from its body on. -/
theorem transact_counts
    (hquota : (perform peers (Limiter.check s.snap.limiter acct.username s.to_.length)).run w =
      (.ok (.ok ()), w₀)) :
    ∃ os, Counts os w₀ ((transact peers s acct date r w₀.created).run
        (w₀.withSpool s.snap.newSpool)).2 ∧
      (Tally acct.username os ((transact peers s acct date r w₀.created).run
        (w₀.withSpool s.snap.newSpool)).1 ↔ ¬ Miscounted peers s acct date r w) := by
  have hstart : Counts [] w₀ (w₀.withSpool s.snap.newSpool) := .of_silent rfl
  have hopening : (opening peers s acct date r).run w =
      (do intake s acct date r w₀.created; return w₀.created : Tx SpoolRef).run
        (w₀.withSpool s.snap.newSpool) := by
    rw [opening, Comp.run_bind_of_ok hquota]
    rfl
  rw [transact_eq]
  cases hreceive : (receive s acct date r w₀.created).run (w₀.withSpool s.snap.newSpool) with
  | mk received w₁ =>
    cases received with
    | error e =>
      have hintake : (intake s acct date r w₀.created).run (w₀.withSpool s.snap.newSpool) =
          (.error e, w₁) := Comp.run_bind_of_error hreceive
      have hsilent := silent_receive s acct date r w₀.created (w₀.withSpool s.snap.newSpool)
      rw [hreceive] at hsilent
      rw [Comp.run_bind_of_error hintake]
      refine ⟨_, hstart.trans (.of_silent hsilent), iff_of_false not_tally_nil ?_⟩
      have hfails := receive_fails_iff (w₀.withSpool s.snap.newSpool) |>.mp ⟨e, by rw [hreceive]⟩
      exact not_not_intro (.unreceived hquota hfails)
    | ok u =>
      obtain ⟨w₂, hintake, hcounts, hdisk, hspools⟩ := intake_received s acct date r hreceive
      rcases @headerStage_counts acct (s.snap.policyFor acct.username) w₀.created w₂ with
        ⟨w₃, hheader, hcounts', hchecked⟩ | ⟨e, w₃, hheader, hcounts', hcheck, herror⟩
      · rw [hheader] at hintake
        rw [Comp.run_bind_of_ok hintake]
        rw [Comp.run_bind_of_ok hintake] at hopening
        obtain ⟨os, hos, htally⟩ := process_counts peers s acct w₃
        refine ⟨_, hstart.trans (hcounts.trans (hcounts'.trans hos)), htally.trans (not_congr ?_)⟩
        refine ⟨fun h => .unread hopening h, fun hmis => ?_⟩
        rcases hmis.received peers s acct date r hquota hreceive with ⟨hcheck, h⟩ | ⟨_, _, hopen, h⟩
        · -- the check passed, so the disk did not fail during it
          rw [hdisk, hspools, hcheck] at hchecked
          obtain ⟨e, he, -⟩ := (alarms_checkHeaderFrom (s.snap.policyFor acct.username).senders
            ⟨w₁.disk, w₁.spools w₀.created⟩).2 h
          rw [hchecked.resolve_left Bool.false_ne_true] at he
          cases he
        · rw [hopening] at hopen
          cases hopen
          exact h
      · rw [hheader] at hintake
        rw [Comp.run_bind_of_error hintake]
        rw [Comp.run_bind_of_error hintake] at hopening
        rw [hdisk, hspools] at herror
        refine ⟨_, hstart.trans (hcounts.trans hcounts'), ?_⟩
        refine tally_singleton.trans ((suits_rejected_iff herror).trans (not_congr ?_))
        refine ⟨fun h => .unchecked hquota hreceive hcheck h, fun hmis => ?_⟩
        rcases hmis.received peers s acct date r hquota hreceive with ⟨-, h⟩ | ⟨_, _, hopen, -⟩
        · exact h
        · rw [hopening] at hopen
          cases hopen

end

/-- A delivery. -/
theorem deliver_counts (w : World) :
    ∃ os, Counts os w ((deliver peers s acct date r).run w).2 ∧
      (Tally acct.username os ((deliver peers s acct date r).run w).1 ↔
        ¬ Miscounted peers s acct date r w) := by
  obtain ⟨a, es, hquota, hes⟩ := perform_run peers
    (Limiter.check s.snap.limiter acct.username s.to_.length) w
  have hcounts : Counts [] w { w with trace := w.trace ++ es } := by
    refine ⟨es, rfl, List.filterMap_eq_nil_iff.mpr fun e he => ?_⟩
    obtain ⟨call, rfl⟩ := hes e he
    rfl
  rw [deliver, Comp.run_bind_of_ok hquota]
  cases a with
  | error e =>
    refine ⟨_, hcounts.emit rfl, iff_of_true ?_ fun hmis => ?_⟩
    · exact tally_singleton.mpr (suits_deferred (check_temporary peers hquota))
    · cases hmis with
      | unreceived hquota' h => cases hquota.symm.trans hquota'
      | unchecked hquota' hreceive hcheck h => cases hquota.symm.trans hquota'
      | unread hopen h =>
        rw [opening, Comp.run_bind_of_ok hquota] at hopen
        cases hopen
  | ok u =>
    obtain ⟨os, hos, htally⟩ := transact_counts peers s acct date r hquota
    exact ⟨os, hcounts.trans hos, htally⟩

end

/-- **What is counted.** For every behaviour of the parties, every client and every disk: Data of an
account that may send, with a recipient, counts one message under the class of its reply, exactly but
for the runs listed by `Miscounted`. -/
theorem data_counted_iff (peers : Peers) (date : Bytes) (r : ClientData) {st st' : ServerState}
    {acct : Account} {res : Except Err Unit} (hstanding : Session.standing st = .ok acct)
    (hrun : (Session.data peers date r).run st = (res, st')) :
    Tally acct.username ((newEvents st.world st'.world).filterMap Event.outcome) res ↔
      ¬ Miscounted peers (Session.adopt st acct) acct date r st.world := by
  obtain ⟨e, closed, hrefused, -⟩ | ⟨acct', hstanding', hdata⟩ :=
    Session.data_standing peers date r st
  · rw [hstanding] at hrefused
    cases hrefused
  · rw [hstanding] at hstanding'
    cases hstanding'
    rw [hdata] at hrun
    cases hrun
    obtain ⟨os, hos, htally⟩ := deliver_counts peers (Session.adopt st acct) acct date r st.world
    rw [hos.newEvents]
    exact htally

/-- The account of `guarded`. -/
def guardedAccount : Account := ⟨lit "app", lit "pw", false, [lit "a@x"], true⟩

/-- A message that is relayed is counted as that. -/
theorem data_counted_relayed :
    Session.standing guarded = .ok guardedAccount ∧
    (newEvents guarded.world ((Session.data agreeable [] ⟨[lit "hi"], none⟩).run
      guarded).2.world).filterMap Event.outcome = [(lit "app", .relayed)] ∧
    ¬ Miscounted agreeable (Session.adopt guarded guardedAccount) guardedAccount [] ⟨[lit "hi"], none⟩
      guarded.world := by
  have hstanding : Session.standing guarded = .ok guardedAccount := by decide +kernel
  have hres : ((Session.data agreeable [] ⟨[lit "hi"], none⟩).run guarded).1 = .ok () := by
    decide +kernel
  have hcounted : (newEvents guarded.world ((Session.data agreeable [] ⟨[lit "hi"], none⟩).run
      guarded).2.world).filterMap Event.outcome = [(lit "app", .relayed)] := by
    decide +kernel
  refine ⟨hstanding, hcounted, (data_counted_iff agreeable [] _ hstanding (Prod.ext hres rfl)).mp ?_⟩
  exact ⟨.relayed, hcounted, .inl rfl⟩

/-- `smtp.ErrDataTooLarge`: what the SMTP library's reader ends in past the largest size. -/
def errDataTooLarge : Err := .smtp ⟨552, (5, 3, 4), lit "Maximum message size exceeded"⟩

/-- A message that is too large is refused for good, and counted nowhere. -/
theorem data_uncounted :
    Session.standing guarded = .ok guardedAccount ∧
    ((Session.data agreeable [] ⟨[lit "hi"], some errDataTooLarge⟩).run guarded).1 =
      .error errDataTooLarge ∧
    ¬ Tally guardedAccount.username
      ((newEvents guarded.world ((Session.data agreeable [] ⟨[lit "hi"], some errDataTooLarge⟩).run
        guarded).2.world).filterMap Event.outcome)
      ((Session.data agreeable [] ⟨[lit "hi"], some errDataTooLarge⟩).run guarded).1 := by
  have hnone : (newEvents guarded.world ((Session.data agreeable []
      ⟨[lit "hi"], some errDataTooLarge⟩).run guarded).2.world).filterMap Event.outcome = [] := by
    decide +kernel
  refine ⟨by decide +kernel, by decide +kernel, ?_⟩
  rw [hnone]
  exact not_tally_nil

end Mailout
