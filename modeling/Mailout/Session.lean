import Mailout.HeaderFrom
import Mailout.Snapshot

/-!
# A session

The methods of `session` in `internal/gateway/server.go`, which the SMTP library calls: authenticate,
Mail, Rcpt, Reset and Data. They work on the snapshot in service, the session and the world its
transactions happen in. `deliver` is what Data does once the account was looked up again: the quota,
the body and its Received field, the From field, the filters, the signature, the relay.
-/

namespace Mailout

open Go

/-- What the SMTP library knows of a connection. -/
structure Conn where
  /-- The name given with EHLO. -/
  hostname : Bytes
  remoteAddr : Bytes
  remoteIP : Bytes
  remotePort : Nat
  tlsVersion : Bytes
  tlsCipher : Bytes
  deriving DecidableEq, Repr

/-- `session`; `closed` says that it closed its connection. -/
structure Session where
  conn : Conn
  snap : Snapshot
  account : Option Account
  from_ : Bytes
  to_ : List Bytes
  authFailures : Nat
  closed : Bool

/-- What a method of a session works on. -/
structure ServerState where
  /-- `Server.snapshot()` -/
  current : Snapshot
  session : Session
  world : World

/-- A session that just connected, in a world where nothing was said. -/
def Session.connect (conn : Conn) (snap : Snapshot) : Session :=
  ⟨conn, snap, none, [], [], 0, false⟩

abbrev Serve := Comp Err ServerState

/-- `maxAuthFailures`. -/
def maxAuthFailures : Nat := 3

/-! ## Replies -/

/-- `smtp.ErrAuthRequired`. -/
def errAuthRequired : Err := .smtp ⟨502, (5, 7, 0), lit "Please authenticate first"⟩

/-- `smtp.ErrAuthFailed`. -/
def errAuthFailed : Err := .smtp ⟨535, (5, 7, 8), lit "Authentication failed"⟩

/-- `errTooManyAuthFailures`. -/
def errTooManyAuthFailures : Err := .smtp ⟨421, (4, 7, 0), lit "Too many authentication failures"⟩

/-- `errAuthBusy`. -/
def errAuthBusy : Err :=
  .smtp ⟨451, (4, 3, 2), lit "Too busy to verify credentials, try again later"⟩

/-- `errCredentialsRevoked`. -/
def errCredentialsRevoked : Err := .smtp ⟨421, (4, 7, 0), lit "Credentials are no longer valid"⟩

/-- The refusal of a DATA without recipients. -/
def errNoRecipients : Err := .smtp ⟨554, (5, 5, 1), lit "No valid recipients"⟩

/-- The refusal of a message that could not be signed. -/
def errUnsigned : Err := .smtp ⟨451, (4, 3, 0), lit "Unable to sign the message, try again later"⟩

/-- `resultFor`. -/
def resultFor (err : Err) (fallback : MessageResult) : MessageResult :=
  match err with
  | .smtp e => if e.code ≥ 500 then .rejected else .deferred
  | _ => fallback

/-- `filterResult`. -/
def filterResult (err : Err) : MessageResult := resultFor err .rejected

/-- `relayResult`. -/
def relayResult (err : Err) : MessageResult := resultFor err .deferred

/-! ## The Received field -/

/-- `headerSafeLimit`. -/
def headerSafeLimit : Nat := 128

/-- `headerSafe`. -/
def headerSafe (value : Bytes) : Bytes :=
  encodeRunes ((runes (value.take headerSafeLimit)).map fun c =>
    if c.rune < 0x20 ∨ c.rune = 0x7F then 0x3F else c.rune)

/-- `session.receivedHeader`, with the date it formats. -/
def receivedHeader (s : Session) (acct : Account) (date : Bytes) : Bytes :=
  lit "Received: from " ++ headerSafe s.conn.hostname ++ lit " (" ++ headerSafe s.conn.remoteAddr ++
    lit ")\r\n\tby " ++ headerSafe s.snap.hostname ++ lit " (mailout) with ESMTPSA id " ++
    headerSafe acct.username ++ lit ";\r\n\t" ++ date ++ crlf

/-- `session.sessionInfo`. -/
def sessionInfo (s : Session) (acct : Account) : SessionInfo where
  hostname := s.conn.hostname
  remoteIP := s.conn.remoteIP
  remotePort := s.conn.remotePort
  tlsVersion := s.conn.tlsVersion
  tlsCipher := s.conn.tlsCipher
  authUser := acct.username
  mtaName := s.snap.hostname

/-! ## Delivering a message -/

/-- What the reader given to Data delivers: some chunks, and the error it ends in if it does. -/
structure ClientData where
  chunks : List Bytes
  err : Option Err

/-- The message a client sends. -/
def ClientData.bytes (r : ClientData) : Bytes := r.chunks.flatten

section
variable (peers : Peers)

open Tx

/-- `io.Copy(body, r)`. -/
def copyFrom (body : SpoolRef) (err : Option Err) : List Bytes → Tx Unit
  | [] =>
    match err with
    | some e => Comp.fail e
    | none => pure ()
  | chunk :: chunks => do
    pass (fun p => onSpool body (Spool.write p)) chunk
    copyFrom body err chunks

/-- The part of Data that fills the body. -/
def receive (s : Session) (acct : Account) (date : Bytes) (r : ClientData) (body : SpoolRef) :
    Tx Unit := do
  match ← Comp.attempt (onSpool body (Spool.write (receivedHeader s acct date))) with
  | .error e => Comp.fail (errSpoolFailed e)
  | .ok () => copyFrom body r.err r.chunks

/-- The part of Data that checks the From field. -/
def headerStage (acct : Account) (policy : AccountPolicy) (body : SpoolRef) : Tx Unit :=
  if policy.skipHeaderFromCheck then pure ()
  else do
    match ← Comp.attempt (onSpool body (checkHeaderFrom policy.senders)) with
    | .error e =>
      emit (.messageHandled acct.username .rejected)
      Comp.fail e
    | .ok () => return

/-- The part of Data that runs the filters. It returns whether there is still a message. -/
def filterStage (info : SessionInfo) (acct : Account) (policy : AccountPolicy) : Tx Bool :=
  if policy.milters = [] then pure true
  else do
    match ← Comp.attempt (runChain peers info policy.milters) with
    | .ok () => return true
    | .error .discard =>
      emit (.messageHandled acct.username .discarded)
      return false
    | .error e =>
      emit (.messageHandled acct.username (filterResult e))
      Comp.fail e

/-- The part of Data that signs. -/
def signStage (signer : DKIMSigner) (acct : Account) (policy : AccountPolicy) : Tx Unit :=
  if signer.empty then pure ()
  else do
    match ← Comp.attempt (sign peers signer policy.senders) with
    | .ok () => return
    | .error _ =>
      emit (.messageHandled acct.username .deferred)
      Comp.fail errUnsigned

/-- The part of Data that relays. -/
def relayStage (relay : Relayer) (acct : Account) : Tx Unit := do
  match ← Comp.attempt (send peers relay) with
  | .error e =>
    emit (.messageHandled acct.username (relayResult e))
    Comp.fail e
  | .ok () =>
    let w ← Comp.get
    emit (.messageRelayed acct.username (w.spools w.msg.body).len)

/-- Data from the moment its message is built. -/
def handle (s : Session) (acct : Account) (body : SpoolRef) : Tx Unit := do
  let policy := s.snap.policyFor acct.username
  headerStage acct policy body
  if ← filterStage peers (sessionInfo s acct) acct policy then
    signStage peers s.snap.dkim acct policy
    relayStage peers s.snap.relay acct

/-- Data between the creation of the body and its close. -/
def transact (s : Session) (acct : Account) (date : Bytes) (r : ClientData) (body : SpoolRef) :
    Tx Unit := do
  receive s acct date r body
  let w ← Comp.get
  Comp.when ((w.spools body).spooled = true) (emit (.messageSpooled acct.username))
  setMessage ⟨s.from_, s.to_, body, acct.username⟩
  handle peers s acct body

/-- `session.Data`, once its account was found to be still there. -/
def deliver (s : Session) (acct : Account) (date : Bytes) (r : ClientData) : Tx Unit := do
  match ← perform peers (Limiter.check s.snap.limiter acct.username s.to_.length) with
  | .error e =>
    emit (.messageHandled acct.username .deferred)
    Comp.fail e
  | .ok () =>
    let body ← create s.snap.newSpool
    Comp.deferred (close body) (transact peers s acct date r body)

end

/-! ## The methods -/

namespace Session

/-- The session a method works on. -/
def self : Serve Session := do return (← Comp.get).session

def set (s : Session) : Serve Unit := Comp.modify fun st => { st with session := s }

/-- A part of a method that works on the world alone. -/
def tx {α : Type} (x : Tx α) : Serve α := fun st =>
  ((x.run st.world).1, { st with world := (x.run st.world).2 })

/-- `session.authenticate`; `busy` says that no slot to verify a password was free in time. -/
def authenticate (bcrypt : Bcrypt) (busy : Bool) (username password : Bytes) : Serve Unit := do
  let s ← self
  if s.authFailures ≥ maxAuthFailures then
    set { s with closed := true }
    Comp.fail errTooManyAuthFailures
  else if busy then Comp.fail errAuthBusy
  else
    match s.snap.accounts.authenticate bcrypt username password with
    | .error _ =>
      set { s with authFailures := s.authFailures + 1 }
      Comp.fail errAuthFailed
    | .ok acct => set { s with account := some acct }

/-- `session.stillAuthorized`: the account as the snapshot in service has it. -/
def stillAuthorized (account : Account) : Serve Account := do
  let st ← Comp.get
  let revoked : Serve Account := do
    set { st.session with closed := true }
    Comp.fail errCredentialsRevoked
  match st.current.accounts account.username with
  | none => revoked
  | some acct =>
    if acct.disabled then revoked
    else
      set { st.session with snap := st.current, account := some acct }
      return acct

/-- `session.Mail`. -/
def mail (from_ : Bytes) : Serve Unit := do
  match (← self).account with
  | none => Comp.fail errAuthRequired
  | some account =>
    let acct ← stillAuthorized account
    let s ← self
    if (s.snap.policyFor acct.username).senders.allows from_ then
      set { s with from_ := from_, to_ := [] }
    else
      tx (Tx.emit (.messageHandled acct.username .rejected))
      Comp.fail (errSenderNotAllowed from_)

/-- `session.Rcpt`. -/
def rcpt (to_ : Bytes) : Serve Unit := do
  let s ← self
  match s.account with
  | none => Comp.fail errAuthRequired
  | some _ => set { s with to_ := s.to_ ++ [to_] }

/-- `session.Reset`. -/
def reset : Serve Unit := do
  set { (← self) with from_ := [], to_ := [] }

/-- `session.Data`. -/
def data (peers : Peers) (date : Bytes) (r : ClientData) : Serve Unit := do
  let s ← self
  match s.account with
  | none => Comp.fail errAuthRequired
  | some account =>
    if s.to_.length = 0 then Comp.fail errNoRecipients
    else
      let acct ← stillAuthorized account
      tx (deliver peers (← self) acct date r)

end Session

/-! ## What a delivery says -/

/-- The signature an event counts. -/
def Event.signature : Event → Option (Bytes × DkimResult)
  | .dkimResult domain result => some (domain, result)
  | _ => none

section
variable (peers : Peers) {P : Event → Prop} (hhandled : ∀ a result, P (.messageHandled a result))

open Tx Comp

/-- The client's bytes are received without a report. -/
theorem silent_copyFrom (body : SpoolRef) (err : Option Err) :
    ∀ chunks : List Bytes, Keeps Silent (copyFrom body err chunks)
  | [] => by
    cases err with
    | some e => exact .fail Silent.refl _
    | none => exact .pure Silent.refl _
  | chunk :: chunks => .bind Silent.trans (silent_pass (fun _ => silent_onSpool _ _) chunk)
      fun _ => silent_copyFrom body err chunks

/-- So is the message with its Received field. -/
theorem silent_receive (s : Session) (acct : Account) (date : Bytes) (r : ClientData)
    (body : SpoolRef) : Keeps Silent (receive s acct date r body) := by
  refine .bind Silent.trans (.attempt (silent_onSpool _ _)) fun written => ?_
  cases written with
  | error e => exact .fail Silent.refl _
  | ok u => exact silent_copyFrom _ _ _

include hhandled

/-- The header check reports only what it refuses. -/
theorem says_headerStage (acct : Account) (policy : AccountPolicy) (body : SpoolRef) :
    Keeps (Says P) (headerStage acct policy body) := by
  unfold headerStage
  split_ifs
  · exact .pure Says.refl _
  · refine .bind Says.trans (.attempt (says_of_silent (silent_onSpool _ _))) fun checked => ?_
    cases checked with
    | error e => exact .bind Says.trans (says_emit (hhandled _ _)) fun _ => .fail Says.refl _
    | ok u => exact .pure Says.refl _

/-- The filter stage reports the calls of the filters, what was decided, and the message if it ends there.
-/
theorem says_filterStage (info : SessionInfo) (acct : Account) (policy : AccountPolicy)
    (hmilter : ∀ f call, P (.milter f call)) (hdecided : ∀ f decision, P (.milterDecided f decision)) :
    Keeps (Says P) (filterStage peers info acct policy) := by
  unfold filterStage
  split_ifs
  · exact .pure Says.refl _
  · refine .bind Says.trans (.attempt (says_runChain peers info hmilter hdecided _))
      fun filtered => ?_
    match filtered with
    | .ok () => exact .pure Says.refl _
    | .error .discard => exact .bind Says.trans (says_emit (hhandled _ _)) fun _ => .pure Says.refl _
    | .error (.smtp e) => exact .bind Says.trans (says_emit (hhandled _ _)) fun _ => .fail Says.refl _
    | .error (.other e) => exact .bind Says.trans (says_emit (hhandled _ _)) fun _ => .fail Says.refl _

/-- The relay stage reports the calls of the upstream server and what became of the message. -/
theorem says_relayStage (relay : Relayer) (acct : Account)
    (hupstream : ∀ call, P (.upstream call)) (haccepted : ∀ call, P (.accepted call))
    (hrelayed : ∀ a n, P (.messageRelayed a n)) :
    Keeps (Says P) (relayStage peers relay acct) := by
  refine .bind Says.trans (.attempt (says_send peers hupstream haccepted _)) fun sent => ?_
  cases sent with
  | error e => exact .bind Says.trans (says_emit (hhandled _ _)) fun _ => .fail Says.refl _
  | ok u => exact .bind Says.trans (.get Says.refl) fun _ => says_emit (hrelayed _ _)

/-- The stage that signs counts a signature under a domain only if the policy may sign for it. -/
theorem says_signStage (signer : DKIMSigner) (acct : Account) (policy : AccountPolicy)
    (hrefused : ∀ d, P (.dkimResult d .refused)) (hfailed : ∀ d, P (.dkimResult d .failed))
    (hsigned : ∀ d, policy.senders.canSign d = true → P (.dkimResult d .signed)) :
    Keeps (Says P) (signStage peers signer acct policy) := by
  unfold signStage
  split_ifs
  · exact .pure Says.refl _
  · refine .bind Says.trans (.attempt (says_sign peers signer _ hrefused hfailed hsigned))
      fun signed => ?_
    cases signed with
    | ok u => exact .pure Says.refl _
    | error e => exact .bind Says.trans (says_emit (hhandled _ _)) fun _ => .fail Says.refl _

omit hhandled

/-- A delivery adds to what was said. -/
theorem grows_handle (s : Session) (acct : Account) (body : SpoolRef) :
    Keeps (Says fun _ => True) (handle peers s acct body) := by
  refine .bind Says.trans (says_headerStage (fun _ _ => trivial) _ _ _) fun _ => ?_
  refine .bind Says.trans (says_filterStage peers (fun _ _ => trivial) _ _ _ (fun _ _ => trivial)
    fun _ _ => trivial) fun there => ?_
  cases there with
  | false => exact .pure Says.refl _
  | true =>
    exact .bind Says.trans (says_signStage peers (fun _ _ => trivial) _ _ _ (fun _ => trivial)
      (fun _ => trivial) fun _ _ => trivial) fun _ => says_relayStage peers (fun _ _ => trivial) _ _
        (fun _ => trivial) (fun _ => trivial) fun _ _ => trivial

/-- The trace of a transaction only grows. -/
theorem grows_transact (s : Session) (acct : Account) (date : Bytes) (r : ClientData)
    (body : SpoolRef) : Keeps (Says fun _ => True) (transact peers s acct date r body) := by
  refine .bind Says.trans (says_of_silent (silent_receive _ _ _ _ _)) fun _ => ?_
  refine .bind Says.trans (.get Says.refl) fun w => ?_
  refine .bind Says.trans (.when Says.refl (says_emit trivial)) fun _ => ?_
  exact .bind Says.trans (says_of_silent (silent_setMessage _)) fun _ => grows_handle peers _ _ _

end

/-! ## What the methods do -/

namespace Session

/-- Looking at the session changes nothing. -/
@[simp] theorem run_self (st : ServerState) : self.run st = (.ok st.session, st) := rfl
/-- The session is replaced, and nothing else. -/
@[simp] theorem run_set (s : Session) (st : ServerState) :
    (set s).run st = (.ok (), { st with session := s }) := rfl
/-- A transaction runs in the world of the server, and the session is as before. -/
@[simp] theorem run_tx {α : Type} (x : Tx α) (st : ServerState) :
    (tx x).run st = ((x.run st.world).1, { st with world := (x.run st.world).2 }) := rfl

/-- The session under the snapshot in service. -/
def adopt (st : ServerState) (acct : Account) : Session :=
  { st.session with snap := st.current, account := some acct }

/-- The account of a session is in service: the snapshot has it, and it is not disabled. -/
def InService (snap : Snapshot) (account acct : Account) : Prop :=
  snap.accounts account.username = some acct ∧ acct.disabled = false

/-- The account is found in the snapshot in service, which the session adopts, or the connection is
closed. -/
theorem stillAuthorized_cases (account : Account) (st : ServerState) :
    (∃ acct, InService st.current account acct ∧
      (stillAuthorized account).run st = (.ok acct, { st with session := adopt st acct })) ∨
    (∀ acct, ¬ InService st.current account acct) ∧ (stillAuthorized account).run st =
      (.error errCredentialsRevoked, { st with session := { st.session with closed := true } }) := by
  have hstart : (stillAuthorized account).run st =
      match st.current.accounts account.username with
      | none => (.error errCredentialsRevoked,
          { st with session := { st.session with closed := true } })
      | some acct =>
        if acct.disabled then (.error errCredentialsRevoked,
          { st with session := { st.session with closed := true } })
        else (.ok acct, { st with session := adopt st acct }) := by
    rw [stillAuthorized, Comp.run_bind_of_ok (Comp.run_get st)]
    cases st.current.accounts account.username with
    | none => rfl
    | some acct =>
      simp only
      split_ifs <;> rfl
  rw [hstart]
  cases hacct : st.current.accounts account.username with
  | none =>
    refine .inr ⟨fun acct h => ?_, rfl⟩
    rw [InService, hacct] at h
    exact nomatch h.1
  | some acct =>
    cases hdis : acct.disabled with
    | true =>
      refine .inr ⟨fun acct' h => ?_, by simp [hdis]⟩
      obtain ⟨hsome, hen⟩ := h
      rw [hacct] at hsome
      cases hsome
      rw [hdis] at hen
      cases hen
    | false => exact .inl ⟨acct, ⟨hacct, hdis⟩, by simp [hdis]⟩

/-- The password of an account that exists is compared, unless there were too many failures. -/
theorem authenticate_cases (bcrypt : Bcrypt) (busy : Bool) (u p : Bytes) (st : ServerState) :
    (∃ e failures closed, (authenticate bcrypt busy u p).run st =
      (.error e, { st with session := { st.session with authFailures := failures, closed := closed } })) ∨
    ∃ acct, st.session.snap.accounts.authenticate bcrypt u p = .ok acct ∧
      (authenticate bcrypt busy u p).run st =
        (.ok (), { st with session := { st.session with account := some acct } }) := by
  rw [authenticate, Comp.run_bind_of_ok (run_self st)]
  split_ifs
  · exact .inl ⟨_, st.session.authFailures, true, rfl⟩
  · exact .inl ⟨_, st.session.authFailures, st.session.closed, rfl⟩
  · cases h : st.session.snap.accounts.authenticate bcrypt u p with
    | error e => exact .inl ⟨_, st.session.authFailures + 1, st.session.closed, rfl⟩
    | ok acct => exact .inr ⟨acct, rfl, rfl⟩

/-- Mail refuses at once, or judges the sender under the snapshot in service. -/
theorem mail_cases (from_ : Bytes) (st : ServerState) :
    (∃ e closed, (mail from_).run st =
      (.error e, { st with session := { st.session with closed := closed } })) ∨
    ∃ account acct, st.session.account = some account ∧ InService st.current account acct ∧
      ((∃ e w, (mail from_).run st = (.error e, ⟨st.current, adopt st acct, w⟩)) ∨
        (st.current.policyFor acct.username).senders.allows from_ = true ∧ (mail from_).run st =
          (.ok (), { st with session := { adopt st acct with from_ := from_, to_ := [] } })) := by
  rw [mail, Comp.run_bind_of_ok (run_self st)]
  cases haccount : st.session.account with
  | none => exact .inl ⟨_, st.session.closed, rfl⟩
  | some account =>
    obtain ⟨acct, hin, hrun⟩ | ⟨-, hrun⟩ := stillAuthorized_cases account st
    · refine .inr ⟨account, acct, rfl, hin, ?_⟩
      simp only
      rw [Comp.run_bind_of_ok hrun, Comp.run_bind_of_ok (run_self _)]
      cases hallows : (st.current.policyFor acct.username).senders.allows from_ with
      | false => exact .inl ⟨errSenderNotAllowed from_, _, by simp only [adopt, hallows]; rfl⟩
      | true => exact .inr ⟨rfl, by simp only [adopt, hallows]; rfl⟩
    · simp only
      rw [Comp.run_bind_of_error hrun]
      exact .inl ⟨_, true, rfl⟩

/-- Rcpt adds to the recipients. -/
theorem rcpt_cases (to_ : Bytes) (st : ServerState) :
    (∃ e, (rcpt to_).run st = (.error e, st)) ∨
    (rcpt to_).run st =
      (.ok (), { st with session := { st.session with to_ := st.session.to_ ++ [to_] } }) := by
  rw [rcpt, Comp.run_bind_of_ok (run_self st)]
  split
  · exact .inl ⟨_, rfl⟩
  · exact .inr rfl

/-- The account Data delivers for, or the error it refuses with before it looks at the message. -/
def standing (st : ServerState) : Except Err Account :=
  match st.session.account with
  | none => .error errAuthRequired
  | some account =>
    if st.session.to_.length = 0 then .error errNoRecipients
    else
      match st.current.accounts account.username with
      | none => .error errCredentialsRevoked
      | some acct => if acct.disabled then .error errCredentialsRevoked else .ok acct

/-- A session with recipients whose account is still in service may send. -/
theorem standing_of_inService {st : ServerState} {account acct : Account}
    (haccount : st.session.account = some account) (hto : st.session.to_ ≠ [])
    (hin : InService st.current account acct) : standing st = .ok acct := by
  simp [standing, haccount, hto, hin.1, hin.2]

/-- Only such a session may. -/
theorem inService_of_standing {st : ServerState} {acct : Account} (h : standing st = .ok acct) :
    st.session.to_ ≠ [] ∧
      ∃ account, st.session.account = some account ∧ InService st.current account acct := by
  rw [standing] at h
  cases haccount : st.session.account with
  | none =>
    rw [haccount] at h
    cases h
  | some account =>
    rw [haccount] at h
    simp only at h
    split_ifs at h with hto
    cases hfound : st.current.accounts account.username with
    | none =>
      rw [hfound] at h
      cases h
    | some found =>
      rw [hfound] at h
      simp only at h
      split_ifs at h with hdisabled
      cases h
      exact ⟨fun hnil => hto (by rw [hnil]; rfl), account, rfl, hfound,
        Bool.eq_false_iff.mpr hdisabled⟩

/-- Data refuses by the standing of its session, or delivers the message. -/
theorem data_standing (peers : Peers) (date : Bytes) (r : ClientData) (st : ServerState) :
    (∃ e closed, standing st = .error e ∧ (data peers date r).run st =
      (.error e, { st with session := { st.session with closed := closed } })) ∨
    ∃ acct, standing st = .ok acct ∧ (data peers date r).run st =
        (((deliver peers (adopt st acct) acct date r).run st.world).1,
          { st with session := adopt st acct,
                    world := ((deliver peers (adopt st acct) acct date r).run st.world).2 }) := by
  rw [data, Comp.run_bind_of_ok (run_self st), standing]
  cases st.session.account with
  | none => exact .inl ⟨_, st.session.closed, rfl, rfl⟩
  | some account =>
    simp only
    split_ifs with hto
    · exact .inl ⟨_, st.session.closed, rfl, rfl⟩
    · obtain ⟨acct, hin, hrun⟩ | ⟨hnone, hrun⟩ := stillAuthorized_cases account st
      · refine .inr ⟨acct, by simp [hin.1, hin.2], ?_⟩
        rw [Comp.run_bind_of_ok hrun, Comp.run_bind_of_ok (run_self _)]
        rfl
      · rw [Comp.run_bind_of_error hrun]
        refine .inl ⟨_, true, ?_, rfl⟩
        cases hfound : st.current.accounts account.username with
        | none => rfl
        | some found =>
          cases hdisabled : found.disabled with
          | true => simp [hdisabled]
          | false => exact absurd ⟨hfound, hdisabled⟩ (hnone found)

/-- Data refuses before it looks at the message, or delivers it under the snapshot in service. -/
theorem data_cases (peers : Peers) (date : Bytes) (r : ClientData) (st : ServerState) :
    (∃ e closed, (data peers date r).run st =
      (.error e, { st with session := { st.session with closed := closed } })) ∨
    ∃ account acct, st.session.account = some account ∧ st.session.to_ ≠ [] ∧
      InService st.current account acct ∧ (data peers date r).run st =
        (((deliver peers (adopt st acct) acct date r).run st.world).1,
          { st with session := adopt st acct,
                    world := ((deliver peers (adopt st acct) acct date r).run st.world).2 }) := by
  obtain ⟨e, closed, -, hrun⟩ | ⟨acct, hstanding, hrun⟩ := data_standing peers date r st
  · exact .inl ⟨e, closed, hrun⟩
  · obtain ⟨hto, account, haccount, hin⟩ := inService_of_standing hstanding
    exact .inr ⟨account, acct, haccount, hto, hin, hrun⟩

end Session

end Mailout
