import Mailout.Chain
import Mailout.Revocation

/-!
# The envelope of a message

A session collects the sender and the recipients of a message in fields of its own, over several
commands, some of which it refuses midway. What it was told is read off the history of the connection
instead: the labels of a run, each with whether the session accepted it (`history`). An envelope is in
force from an accepted MAIL to the next one, or to a reset (`InForce`).

`building` is Data up to the message it builds, and `data_building` says that Data is that and the
handling of the message. `built_message` says in every run that the message has the account that was
logged in to, and the envelope in force.
-/

namespace Mailout

open Go

/-! ## Data up to its message -/

section
variable (peers : Peers)

open Tx

/-- The part of Data from the body it made to the message it builds. -/
def compose (s : Session) (acct : Account) (date : Bytes) (r : ClientData) (body : SpoolRef) :
    Tx Message := do
  receive s acct date r body
  let w ← Comp.get
  Comp.when ((w.spools body).spooled = true) (emit (.messageSpooled acct.username))
  setMessage ⟨s.from_, s.to_, body, acct.username⟩
  message

/-- A delivery up to the message it builds. -/
def built (s : Session) (acct : Account) (date : Bytes) (r : ClientData) : Tx Message := do
  match ← perform peers (Limiter.check s.snap.limiter acct.username s.to_.length) with
  | .error e =>
    emit (.messageHandled acct.username .deferred)
    Comp.fail e
  | .ok () =>
    let body ← create s.snap.newSpool
    compose s acct date r body

/-- `session.Data` up to the message it builds. -/
def Session.building (date : Bytes) (r : ClientData) : Serve Message := do
  let s ← self
  match s.account with
  | none => Comp.fail errAuthRequired
  | some account =>
    if s.to_.length = 0 then Comp.fail errNoRecipients
    else
      let acct ← stillAuthorized account
      tx (built peers (← self) acct date r)

variable {peers} {s : Session} {acct : Account} {date : Bytes} {r : ClientData} {w : World}

/-- The message that Data builds is the session's envelope with the account's username. -/
theorem compose_ok {body : SpoolRef} {m : Message} {w' : World}
    (h : (compose s acct date r body).run w = (.ok m, w')) :
    m = ⟨s.from_, s.to_, body, acct.username⟩ ∧ w'.msg = m := by
  obtain ⟨_, w₁, -, h⟩ := Comp.run_bind_ok h
  obtain ⟨_, w₂, -, h⟩ := Comp.run_bind_ok h
  obtain ⟨_, w₃, -, h⟩ := Comp.run_bind_ok h
  cases h
  exact ⟨rfl, rfl⟩

/-- Data builds the message, and then handles it. -/
theorem transact_compose (body : SpoolRef) : transact peers s acct date r body = (do
    let _ ← compose s acct date r body
    handle peers s acct body) := by
  simp only [transact, compose, bind_assoc]
  rfl

/-- A delivery is refused by the quota, or composes a message in a body of its own. -/
theorem built_cases (peers : Peers) (s : Session) (acct : Account) (date : Bytes) (r : ClientData)
    (w : World) :
    (∃ e w₁, (built peers s acct date r).run w = (.error e, w₁) ∧
      (deliver peers s acct date r).run w = (.error e, w₁)) ∨
    ∃ body w₁, (built peers s acct date r).run w = (compose s acct date r body).run w₁ ∧
      (deliver peers s acct date r).run w =
        (Comp.deferred (close body) (transact peers s acct date r body)).run w₁ := by
  rw [built, deliver]
  obtain ⟨a, es, hcheck, -⟩ := perform_run peers
    (Limiter.check s.snap.limiter acct.username s.to_.length) w
  rw [Comp.run_bind_of_ok hcheck, Comp.run_bind_of_ok hcheck]
  cases a with
  | error e => exact .inl ⟨e, _, rfl, rfl⟩
  | ok u => exact .inr ⟨_, _, rfl, rfl⟩

/-- The message of a delivery is that of its session. -/
theorem built_ok {m : Message} {w' : World} (h : (built peers s acct date r).run w = (.ok m, w')) :
    m.from_ = s.from_ ∧ m.to_ = s.to_ ∧ m.account = acct.username ∧ w'.msg = m := by
  obtain ⟨e, w₁, hbuilt, -⟩ | ⟨body, w₁, hbuilt, -⟩ := built_cases peers s acct date r w
  · rw [hbuilt] at h
    cases h
  · rw [hbuilt] at h
    obtain ⟨rfl, hmsg⟩ := compose_ok h
    exact ⟨rfl, rfl, rfl, hmsg⟩

/-- A delivery is the building of its message and, if there is one, the handling of it. -/
theorem deliver_built (peers : Peers) (s : Session) (acct : Account) (date : Bytes) (r : ClientData)
    (w : World) :
    (∃ e w₁, (built peers s acct date r).run w = (.error e, w₁) ∧
      ((deliver peers s acct date r).run w).1 = .error e) ∨
    ∃ m w₁, (built peers s acct date r).run w = (.ok m, w₁) ∧
      (deliver peers s acct date r).run w =
        (Comp.deferred (close m.body) (handle peers s acct m.body)).run w₁ := by
  obtain ⟨e, w₁, hbuilt, hdeliver⟩ | ⟨body, w₁, hbuilt, hdeliver⟩ := built_cases peers s acct date r w
  · exact .inl ⟨e, w₁, hbuilt, congrArg Prod.fst hdeliver⟩
  · rw [hbuilt, hdeliver, Comp.run_deferred, transact_compose]
    rcases hcompose : (compose s acct date r body).run w₁ with ⟨composed, w₂⟩
    cases composed with
    | error e =>
      refine .inl ⟨e, w₂, rfl, ?_⟩
      rw [Comp.run_bind_of_error hcompose]
    | ok m =>
      refine .inr ⟨m, w₂, rfl, ?_⟩
      rw [Comp.run_bind_of_ok hcompose, (compose_ok hcompose).1]
      rfl

namespace Session

/-- Data is refused before it looks at the message, or builds it under the snapshot in service. -/
theorem building_cases (peers : Peers) (date : Bytes) (r : ClientData) (st : ServerState) :
    (∃ e, ((building peers date r).run st).1 = .error e ∧ ((data peers date r).run st).1 = .error e) ∨
    ∃ account acct, st.session.account = some account ∧ InService st.current account acct ∧
      (building peers date r).run st =
        (tx (built peers (adopt st acct) acct date r)).run { st with session := adopt st acct } ∧
      (data peers date r).run st =
        (tx (deliver peers (adopt st acct) acct date r)).run { st with session := adopt st acct } := by
  rw [building, data, Comp.run_bind_of_ok (run_self st), Comp.run_bind_of_ok (run_self st)]
  cases haccount : st.session.account with
  | none => exact .inl ⟨_, rfl, rfl⟩
  | some account =>
    simp only
    split_ifs with hto
    · exact .inl ⟨_, rfl, rfl⟩
    · obtain ⟨acct, hin, hrun⟩ | ⟨-, hrun⟩ := stillAuthorized_cases account st
      · refine .inr ⟨account, acct, rfl, hin, ?_⟩
        rw [Comp.run_bind_of_ok hrun, Comp.run_bind_of_ok hrun]
        exact ⟨rfl, rfl⟩
      · rw [Comp.run_bind_of_error hrun, Comp.run_bind_of_error hrun]
        exact .inl ⟨_, rfl, rfl⟩

/-- **Data and its message.** Data fails as the building of its message does, or handles the message
that was built. -/
theorem data_building (peers : Peers) (date : Bytes) (r : ClientData) (st : ServerState) :
    (∃ e, ((building peers date r).run st).1 = .error e ∧ ((data peers date r).run st).1 = .error e) ∨
    ∃ m acct st₁, (building peers date r).run st = (.ok m, st₁) ∧ st₁.session = adopt st acct ∧
      (data peers date r).run st =
        (tx (Comp.deferred (close m.body) (handle peers st₁.session acct m.body))).run st₁ := by
  obtain hrefused | ⟨account, acct, -, -, hbuilding, hdata⟩ := building_cases peers date r st
  · exact .inl hrefused
  · rw [hbuilding, hdata, run_tx, run_tx]
    obtain ⟨e, w₁, hbuilt, hdeliver⟩ | ⟨m, w₁, hbuilt, hdeliver⟩ :=
      deliver_built peers (adopt st acct) acct date r st.world
    · exact .inl ⟨e, congrArg Prod.fst hbuilt, hdeliver⟩
    · refine .inr ⟨m, acct, ⟨st.current, adopt st acct, w₁⟩, ?_, rfl, ?_⟩
      · simp only [hbuilt]
      · simp only [hdeliver]
        rfl

end Session

end

/-! ## The history of a connection -/

namespace Connection

/-- The session's method returns no error. -/
def accepts (host : Host) (peers : Peers) (c : Connection) : Label → Bool
  | .reload cfg => ((Mailout.reload host cfg).run c.server).1.isOk
  | .auth busy username password =>
    ((Session.authenticate host.bcrypt busy username password).run c.server).1.isOk
  | .mail from_ => ((Session.mail from_).run c.server).1.isOk
  | .rcpt to_ => ((Session.rcpt to_).run c.server).1.isOk
  | .rset => (Session.reset.run c.server).1.isOk
  | .data date r => ((Session.data peers date r).run c.server).1.isOk

/-- The labels of a run, each with whether it was accepted. -/
def history (host : Host) (peers : Peers) : Connection → List Label → List (Label × Bool) :=
  log (step host peers) fun c l => (l, accepts host peers c l)

/-- The username of an accepted AUTH. -/
def loginOf : Label × Bool → Option Bytes
  | (.auth _ username _, true) => some username
  | _ => none

/-- The argument of an accepted RCPT. -/
def recipientOf : Label × Bool → Option Bytes
  | (.rcpt to_, true) => some to_
  | _ => none

/-- An envelope ends here: with an accepted MAIL, or with a reset, which is also behind every DATA. -/
def startsOver : Label × Bool → Bool
  | (.mail _, accepted) => accepted
  | (.rset, _) | (.data .., _) => true
  | _ => false

/-- The sender of the last accepted MAIL, with no reset since, and the recipients accepted since. -/
def InForce (past : List (Label × Bool)) (from_ : Bytes) (to_ : List Bytes) : Prop :=
  ∃ before since, past = before ++ (.mail from_, true) :: since ∧
    (∀ e ∈ since, startsOver e = false) ∧ to_ = since.filterMap recipientOf

/-- An accepted MAIL opens an envelope without recipients. -/
theorem inForce_mail (past : List (Label × Bool)) (from_ : Bytes) :
    InForce (past ++ [(.mail from_, true)]) from_ [] :=
  ⟨past, [], rfl, nofun, rfl⟩

/-- An envelope stays in force until it is started over, and a recipient that is accepted comes last. -/
theorem InForce.snoc {past : List (Label × Bool)} {from_ : Bytes} {to_ : List Bytes}
    (h : InForce past from_ to_) {e : Label × Bool} (hover : startsOver e = false) :
    InForce (past ++ [e]) from_ (to_ ++ (recipientOf e).toList) := by
  obtain ⟨before, since, rfl, hsince, rfl⟩ := h
  refine ⟨before, since ++ [e], by simp, fun e' he' => ?_, ?_⟩
  · rcases List.mem_append.mp he' with hmem | hmem
    · exact hsince e' hmem
    · rwa [List.mem_singleton.mp hmem]
  · rw [List.filterMap_append]
    cases h : recipientOf e with
    | none => simp [h]
    | some to_ => simp [h]

/-- What neither starts over nor adds a recipient leaves the envelope as it is. -/
theorem InForce.quiet {past : List (Label × Bool)} {from_ : Bytes} {to_ : List Bytes}
    (h : InForce past from_ to_) {e : Label × Bool} (hover : startsOver e = false)
    (hnoRcpt : recipientOf e = none) : InForce (past ++ [e]) from_ to_ := by
  have := h.snoc hover
  rwa [hnoRcpt, Option.toList_none, List.append_nil] at this

/-! ## What a session has of its history -/

/-- The login and the open envelope of a connection are those of its history. -/
structure Recorded (past : List (Label × Bool)) (c : Connection) : Prop where
  login : past.filterMap loginOf = (c.login.map Prod.fst).toList
  envelope : c.fromReceived = true → InForce past c.server.session.from_ c.server.session.to_

variable {host : Host} {peers : Peers} {c c' : Connection} {past : List (Label × Bool)}

/-- A step that leaves the login and the envelope alone, and is noted as one that does. -/
theorem Recorded.quiet (h : Recorded past c) {e : Label × Bool} (hnoLogin : loginOf e = none)
    (hnoRcpt : recipientOf e = none) (hover : startsOver e = false) (hlogin : c'.login = c.login)
    (hopen : c'.fromReceived = c.fromReceived)
    (hfrom : c'.server.session.from_ = c.server.session.from_)
    (hto : c'.server.session.to_ = c.server.session.to_) : Recorded (past ++ [e]) c' := by
  refine ⟨?_, fun hopen' => ?_⟩
  · rw [List.filterMap_append, h.login, hlogin]
    simp [hnoLogin]
  · rw [hfrom, hto]
    exact (h.envelope (hopen ▸ hopen')).quiet hover hnoRcpt

/-- A step behind which no envelope is open. -/
theorem Recorded.closed (h : Recorded past c) {e : Label × Bool} (hnoLogin : loginOf e = none)
    (hlogin : c'.login = c.login) (hclosed : c'.fromReceived = false) : Recorded (past ++ [e]) c' := by
  refine ⟨?_, fun hopen => ?_⟩
  · rw [List.filterMap_append, h.login, hlogin]
    simp [hnoLogin]
  · rw [hclosed] at hopen
    cases hopen

/-- A login is accepted once, and no envelope is open before it. -/
theorem Recorded.auth {busy : Bool} {u p : Bytes} (h : Recorded past c)
    (hstep : step host peers c (.auth busy u p) = some c') :
    Recorded (past ++ [(.auth busy u p, accepts host peers c (.auth busy u p))]) c' := by
  simp only [step] at hstep
  split_ifs at hstep with hfirst
  obtain ⟨e, failures, closed, hrun⟩ | ⟨acct, -, hrun⟩ :=
    Session.authenticate_cases host.bcrypt busy u p c.server
  · simp only [accepts, hrun] at hstep ⊢
    cases hstep
    exact h.quiet rfl rfl rfl rfl rfl rfl rfl
  · simp only [accepts, hrun] at hstep ⊢
    cases hstep
    refine ⟨?_, fun hopen => (h.envelope hopen).quiet rfl rfl⟩
    rw [List.filterMap_append, h.login, Option.not_isSome_iff_eq_none.mp hfirst]
    rfl

/-- A MAIL that is accepted opens an envelope; one that is refused leaves the session as it was. -/
theorem Recorded.mail {from_ : Bytes} (h : Recorded past c)
    (hstep : step host peers c (.mail from_) = some c') :
    Recorded (past ++ [(.mail from_, accepts host peers c (.mail from_))]) c' := by
  simp only [step] at hstep
  obtain ⟨e, closed, hrun⟩ | ⟨account, acct, -, -, ⟨e, w, hrun⟩ | ⟨-, hrun⟩⟩ :=
    Session.mail_cases from_ c.server
  · simp only [accepts, hrun] at hstep ⊢
    cases hstep
    exact h.quiet rfl rfl rfl rfl rfl rfl rfl
  · -- the account is in service and the sender is not its own: an envelope that is open stays
    simp only [accepts, hrun] at hstep ⊢
    cases hstep
    exact h.quiet rfl rfl rfl rfl rfl rfl rfl
  · simp only [accepts, hrun] at hstep ⊢
    cases hstep
    refine ⟨?_, fun _ => inForce_mail past from_⟩
    rw [List.filterMap_append, h.login]
    exact List.append_nil _

/-- A RCPT that is accepted adds a recipient; one that is refused leaves the session as it was. -/
theorem Recorded.rcpt {to_ : Bytes} (h : Recorded past c)
    (hstep : step host peers c (.rcpt to_) = some c') :
    Recorded (past ++ [(.rcpt to_, accepts host peers c (.rcpt to_))]) c' := by
  simp only [step] at hstep
  split_ifs at hstep with hopen
  obtain ⟨e, hrun⟩ | hrun := Session.rcpt_cases to_ c.server
  · simp only [accepts, hrun] at hstep ⊢
    cases hstep
    exact h.quiet rfl rfl rfl rfl rfl rfl rfl
  · simp only [accepts, hrun] at hstep ⊢
    cases hstep
    refine ⟨?_, fun hopen => (h.envelope hopen).snoc (e := (.rcpt to_, true)) rfl⟩
    rw [List.filterMap_append, h.login]
    exact List.append_nil _

/-- A reload does not touch a session. -/
theorem reload_session (cfg : Config) (st : ServerState) :
    ((Mailout.reload host cfg).run st).2.session = st.session := by
  unfold Mailout.reload
  cases newSnapshot host cfg <;> rfl

/-- Every step of a connection keeps the record. -/
theorem Recorded.step {l : Label} (h : Recorded past c) (hstep : step host peers c l = some c') :
    Recorded (past ++ [(l, accepts host peers c l)]) c' := by
  cases l with
  | reload cfg =>
    cases hstep
    exact h.quiet rfl rfl rfl rfl rfl (congrArg Session.from_ (reload_session cfg _))
      (congrArg Session.to_ (reload_session cfg _))
  | auth busy u p => exact h.auth hstep
  | mail from_ => exact h.mail hstep
  | rcpt to_ => exact h.rcpt hstep
  | rset =>
    cases hstep
    exact h.closed rfl rfl rfl
  | data date r =>
    -- go-smtp resets the session behind DATA, whatever came of it
    simp only [Connection.step] at hstep
    split_ifs at hstep
    cases hstep
    exact h.closed rfl rfl rfl

/-- **Every run.** The login and the open envelope of a connection are those of its history. -/
theorem runs_recorded {conn : Conn} {w : World} {cfg : Config} {c₀ : Connection} {labels : List Label}
    (hopen : opens host conn w cfg = some c₀) (hrun : runs (step host peers) c₀ labels = some c) :
    Recorded (history host peers c₀ labels) c := by
  obtain ⟨snap, -, rfl⟩ := opens_start hopen
  exact log_invariant (fun _ _ _ _ hrecorded hstep => Recorded.step hrecorded hstep) labels [] _
    ⟨rfl, nofun⟩ hrun

/-- **Transactions do not leak into each other.** Whenever Data builds a message, after any run: there
was one login, and the message has its username; the message has the sender of the last accepted MAIL,
with no reset since, and the recipients that were accepted since, in order; and the username is that
of an account in the snapshot in service, which is not disabled. -/
theorem built_message (host : Host) (peers : Peers) (conn : Conn) (w : World) (cfg : Config)
    (labels : List Label) (c₀ c : Connection) (hopen : opens host conn w cfg = some c₀)
    (hrun : runs (step host peers) c₀ labels = some c) (date : Bytes) (r : ClientData)
    (hadmits : (step host peers c (.data date r)).isSome) (m : Message) (st : ServerState)
    (hbuilds : (Session.building peers date r).run c.server = (.ok m, st)) :
    st.world.msg = m ∧
    (history host peers c₀ labels).filterMap loginOf = [m.account] ∧
    InForce (history host peers c₀ labels) m.from_ m.to_ ∧
    ∃ acct, c.server.current.accounts m.account = some acct ∧ acct.disabled = false := by
  have hrecorded := runs_recorded hopen hrun
  have hbound := runs_bound hopen hrun
  have hfrom : c.fromReceived = true := by
    by_contra hclosed
    simp [step, hclosed] at hadmits
  obtain ⟨e, herror, -⟩ | ⟨account, acct, haccount, hin, hbuilding, -⟩ :=
    Session.building_cases peers date r c.server
  · rw [hbuilds] at herror
    cases herror
  · rw [hbuilds, Session.run_tx] at hbuilding
    obtain ⟨hmsg₁, hst⟩ := Prod.mk.inj hbuilding
    obtain ⟨hmfrom, hmto, hmaccount, hmsg⟩ := built_ok (Prod.ext hmsg₁.symm rfl)
    obtain ⟨password, hlogin⟩ := hbound.account account haccount
    have hname : m.account = account.username := by
      rw [hmaccount, hbound.current.username hin.1]
    refine ⟨by rw [hst]; exact hmsg, ?_, ?_, acct, by rw [hname]; exact hin.1, hin.2⟩
    · rw [hrecorded.login, hlogin, hname]
      rfl
    · rw [hmfrom, hmto]
      exact hrecorded.envelope hfrom

/-- Two transactions, the first of them reset. In the second a MAIL from another sender is refused, and
a reload falls between the recipients. -/
def twoTransactions : List Label :=
  [.auth false (lit "app") (lit "pw"), .mail (lit "app@example.test"), .rcpt (lit "a@y.test"), .rset,
    .mail (lit "app@example.test"), .rcpt (lit "b@y.test"), .mail (lit "eve@example.test"),
    .reload (.plain [app (lit "pw") [lit "*@example.test"]] []), .rcpt (lit "c@y.test")]

/-- The run of two transactions is one that the connection can take. -/
theorem runs_twoTransactions :
    (runs (step .plain agreeable) ((opened _ _).get opened_app) twoTransactions).isSome := by
  decide +kernel

/-- Data behind the two transactions, up to the message it builds. -/
def secondBuilding : Except Err Message × ServerState :=
  (Session.building agreeable [] (letter (lit "app@example.test"))).run
    ((runs _ _ _).get runs_twoTransactions).server

/-- The message of the second one has its own recipients only. -/
theorem secondBuilding_ok : secondBuilding.1 =
    .ok ⟨lit "app@example.test", [lit "b@y.test", lit "c@y.test"], 1, lit "app"⟩ := by
  decide +kernel

/-- In the second transaction the envelope in force is the second one. -/
theorem built_message_second : ∃ c₀ c, opened [app (lit "pw") [lit "app@example.test"]] [] = some c₀ ∧
    runs (step .plain agreeable) c₀ twoTransactions = some c ∧
    InForce (history .plain agreeable c₀ twoTransactions) (lit "app@example.test")
      [lit "b@y.test", lit "c@y.test"] :=
  ⟨_, _, (Option.some_get opened_app).symm, (Option.some_get runs_twoTransactions).symm,
    (built_message .plain agreeable _ _ _ _ _ _ (Option.some_get opened_app).symm
      (Option.some_get runs_twoTransactions).symm [] (letter (lit "app@example.test"))
      (by decide +kernel) _ secondBuilding.2 (Prod.ext secondBuilding_ok rfl)).2.2.1⟩

end Connection

end Mailout
