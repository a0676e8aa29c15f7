import Mailout.Go.Run
import Mailout.Session

/-!
# A connection and the reloads around it

`Server.Reload` puts a new snapshot in service while a connection is open. The commands of the
connection come in an order that go-smtp admits: AUTH until one is accepted, RCPT after an accepted
MAIL, DATA after an accepted RCPT, and a reset of the session behind every DATA. A reload may fall
between any two of them. It cannot be seen inside of one, as no method looks at the snapshot in
service twice.

`step_effect` says what a step can do to the session's snapshot, its account and its envelope.
`runs_bound` says that in every run the account of the session is the one it logged in with.
-/

namespace Mailout

open Go

/-- `Server.Reload`: a configuration that is not valid leaves the one in service. -/
def reload (host : Host) (cfg : Config) : Serve Unit :=
  match newSnapshot host cfg with
  | .error err => Comp.fail (.other err)
  | .ok snap => Comp.modify fun st => { st with current := snap }

/-- A connection: its server and session, and what go-smtp keeps to admit commands. -/
structure Connection where
  server : ServerState
  /-- `didAuth`, with the credentials that were accepted. -/
  login : Option (Bytes × Bytes)
  fromReceived : Bool
  recipients : Nat

namespace Connection

/-- What happens at a server with one connection. -/
inductive Label where
  | reload (cfg : Config)
  | auth (busy : Bool) (username password : Bytes)
  | mail (from_ : Bytes)
  | rcpt (to_ : Bytes)
  | rset
  | data (date : Bytes) (r : ClientData)

/-- A connection whose session was just made, under the snapshot in service. -/
def start (conn : Conn) (snap : Snapshot) (w : World) : Connection where
  server := ⟨snap, .connect conn snap, w⟩
  login := none
  fromReceived := false
  recipients := 0

/-- A connection to a server that started with a configuration, if that is valid. -/
def opens (host : Host) (conn : Conn) (w : World) (cfg : Config) : Option Connection :=
  (newSnapshot host cfg).toOption.map fun snap => start conn snap w

/-- A connection from `192.0.2.1` to a server with some accounts and keys. -/
def opened (accounts : List Account) (dkim : List DKIMKey) : Option Connection :=
  opens .plain ⟨lit "client.test", lit "192.0.2.1:4711", lit "192.0.2.1", 4711, [], []⟩
    (.about [] [] []) (.plain accounts dkim)

/-- A message with a From field. -/
def letter (from_ : Bytes) : ClientData := ⟨[lit "From: " ++ from_ ++ lit "\r\n\r\nhi\r\n"], none⟩

/-- go-smtp's reset. -/
def reset (c : Connection) : Connection :=
  { c with server := (Session.reset.run c.server).2, fromReceived := false, recipients := 0 }

/-- One label, `none` if go-smtp answers the command without asking the session. -/
def step (host : Host) (peers : Peers) (c : Connection) : Label → Option Connection
  | .reload cfg => some { c with server := ((Mailout.reload host cfg).run c.server).2 }
  | .auth busy username password =>
    if c.login.isSome then none
    else
      match (Session.authenticate host.bcrypt busy username password).run c.server with
      | (.ok _, st) => some { c with server := st, login := some (username, password) }
      | (.error _, st) => some { c with server := st }
  | .mail from_ =>
    match (Session.mail from_).run c.server with
    | (.ok _, st) => some { c with server := st, fromReceived := true }
    | (.error _, st) => some { c with server := st }
  | .rcpt to_ =>
    if ¬ c.fromReceived then none
    else
      match (Session.rcpt to_).run c.server with
      | (.ok _, st) => some { c with server := st, recipients := c.recipients + 1 }
      | (.error _, st) => some { c with server := st }
  | .rset => some c.reset
  | .data date r =>
    if ¬ c.fromReceived ∨ c.recipients = 0 then none
    else some (reset { c with server := ((Session.data peers date r).run c.server).2 })

/-! ## What a step can do -/

/-- An envelope that is open after a step was open before it, with the same sender. -/
def SameEnvelope (c c' : Connection) : Prop :=
  c'.fromReceived = true → c.fromReceived = true ∧ c'.server.session.from_ = c.server.session.from_

/-- What a step does to the session's snapshot, account and sender. -/
inductive Effect (host : Host) (c c' : Connection) : Label → Prop where
  /-- A snapshot is put in service, and the session keeps its own. -/
  | reloaded {cfg : Config} {snap : Snapshot} (hload : newSnapshot host cfg = .ok snap)
      (heq : c' = { c with server := { c.server with current := snap } }) :
      Effect host c c' (.reload cfg)
  | kept {l : Label} (hcurrent : c'.server.current = c.server.current)
      (hsnap : c'.server.session.snap = c.server.session.snap)
      (haccount : c'.server.session.account = c.server.session.account)
      (hlogin : c'.login = c.login) (henv : SameEnvelope c c') : Effect host c c' l
  /-- The first login, judged by the session's snapshot. -/
  | loggedIn {busy : Bool} {u p : Bytes} {acct : Account} (hfirst : c.login = none)
      (hauth : c.server.session.snap.accounts.authenticate host.bcrypt u p = .ok acct)
      (heq : c' = { c with server := { c.server with session :=
        { c.server.session with account := some acct } }, login := some (u, p) }) :
      Effect host c c' (.auth busy u p)
  /-- The account was found in service, and the snapshot in service becomes the session's. -/
  | renewed {l : Label} {account acct : Account}
      (haccount : c.server.session.account = some account)
      (hin : Session.InService c.server.current account acct)
      (hcurrent : c'.server.current = c.server.current)
      (hsnap : c'.server.session.snap = c.server.current)
      (haccount' : c'.server.session.account = some acct) (hlogin : c'.login = c.login)
      (henv : SameEnvelope c c') : Effect host c c' l
  /-- The same, and the sender was allowed under it. -/
  | mailed {from_ : Bytes} {account acct : Account}
      (haccount : c.server.session.account = some account)
      (hin : Session.InService c.server.current account acct)
      (hallows : (c.server.current.policyFor acct.username).senders.allows from_ = true)
      (heq : c' = { c with server := { c.server with session :=
        { Session.adopt c.server acct with from_ := from_, to_ := [] } }, fromReceived := true }) :
      Effect host c c' (.mail from_)

variable {host : Host} {peers : Peers} {c c' : Connection}

/-- A reload puts another snapshot into service, or none if it is refused, and leaves the session alone. -/
theorem reload_effect {cfg : Config} (h : step host peers c (.reload cfg) = some c') :
    Effect host c c' (.reload cfg) := by
  cases h
  unfold Mailout.reload
  cases hload : newSnapshot host cfg with
  | error err => exact .kept rfl rfl rfl rfl fun hopen => ⟨hopen, rfl⟩
  | ok snap => exact .reloaded hload rfl

/-- A login that is accepted is of an account of the snapshot in service. -/
theorem auth_effect {busy : Bool} {u p : Bytes} (h : step host peers c (.auth busy u p) = some c') :
    Effect host c c' (.auth busy u p) := by
  simp only [step] at h
  split_ifs at h with hlogin
  obtain ⟨e, failures, closed, hrun⟩ | ⟨acct, hauth, hrun⟩ :=
    Session.authenticate_cases host.bcrypt busy u p c.server
  · rw [hrun] at h
    cases h
    exact .kept rfl rfl rfl rfl fun hopen => ⟨hopen, rfl⟩
  · rw [hrun] at h
    cases h
    exact .loggedIn (Option.not_isSome_iff_eq_none.mp hlogin) hauth rfl

/-- A sender is accepted under the policy of the account as it is then. -/
theorem mail_effect {from_ : Bytes} (h : step host peers c (.mail from_) = some c') :
    Effect host c c' (.mail from_) := by
  simp only [step] at h
  obtain ⟨e, closed, hrun⟩ | ⟨account, acct, haccount, hin, ⟨e, w, hrun⟩ | ⟨hallows, hrun⟩⟩ :=
    Session.mail_cases from_ c.server
  · rw [hrun] at h
    cases h
    exact .kept rfl rfl rfl rfl fun hopen => ⟨hopen, rfl⟩
  · rw [hrun] at h
    cases h
    exact .renewed haccount hin rfl rfl rfl rfl fun hopen => ⟨hopen, rfl⟩
  · rw [hrun] at h
    cases h
    exact .mailed haccount hin hallows rfl

/-- A recipient needs a sender before it. -/
theorem rcpt_effect {to_ : Bytes} (h : step host peers c (.rcpt to_) = some c') :
    Effect host c c' (.rcpt to_) := by
  simp only [step] at h
  split_ifs at h with hfrom
  obtain ⟨e, hrun⟩ | hrun := Session.rcpt_cases to_ c.server
  · rw [hrun] at h
    cases h
    exact .kept rfl rfl rfl rfl fun hopen => ⟨hopen, rfl⟩
  · rw [hrun] at h
    cases h
    exact .kept rfl rfl rfl rfl fun hopen => ⟨hopen, rfl⟩

/-- Data ends the envelope, and the session keeps its account. -/
theorem data_effect {date : Bytes} {r : ClientData} (h : step host peers c (.data date r) = some c') :
    Effect host c c' (.data date r) := by
  simp only [step] at h
  split_ifs at h with hadmits
  obtain ⟨e, closed, hrun⟩ | ⟨account, acct, haccount, -, hin, hrun⟩ :=
    Session.data_cases peers date r c.server
  · rw [hrun] at h
    cases h
    exact .kept rfl rfl rfl rfl nofun
  · rw [hrun] at h
    cases h
    exact .renewed haccount hin rfl rfl rfl rfl nofun

/-- **One step.** -/
theorem step_effect {l : Label} (h : step host peers c l = some c') : Effect host c c' l := by
  cases l with
  | reload cfg => exact reload_effect h
  | auth busy u p => exact auth_effect h
  | mail from_ => exact mail_effect h
  | rcpt to_ => exact rcpt_effect h
  | rset =>
    cases h
    exact .kept rfl rfl rfl rfl nofun
  | data date r => exact data_effect h

/-! ## Who a session speaks for -/

/-- A snapshot that was made from a configuration. -/
def Loaded (host : Host) (snap : Snapshot) : Prop := ∃ cfg, newSnapshot host cfg = .ok snap

/-- An account is found under its own username. -/
theorem Loaded.username {snap : Snapshot} {u : Bytes} {acct : Account} (h : Loaded host snap)
    (hu : snap.accounts u = some acct) : acct.username = u := by
  obtain ⟨cfg, hcfg⟩ := h
  exact (policyFor_of_account hcfg hu).1

/-- The session has the account that was logged in to, as a snapshot has it. -/
structure Bound (host : Host) (c : Connection) : Prop where
  current : Loaded host c.server.current
  snap : Loaded host c.server.session.snap
  account : ∀ account, c.server.session.account = some account →
    ∃ password, c.login = some (account.username, password)

/-- A new session has no account. -/
theorem bound_start {snap : Snapshot} (h : Loaded host snap) (conn : Conn) (w : World) :
    Bound host (start conn snap w) :=
  ⟨h, h, nofun⟩

/-- A connection is opened with a snapshot that was loaded. -/
theorem opens_start {conn : Conn} {w : World} {cfg : Config} (h : opens host conn w cfg = some c) :
    ∃ snap, Loaded host snap ∧ c = start conn snap w := by
  unfold opens at h
  cases hload : newSnapshot host cfg with
  | error err =>
    rw [hload] at h
    cases h
  | ok snap =>
    rw [hload] at h
    cases h
    exact ⟨snap, ⟨cfg, hload⟩, rfl⟩

/-- Every step leaves the session with the account that was logged in to, and with snapshots that were
loaded. -/
theorem Bound.step {l : Label} (h : Bound host c) (hstep : step host peers c l = some c') :
    Bound host c' := by
  cases step_effect hstep with
  | reloaded hload heq =>
    subst heq
    exact ⟨⟨_, hload⟩, h.snap, h.account⟩
  | kept hcurrent hsnap haccount hlogin henv =>
    refine ⟨hcurrent ▸ h.current, hsnap ▸ h.snap, fun account hsome => ?_⟩
    rw [haccount] at hsome
    rw [hlogin]
    exact h.account account hsome
  | loggedIn hfirst hauth heq =>
    subst heq
    refine ⟨h.current, h.snap, fun account hsome => ?_⟩
    cases hsome
    obtain ⟨hfound, -, -⟩ := AccountStore.authenticate_ok.mp hauth
    exact ⟨_, congrArg (fun u => some (u, _)) (h.snap.username hfound).symm⟩
  | renewed haccount hin hcurrent hsnap haccount' hlogin henv =>
    refine ⟨hcurrent ▸ h.current, hsnap ▸ h.current, fun account hsome => ?_⟩
    rw [haccount'] at hsome
    cases hsome
    rw [hlogin, h.current.username hin.1]
    exact h.account _ haccount
  | mailed haccount hin hallows heq =>
    subst heq
    refine ⟨h.current, h.current, fun account hsome => ?_⟩
    cases hsome
    show ∃ password, c.login = _
    rw [h.current.username hin.1]
    exact h.account _ haccount

/-- **Every run.** The account of a session is the one it logged in with. -/
theorem runs_bound {conn : Conn} {w : World} {cfg : Config} {c₀ : Connection} {labels : List Label}
    (hopen : opens host conn w cfg = some c₀) (hrun : runs (step host peers) c₀ labels = some c) :
    Bound host c := by
  obtain ⟨snap, hload, rfl⟩ := opens_start hopen
  exact runs_invariant (I := fun _ c => Bound host c) (bound_start hload conn w)
    (fun _ _ _ _ hbound hstep => hbound.step hstep) hrun

end Connection

end Mailout
