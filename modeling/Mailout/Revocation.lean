import Mailout.Connection

/-!
# Reloads under an open connection

A session re-reads the configuration at MAIL and at DATA, and looks its account up again by name.
Two things escape it. The sender was judged at MAIL, and is not judged again under the snapshot DATA
adopts. The password was judged at AUTH, by the snapshot of the connection, and its hash is not
looked at again. `relayed_sender_allowed` and `session_credential_accepted` say what a reload has to
leave as it was for neither to matter; `relayed_sender_narrowed` and `session_credential_rotated` are
runs where it does.
-/

namespace Mailout

open Go

namespace Connection

variable {host : Host} {peers : Peers} {c c' : Connection}

/-! ## The sender of an open envelope -/

/-- The account in service under the name of the session's account, if there is one, may send as the
sender of the envelope. -/
def MaySend (snap : Snapshot) (c : Connection) : Prop :=
  ∀ account ∈ c.server.session.account, ∀ acct ∈ snap.accounts account.username,
    acct.disabled = false →
      (snap.policyFor acct.username).senders.allows c.server.session.from_ = true

instance (snap : Snapshot) (c : Connection) : Decidable (MaySend snap c) :=
  inferInstanceAs (Decidable (∀ account ∈ c.server.session.account,
    ∀ acct ∈ snap.accounts account.username, _ → _))

/-- A reload does not take the sender of an open envelope away from its account. -/
def KeepsSender (host : Host) (c : Connection) : Label → Prop
  | .reload cfg => ∀ snap ∈ (newSnapshot host cfg).toOption, c.fromReceived = true → MaySend snap c
  | _ => True

instance (host : Host) (c : Connection) : ∀ l, Decidable (KeepsSender host c l)
  | .reload cfg => inferInstanceAs (Decidable (∀ snap ∈ (newSnapshot host cfg).toOption, _ → _))
  | .auth .. | .mail _ | .rcpt _ | .rset | .data .. => isTrue trivial

/-- A session in which an open envelope is that of its account. -/
structure Enveloped (host : Host) (c : Connection) : Prop extends Bound host c where
  sender : c.fromReceived = true → c.server.session.account.isSome ∧ MaySend c.server.current c

/-- A step that keeps the sender allowed keeps the envelope within the policy in service. -/
theorem Enveloped.step {l : Label} (h : Enveloped host c) (hkeeps : KeepsSender host c l)
    (hstep : step host peers c l = some c') : Enveloped host c' := by
  refine ⟨h.toBound.step hstep, fun hopen => ?_⟩
  cases step_effect hstep with
  | reloaded hload heq =>
    subst heq
    exact ⟨(h.sender hopen).1, hkeeps _ (by rw [hload]; rfl) hopen⟩
  | kept hcurrent hsnap haccount hlogin henv =>
    obtain ⟨hopen', hfrom⟩ := henv hopen
    obtain ⟨hsome, hmay⟩ := h.sender hopen'
    refine ⟨haccount ▸ hsome, ?_⟩
    rw [MaySend, hcurrent, haccount, hfrom]
    exact hmay
  | loggedIn hfirst hauth heq =>
    -- go-smtp admits no second AUTH, and a sender is accepted only after the first
    subst heq
    obtain ⟨account, haccount⟩ := Option.isSome_iff_exists.mp (h.sender hopen).1
    obtain ⟨password, hlogin⟩ := h.account account haccount
    rw [hfirst] at hlogin
    cases hlogin
  | renewed haccount₀ hin hcurrent hsnap haccount' hlogin henv =>
    obtain ⟨hopen', hfrom⟩ := henv hopen
    refine ⟨by rw [haccount']; rfl, ?_⟩
    rw [MaySend, hcurrent, haccount', hfrom]
    intro account haccount acct hacct hen
    cases haccount
    rw [h.current.username hin.1] at hacct
    exact (h.sender hopen').2 _ haccount₀ acct hacct hen
  | mailed haccount hin hallows heq =>
    subst heq
    refine ⟨rfl, ?_⟩
    intro account haccount acct hacct _
    cases haccount
    rw [h.current.username hin.1] at hacct
    cases hin.1.symm.trans hacct
    exact hallows

/-- **The sender of a relayed message.** In every run whose reloads leave the sender of an open
envelope to its account: a message that Data takes to the upstream has a sender that its account may
use under the snapshot the message is checked, filtered, signed and relayed by. -/
theorem relayed_sender_allowed (host : Host) (peers : Peers) (conn : Conn) (w : World) (cfg : Config)
    (labels : List Label) (c₀ c : Connection) (hopen : opens host conn w cfg = some c₀)
    (hmeets : Meets (step host peers) (KeepsSender host) c₀ labels)
    (hrun : runs (step host peers) c₀ labels = some c)
    (date : Bytes) (r : ClientData) (hadmits : (step host peers c (.data date r)).isSome)
    (call : UpstreamCall) (hsent : .upstream call ∈
      newEvents c.server.world ((Session.data peers date r).run c.server).2.world) :
    ∃ s acct, ((Session.data peers date r).run c.server).2.session = s ∧ s.account = some acct ∧
      ((Session.data peers date r).run c.server).2.world =
        ((deliver peers s acct date r).run c.server.world).2 ∧
      (s.snap.policyFor acct.username).senders.allows s.from_ = true := by
  obtain ⟨snap, hload, rfl⟩ := opens_start hopen
  have henveloped : Enveloped host c :=
    runs_invariant_of_meets (I := fun _ c => Enveloped host c)
      (fun _ _ _ _ h hcond hstep => h.step hcond hstep) labels [] _
      ⟨bound_start hload conn w, nofun⟩ hmeets hrun
  have hfrom : c.fromReceived = true := by
    by_contra hclosed
    simp [step, hclosed] at hadmits
  obtain ⟨e, closed, hdata⟩ | ⟨account, acct, haccount, -, hin, hdata⟩ :=
    Session.data_cases peers date r c.server
  · rw [hdata, newEvents, List.drop_length] at hsent
    exact absurd hsent List.not_mem_nil
  · rw [hdata]
    exact ⟨_, acct, rfl, rfl, rfl,
      (henveloped.sender hfrom).2 account haccount acct hin.1 hin.2⟩

/-- The account `app`, that may send as some senders. -/
def app (hash : Bytes) (senders : List Bytes) : Account := ⟨lit "app", hash, false, senders, false⟩

/-- A connection to a gateway with that account is opened. -/
theorem opened_app : (opened [app (lit "pw") [lit "app@example.test"]] []).isSome := by decide +kernel

/-- A login, an envelope from `app@example.test`, and a reload that leaves `app` some senders. -/
def reloadedSenders (senders : List Bytes) : List Label :=
  [.auth false (lit "app") (lit "pw"), .mail (lit "app@example.test"), .rcpt (lit "x@y.test"),
    .reload (.plain [app (lit "pw") senders] [])]

/-- The run with more senders after the reload is one that the connection can take. -/
theorem runs_widened : (runs (step .plain agreeable) ((opened _ _).get opened_app)
    (reloadedSenders [lit "*@example.test"])).isSome := by
  decide +kernel

/-- With more senders after the reload, the sender of the envelope is still allowed. -/
theorem relayed_sender_widened : ∃ c₀ c, opened [app (lit "pw") [lit "app@example.test"]] [] = some c₀ ∧
    runs (step .plain agreeable) c₀ (reloadedSenders [lit "*@example.test"]) = some c ∧
    ∃ s acct, ((Session.data agreeable [] (letter (lit "app@example.test"))).run c.server).2.session = s ∧
      s.account = some acct ∧
      ((Session.data agreeable [] (letter (lit "app@example.test"))).run c.server).2.world =
        ((deliver agreeable s acct [] (letter (lit "app@example.test"))).run c.server.world).2 ∧
      (s.snap.policyFor acct.username).senders.allows s.from_ = true :=
  ⟨_, _, (Option.some_get _).symm, (Option.some_get runs_widened).symm,
    relayed_sender_allowed .plain agreeable _ _ _ _ _ _ (Option.some_get opened_app).symm
      (by decide +kernel) (Option.some_get runs_widened).symm [] _ (by decide +kernel) .dial
      (by decide +kernel)⟩

/-- The run with other senders after the reload can be taken too. -/
theorem runs_narrowed : (runs (step .plain agreeable) ((opened _ _).get opened_app)
    (reloadedSenders [lit "billing@example.test"])).isSome := by
  decide +kernel

/-- A grant that is taken back between RCPT and DATA is used once more: the message is relayed under
the new snapshot, with a sender that it does not allow. -/
theorem relayed_sender_narrowed : ∃ c₀ c, opened [app (lit "pw") [lit "app@example.test"]] [] = some c₀ ∧
    runs (step .plain agreeable) c₀ (reloadedSenders [lit "billing@example.test"]) = some c ∧
    (step .plain agreeable c (.data [] (letter (lit "billing@example.test")))).isSome ∧
    let st := ((Session.data agreeable [] (letter (lit "billing@example.test"))).run c.server).2;
      Event.upstream (.mail (lit "app@example.test")) ∈ newEvents c.server.world st.world ∧
      Event.accepted .close ∈ newEvents c.server.world st.world ∧
      st.session.account = some (app (lit "pw") [lit "billing@example.test"]) ∧
      st.session.from_ = lit "app@example.test" ∧
      (st.session.snap.policyFor (lit "app")).senders.allows (lit "app@example.test") = false :=
  ⟨_, _, (Option.some_get opened_app).symm, (Option.some_get runs_narrowed).symm, by decide +kernel⟩

/-! ## The password of an open session -/

/-- The account in service under a name, if there is one, has the password. -/
def HasPassword (host : Host) (snap : Snapshot) (u p : Bytes) : Prop :=
  ∀ acct ∈ snap.accounts u, acct.disabled = false →
    host.bcrypt.compares acct.passwordHash p = true

instance (host : Host) (snap : Snapshot) (u p : Bytes) : Decidable (HasPassword host snap u p) :=
  inferInstanceAs (Decidable (∀ acct ∈ snap.accounts u, _ → _))

/-- A reload does not change the password of the account that is logged in to, and a login that is
accepted is one that the snapshot in service accepts. -/
def KeepsPassword (host : Host) (c : Connection) : Label → Prop
  | .reload cfg => ∀ snap ∈ (newSnapshot host cfg).toOption, ∀ login ∈ c.login,
      HasPassword host snap login.1 login.2
  | .auth _ u p => ∀ _acct ∈ (c.server.session.snap.accounts.authenticate host.bcrypt u p).toOption,
      HasPassword host c.server.current u p
  | _ => True

instance (host : Host) (c : Connection) : ∀ l, Decidable (KeepsPassword host c l)
  | .reload cfg => inferInstanceAs (Decidable (∀ snap ∈ (newSnapshot host cfg).toOption,
      ∀ login ∈ c.login, HasPassword host snap login.1 login.2))
  | .auth _ u p => inferInstanceAs (Decidable
      (∀ _acct ∈ (c.server.session.snap.accounts.authenticate host.bcrypt u p).toOption,
        HasPassword host c.server.current u p))
  | .mail _ | .rcpt _ | .rset | .data .. => isTrue trivial

/-- A session whose login is one that the snapshot in service accepts, if it has the account. -/
structure Credentialed (host : Host) (c : Connection) : Prop extends Bound host c where
  password : ∀ u p, c.login = some (u, p) → HasPassword host c.server.current u p

/-- A step that keeps the password keeps the credential that the session logged in with good. -/
theorem Credentialed.step {l : Label} (h : Credentialed host c) (hkeeps : KeepsPassword host c l)
    (hstep : step host peers c l = some c') : Credentialed host c' := by
  refine ⟨h.toBound.step hstep, fun u p hup => ?_⟩
  cases step_effect hstep with
  | reloaded hload heq =>
    subst heq
    exact hkeeps _ (by rw [hload]; rfl) (u, p) hup
  | kept hcurrent hsnap haccount hlogin henv =>
    rw [hcurrent]
    exact h.password u p (hlogin ▸ hup)
  | loggedIn hfirst hauth heq =>
    subst heq
    cases hup
    exact hkeeps _ (by rw [hauth]; rfl)
  | renewed haccount hin hcurrent hsnap haccount' hlogin henv =>
    rw [hcurrent]
    exact h.password u p (hlogin ▸ hup)
  | mailed haccount hin hallows heq =>
    subst heq
    exact h.password u p hup

/-- **The credentials of an open session.** In every run whose reloads leave its password to the
account that is logged in to, and whose login the snapshot in service accepts: whenever the session
is still authorized, the snapshot in service accepts its credentials. -/
theorem session_credential_accepted (host : Host) (peers : Peers) (conn : Conn) (w : World)
    (cfg : Config) (labels : List Label) (c₀ c : Connection)
    (hopen : opens host conn w cfg = some c₀)
    (hmeets : Meets (step host peers) (KeepsPassword host) c₀ labels)
    (hrun : runs (step host peers) c₀ labels = some c) (account acct : Account)
    (haccount : c.server.session.account = some account)
    (hpass : ((Session.stillAuthorized account).run c.server).1 = .ok acct) :
    ∃ u p, c.login = some (u, p) ∧
      c.server.current.accounts.authenticate host.bcrypt u p = .ok acct := by
  obtain ⟨snap, hload, rfl⟩ := opens_start hopen
  have hcredentialed : Credentialed host c :=
    runs_invariant_of_meets (I := fun _ c => Credentialed host c)
      (fun _ _ _ _ h hcond hstep => h.step hcond hstep) labels [] _
      ⟨bound_start hload conn w, nofun⟩ hmeets hrun
  obtain ⟨p, hlogin⟩ := hcredentialed.account account haccount
  obtain ⟨found, hin, hstill⟩ | ⟨-, hstill⟩ := Session.stillAuthorized_cases account c.server
  · rw [hstill] at hpass
    cases hpass
    refine ⟨account.username, p, hlogin, AccountStore.authenticate_ok.mpr ⟨hin.1, ?_, hin.2⟩⟩
    exact hcredentialed.password _ _ hlogin acct hin.1 hin.2
  · rw [hstill] at hpass
    cases hpass

/-- A login, and a reload after which `app` has some password. -/
def reloadedPassword (hash : Bytes) : List Label :=
  [.auth false (lit "app") (lit "pw"), .reload (.plain [app hash [lit "app@example.test"]] [])]

/-- The run with the same password after the reload can be taken. -/
theorem runs_unrotated : (runs (step .plain agreeable) ((opened _ _).get opened_app)
    (reloadedPassword (lit "pw"))).isSome := by
  decide +kernel

/-- With the same password after the reload, the session's credential is still good. -/
theorem session_credential_kept : ∃ c₀ c, opened [app (lit "pw") [lit "app@example.test"]] [] = some c₀ ∧
    runs (step .plain agreeable) c₀ (reloadedPassword (lit "pw")) = some c ∧
    ∃ u p, c.login = some (u, p) ∧ c.server.current.accounts.authenticate Host.plain.bcrypt u p =
      .ok (app (lit "pw") [lit "app@example.test"]) :=
  ⟨_, _, (Option.some_get _).symm, (Option.some_get runs_unrotated).symm,
    session_credential_accepted .plain agreeable _ _ _ _ _ _ (Option.some_get opened_app).symm
      (by decide +kernel) (Option.some_get runs_unrotated).symm
      (app (lit "pw") [lit "app@example.test"]) _ (by decide +kernel) (by decide +kernel)⟩

/-- The run with another password after the reload can be taken too. -/
theorem runs_rotated : (runs (step .plain agreeable) ((opened _ _).get opened_app)
    (reloadedPassword (lit "new") ++
      [.mail (lit "app@example.test"), .rcpt (lit "x@y.test")])).isSome := by
  decide +kernel

/-- A session that logged in with a password which was then rotated starts a transaction and
completes it. -/
theorem session_credential_rotated : ∃ c₀ c,
    opened [app (lit "pw") [lit "app@example.test"]] [] = some c₀ ∧
    runs (step .plain agreeable) c₀ (reloadedPassword (lit "new") ++
      [.mail (lit "app@example.test"), .rcpt (lit "x@y.test")]) = some c ∧
    c.fromReceived = true ∧ c.login = some (lit "app", lit "pw") ∧
    c.server.current.accounts.authenticate Host.plain.bcrypt (lit "app") (lit "pw") =
      .error .authFailed ∧
    (step .plain agreeable c (.data [] (letter (lit "app@example.test")))).isSome ∧
    .accepted .close ∈ newEvents c.server.world
      ((Session.data agreeable [] (letter (lit "app@example.test"))).run c.server).2.world :=
  ⟨_, _, (Option.some_get opened_app).symm, (Option.some_get runs_rotated).symm, by decide +kernel⟩

end Connection

end Mailout
