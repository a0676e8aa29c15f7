import Mailout.Connection
import Mailout.Mailbox

/-!
# What a signature vouches for

Three decisions lie between a submitted message and a signature on it: the envelope is judged by
address, the key by its domain, and the From field by address unless the account has opted out of
that. `Vouched` collects what was decided about a message that is signed, `deliver_signs` says that a
delivery which signs decided so. `signed_from_granted` says when the visible sender is one that the
account was granted: if the From field is checked, or if its whole domain was granted.
-/

namespace Mailout

open Go

section
variable {peers : Peers} {s : Session} {acct : Account} {date : Bytes} {r : ClientData}

open Tx Comp

/-! ## The body that is received -/

/-- A write that goes through appends to the spool. -/
theorem onSpool_write {body : SpoolRef} {w w' : World} {p : Bytes} (hs : (w.spools body).Sound)
    (he : (w.spools body).AtEnd) (h : (onSpool body (Spool.write p)).run w = (.ok (), w')) :
    (w.spools body).Appended (w'.spools body) p := by
  rw [run_onSpool, Prod.mk.injEq] at h
  obtain ⟨hok, rfl⟩ := h
  have happends := (@Spool.write_appends ⟨w.disk, w.spools body⟩ hs he p).2
  simp only [Function.update_self]
  rcases happends with ⟨-, happ⟩ | ⟨-, ⟨what, herr⟩, -⟩
  · exact happ
  · rw [herr] at hok
    exact nomatch hok

/-- If the copy goes through, the spool has all of the client's bytes behind what it had. -/
theorem copyFrom_fills {body : SpoolRef} {err : Option Err} :
    ∀ {chunks : List Bytes} {w w' : World}, (w.spools body).Sound → (w.spools body).AtEnd →
      (copyFrom body err chunks).run w = (.ok (), w') →
      (w.spools body).Appended (w'.spools body) chunks.flatten
  | [], w, w', hs, he, h => by
    cases err with
    | some e => exact nomatch (Prod.ext_iff.mp h).1
    | none =>
      cases h
      exact .refl hs he
  | chunk :: chunks, w, w', hs, he, h => by
    obtain ⟨_, w₁, hpass, hrest⟩ := run_bind_ok h
    have hchunk : (w.spools body).Appended (w₁.spools body) chunk := by
      unfold Tx.pass at hpass
      split_ifs at hpass with hnil
      · cases hpass
        rw [hnil]
        exact .refl hs he
      · exact onSpool_write hs he hpass
    exact hchunk.trans (copyFrom_fills hchunk.sound hchunk.atEnd hrest)

/-- A body that was received holds the Received field and what the client sent. -/
theorem receive_fills {body : SpoolRef} {w w' : World} (hs : (w.spools body).Sound)
    (he : (w.spools body).AtEnd) (h : (receive s acct date r body).run w = (.ok (), w')) :
    (w'.spools body).contents = (w.spools body).contents ++ (receivedHeader s acct date ++ r.bytes) := by
  obtain ⟨written, w₁, hwrite, hrest⟩ := run_bind_ok h
  cases written with
  | error e => exact nomatch (Prod.ext_iff.mp hrest).1
  | ok u =>
    rw [run_attempt] at hwrite
    obtain ⟨hok, hw₁⟩ := Prod.ext_iff.mp hwrite
    have hfirst := onSpool_write hs he (Prod.ext (Except.ok.inj hok) hw₁)
    exact (hfirst.trans (copyFrom_fills hfirst.sound hfirst.atEnd hrest)).contents

/-! ## A delivery that signs -/

/-- What is decided about a message `b` before it is signed under `d`. -/
structure Vouched (policy : AccountPolicy) (d b : Bytes) : Prop where
  signable : policy.senders.canSign d = true
  checked : policy.skipHeaderFromCheck = false → ∃ st : SpoolState, st.spool.contents = b ∧
    ((checkHeaderFrom policy.senders).run st).1 = .ok ()

/-- A message that goes on had its From field checked, unless the account has opted out. -/
theorem headerStage_ok {policy : AccountPolicy} {body : SpoolRef} {w w' : World}
    (h : (headerStage acct policy body).run w = (.ok (), w'))
    (hskip : policy.skipHeaderFromCheck = false) :
    ((checkHeaderFrom policy.senders).run ⟨w.disk, w.spools body⟩).1 = .ok () := by
  unfold headerStage at h
  split_ifs at h with hskipped
  · exact absurd hskipped (by rw [hskip]; exact Bool.false_ne_true)
  · obtain ⟨checked, w₁, hcheck, hrest⟩ := run_bind_ok h
    cases checked with
    | error e =>
      obtain ⟨_, _, -, hfail⟩ := run_bind_ok hrest
      exact nomatch (Prod.ext_iff.mp hfail).1
    | ok u =>
      rw [run_attempt] at hcheck
      exact Except.ok.inj (Prod.ext_iff.mp hcheck).1

/-- The stages of a message that is signed. -/
theorem handle_signs {body : SpoolRef} {w : World} {d : Bytes}
    (h : Utters (.dkimResult d .signed) (handle peers s acct body) w) :
    Vouched (s.snap.policyFor acct.username) d (w.spools body).contents := by
  have hother : ∀ e : Event, e.signature = none → e ≠ .dkimResult d .signed := by
    rintro e he rfl
    exact nomatch he
  have hrest : ∀ there : Bool, Keeps (Says fun _ => True) (if there = true then do
      signStage peers s.snap.dkim acct (s.snap.policyFor acct.username)
      relayStage peers s.snap.relay acct else pure ()) := by
    intro there
    cases there with
    | false => exact .pure Says.refl _
    | true =>
      exact .bind Says.trans (says_signStage peers (fun _ _ => trivial) _ _ _ (fun _ => trivial)
        (fun _ => trivial) fun _ _ => trivial) fun _ => says_relayStage peers (fun _ _ => trivial) _ _
          (fun _ => trivial) (fun _ => trivial) fun _ _ => trivial
  obtain ⟨_, w₁, hheader, h₁⟩ := h.bind (says_headerStage (fun _ _ => hother _ rfl) _ _ _)
    fun _ => .bind Says.trans (says_filterStage peers (fun _ _ => trivial) _ _ _ (fun _ _ => trivial)
      fun _ _ => trivial) hrest
  obtain ⟨there, w₂, -, h₂⟩ := h₁.bind (says_filterStage peers (fun _ _ => hother _ rfl)
    _ _ _ (fun _ _ => hother _ rfl) fun _ _ => hother _ rfl) hrest
  refine ⟨?_, fun hskip => ⟨⟨w.disk, w.spools body⟩, rfl, headerStage_ok hheader hskip⟩⟩
  cases there with
  | false => exact absurd (h₂.of_says (P := fun _ => False) (.pure Says.refl _)) id
  | true =>
    let P : Event → Prop := fun e =>
      ∀ d, e = .dkimResult d .signed → (s.snap.policyFor acct.username).senders.canSign d = true
    have hplain : ∀ e : Event, e.signature = none → P e := by
      rintro _ he d rfl
      exact nomatch he
    refine h₂.of_says (P := P) (.bind Says.trans (says_signStage peers (fun _ _ => hplain _ rfl)
      _ _ _ ?_ ?_ ?_) fun _ => says_relayStage peers (fun _ _ => hplain _ rfl) _ _
        (fun _ => hplain _ rfl) (fun _ => hplain _ rfl) fun _ _ => hplain _ rfl) d rfl
    · exact fun _ _ he => nomatch he
    · exact fun _ _ he => nomatch he
    · rintro d hsign _ he
      cases he
      exact hsign

/-- The transaction of a message that is signed: what was decided about it is what was received. -/
theorem transact_signs {body : SpoolRef} {w : World} {d : Bytes} (hs : (w.spools body).Sound)
    (he : (w.spools body).AtEnd) (hempty : (w.spools body).contents = [])
    (h : Utters (.dkimResult d .signed) (transact peers s acct date r body) w) :
    Vouched (s.snap.policyFor acct.username) d (receivedHeader s acct date ++ r.bytes) := by
  have hmessage : ∀ m : Message, Keeps (Says fun _ => True)
      (do setMessage m; handle peers s acct body) := fun m =>
    .bind Says.trans (says_of_silent (silent_setMessage m)) fun _ => grows_handle peers _ _ _
  obtain ⟨_, w₁, hreceive, h₁⟩ := h.bind (says_of_silent (silent_receive _ _ _ _ _)) fun _ => by
    refine .bind Says.trans (.get Says.refl) fun w => ?_
    exact .bind Says.trans (.when Says.refl (says_emit trivial)) fun _ => hmessage _
  have hcontents : (w₁.spools body).contents = receivedHeader s acct date ++ r.bytes := by
    rw [receive_fills hs he hreceive, hempty, List.nil_append]
  obtain ⟨_, _, hget, h₂⟩ := h₁.bind (.get Says.refl) fun _ =>
    .bind Says.trans (.when Says.refl (says_emit trivial)) fun _ => hmessage _
  cases hget
  obtain ⟨_, w₂, hwhen, h₃⟩ := h₂.bind (.when Says.refl (says_emit nofun)) fun _ => hmessage _
  -- the event of a spooled body touches no spool
  have hkept : w₂.spools = w₁.spools := by
    unfold Comp.when at hwhen
    split_ifs at hwhen <;> cases hwhen <;> rfl
  obtain ⟨_, _, hset, h₄⟩ := h₃.bind (says_of_silent (silent_setMessage _)) fun _ =>
    grows_handle peers _ _ _
  cases hset
  have hvouched := handle_signs h₄
  rwa [hkept, hcontents] at hvouched

/-- **A delivery that signs.** The policy may sign for the domain, and the From field of what was
received was checked, where that is asked for. -/
theorem deliver_signs {w : World} {d : Bytes}
    (h : Utters (.dkimResult d .signed) (deliver peers s acct date r) w) :
    Vouched (s.snap.policyFor acct.username) d (receivedHeader s acct date ++ r.bytes) := by
  have hgrow : ∀ body, Keeps (Says fun _ => True)
      (deferred (close body) (transact peers s acct date r body)) := fun body =>
    .deferred Says.trans (says_of_silent (silent_close _)) (grows_transact peers _ _ _ _ _)
  obtain ⟨checked, w₁, -, h₁⟩ := h.bind (says_perform peers (fun _ => nofun) _) fun checked => by
    cases checked with
    | error e => exact .bind Says.trans (says_emit trivial) fun _ => .fail Says.refl _
    | ok u => exact .bind Says.trans (says_of_silent fun _ => rfl) fun body => hgrow body
  cases checked with
  | error e =>
    exact absurd rfl (h₁.of_says (P := (· ≠ _)) (.bind Says.trans (says_emit nofun)
      fun _ => .fail Says.refl _))
  | ok u =>
    obtain ⟨body, w₂, hcreate, h₂⟩ := h₁.bind (says_of_silent fun _ => rfl) hgrow
    cases hcreate
    -- closing the body says nothing, so what was said is the transaction's
    have hnew : (Function.update w₁.spools w₁.created s.snap.newSpool) w₁.created = s.snap.newSpool :=
      Function.update_self ..
    refine @transact_signs _ _ _ _ _ w₁.created _ _ ?_ ?_ ?_ h₂ <;> simp only [hnew]
    · exact ⟨rfl, nofun⟩
    · exact nofun
    · rfl

end

/-! ## The visible sender -/

/-- The From field that was checked is the one the reader finds. -/
theorem Vouched.allows_sole {policy : AccountPolicy} {d b v : Bytes} (h : Vouched policy d b)
    (hskip : policy.skipHeaderFromCheck = false) (hsole : SoleFrom b v) :
    policy.senders.allows v = true := by
  obtain ⟨st, rfl, hcheck⟩ := h.checked hskip
  obtain ⟨v', hfroms, hallowed⟩ := checkHeaderFrom_ok hcheck
  obtain ⟨block, hblock, hv⟩ := headerFroms_ok hfroms
  obtain ⟨-, hsplit, hfolded⟩ := headerSection_split hblock
  have hne : readLines false (splitLines st.spool.contents) ≠ [] := by
    intro hnil
    rw [hnil] at hv
    cases hv
  rw [SoleFrom, ← froms_eq_singleton, hsplit, froms_append _ (hfolded hne), ← hv,
    List.singleton_append, List.cons.injEq] at hsole
  obtain ⟨rfl, -⟩ := hsole
  exact hallowed

/-- A mailbox of a domain that was granted as a whole. -/
theorem allows_of_domain {p : SenderPolicy} {m : Mailbox} {l d : Bytes}
    (hcut : cut atSign (normalize m.address) = some (l, d)) (hd : d ∈ p.domains) :
    p.allows m.text = true := by
  rw [SenderPolicy.allows_iff, m.bareAddress_text]
  refine ⟨?_, .inr ⟨l, d, hcut, hd⟩⟩
  intro hnil
  rw [Go.normalize, hnil] at hcut
  cases hcut

/-- **The visible sender of a signed message.** If a message with one From field, of one mailbox, is
signed under the mailbox's domain, then the account was granted that domain or an address in it. It
was granted the mailbox itself if the From field is checked, or if it was granted the domain. -/
theorem signed_from_granted (peers : Peers) (date : Bytes) (r : ClientData) (st : ServerState)
    (m : Mailbox) (l d : Bytes)
    (hsigned : .dkimResult d .signed ∈
      newEvents st.world ((Session.data peers date r).run st).2.world)
    (hdomain : cut atSign (normalize m.address) = some (l, normalize d)) :
    ∃ s acct, ((Session.data peers date r).run st).2.session = s ∧ s.account = some acct ∧
      (s.snap.policyFor acct.username).senders.canSign d = true ∧
      (SoleFrom (receivedHeader s acct date ++ r.bytes) m.text →
        (s.snap.policyFor acct.username).skipHeaderFromCheck = false ∨
          normalize d ∈ (s.snap.policyFor acct.username).senders.domains →
        (s.snap.policyFor acct.username).senders.allows m.text = true) := by
  obtain ⟨e, closed, hrun⟩ | ⟨account, acct, -, -, -, hrun⟩ := Session.data_cases peers date r st
  · rw [hrun, newEvents, List.drop_length] at hsigned
    exact absurd hsigned List.not_mem_nil
  · rw [hrun] at hsigned ⊢
    have hvouched := deliver_signs hsigned
    refine ⟨_, acct, rfl, rfl, hvouched.signable, ?_⟩
    rintro hsole (hskip | hgranted)
    · exact hvouched.allows_sole hskip hsole
    · exact allows_of_domain hdomain hgranted

section
open Connection

/-- The account `app`, granted one address. -/
def exactApp (skipHeaderFromCheck : Bool) : Account :=
  ⟨lit "app", lit "pw", false, [lit "app@example.test"], skipHeaderFromCheck⟩

/-- A key for the domain of that address. -/
def exampleKey : DKIMKey := ⟨lit "example.test", lit "mail", [], [], []⟩

/-- A login of `app`, and an envelope from its address. -/
def exactEnvelope : List Label :=
  [.auth false (lit "app") (lit "pw"), .mail (lit "app@example.test"), .rcpt (lit "x@y.test")]

/-- The date of a Received field. -/
def aDate : Bytes := lit "Mon, 2 Jan 2006 15:04:05 +0000"

/-- A mailbox of that domain. -/
def mailboxOf (localPart : Part) : Mailbox := .bare localPart ⟨lit "example.test", by decide +kernel⟩

/-- A connection to a gateway with that account and a key is opened. -/
theorem opened_exact (skip : Bool) : (opened [exactApp skip] [exampleKey]).isSome := by
  cases skip <;> decide +kernel

/-- The envelope is one that the connection can take. -/
theorem runs_exact (skip : Bool) : (runs (step .plain agreeable)
    ((opened _ _).get (opened_exact skip)) exactEnvelope).isSome := by
  cases skip <;> decide +kernel

/-- A message of the account whose From is the address that it may use, with a key for the domain. -/
theorem signed_from_checked : ∃ c₀ c, opened [exactApp false] [exampleKey] = some c₀ ∧
    runs (step .plain agreeable) c₀ exactEnvelope = some c ∧
    ∃ s acct, ((Session.data agreeable aDate (letter (lit "app@example.test"))).run c.server).2.session =
        s ∧ s.account = some acct ∧
      (s.snap.policyFor acct.username).senders.canSign (lit "example.test") = true ∧
      (SoleFrom (receivedHeader s acct aDate ++ (letter (lit "app@example.test")).bytes)
          (mailboxOf ⟨lit "app", by decide +kernel⟩).text →
        (s.snap.policyFor acct.username).skipHeaderFromCheck = false ∨
          normalize (lit "example.test") ∈ (s.snap.policyFor acct.username).senders.domains →
        (s.snap.policyFor acct.username).senders.allows
          (mailboxOf ⟨lit "app", by decide +kernel⟩).text = true) :=
  ⟨_, _, (Option.some_get _).symm, (Option.some_get (runs_exact false)).symm,
    signed_from_granted agreeable aDate _ _ _ (lit "app") _ (by decide +kernel) (by decide +kernel)⟩

/-- An account with one address of a domain, and without the check of the From field, has a message
signed that shows another address of the domain. -/
theorem signed_from_other : ∃ c₀ c, opened [exactApp true] [exampleKey] = some c₀ ∧
    runs (step .plain agreeable) c₀ exactEnvelope = some c ∧
    (step .plain agreeable c (.data aDate (letter (lit "ceo@example.test")))).isSome ∧
    ∃ st, ((Session.data agreeable aDate (letter (lit "ceo@example.test"))).run c.server).2 = st ∧
      .dkimResult (lit "example.test") .signed ∈ newEvents c.server.world st.world ∧
      SoleFrom (receivedHeader st.session (exactApp true) aDate ++ (letter (lit "ceo@example.test")).bytes)
        (mailboxOf ⟨lit "ceo", by decide +kernel⟩).text ∧
      cut atSign (normalize (mailboxOf ⟨lit "ceo", by decide +kernel⟩).address) =
        some (lit "ceo", lit "example.test") ∧
      (st.session.snap.policyFor (lit "app")).senders.allows
        (mailboxOf ⟨lit "ceo", by decide +kernel⟩).text = false :=
  ⟨_, _, (Option.some_get (opened_exact true)).symm, (Option.some_get (runs_exact true)).symm,
    by decide +kernel, _, rfl, by decide +kernel, froms_eq_singleton.mp (by decide +kernel),
    by decide +kernel, by decide +kernel⟩

end

end Mailout
