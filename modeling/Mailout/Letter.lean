import Mailout.Chain

/-!
# A message as a byte sequence

What Data is for, without spools: a message is an envelope and a byte sequence, which the stages of
`session.Data` check, rewrite, sign and relay. The parties hear what is said to them; they do not hear
where a body is kept (`messageSpooled`), nor how it is cut into writes on its way to the upstream
server. `Peers.deaf` turns parties that answer to what is heard into parties of a transaction.

A delivery is one of these wherever its bodies are, as long as the disk does not fail (`Stages`,
`Independence`).
-/

namespace Mailout

open Go

/-! ## What is heard -/

/-- What can be heard of an event: of the writes of a body, the bytes that were taken. -/
def Event.audible : Event → List Event
  | .messageSpooled _ => []
  | .upstream (.write _) => []
  | .accepted (.write chunk) => chunk.map fun byte => .accepted (.write [byte])
  | e => [e]

/-- What can be heard of what was said. -/
def heard (trace : List Event) : List Event := trace.flatMap Event.audible

/-- What is heard of two stretches is heard of one after the other. -/
theorem heard_append (es es' : List Event) : heard (es ++ es') = heard es ++ heard es' :=
  List.flatMap_append

/-- Parties that answer to what is heard. No write of a body to the upstream server fails. -/
def Peers.deaf (peers : Peers) : Peers where
  quota trace call := peers.quota (heard trace) call
  isIPv6 := peers.isIPv6
  milter trace := peers.milter (heard trace)
  milterEnd trace := peers.milterEnd (heard trace)
  upstream trace :=
    match trace.getLast? with
    | some (.upstream (.write _)) => none
    | _ => peers.upstream (heard trace)
  dkim := peers.dkim

/-! ## A message on the desk -/

/-- A message in the making, and what was heard so far. -/
structure Desk where
  from_ : Bytes
  to_ : List Bytes
  bytes : Bytes
  heard : List Event

/-- What happens to a message on the desk. -/
abbrev Post := Comp Err Desk

/-- What an action of a filter does to the envelope. -/
def Desk.edit (act : ModifyAction) (d : Desk) : Desk :=
  match act with
  | .changeFrom from_ => { d with from_ := unbracket from_ }
  | .addRcpt rcpt => { d with to_ := d.to_ ++ [unbracket rcpt] }
  | .delRcpt rcpt => { d with to_ := removeRecipient d.to_ (unbracket rcpt) }
  | _ => d

/-- Bytes are heard on their way to the upstream server. -/
def Desk.wire (d : Desk) (b : Bytes) : Desk :=
  { d with heard := d.heard ++ b.map fun byte => .accepted (.write [byte]) }

/-- The key a message is signed with. -/
def Desk.keyFor (d : Desk) (s : DKIMSigner) : Option LoadedDKIMKey :=
  match s.byDomain (domainOf d.from_) with
  | some key => some key
  | none => (firstFrom (parseMessage (headerBlockOf d.bytes).1).headers).bind fun field =>
      s.byDomain (domainOf field.value)

/-- The check of the From field, on the bytes of a message. -/
def checkFrom (policy : SenderPolicy) (b : Bytes) : Except Err Unit :=
  match headerBlockOf b with
  | (_, false) => .error (errMalformedHeaders (lit "no end of header block found"))
  | (header, true) =>
    match fromValues (parseMessage header).headers with
    | .error e => .error e
    | .ok [value] =>
      if policy.allows value then .ok () else .error (errSenderNotAllowed (trimSpace value))
    | .ok [] => .error (errMalformedHeaders (lit "no From header"))
    | .ok _ => .error (errMalformedHeaders (lit "more than one From header"))

namespace Post

def emit (e : Event) : Post Unit := Comp.modify fun d => { d with heard := d.heard ++ [e] }

section
variable (peers : Peers)

/-- A program of the quota store. -/
def perform {α : Type} : StoreProg α → Post α
  | .ret a => pure a
  | .call op k => do
    emit (.quota op)
    perform (k (peers.quota (← Comp.get).heard op))

/-! ### The filters -/

def say (f : Milter) (call : MilterCall) : Post Unit := do
  emit (.milter f.name call)
  Comp.ofExcept (verdict peers (← Comp.get).heard)

def sayAll (f : Milter) : List MilterCall → Post Unit
  | [] => pure ()
  | call :: calls => do
    say peers f call
    sayAll f calls

def openSession (f : Milter) (info : SessionInfo) (from_ : Bytes) : Post Unit := do
  emit (.milter f.name (.session (macros info from_)))
  match peers.milter (← Comp.get).heard with
  | .error e => Comp.fail (.other (lit "open milter session: " ++ e))
  | .ok _ => return

/-- A filter is shown the message, and asks for modifications. -/
def askFilter (f : Milter) (info : SessionInfo) : Post Request := do
  let d ← Comp.get
  openSession peers f info d.from_
  sayAll peers f ([.conn info.hostname (if peers.isIPv6 info.remoteIP then .inet6 else .inet)
      info.remotePort info.remoteIP, .helo info.hostname, .mail d.from_] ++
    d.to_.map .rcpt ++ [.dataStart])
  let (block, terminated) := headerBlockOf (← Comp.get).bytes
  let header := if terminated then block else []
  let parsed := if terminated then parseMessage block else ⟨[], []⟩
  sayAll peers f (parsed.headers.map .headerField ++ [.headerEnd])
  emit (.milter f.name (.body ((← Comp.get).bytes.drop header.length) true))
  let acts ← Comp.ofExcept (finalAnswer none (peers.milterEnd (← Comp.get).heard))
  return ⟨acts, parsed, header.length⟩

/-- The modifications, from some action on: edits of the envelope and the header fields, the chunks of
a new body, and in the end a message put together again if either changed. -/
def applyModifications (f : Milter) (headerLen : Nat) : List ModifyAction → ParsedMessage → Bool →
    Option Bytes → Post Unit
  | [], parsed, changed, replacement => do
    Comp.when (changed ∨ replacement.isSome) (Comp.modify fun d =>
      { d with bytes := parsed.writeHeaders ++ replacement.getD (d.bytes.drop headerLen) })
    if (← Comp.get).to_.length = 0 then
      Comp.fail (.smtp ⟨554, (5, 7, 1), lit "All recipients removed by filters"⟩)
  | .replaceBody body :: acts, parsed, changed, replacement =>
    applyModifications f headerLen acts parsed changed (some (replacement.getD [] ++ body))
  | .quarantine _ :: _, _, _, _ =>
    Comp.fail (.smtp ⟨554, (5, 7, 1), lit "Message quarantined by " ++ f.name⟩)
  | act :: acts, parsed, changed, replacement => do
    Comp.modify (Desk.edit act)
    applyModifications f headerLen acts (act.onHeaders parsed) (act.changesHeaders || changed)
      replacement

def runOne (f : Milter) (info : SessionInfo) : Post Unit := do
  let req ← askFilter peers f info
  applyModifications f req.headerLen req.acts req.parsed false none

/-- What the chain does with one filter. -/
def consult (info : SessionInfo) (f : Milter) : Post Unit := do
  match ← Comp.attempt (runOne peers f info) with
  | .ok () => emit (.milterDecided f.name .accept)
  | .error (.smtp e) =>
    emit (.milterDecided f.name .reject)
    Comp.fail (.smtp e)
  | .error .discard =>
    emit (.milterDecided f.name .discard)
    Comp.fail .discard
  | .error (.other _) =>
    emit (.milterDecided f.name .unavailable)
    if f.failOpen then pure () else Comp.fail (errFilterUnavailable f)

def runChain (info : SessionInfo) : List Milter → Post Unit
  | [] => pure ()
  | f :: filters => do
    consult peers info f
    runChain info filters

/-! ### The signature -/

/-- The signature is put in front of the message. -/
def signWith (key : LoadedDKIMKey) : Post Unit := do
  match peers.dkim.field key (← Comp.get).bytes with
  | .error e =>
    emit (.dkimResult key.domain .failed)
    Comp.fail (signError key.domain (.other e))
  | .ok signature =>
    Comp.modify fun d => { d with bytes := signature ++ d.bytes }
    emit (.dkimResult key.domain .signed)

def sign (s : DKIMSigner) (policy : SenderPolicy) : Post Unit := do
  match (← Comp.get).keyFor s with
  | none => return
  | some key =>
    if policy.canSign key.domain then signWith peers key
    else emit (.dkimResult key.domain .refused)

/-! ### The relay -/

def callUpstream (call : UpstreamCall) : Post (Option Err) := do
  emit (.upstream call)
  match peers.upstream (← Comp.get).heard with
  | some e => return some e
  | none =>
    emit (.accepted call)
    return none

def command (stage : Bytes) (call : UpstreamCall) : Post Unit := do
  match ← callUpstream peers call with
  | some e => Comp.fail (wrapUpstream stage e)
  | none => return

def dial (r : Relayer) : Post Unit := do
  match ← callUpstream peers .dial with
  | some _ => Comp.fail upstreamUnavailable
  | none => Comp.when (r.tls = .startTLS) (command peers (lit "STARTTLS") .startTLS)

def sendRecipients : List Bytes → Post Unit
  | [] => pure ()
  | rcpt :: rcpts => do
    command peers (lit "RCPT TO") (.rcpt rcpt)
    sendRecipients rcpts

/-- The bytes of the message are heard, and then its end. -/
def send (r : Relayer) : Post Unit := do
  dial peers r
  command peers (lit "EHLO") (.hello r.heloName)
  Comp.when (r.username ≠ []) (command peers (lit "AUTH") (.auth r.username r.password))
  let d ← Comp.get
  command peers (lit "MAIL FROM") (.mail d.from_)
  sendRecipients peers d.to_
  command peers (lit "DATA") .data
  Comp.modify fun d => d.wire d.bytes
  command peers (lit "DATA close") .close
  let _ ← callUpstream peers .quit
  return

/-! ### A delivery -/

/-- The message is received under its Received field, unless the client's stream fails. -/
def receive (s : Session) (acct : Account) (date : Bytes) (r : ClientData) : Post Unit :=
  match r.err with
  | some e => Comp.fail e
  | none => Comp.modify fun d =>
      ⟨s.from_, s.to_, receivedHeader s acct date ++ r.bytes, d.heard⟩

def headerStage (acct : Account) (policy : AccountPolicy) : Post Unit := do
  let d ← Comp.get
  if policy.skipHeaderFromCheck then pure ()
  else
    match checkFrom policy.senders d.bytes with
    | .error e =>
      emit (.messageHandled acct.username .rejected)
      Comp.fail e
    | .ok () => return

def filterStage (info : SessionInfo) (acct : Account) (policy : AccountPolicy) : Post Bool :=
  if policy.milters = [] then pure true
  else do
    match ← Comp.attempt (runChain peers info policy.milters) with
    | .ok () => return true
    | .error .discard =>
      emit (.messageHandled acct.username .discarded)
      return false
    | .error e =>
      emit (.messageHandled acct.username (filterResult e))
      Comp.fail e

def signStage (signer : DKIMSigner) (acct : Account) (policy : AccountPolicy) : Post Unit :=
  if signer.empty then pure ()
  else do
    match ← Comp.attempt (sign peers signer policy.senders) with
    | .ok () => return
    | .error _ =>
      emit (.messageHandled acct.username .deferred)
      Comp.fail errUnsigned

def relayStage (relay : Relayer) (acct : Account) : Post Unit := do
  match ← Comp.attempt (send peers relay) with
  | .error e =>
    emit (.messageHandled acct.username (relayResult e))
    Comp.fail e
  | .ok () =>
    let d ← Comp.get
    emit (.messageRelayed acct.username d.bytes.length)

/-- A delivery up to the filters. -/
def opening (s : Session) (acct : Account) (date : Bytes) (r : ClientData) : Post Unit := do
  match ← perform peers (Limiter.check s.snap.limiter acct.username s.to_.length) with
  | .error e =>
    emit (.messageHandled acct.username .deferred)
    Comp.fail e
  | .ok () =>
    receive s acct date r
    headerStage acct (s.snap.policyFor acct.username)

/-- A delivery between the check of the From field and the relay; whether there is a message to
relay. -/
def treat (s : Session) (acct : Account) : Post Bool := do
  if ← filterStage peers (sessionInfo s acct) acct (s.snap.policyFor acct.username) then
    signStage peers s.snap.dkim acct (s.snap.policyFor acct.username)
    return true
  else return false

/-- A delivery. -/
def deliver (s : Session) (acct : Account) (date : Bytes) (r : ClientData) : Post Unit := do
  opening peers s acct date r
  if ← treat peers s acct then relayStage peers s.snap.relay acct

end

/-- A report is heard. -/
@[simp] theorem run_emit (e : Event) (d : Desk) :
    (emit e).run d = (.ok (), { d with heard := d.heard ++ [e] }) := rfl

/-- A call of the upstream server is heard, and so is that it was accepted. -/
theorem run_callUpstream (peers : Peers) (call : UpstreamCall) (d : Desk) :
    (callUpstream peers call).run d = (match peers.upstream (d.heard ++ [.upstream call]) with
      | some e => (.ok (some e), { d with heard := d.heard ++ [.upstream call] })
      | none => (.ok none, { d with heard := d.heard ++ [.upstream call, .accepted call] })) := by
  rw [callUpstream, Comp.run_bind_of_ok (run_emit _ _), Comp.run_bind_of_ok (Comp.run_get _)]
  cases peers.upstream (d.heard ++ [.upstream call]) with
  | some e => rfl
  | none =>
    show (_, _) = (_, _)
    simp

/-- An edit is carried out, and the loop goes on. -/
theorem applyModifications_edit {act : ModifyAction} (h : act.edits = true) (f : Milter)
    (headerLen : Nat) (acts : List ModifyAction) (parsed : ParsedMessage) (changed : Bool)
    (replacement : Option Bytes) (d : Desk) :
    (applyModifications f headerLen (act :: acts) parsed changed replacement).run d =
      (applyModifications f headerLen acts (act.onHeaders parsed) (act.changesHeaders || changed)
        replacement).run (d.edit act) := by
  cases act with
  | replaceBody body => cases h
  | quarantine reason => cases h
  | _ => rfl

end Post

end Mailout
