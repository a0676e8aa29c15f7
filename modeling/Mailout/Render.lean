import Mailout.Access
import Mailout.Dataplane
import Mailout.Go.Scan
import Mailout.Go.Sort

/-!
# Rendering a gateway

`internal/render/render.go`: the configuration of the dataplane from a `MailoutGateway`, the accounts
that were accepted and the credentials that were read, and the pre-image of `RestartHash`
(`objects.go`), by which the operator decides whether to replace the pods.

`sort.Slice` by username is not stable, so a configuration is one of the results of rendering
(`Renders`).
-/

namespace Mailout

open Go

/-! ## The API objects -/

/-- `ListenerSpec`. -/
structure ListenerSpec where
  port : Int
  deriving DecidableEq, Repr

/-- `ListenersSpec`. -/
structure ListenersSpec where
  submission : Option ListenerSpec
  smtps : Option ListenerSpec
  deriving DecidableEq, Repr

/-- `GatewayTLSSpec`, with the names of the objects it refers to. -/
structure GatewayTLSSpec where
  certificateRefs : List Bytes
  issuerRef : Option Bytes
  dnsNames : List Bytes
  defaultCertificate : Bytes
  deriving DecidableEq, Repr

/-- `UpstreamSpec`; `tls` is `none` where the text is empty or unknown. -/
structure UpstreamSpec where
  host : Bytes
  port : Int
  tls : Option TLSMode
  insecureSkipVerify : Bool
  handlesDKIM : Bool
  timeout : Option Int
  deriving DecidableEq, Repr

/-- `SecretKeySelector`. -/
structure SecretKeySelector where
  name : Bytes
  key : Bytes
  deriving DecidableEq, Repr

/-- `DKIMKeySpec`. -/
structure DKIMKeySpec where
  domain : Bytes
  selector : Bytes
  privateKeySecretRef : SecretKeySelector
  headerKeys : List Bytes
  deriving DecidableEq, Repr

/-- `MilterSpec`. -/
structure MilterSpec where
  name : Bytes
  address : Bytes
  failOpen : Bool
  timeout : Option Int
  deriving DecidableEq, Repr

/-- `RateLimitStoreTLSSpec`. -/
structure RateLimitStoreTLSSpec where
  insecureSkipVerify : Bool
  deriving DecidableEq, Repr

/-- `RateLimitStoreSpec`. -/
structure RateLimitStoreSpec where
  addresses : List Bytes
  masterName : Bytes
  db : Int
  sentinelAuthSecretRef : Option Bytes
  tls : Option RateLimitStoreTLSSpec
  timeout : Option Int
  deriving DecidableEq, Repr

/-- `RateLimitSpec`. -/
structure RateLimitSpec where
  store : RateLimitStoreSpec
  messagesPerMinute : Option Int
  recipientsPerMinute : Option Int
  deriving DecidableEq, Repr

/-- `MailoutGateway`, with what of its spec is rendered. -/
structure GatewayObject (Selector : Type) extends MailoutGateway Selector where
  hostname : Bytes
  listeners : ListenersSpec
  tls : GatewayTLSSpec
  upstream : UpstreamSpec
  dkim : List DKIMKeySpec
  milters : List MilterSpec
  rateLimit : Option RateLimitSpec

/-- `RateLimitCredentials`. -/
structure RateLimitCredentials where
  username : Bytes
  password : Bytes
  sentinelUsername : Bytes
  sentinelPassword : Bytes
  caPEM : Bytes
  deriving DecidableEq, Repr

/-- `Input`. -/
structure Input (Selector : Type) where
  gateway : Option (GatewayObject Selector)
  accounts : List Account
  upstreamUsername : Bytes
  upstreamPassword : Bytes
  upstreamCAPEM : Bytes
  rateLimitStore : RateLimitCredentials
  metricsToken : Bytes

/-! ## Rendering -/

/-- `ConfigDir`. -/
def ConfigDir : Bytes := lit "/etc/mailout"

/-- `ConfigFileName`. -/
def ConfigFileName : Bytes := lit "gateway.yaml"

/-- `ConfigFilePath`. -/
def ConfigFilePath : Bytes := Filepath.join [ConfigDir, ConfigFileName]

/-- `SpoolDir`. -/
def SpoolDir : Bytes := lit "/var/spool/mailout"

/-- `TLSDir`. -/
def TLSDir : Bytes := lit "/etc/mailout/tls"

/-- `DKIMDir`. -/
def DKIMDir : Bytes := lit "/etc/mailout/dkim"

/-- `DefaultDKIMKeyName`. -/
def DefaultDKIMKeyName : Bytes := lit "private.key"

/-- `DefaultSubmissionPort`. -/
def DefaultSubmissionPort : Int := 587

/-- `DefaultSMTPSPort`. -/
def DefaultSMTPSPort : Int := 465

/-- `MetricsPort`. -/
def MetricsPort : Int := 9090

/-- The address of a port on every interface. -/
def portAddr (port : Int) : Bytes := lit ":" ++ formatInt port

/-- `renderListeners`. -/
def renderListeners (spec : ListenersSpec) : List Listener :=
  (if spec.submission.isSome ∨ spec.smtps.isNone then
    let port := match spec.submission with
      | some l => if l.port ≠ 0 then l.port else DefaultSubmissionPort
      | none => DefaultSubmissionPort
    [⟨lit "submission", portAddr port, .mode .startTLS⟩]
  else []) ++
  match spec.smtps with
  | none => []
  | some l =>
    let port := if l.port ≠ 0 then l.port else DefaultSMTPSPort
    [⟨lit "smtps", portAddr port, .mode .implicit⟩]

/-- There is always a listener: the one for submission is on unless another one is. -/
theorem renderListeners_ne_nil (spec : ListenersSpec) : renderListeners spec ≠ [] := by
  unfold renderListeners
  cases hsmtps : spec.smtps with
  | none => simp
  | some l => simp

/-- `CertificateMountPath`. -/
def CertificateMountPath (secretName : Bytes) : Bytes := Filepath.join [TLSDir, secretName]

/-- `DKIMMountPath`. -/
def DKIMMountPath (secretName : Bytes) : Bytes := Filepath.join [DKIMDir, secretName]

/-- `OwnedCertificateSecretName`. -/
def OwnedCertificateSecretName (gatewayName : Bytes) : Bytes := gatewayName ++ lit "-tls"

variable {Selector : Type}

/-- `CertificateSecretNames`. -/
def CertificateSecretNames (gw : GatewayObject Selector) : List Bytes :=
  if gw.tls.certificateRefs.length > 0 then gw.tls.certificateRefs
  else if gw.tls.issuerRef.isSome then [OwnedCertificateSecretName gw.name]
  else []

/-- The certificate a Secret holds, where it is mounted. -/
def mountedCertificate (secretName : Bytes) : CertificateRef where
  name := secretName
  certFile := Filepath.join [CertificateMountPath secretName, lit "tls.crt"]
  keyFile := Filepath.join [CertificateMountPath secretName, lit "tls.key"]
  certPEM := []
  keyPEM := []

/-- `renderTLS`. -/
def renderTLS (gw : GatewayObject Selector) : TLSConfig where
  certificates := (CertificateSecretNames gw).map mountedCertificate
  defaultCertificate := gw.tls.defaultCertificate

/-- `upstreamTLSMode`. -/
def upstreamTLSMode : Option TLSMode → TLSMode
  | some .implicit => .implicit
  | some .none => .none
  | _ => .startTLS

/-- `renderUpstream`. -/
def renderUpstream (spec : UpstreamSpec) (inp : Input Selector) : Upstream where
  host := spec.host
  port := spec.port
  tls := .mode (upstreamTLSMode spec.tls)
  insecureSkipVerify := spec.insecureSkipVerify
  rootCAPEM := inp.upstreamCAPEM
  username := inp.upstreamUsername
  password := inp.upstreamPassword
  timeout := spec.timeout.getD 0

/-- `renderMilters`. -/
def renderMilters (specs : List MilterSpec) : List MilterConfig :=
  specs.map fun m => ⟨m.name, m.address, m.failOpen, m.timeout.getD 0⟩

/-- `DKIMKeyName`. -/
def DKIMKeyName (spec : DKIMKeySpec) : Bytes :=
  if spec.privateKeySecretRef.key ≠ [] then spec.privateKeySecretRef.key else DefaultDKIMKeyName

/-- `renderDKIM`. -/
def renderDKIM (specs : List DKIMKeySpec) : List DKIMKey :=
  specs.map fun k =>
    ⟨k.domain, k.selector, [],
      Filepath.join [DKIMMountPath k.privateKeySecretRef.name, DKIMKeyName k], k.headerKeys⟩

/-- `renderRateLimit`. -/
def renderRateLimit (spec : Option RateLimitSpec) (creds : RateLimitCredentials) :
    Option RateLimitConfig :=
  spec.map fun spec =>
    { store := {
        addresses := spec.store.addresses
        masterName := spec.store.masterName
        db := spec.store.db
        username := creds.username
        password := creds.password
        sentinelUsername := creds.sentinelUsername
        sentinelPassword := creds.sentinelPassword
        tls := spec.store.tls.isSome
        insecureSkipVerify := spec.store.tls.elim false RateLimitStoreTLSSpec.insecureSkipVerify
        rootCAPEM := spec.store.tls.elim [] fun _ => creds.caPEM
        timeout := spec.store.timeout.getD 0 }
      messagesPerMinute := spec.messagesPerMinute.getD 0
      recipientsPerMinute := spec.recipientsPerMinute.getD 0 }

/-- `GatewayConfig`, with the accounts as they were sorted. -/
def GatewayConfig (inp : Input Selector) (sorted : List Account) : Except Bytes DataplaneConfig :=
  match inp.gateway with
  | none => .error (lit "gateway is required")
  | some gw => .ok {
      hostname := if gw.hostname = [] then gw.name else gw.hostname
      listeners := renderListeners gw.listeners
      tls := renderTLS gw
      upstream := renderUpstream gw.upstream inp
      accounts := sorted
      milters := renderMilters gw.milters
      -- an upstream that signs for us is left to it
      dkim := if gw.upstream.handlesDKIM then [] else renderDKIM gw.dkim
      rateLimit := renderRateLimit gw.rateLimit inp.rateLimitStore
      limits := { maxMessageBytes := 0, maxRecipients := 0, readTimeout := 0, writeTimeout := 0,
                  maxLineLength := 0, maxConnections := 0, spoolDir := SpoolDir, spoolThreshold := 0 }
      metricsToken := inp.metricsToken }

/-- A result of `GatewayConfig`, for one of the orders the sort may give. -/
def Renders (inp : Input Selector) (res : Except Bytes DataplaneConfig) : Prop :=
  ∃ sorted, SortsBy Account.username inp.accounts sorted ∧ res = GatewayConfig inp sorted

/-! ## Where to send -/

/-- `ListenerStatus`. -/
structure ListenerStatus where
  name : Bytes
  port : Int
  mode : Bytes
  deriving DecidableEq, Repr

/-- `int32(n)` -/
def int32 (n : Int) : Int := (n + 2 ^ 31) % 2 ^ 32 - 2 ^ 31

/-- The status of one listener in `ListenerStatuses`; a port that `fmt.Sscan` cannot read is zero. -/
def listenerStatus (l : Listener) : ListenerStatus where
  name := l.name
  port := int32 (match cut colon l.addr with
    | none => 0
    | some (_, portStr) => (sscanInt portStr).getD 0)
  mode := l.mode.text

/-- `ListenerStatuses`. -/
def ListenerStatuses (cfg : DataplaneConfig) : List ListenerStatus :=
  cfg.listeners.map listenerStatus

/-- `Endpoint`. -/
structure Endpoint where
  host : Bytes
  port : Int
  tls : Bytes
  deriving DecidableEq, Repr

/-- `GatewayEndpoint`: the submission listener if there is one. -/
def GatewayEndpoint (gw : GatewayObject Selector) (cfg : DataplaneConfig) : Endpoint :=
  (ListenerStatuses cfg).foldl
    (fun endpoint l =>
      if endpoint.port = 0 ∨ l.name = lit "submission" then
        { endpoint with port := l.port, tls := l.mode }
      else endpoint)
    { host := gw.name ++ lit "." ++ gw.namespace_ ++ lit ".svc", port := 0, tls := [] }

/-! ## When the pods are replaced -/

/-- The loop of `DKIMSecretNames` before the sort. -/
def dkimSecretNamesFrom (seen : List Bytes) : List DKIMKeySpec → List Bytes
  | [] => []
  | k :: ks =>
    let name := k.privateKeySecretRef.name
    if name = [] ∨ name ∈ seen then dkimSecretNamesFrom seen ks
    else name :: dkimSecretNamesFrom (name :: seen) ks

/-- `DKIMSecretNames`; of the accounts it is given nothing is read. -/
def DKIMSecretNames (gw : GatewayObject Selector) : List Bytes :=
  (dkimSecretNamesFrom [] (if gw.upstream.handlesDKIM then [] else gw.dkim)).mergeSort
    fun a b => decide (a ≤ b)

/-- What `RestartHash` digests. -/
structure RestartInput where
  listeners : List Listener
  certificates : List Bytes
  dkim : List Bytes
  deriving DecidableEq, Repr

/-- The text `RestartHash` writes. -/
def RestartInput.text (r : RestartInput) : Bytes :=
  (r.listeners.map fun l => lit "listener=" ++ l.name ++ lit ":" ++ l.addr ++ lit ":" ++ l.mode.text ++
    [lf]).flatten ++
  (r.certificates.map fun name => lit "tls=" ++ name ++ [lf]).flatten ++
  (r.dkim.map fun name => lit "dkim=" ++ name ++ [lf]).flatten

/-- The pre-image of `RestartHash`. -/
def restartInput (gw : GatewayObject Selector) (cfg : DataplaneConfig) : RestartInput :=
  ⟨cfg.listeners, CertificateSecretNames gw, DKIMSecretNames gw⟩

end Mailout
