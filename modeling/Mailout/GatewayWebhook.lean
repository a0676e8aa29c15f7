import Mailout.Render
import Mailout.Validation

/-!
# Admission of gateways

`internal/webhook/v1alpha1/mailoutgateway_webhook.go`. The webhook checks the spec, the operator renders
it (`GatewayConfig`), and the dataplane checks what was rendered (`Validate`, `newDKIMSigner`), each with
its own defaults. `admitted_servable` says that what is admitted is served: with any accounts and any
credentials, the rendering succeeds and passes the checks of the dataplane.
-/

namespace Mailout

open Go

variable {Selector : Type}

/-- `GatewayValidator`, with the functions of Go and apimachinery it calls. -/
structure GatewayValidator (Selector : Type) where
  operatorNamespace : Bytes
  certManagerAvailable : Bool
  /-- `strconv.Quote` -/
  quote : Bytes → Bytes
  /-- `metav1.LabelSelectorAsSelector` -/
  labelSelectorAsSelector : Selector → Except Bytes (Labels → Bool)

/-! ## The checks -/

/-- The switch of `validateTLS`. -/
def certificateSourceErrors (tls : GatewayTLSSpec) (path : FieldPath) : List (FieldError Selector) :=
  if tls.certificateRefs.length > 0 ∧ tls.issuerRef.isSome then
    [.invalid path (.text (lit "certificateRefs and issuerRef"))
      (lit "give either certificateRefs, to bring your own Secrets, or issuerRef, " ++
        lit "to let the operator create a cert-manager Certificate — not both")]
  else if tls.certificateRefs.length = 0 ∧ tls.issuerRef.isNone then
    [.required path (lit "either certificateRefs or issuerRef is required: clients authenticate on " ++
      lit "this gateway, so it never listens without TLS")]
  else []

/-- `validateTLS`. -/
def GatewayValidator.validateTLS (v : GatewayValidator Selector) (gw : GatewayObject Selector)
    (path : FieldPath) : List (FieldError Selector) :=
  certificateSourceErrors gw.tls path ++
  (match gw.tls.issuerRef with
    | none => []
    | some issuer =>
      (if ¬ v.certManagerAvailable then
        [.invalid (path.child (lit "issuerRef")) (.text issuer)
          (lit "cert-manager is not installed in this cluster; bring your own certificate " ++
            lit "Secrets with certificateRefs instead")]
      else []) ++
      (if gw.tls.dnsNames.length = 0 ∧ gw.hostname = [] then
        [.required (path.child (lit "dnsNames"))
          (lit "required with issuerRef, unless spec.hostname is set")]
      else [])) ++
  (if gw.tls.defaultCertificate ≠ [] ∧ gw.tls.defaultCertificate ∉ gw.tls.certificateRefs then
    [.invalid (path.child (lit "defaultCertificate")) (.text gw.tls.defaultCertificate)
      (lit "must name one of spec.tls.certificateRefs")]
  else []) ++
  checkEach id (fun i ref => .duplicate ((path.child (lit "certificateRefs")).index i) (.text ref))
    (fun _ _ => []) 0 [] gw.tls.certificateRefs

/-- `listenerPort`. -/
def listenerPort (spec : ListenerSpec) (default : Int) : Int :=
  if spec.port = 0 then default else spec.port

/-- What `validateListeners` reports of a listener on the port of the metrics. -/
def metricsPortErrors (path : FieldPath) (name : Bytes) (spec : Option ListenerSpec)
    (default : Int) : List (FieldError Selector) :=
  match spec with
  | none => []
  | some spec =>
    let port := listenerPort spec default
    if port = MetricsPort then
      [.invalid ((path.child name).child (lit "port")) (.number port)
        (lit "port " ++ formatInt MetricsPort ++
          lit " is the gateway's own metrics port; the pod would fail to bind both")]
    else []

/-- `validateListeners`. -/
def validateListeners (spec : ListenersSpec) (path : FieldPath) : List (FieldError Selector) :=
  (match spec.submission, spec.smtps with
    | some submission, some smtps =>
      let smtpsPort := listenerPort smtps 465
      if listenerPort submission 587 = smtpsPort then
        [.invalid ((path.child (lit "smtps")).child (lit "port")) (.number smtpsPort)
          (lit "the two listeners cannot share a port")]
      else []
    | _, _ => []) ++
  metricsPortErrors path (lit "submission") spec.submission 587 ++
  metricsPortErrors path (lit "smtps") spec.smtps 465

/-- `validateMilters`. -/
def validateMilters (quote : Bytes → Bytes) (milters : List MilterSpec) (path : FieldPath) :
    List (FieldError Selector) :=
  checkEach MilterSpec.name (fun i m => .duplicate ((path.index i).child (lit "name")) (.text m.name))
    (fun i m =>
      match MilterConfig.parseAddress quote ⟨[], m.address, false, 0⟩ with
      | .ok _ => []
      | .error err => [.invalid ((path.index i).child (lit "address")) (.text m.address) err])
    0 [] milters

/-- `validateSenderGrants`. -/
def GatewayValidator.validateSenderGrants (v : GatewayValidator Selector)
    (grants : List (SenderGrant Selector)) (path : FieldPath) : List (FieldError Selector) :=
  (grants.mapIdx fun i grant =>
    validateAllowedSenders grant.senders ((path.index i).child (lit "senders")) ++
    match grant.namespaceSelector with
    | none => []
    | some sel =>
      match v.labelSelectorAsSelector sel with
      | .ok _ => []
      | .error err =>
        [.invalid ((path.index i).child (lit "namespaceSelector")) (.selector sel) err]).flatten

/-- `containsFold`. -/
def containsFold (values : List Bytes) (want : Bytes) : Bool := values.any (equalFold · want)

/-- `validateDKIM`. -/
def validateDKIM (keys : List DKIMKeySpec) (path : FieldPath) : List (FieldError Selector) :=
  checkEach (fun k => toLower k.domain)
    (fun i k => .duplicate ((path.index i).child (lit "domain")) (.text k.domain))
    (fun i k =>
      (if k.privateKeySecretRef.name = [] then
        [.required (((path.index i).child (lit "privateKeySecretRef")).child (lit "name")) []]
      else []) ++
      (if k.headerKeys.length > 0 ∧ ¬ containsFold k.headerKeys (lit "From") then
        [.invalid ((path.index i).child (lit "headerKeys")) (.texts k.headerKeys)
          (lit "the From header must be signed; a set that omits it makes every message fail with 451")]
      else []))
    0 [] keys

/-- What `validateRateLimit` reports of an address. -/
def addressErrors (path : FieldPath) (i : Nat) (addr : Bytes) : List (FieldError Selector) :=
  let malformed := [.invalid (path.index i) (.text addr) (lit "must be host:port")]
  match splitHostPort addr with
  | .error _ => malformed
  | .ok (host, port) =>
    if host = [] ∨ port = [] then malformed
    else if (atoi port).isNone then
      [.invalid (path.index i) (.text addr) (lit "the port must be a number")]
    else []

/-- `validateRateLimit`. -/
def validateRateLimit (spec : Option RateLimitSpec) (path : FieldPath) : List (FieldError Selector) :=
  match spec with
  | none => []
  | some spec =>
    let store := path.child (lit "store")
    (if spec.store.addresses.length = 0 then
      [.required (store.child (lit "addresses"))
        (lit "at least one address is required; the store is referenced, never deployed by the operator")]
    else []) ++
    (spec.store.addresses.mapIdx (addressErrors (store.child (lit "addresses")))).flatten ++
    match spec.store.sentinelAuthSecretRef with
    | none => []
    | some ref =>
      if spec.store.masterName = [] then
        [.invalid (store.child (lit "sentinelAuthSecretRef")) (.text ref)
          (lit "only meaningful with masterName, which is what selects Sentinel")]
      else []

/-- What `validate` warns of in the quota. -/
def rateLimitWarnings : Option RateLimitSpec → List Bytes
  | none => []
  | some rl =>
    [if rl.messagesPerMinute.isNone ∧ rl.recipientsPerMinute.isNone then
      lit "spec.rateLimit declares a store but no limit: " ++
        lit "nothing is counted and nothing is enforced"
    else
      lit "spec.rateLimit is set: the gateway fails closed, so mail stops " ++
        lit "with a 451 whenever the quota store is unreachable — deploy it with replicas"] ++
    (if rl.store.tls.any RateLimitStoreTLSSpec.insecureSkipVerify then
      [lit "spec.rateLimit.store.tls.insecureSkipVerify is set: the store " ++
        lit "certificate is not verified, so the connection can be intercepted"]
    else []) ++
    (if rl.store.masterName = [] ∧ rl.store.addresses.length > 1 then
      [lit "spec.rateLimit.store lists several addresses without a masterName, " ++
        lit "so they are treated as a Redis Cluster; a primary with replicas behind Sentinel needs " ++
        lit "masterName set, and the gateway logs which mode it deduced at startup"]
    else [])

/-- The warnings of `validate`. -/
def gatewayWarnings (gw : GatewayObject Selector) : List Bytes :=
  (if gw.allowedSenders.length = 0 then
    [lit "spec.allowedSenders is empty: no account on this gateway " ++
      lit "may send anything. Grant at least one sender, or the relay accepts connections and " ++
      lit "refuses every message"]
  else []) ++
  (if gw.upstream.tls = some .none then
    [lit "spec.upstream.tls is None: mail leaves this gateway in clear, " ++
      lit "including the credentials used towards the upstream server"]
  else []) ++
  (if gw.upstream.insecureSkipVerify then
    [lit "spec.upstream.insecureSkipVerify is set: the upstream certificate " ++
      lit "is not verified, so the connection can be intercepted"]
  else []) ++
  (if gw.upstream.handlesDKIM ∧ gw.dkim.length > 0 then
    [lit "spec.upstream.handlesDKIM is set, so the " ++
      lit "spec.dkim keys are declared but not used: the upstream signs instead"]
  else []) ++
  rateLimitWarnings gw.rateLimit ++
  (gw.milters.mapIdx fun i m =>
    if m.failOpen then
      [lit "spec.milters[" ++ formatNat i ++ lit "] (" ++ m.name ++
        lit ") has failOpen: mail goes out unfiltered when this filter is down"]
    else []).flatten

/-- The errors of `validate`. -/
def GatewayValidator.errors (v : GatewayValidator Selector) (gw : GatewayObject Selector) :
    List (FieldError Selector) :=
  let spec : FieldPath := lit "spec"
  (if gw.namespace_ ≠ v.operatorNamespace then
    [.forbidden (FieldPath.child (lit "metadata") (lit "namespace"))
      (lit "gateways are only served in the operator namespace (" ++ v.operatorNamespace ++
        lit "); serving one from a tenant namespace would put its upstream credentials within " ++
        lit "that tenant's reach")]
  else []) ++
  v.validateTLS gw (spec.child (lit "tls")) ++
  validateMilters v.quote gw.milters (spec.child (lit "milters")) ++
  v.validateSenderGrants gw.allowedSenders (spec.child (lit "allowedSenders")) ++
  validateDKIM gw.dkim (spec.child (lit "dkim")) ++
  validateListeners gw.listeners (spec.child (lit "listeners")) ++
  validateRateLimit gw.rateLimit (spec.child (lit "rateLimit")) ++
  (if gw.allowedAccounts = .selector ∧ gw.selector.isNone then
    [.required ((spec.child (lit "allowedAccounts")).child (lit "selector"))
      (lit "required when namespaces is Selector")]
  else [])

/-- `GatewayValidator.validate`. -/
def GatewayValidator.validate (v : GatewayValidator Selector) (gw : GatewayObject Selector) :
    Admission Selector :=
  let errs := v.errors gw
  (gatewayWarnings gw, if errs.length > 0 then .error (.invalid errs) else .ok ())

/-- The webhook lets the gateway through. -/
def GatewayValidator.Admits (v : GatewayValidator Selector) (gw : GatewayObject Selector) : Prop :=
  (v.validate gw).2 = .ok ()

instance GatewayValidator.decidableAdmits [DecidableEq Selector] (v : GatewayValidator Selector)
    (gw : GatewayObject Selector) :
    Decidable (v.Admits gw) :=
  inferInstanceAs (Decidable (_ = _))

/-! ## What admission says about the gateway -/

section
variable {v : GatewayValidator Selector} {gw : GatewayObject Selector}

/-- What the checks of an admitted gateway are to find. -/
structure GatewayValidator.Clean (v : GatewayValidator Selector) (gw : GatewayObject Selector) : Prop where
  tls : ∃ path, v.validateTLS gw path = []
  milters : ∃ path, (validateMilters v.quote gw.milters path : List (FieldError Selector)) = []
  dkim : ∃ path, (validateDKIM gw.dkim path : List (FieldError Selector)) = []
  listeners : ∃ path, (validateListeners gw.listeners path : List (FieldError Selector)) = []
  rateLimit : ∃ path, (validateRateLimit gw.rateLimit path : List (FieldError Selector)) = []

/-- No check of an admitted gateway reports anything. -/
theorem GatewayValidator.Admits.clean (h : v.Admits gw) : v.Clean gw := by
  unfold GatewayValidator.Admits GatewayValidator.validate at h
  dsimp only at h
  split_ifs at h with herrs
  rw [Nat.not_lt, Nat.le_zero, List.length_eq_zero_iff, GatewayValidator.errors] at herrs
  simp only [List.append_eq_nil_iff] at herrs
  obtain ⟨⟨⟨⟨⟨⟨⟨-, htls⟩, hmilters⟩, -⟩, hdkim⟩, hlisteners⟩, hrateLimit⟩, -⟩ := herrs
  exact ⟨⟨_, htls⟩, ⟨_, hmilters⟩, ⟨_, hdkim⟩, ⟨_, hlisteners⟩, ⟨_, hrateLimit⟩⟩

/-- There is a certificate to listen with. -/
theorem GatewayValidator.Clean.certificates (h : v.Clean gw) : CertificateSecretNames gw ≠ [] := by
  obtain ⟨path, htls⟩ := h.tls
  rw [GatewayValidator.validateTLS] at htls
  simp only [List.append_eq_nil_iff] at htls
  have hsource := htls.1.1.1
  intro hnil
  unfold CertificateSecretNames at hnil
  split_ifs at hnil with hrefs hissuer
  · rw [hnil] at hrefs
    exact absurd hrefs (by decide)
  · have hnone : gw.tls.issuerRef.isNone = true := by simpa using hissuer
    rw [certificateSourceErrors, if_neg fun h => hrefs h.1,
      if_pos ⟨Nat.eq_zero_of_not_pos hrefs, hnone⟩] at hsource
    cases hsource

/-- Every filter's address parses. -/
theorem GatewayValidator.Clean.parses (h : v.Clean gw) :
    ∀ m ∈ renderMilters gw.milters, ∃ address, m.parseAddress v.quote = .ok address := by
  obtain ⟨path, hmilters⟩ := h.milters
  have hown := (checkEach_start_eq_nil.mp hmilters).2
  intro m hm
  obtain ⟨spec, hspec, rfl⟩ := List.mem_map.mp hm
  obtain ⟨j, hj, rfl⟩ := List.mem_iff_getElem.mp hspec
  have herr := hown j hj
  cases hparse : MilterConfig.parseAddress v.quote ⟨[], gw.milters[j].address, false, 0⟩ with
  | ok address => exact ⟨address, hparse⟩
  | error err =>
    simp only [hparse] at herr
    cases herr

/-- No two keys have one domain. -/
theorem GatewayValidator.Clean.domains (h : v.Clean gw) :
    ((renderDKIM gw.dkim).map fun k => toLower k.domain).Nodup := by
  obtain ⟨path, hdkim⟩ := h.dkim
  have hnodup := (checkEach_start_eq_nil.mp hdkim).1
  rwa [renderDKIM, List.map_map]

/-- A store has an address. -/
theorem GatewayValidator.Clean.addresses (h : v.Clean gw) :
    ∀ spec ∈ gw.rateLimit, spec.store.addresses ≠ [] := by
  obtain ⟨path, hrate⟩ := h.rateLimit
  intro spec hspec hnil
  rw [Option.mem_def.mp hspec, validateRateLimit] at hrate
  simp only [List.append_eq_nil_iff] at hrate
  rw [hnil] at hrate
  cases hrate.1.1

end

/-! ## Listeners -/

/-- The ports of the listeners that are rendered. -/
def renderedPorts (spec : ListenersSpec) : List Int :=
  (if spec.submission.isSome ∨ spec.smtps.isNone then
    [spec.submission.elim DefaultSubmissionPort (listenerPort · DefaultSubmissionPort)] else []) ++
  spec.smtps.toList.map (listenerPort · DefaultSMTPSPort)

/-- A listener is rendered on each of them. -/
theorem renderListeners_addrs (spec : ListenersSpec) :
    (renderListeners spec).map Listener.addr = (renderedPorts spec).map portAddr := by
  obtain ⟨submission, smtps⟩ := spec
  cases submission with
  | none =>
    cases smtps with
    | none => rfl
    | some smtps => simp [renderListeners, renderedPorts, listenerPort, ite_not]
  | some submission =>
    cases smtps with
    | none => simp [renderListeners, renderedPorts, listenerPort, ite_not]
    | some smtps => simp [renderListeners, renderedPorts, listenerPort, ite_not]

/-- Every listener that is rendered has an address and a mode that validation accepts. -/
theorem renderListeners_sound (spec : ListenersSpec) : ∀ l ∈ renderListeners spec, l.Sound := by
  intro l hl
  rw [renderListeners] at hl
  rcases List.mem_append.mp hl with hl | hl
  · split_ifs at hl
    · rw [List.mem_singleton.mp hl]
      exact ⟨List.cons_ne_nil _ _, .inl rfl⟩
    · cases hl
  · cases hsmtps : spec.smtps with
    | none => rw [hsmtps] at hl; cases hl
    | some smtps =>
      rw [hsmtps] at hl
      rw [List.mem_singleton.mp hl]
      exact ⟨List.cons_ne_nil _ _, .inr rfl⟩

/-- There is no error exactly if the listener, where it is set, is not on the port of the metrics. -/
theorem metricsPortErrors_eq_nil {path : FieldPath} {name : Bytes} {spec : Option ListenerSpec}
    {default : Int} :
    (metricsPortErrors path name spec default : List (FieldError Selector)) = [] ↔
      ∀ s ∈ spec, listenerPort s default ≠ MetricsPort := by
  cases spec with
  | none => simp [metricsPortErrors]
  | some spec => simp [metricsPortErrors]

/-- The ports of an admitted gateway are different, and none is that of the metrics. -/
theorem validateListeners_ports {spec : ListenersSpec} {path : FieldPath}
    (h : (validateListeners spec path : List (FieldError Selector)) = []) :
    (renderedPorts spec).Nodup ∧ MetricsPort ∉ renderedPorts spec := by
  rw [validateListeners] at h
  simp only [List.append_eq_nil_iff, metricsPortErrors_eq_nil] at h
  obtain ⟨⟨hshared, hsubmission⟩, hsmtps⟩ := h
  obtain ⟨submission, smtps⟩ := spec
  cases submission with
  | none =>
    cases smtps with
    | none => exact ⟨by decide, by decide⟩
    | some smtps =>
      have hport := hsmtps smtps rfl
      simp [renderedPorts, DefaultSMTPSPort, hport.symm]
  | some submission =>
    have hport := hsubmission submission rfl
    cases smtps with
    | none => simp [renderedPorts, DefaultSubmissionPort, hport.symm]
    | some smtps =>
      have hport' := hsmtps smtps rfl
      have hne : listenerPort submission 587 ≠ listenerPort smtps 465 := by
        intro heq
        simp only [heq, if_true] at hshared
        cases hshared
      simp [renderedPorts, DefaultSubmissionPort, DefaultSMTPSPort, hport.symm, hport'.symm, hne]

/-- The CRD schema, as far as the checks rely on it. A port of zero is one that is not set. -/
structure GatewayObject.Schema (gw : GatewayObject Selector) : Prop where
  host : gw.upstream.host ≠ []
  dkim : ∀ k ∈ gw.dkim, k.domain ≠ [] ∧ k.selector ≠ []
  submission : ∀ l ∈ gw.listeners.submission, l.port = 0 ∨ 1 ≤ l.port ∧ l.port ≤ 65535
  smtps : ∀ l ∈ gw.listeners.smtps, l.port = 0 ∨ 1 ≤ l.port ∧ l.port ≤ 65535

/-- Two ports that are not negative have different addresses. -/
theorem portAddr_inj {p q : Int} (hp : 0 ≤ p) (hq : 0 ≤ q) (h : portAddr p = portAddr q) : p = q := by
  have hdigits : formatNat p.toNat = formatNat q.toNat := by
    rw [← formatInt_of_nonneg hp, ← formatInt_of_nonneg hq]
    exact List.append_cancel_left h
  have := formatNat_inj hdigits
  omega

/-- A port that the schema admits, or the default in its place, is not negative. -/
theorem listenerPort_nonneg {l : ListenerSpec} {default : Int} (hdefault : 0 ≤ default)
    (h : l.port = 0 ∨ 1 ≤ l.port ∧ l.port ≤ 65535) : 0 ≤ listenerPort l default := by
  unfold listenerPort
  split_ifs <;> omega

/-- So the ports of a gateway are not. -/
theorem GatewayObject.Schema.ports {gw : GatewayObject Selector} (h : gw.Schema) :
    ∀ p ∈ renderedPorts gw.listeners, 0 ≤ p := by
  intro p hp
  rcases List.mem_append.mp hp with hp | hp
  · split_ifs at hp
    · rw [List.mem_singleton.mp hp]
      cases hsubmission : gw.listeners.submission with
      | none => decide
      | some l => exact listenerPort_nonneg (by decide) (h.submission l hsubmission)
    · cases hp
  · obtain ⟨l, hl, rfl⟩ := List.mem_map.mp hp
    exact listenerPort_nonneg (by decide) (h.smtps l (Option.mem_toList.mp hl))

/-! ## Keys -/

/-- Keys with a domain and a selector, no two for one domain: the signer fails only where a private
key cannot be loaded. -/
theorem newDKIMSigner_error {load : DKIMKey → Except Bytes Nat} {keys : List DKIMKey} {err : Bytes}
    (hset : ∀ k ∈ keys, k.domain ≠ [] ∧ k.selector ≠ [])
    (hdomains : (keys.map fun k => toLower k.domain).Nodup)
    (h : newDKIMSigner load keys = .error err) :
    ∃ k ∈ keys, ∃ cause, load k = .error cause ∧
      err = lit "dkim " ++ k.selector ++ lit "/" ++ k.domain ++ lit ": " ++ cause := by
  have loop : ∀ (keys : List DKIMKey) (i : Nat) (s : DKIMSigner),
      (∀ k ∈ keys, k.domain ≠ [] ∧ k.selector ≠ []) →
      (keys.map fun k => toLower k.domain).Nodup →
      (∀ k ∈ keys, s.byDomain (toLower k.domain) = none) →
      newDKIMSignerFrom load i keys s = .error err →
      ∃ k ∈ keys, ∃ cause, load k = .error cause ∧
        err = lit "dkim " ++ k.selector ++ lit "/" ++ k.domain ++ lit ": " ++ cause := by
    intro keys
    induction keys with
    | nil =>
      intro i s _ _ _ h
      cases h
    | cons k ks ih =>
      intro i s hset hdomains hnew h
      rw [List.forall_mem_cons] at hset hnew
      rw [List.map_cons, List.nodup_cons] at hdomains
      rw [newDKIMSignerFrom, if_neg (not_or.mpr hset.1)] at h
      cases hload : load k with
      | error cause =>
        simp only [hload] at h
        cases h
        exact ⟨k, List.mem_cons_self, cause, hload, rfl⟩
      | ok signer =>
        simp only [hload, hnew.1, Option.isSome_none, Bool.false_eq_true, if_false] at h
        have hnext : ∀ k' ∈ ks, DKIMSigner.byDomain
            (s ++ [⟨toLower k.domain, k.selector, signer, k.headerKeys⟩]) (toLower k'.domain) =
              none := by
          intro k' hk'
          have hold := hnew.2 k' hk'
          have hne : toLower k.domain ≠ toLower k'.domain :=
            fun heq => hdomains.1 (List.mem_map.mpr ⟨k', hk', heq.symm⟩)
          rw [DKIMSigner.byDomain] at hold ⊢
          rw [List.find?_append, hold, Option.none_or, List.find?_singleton]
          simp [hne]
        obtain ⟨k', hk', hcause⟩ := ih (i + 1) _ hset.2 hdomains.2 hnext h
        exact ⟨k', List.mem_cons_of_mem _ hk', hcause⟩
  exact loop keys 0 [] hset hdomains (fun _ _ => rfl) h

/-! ## What is admitted is served -/

/-- A certificate that is mounted from a Secret has both of its files. -/
theorem mountedCertificate_complete (name : Bytes) : (mountedCertificate name).complete = true := by
  have hcert : Filepath.join [CertificateMountPath name, lit "tls.crt"] ≠ [] :=
    Filepath.join_ne_nil ⟨lit "tls.crt", by simp, by decide⟩
  have hkey : Filepath.join [CertificateMountPath name, lit "tls.key"] ≠ [] :=
    Filepath.join_ne_nil ⟨lit "tls.key", by simp, by decide⟩
  simp [CertificateRef.complete, mountedCertificate, hcert, hkey]

/-- The listeners of an admitted gateway have different addresses, none of them that of the metrics. -/
theorem GatewayValidator.Clean.distinct {v : GatewayValidator Selector} {gw : GatewayObject Selector}
    (h : v.Clean gw) (hschema : gw.Schema) :
    ((renderListeners gw.listeners).map Listener.addr).Nodup ∧
      ∀ l ∈ renderListeners gw.listeners, l.addr ≠ portAddr MetricsPort := by
  obtain ⟨path, hlisteners⟩ := h.listeners
  obtain ⟨hnodup, hmetrics⟩ := validateListeners_ports hlisteners
  have hports := hschema.ports
  refine ⟨?_, fun l hl heq => hmetrics ?_⟩
  · rw [renderListeners_addrs]
    exact List.Nodup.map_on (fun p hp q hq => portAddr_inj (hports p hp) (hports q hq)) hnodup
  · have hmem : l.addr ∈ (renderedPorts gw.listeners).map portAddr := by
      rw [← renderListeners_addrs]
      exact List.mem_map_of_mem hl
    obtain ⟨p, hp, haddr⟩ := List.mem_map.mp hmem
    rwa [← portAddr_inj (hports p hp) (by decide) (haddr.trans heq)]

/-- The rendering of an admitted gateway is valid. -/
theorem GatewayValidator.Clean.valid {v : GatewayValidator Selector} {gw : GatewayObject Selector}
    (h : v.Clean gw) (hschema : gw.Schema) {inp : Input Selector} (hgw : inp.gateway = some gw)
    {sorted : List Account} {cfg : DataplaneConfig} (hcfg : GatewayConfig inp sorted = .ok cfg) :
    cfg.Valid v.quote := by
  simp only [GatewayConfig, hgw] at hcfg
  cases hcfg
  exact {
    listeners := renderListeners_ne_nil gw.listeners
    listener := renderListeners_sound gw.listeners
    addresses := (h.distinct hschema).1.sublist (List.filter_sublist.map _)
    certificates := fun hnil => h.certificates (List.map_eq_nil_iff.mp hnil)
    certificate := by
      intro cert hcert
      obtain ⟨name, -, rfl⟩ := List.mem_map.mp hcert
      exact mountedCertificate_complete name
    host := hschema.host
    mode := ⟨_, rfl⟩
    store := by
      intro r hr
      obtain ⟨spec, hspec, rfl⟩ := Option.map_eq_some_iff.mp hr
      refine ⟨h.addresses spec hspec, fun hskip => ?_⟩
      cases htls : spec.store.tls with
      | none => simp [htls] at hskip
      | some tls => simp
    milters := h.parses }

/-- **What is admitted is served.** For a gateway that the webhook lets through and that satisfies the
schema, with any accounts, any credentials and any order of the sort, rendering succeeds and the
configuration passes `Validate`, with or without the defaults; no listener is on the port of the
metrics and no two share an address, every filter's address parses, and the signer fails only where a
private key cannot be loaded. -/
theorem admitted_servable (v : GatewayValidator Selector) (gw : GatewayObject Selector)
    (hadmits : v.Admits gw) (hschema : gw.Schema) (inp : Input Selector)
    (hgw : inp.gateway = some gw) (res : Except Bytes DataplaneConfig) (hrenders : Renders inp res) :
    ∃ cfg, res = .ok cfg ∧
      cfg.validate v.quote = .ok () ∧ cfg.applyDefaults.validate v.quote = .ok () ∧
      (∀ l ∈ cfg.listeners, l.addr ≠ portAddr MetricsPort) ∧
      (cfg.listeners.map Listener.addr).Nodup ∧
      (∀ m ∈ cfg.milters, ∃ address, m.parseAddress v.quote = .ok address) ∧
      ∀ load err, newDKIMSigner load cfg.dkim = .error err →
        ∃ k ∈ cfg.dkim, ∃ cause, load k = .error cause ∧
          err = lit "dkim " ++ k.selector ++ lit "/" ++ k.domain ++ lit ": " ++ cause := by
  have hclean := hadmits.clean
  obtain ⟨sorted, -, rfl⟩ := hrenders
  obtain ⟨cfg, hcfg⟩ : ∃ cfg, GatewayConfig inp sorted = .ok cfg := by
    rw [GatewayConfig, hgw]
    exact ⟨_, rfl⟩
  have hvalid := hclean.valid hschema hgw hcfg
  refine ⟨cfg, hcfg, DataplaneConfig.validate_ok_iff.mpr hvalid,
    DataplaneConfig.validate_ok_iff.mpr hvalid.applyDefaults, ?_⟩
  simp only [GatewayConfig, hgw] at hcfg
  cases hcfg
  refine ⟨(hclean.distinct hschema).2, (hclean.distinct hschema).1, hclean.parses, ?_⟩
  intro load err herr
  dsimp only at herr ⊢
  split_ifs at herr ⊢ with hhandles
  · cases herr
  · refine newDKIMSigner_error ?_ hclean.domains herr
    intro k hk
    obtain ⟨spec, hspec, rfl⟩ := List.mem_map.mp hk
    exact hschema.dkim spec hspec

/-- A webhook of an operator without cert-manager. -/
def plainValidator : GatewayValidator Unit where
  operatorNamespace := lit "mailout-system"
  certManagerAvailable := false
  quote := id
  labelSelectorAsSelector := fun _ => .ok fun _ => true

/-- A gateway with both listeners, two keys, a filter and a quota. -/
def fullGateway : GatewayObject Unit where
  name := lit "gw"
  namespace_ := lit "mailout-system"
  allowedAccounts := .all
  selector := none
  allowedSenders := [⟨[lit "*@example.com"], none⟩]
  hostname := []
  listeners := ⟨some ⟨0⟩, some ⟨8465⟩⟩
  tls := ⟨[lit "tls-a", lit "tls-b"], none, [], lit "tls-b"⟩
  upstream := ⟨lit "smtp.example.com", 0, none, false, false, none⟩
  dkim := [⟨lit "Example.com", lit "s1", ⟨lit "keys", []⟩, []⟩,
    ⟨lit "example.org", lit "s2", ⟨lit "keys", lit "org.pem"⟩, [lit "from"]⟩]
  milters := [⟨lit "scan", lit "unix:///run/scan.sock", false, none⟩]
  rateLimit := some ⟨⟨[lit "redis:6379"], [], 0, none, some ⟨true⟩, none⟩, some 10, none⟩

/-- That gateway is one that the schema admits. -/
theorem fullGateway_schema : fullGateway.Schema where
  host := by decide
  dkim := by decide
  submission := by decide
  smtps := by decide

/-- A gateway with all of its parts set is admitted, and its configuration is valid. -/
theorem admitted_servable_full :
    plainValidator.Admits fullGateway ∧
      ∃ inp cfg, inp.gateway = some fullGateway ∧ Renders inp (.ok cfg) ∧
        cfg.validate plainValidator.quote = .ok () := by
  have hadmits : plainValidator.Admits fullGateway := by decide +kernel
  refine ⟨hadmits, ?_⟩
  obtain ⟨sorted, hsorts, -⟩ := exists_sortsBy Account.username ([] : List Account)
  obtain ⟨cfg, hcfg, hvalid, -⟩ := admitted_servable plainValidator fullGateway hadmits
    fullGateway_schema ⟨some fullGateway, [], [], [], [], ⟨[], [], [], [], []⟩, []⟩ rfl _
    ⟨sorted, hsorts, rfl⟩
  exact ⟨_, cfg, rfl, ⟨sorted, hsorts, hcfg.symm⟩, hvalid⟩

end Mailout
