import Mailout.GatewayController
import Mailout.GatewayWebhook

/-!
# The workload of a gateway

`internal/render/objects.go`: the Deployment, the Service and the NetworkPolicy of a gateway, and where
they read the ports from. The renderer of the configuration and these functions walk the spec each on
their own: the paths in the configuration are joined from the names of Secrets which the Deployment
mounts under paths it joins itself, and a port is printed into an address out of which two parsers
read it. `workload_matches` says that they agree.

The objects are modelled with what depends on the gateway's listeners and Secrets: what is the same for
every gateway (modes, limits, security contexts) and what is handed through from `spec.deployment` to
the pods is left out.
-/

namespace Mailout

open Go

variable {Selector : Type}

/-! ## The objects -/

/-- `NetworkPeer`, and the `NetworkPolicyPeer` with the same fields. -/
structure NetworkPeer (Selector : Type) where
  namespaceSelector : Option Selector
  podSelector : Option Selector
  deriving DecidableEq, Repr

/-- `MailoutGateway`, with what of `spec.deployment` and `spec.metrics` the objects are rendered
from. -/
structure GatewayWorkload (Selector : Type) extends GatewayObject Selector where
  replicas : Option Int
  serviceType : Bytes
  serviceAnnotations : Labels
  allowedScrapers : List (NetworkPeer Selector)

/-- `VolumeSource`. -/
inductive VolumeSource where
  | secret (secretName : Bytes)
  | emptyDir
  deriving DecidableEq, Repr

/-- `Volume`. -/
structure Volume where
  name : Bytes
  source : VolumeSource
  deriving DecidableEq, Repr

/-- `VolumeMount`. -/
structure VolumeMount where
  name : Bytes
  mountPath : Bytes
  readOnly : Bool
  deriving DecidableEq, Repr

/-- `ContainerPort`, of TCP. -/
structure ContainerPort where
  name : Bytes
  containerPort : Int
  deriving DecidableEq, Repr

/-- `PullPolicy`. -/
inductive PullPolicy where
  | always
  | ifNotPresent
  deriving DecidableEq, Repr

/-- `appsv1.Deployment`, with its one container. The annotation `mailout.daly.nc/restart-hash` is the
digest of `restart`. -/
structure DeploymentObject where
  name : Bytes
  namespace_ : Bytes
  labels : Labels
  replicas : Option Int
  selector : Labels
  restart : RestartInput
  image : Bytes
  imagePullPolicy : PullPolicy
  args : List Bytes
  ports : List ContainerPort
  volumeMounts : List VolumeMount
  probePort : Int
  volumes : List Volume
  deriving DecidableEq, Repr

/-- `ServicePort`, of TCP. -/
structure ServicePort where
  name : Bytes
  port : Int
  targetPort : Int
  deriving DecidableEq, Repr

/-- `corev1.Service`. -/
structure ServiceObject where
  name : Bytes
  namespace_ : Bytes
  labels : Labels
  annotations : Labels
  selector : Labels
  type : Bytes
  ports : List ServicePort
  deriving DecidableEq, Repr

/-- `NetworkPolicyIngressRule`; the ports are of TCP, and a rule without peers is for every source. -/
structure IngressRule (Selector : Type) where
  ports : List Int
  peers : List (NetworkPeer Selector)
  deriving DecidableEq, Repr

/-- `NetworkPolicy`, for ingress. -/
structure NetworkPolicy (Selector : Type) where
  name : Bytes
  namespace_ : Bytes
  labels : Labels
  podSelector : Labels
  ingress : List (IngressRule Selector)
  deriving DecidableEq, Repr

/-! ## Rendering -/

/-- `MetricsPortName`. -/
def MetricsPortName : Bytes := lit "metrics"

/-- `SpoolVolumeName`. -/
def SpoolVolumeName : Bytes := lit "spool"

/-- `SelectorLabels`. -/
def SelectorLabels (gatewayName : Bytes) : Labels :=
  [(lit "app.kubernetes.io/name", lit "mailout"),
    (lit "app.kubernetes.io/instance", gatewayName),
    (lit "app.kubernetes.io/component", lit "gateway")]

/-- `PullPolicyFor`. -/
def PullPolicyFor (image : Bytes) : PullPolicy :=
  if contains image (lit "@sha256:") then .ifNotPresent
  else
    let tag := match lastIndexByte colon image with
      | none => []
      | some i =>
        if (lastIndexByte Filepath.slash image).all (· < i) then image.drop (i + 1) else []
    if tag ∈ [[], lit "dev", lit "latest", lit "main", lit "edge", lit "nightly"] then .always
    else .ifNotPresent

/-- The volumes of a list of Secrets, numbered behind `stem`. -/
def secretVolumes (stem : Bytes) (secrets : List Bytes) : List Volume :=
  secrets.mapIdx fun i secretName => ⟨stem ++ formatNat i, .secret secretName⟩

/-- Where the volumes of a list of Secrets are mounted. -/
def secretMounts (stem : Bytes) (path : Bytes → Bytes) (secrets : List Bytes) : List VolumeMount :=
  secrets.mapIdx fun i secretName => ⟨stem ++ formatNat i, path secretName, true⟩

/-- The port of a listener's status in the container. -/
def ListenerStatus.containerPort (l : ListenerStatus) : ContainerPort := ⟨l.name, l.port⟩

/-- `Deployment`, `none` where it panics for want of a listener to probe. Of the accounts it is given
nothing is read. -/
def GatewayWorkload.Deployment (gw : GatewayWorkload Selector) (cfg : DataplaneConfig)
    (image : Bytes) : Option DeploymentObject :=
  let certificates := CertificateSecretNames gw.toGatewayObject
  let keys := DKIMSecretNames gw.toGatewayObject
  (ListenerStatuses cfg).head?.map fun first =>
    { name := gw.name
      namespace_ := gw.namespace_
      labels := gatewayLabels gw.name
      replicas := gw.replicas
      selector := SelectorLabels gw.name
      restart := restartInput gw.toGatewayObject cfg
      image := image
      imagePullPolicy := PullPolicyFor image
      args := [lit "gateway", lit "--config=" ++ ConfigFilePath,
        lit "--metrics-bind-address=" ++ portAddr MetricsPort, lit "--log-format=json"]
      ports := (ListenerStatuses cfg).map ListenerStatus.containerPort ++
        [⟨MetricsPortName, MetricsPort⟩]
      volumeMounts := [⟨lit "config", ConfigDir, true⟩, ⟨SpoolVolumeName, SpoolDir, false⟩] ++
        secretMounts (lit "tls-") CertificateMountPath certificates ++
        secretMounts (lit "dkim-") DKIMMountPath keys
      probePort := first.port
      volumes := [⟨lit "config", .secret (ConfigSecretName gw.name)⟩, ⟨SpoolVolumeName, .emptyDir⟩] ++
        secretVolumes (lit "tls-") certificates ++ secretVolumes (lit "dkim-") keys }

/-- `Service`. -/
def GatewayWorkload.Service (gw : GatewayWorkload Selector) (cfg : DataplaneConfig) :
    ServiceObject where
  name := gw.name
  namespace_ := gw.namespace_
  labels := gatewayLabels gw.name
  annotations := gw.serviceAnnotations
  selector := SelectorLabels gw.name
  type := if gw.serviceType ≠ [] then gw.serviceType else lit "ClusterIP"
  ports := (ListenerStatuses cfg).map fun l => ⟨l.name, l.port, l.port⟩

/-- `listenerPortOf`. -/
def listenerPortOf (l : Listener) : Int :=
  match splitHostPort l.addr with
  | .error _ => 0
  | .ok (_, port) =>
    match atoi port with
    | none => 0
    | some n => int32 n

/-- `MetricsNetworkPolicy`. -/
def GatewayWorkload.MetricsNetworkPolicy (gw : GatewayWorkload Selector) (cfg : DataplaneConfig) :
    Option (NetworkPolicy Selector) :=
  if gw.allowedScrapers.length = 0 then none
  else some {
    name := gw.name ++ lit "-metrics"
    namespace_ := gw.namespace_
    labels := gatewayLabels gw.name
    podSelector := SelectorLabels gw.name
    ingress := [⟨cfg.listeners.map listenerPortOf, []⟩, ⟨[MetricsPort], gw.allowedScrapers⟩] }

/-! ## Ports -/

/-- The ports of a spec are values of their Go type. -/
def ListenersSpec.Int32 (spec : ListenersSpec) : Prop :=
  (∀ l ∈ spec.submission, int32 l.port = l.port) ∧ ∀ l ∈ spec.smtps, int32 l.port = l.port

instance (spec : ListenersSpec) : Decidable spec.Int32 := inferInstanceAs (Decidable (_ ∧ _))

/-- A number that the conversion to `int32` keeps is in its range. -/
theorem int32_range {n : Int} (h : int32 n = n) : -2 ^ 31 ≤ n ∧ n < 2 ^ 31 := by
  unfold int32 at h
  omega

/-- What stands behind the colon of a rendered address has neither a colon nor a bracket. -/
theorem not_mem_formatInt {c : UInt8} (hminus : c ≠ 0x2D) (hdigit : isDigit c = false) (n : Int) :
    c ∉ formatInt n := by
  intro h
  rcases mem_formatInt h with rfl | h
  · exact hminus rfl
  · rw [isDigit_iff.mpr h] at hdigit
    cases hdigit

/-- `fmt.Sscan` reads the port that was printed. -/
theorem listenerStatus_portAddr {p : Int} (hp : int32 p = p) (name : Bytes) (mode : ModeSetting) :
    listenerStatus ⟨name, portAddr p, mode⟩ = ⟨name, p, mode.text⟩ := by
  obtain ⟨hlo, hhi⟩ := int32_range hp
  have hcut : cut colon (portAddr p) = some ([], formatInt p) :=
    Go.cut_append (List.not_mem_nil) (formatInt p)
  have hscan : sscanInt (formatInt p) = some p := sscanInt_formatInt (by omega) (by omega)
  simp only [listenerStatus, hcut, hscan, Option.getD_some, hp]

/-- `net.SplitHostPort` and `strconv.Atoi` read the port that was printed. -/
theorem listenerPortOf_portAddr {p : Int} (hp : int32 p = p) (name : Bytes) (mode : ModeSetting) :
    listenerPortOf ⟨name, portAddr p, mode⟩ = p := by
  obtain ⟨hlo, hhi⟩ := int32_range hp
  have hsplit : splitHostPort (portAddr p) = .ok ([], formatInt p) :=
    splitHostPort_port (not_mem_formatInt (by decide) (by decide) p)
      (not_mem_formatInt (by decide) (by decide) p) (not_mem_formatInt (by decide) (by decide) p)
  have hread : atoi (formatInt p) = some p := atoi_formatInt (by omega) (by omega)
  simp only [listenerPortOf, hsplit, hread, hp]

/-- The port of the submission listener after defaults, if there is one. -/
def submissionPort (spec : ListenersSpec) : Option Int :=
  if spec.submission.isSome ∨ spec.smtps.isNone then
    some (spec.submission.elim DefaultSubmissionPort (listenerPort · DefaultSubmissionPort))
  else none

/-- The port of the smtps listener after defaults, if there is one. -/
def smtpsPort (spec : ListenersSpec) : Option Int :=
  spec.smtps.map (listenerPort · DefaultSMTPSPort)

/-- The ports of the listeners that are rendered: those that are not switched off, submission first. -/
theorem renderedPorts_eq (spec : ListenersSpec) :
    renderedPorts spec = (submissionPort spec).toList ++ (smtpsPort spec).toList := by
  rw [renderedPorts, submissionPort, smtpsPort]
  congr 1
  · split_ifs
    · rfl
    · rfl
  · cases spec.smtps with
    | none => rfl
    | some l => rfl

/-- The listener of a role on a port. -/
def listenerOn (name : Bytes) (mode : TLSMode) (p : Int) : Listener := ⟨name, portAddr p, .mode mode⟩

/-- The listeners are rendered one for each port, STARTTLS on the submission port and implicit TLS on the
other. -/
theorem renderListeners_eq (spec : ListenersSpec) :
    renderListeners spec =
      (submissionPort spec).toList.map (listenerOn (lit "submission") .startTLS) ++
        (smtpsPort spec).toList.map (listenerOn (lit "smtps") .implicit) := by
  obtain ⟨submission, smtps⟩ := spec
  cases submission with
  | none =>
    cases smtps with
    | none => rfl
    | some smtps =>
      simp [renderListeners, submissionPort, smtpsPort, listenerOn, listenerPort, ite_not]
  | some submission =>
    cases smtps with
    | none => simp [renderListeners, submissionPort, smtpsPort, listenerOn, listenerPort, ite_not]
    | some smtps =>
      simp [renderListeners, submissionPort, smtpsPort, listenerOn, listenerPort, ite_not]

/-- A listener is on a port of Go's type that is not zero. -/
theorem listenerPort_int32 {l : ListenerSpec} {default : Int} (hl : int32 l.port = l.port)
    (hdefault : int32 default = default) (hne : default ≠ 0) :
    int32 (listenerPort l default) = listenerPort l default ∧ listenerPort l default ≠ 0 := by
  unfold listenerPort
  split_ifs with hzero
  · exact ⟨hdefault, hne⟩
  · exact ⟨hl, hzero⟩

/-- The submission port, given or the default, fits an `int32` and is not zero, as the API server checks. -/
theorem ListenersSpec.Int32.submission {spec : ListenersSpec} (h : spec.Int32) :
    ∀ p ∈ submissionPort spec, int32 p = p ∧ p ≠ 0 := by
  intro p hp
  unfold submissionPort at hp
  split_ifs at hp
  · cases Option.mem_some_iff.mp hp
    cases hsub : spec.submission with
    | none => exact ⟨by decide, by decide⟩
    | some l => exact listenerPort_int32 (h.1 l hsub) (by decide) (by decide)
  · cases hp

/-- The same of the SMTPS port. -/
theorem ListenersSpec.Int32.smtps {spec : ListenersSpec} (h : spec.Int32) :
    ∀ p ∈ smtpsPort spec, int32 p = p ∧ p ≠ 0 := by
  intro p hp
  obtain ⟨l, hl, rfl⟩ := Option.map_eq_some_iff.mp hp
  exact listenerPort_int32 (h.2 l hl) (by decide) (by decide)

/-- A function that inverts the printing of ports reads the ports of the spec. -/
theorem map_renderListeners {spec : ListenersSpec} (h : spec.Int32) {read : Listener → Int}
    (hread : ∀ p, int32 p = p → ∀ name mode, read ⟨name, portAddr p, mode⟩ = p) :
    (renderListeners spec).map read = renderedPorts spec := by
  have hrole : ∀ name mode (port : Option Int), (∀ p ∈ port, int32 p = p) →
      (port.toList.map (listenerOn name mode)).map read = port.toList := by
    intro name mode port hport
    cases port with
    | none => rfl
    | some p => exact congrArg (fun q => [q]) (hread p (hport p rfl) name (.mode mode))
  rw [renderListeners_eq, renderedPorts_eq, List.map_append,
    hrole _ _ _ fun p hp => (h.submission p hp).1, hrole _ _ _ fun p hp => (h.smtps p hp).1]

/-! ## Names -/

/-- A lower-case letter or a digit. -/
def isLowerAlnum (c : UInt8) : Bool := isDigit c || 0x61 ≤ c && c ≤ 0x7A

/-- A label of a DNS name. -/
def isDNS1123Label (label : Bytes) : Bool :=
  label.all (fun c => isLowerAlnum c || c = 0x2D) &&
    label.head?.any isLowerAlnum && label.getLast?.any isLowerAlnum

/-- `IsDNS1123Subdomain` of apimachinery, which the name of a Secret passes. -/
def isDNS1123Subdomain (name : Bytes) : Bool :=
  name.length ≤ 253 && (name.splitOn 0x2E).all isDNS1123Label

/-- `IsConfigMapKey` of apimachinery, which a key of a Secret passes. -/
def isConfigMapKey (key : Bytes) : Bool :=
  key.length ≤ 253 && key ≠ [] &&
    key.all (fun c => isDigit c || 0x61 ≤ lowerByte c && lowerByte c ≤ 0x7A ||
      c = 0x2D || c = 0x2E || c = underscore) &&
    key ≠ lit "." && !(lit "..").isPrefixOf key

/-- The Secrets the spec names for its certificates: those it refers to, or the one that the Certificate
of its issuer fills. -/
def certificateSecrets (gw : GatewayObject Selector) : List Bytes :=
  match gw.tls.issuerRef with
  | none => gw.tls.certificateRefs
  | some _ => [gw.name ++ lit "-tls"]

/-- The keys of the spec that sign: none where the upstream signs. -/
def signingKeys (gw : GatewayObject Selector) : List DKIMKeySpec :=
  if gw.upstream.handlesDKIM then [] else gw.dkim

/-- The names of Secrets and their keys are ones that Kubernetes has; a key that is not set is the
default one. -/
structure GatewayObject.ValidNames (gw : GatewayObject Selector) : Prop where
  certificates : ∀ name ∈ certificateSecrets gw, isDNS1123Subdomain name = true
  secrets : ∀ k ∈ gw.dkim, isDNS1123Subdomain k.privateKeySecretRef.name = true
  keys : ∀ k ∈ gw.dkim,
    k.privateKeySecretRef.key = [] ∨ isConfigMapKey k.privateKeySecretRef.key = true

/-- A DNS subdomain is one element of a path: it has no slash and is neither `.` nor `..`. -/
theorem plain_of_subdomain {name : Bytes} (h : isDNS1123Subdomain name = true) :
    Filepath.Plain name := by
  have hslash : Filepath.slash ∉ name := by
    intro hmem
    rcases @mem_splitOn _ 0x2E _ hmem with hsep | ⟨label, hlabel, hmem⟩
    · exact absurd hsep (by decide)
    · simp only [isDNS1123Subdomain, Bool.and_eq_true, List.all_eq_true] at h
      have hall := h.2 label hlabel
      simp only [isDNS1123Label, Bool.and_eq_true, List.all_eq_true] at hall
      exact absurd (hall.1.1 _ hmem) (by decide)
  refine ⟨?_, ?_, ?_, hslash⟩
  · rintro rfl
    exact absurd h (by decide)
  · rintro rfl
    exact absurd h (by decide)
  · rintro rfl
    exact absurd h (by decide)

/-- A key of a Secret is one element of a path; the API server refuses `.` and `..` for this reason. -/
theorem plain_of_configMapKey {key : Bytes} (h : isConfigMapKey key = true) : Filepath.Plain key := by
  simp only [isConfigMapKey, Bool.and_eq_true, decide_eq_true_eq, List.all_eq_true] at h
  obtain ⟨⟨⟨⟨-, hnil⟩, hall⟩, hdot⟩, hdots⟩ := h
  refine ⟨hnil, hdot, ?_, fun hmem => absurd (hall _ hmem) (by decide)⟩
  rintro rfl
  exact absurd hdots (by decide)

/-- The key under which a DKIM key is looked up in its Secret, given or the default, is one element of a
path. -/
theorem GatewayObject.ValidNames.keyName {gw : GatewayObject Selector} (h : gw.ValidNames)
    {k : DKIMKeySpec} (hk : k ∈ gw.dkim) : Filepath.Plain (DKIMKeyName k) := by
  unfold DKIMKeyName
  split_ifs with hset
  · exact plain_of_configMapKey ((h.keys k hk).resolve_left hset)
  · decide

/-! ## Secrets -/

/-- The names that the loop collects are those of the keys' Secrets that it has not seen before, without the
empty one. -/
theorem mem_dkimSecretNamesFrom {name : Bytes} {ks : List DKIMKeySpec} {seen : List Bytes} :
    name ∈ dkimSecretNamesFrom seen ks ↔
      name ≠ [] ∧ name ∉ seen ∧ ∃ k ∈ ks, k.privateKeySecretRef.name = name := by
  induction ks generalizing seen with
  | nil => simp [dkimSecretNamesFrom]
  | cons k ks ih =>
    rw [dkimSecretNamesFrom]
    split_ifs with hskip
    · -- a name that is skipped is empty or was seen, so it is none of those that are wanted
      rw [ih, List.exists_mem_cons_iff]
      constructor
      · rintro ⟨hne, hseen, hk⟩
        exact ⟨hne, hseen, .inr hk⟩
      · rintro ⟨hne, hseen, rfl | hk⟩
        · exact absurd hskip (not_or.mpr ⟨hne, hseen⟩)
        · exact ⟨hne, hseen, hk⟩
    · obtain ⟨hne, hnew⟩ := not_or.mp hskip
      rw [List.mem_cons, ih, List.exists_mem_cons_iff, List.mem_cons, not_or]
      constructor
      · rintro (rfl | ⟨hname, ⟨-, hseen⟩, hk⟩)
        · exact ⟨hne, hnew, .inl rfl⟩
        · exact ⟨hname, hseen, .inr hk⟩
      · rintro ⟨hname, hseen, rfl | hk⟩
        · exact .inl rfl
        · by_cases heq : name = k.privateKeySecretRef.name
          · exact .inl heq
          · exact .inr ⟨hname, ⟨heq, hseen⟩, hk⟩

/-- The loop collects no name twice. -/
theorem nodup_dkimSecretNamesFrom (ks : List DKIMKeySpec) (seen : List Bytes) :
    (dkimSecretNamesFrom seen ks).Nodup := by
  induction ks generalizing seen with
  | nil => exact .nil
  | cons k ks ih =>
    rw [dkimSecretNamesFrom]
    split_ifs with hskip
    · exact ih seen
    · refine List.nodup_cons.mpr ⟨fun hmem => ?_, ih _⟩
      exact (mem_dkimSecretNamesFrom.mp hmem).2.1 List.mem_cons_self

/-- The Secrets of the keys that sign, each once. -/
theorem mem_DKIMSecretNames {gw : GatewayObject Selector} {name : Bytes} :
    name ∈ DKIMSecretNames gw ↔
      name ≠ [] ∧ ∃ k ∈ signingKeys gw, k.privateKeySecretRef.name = name := by
  rw [DKIMSecretNames, List.mem_mergeSort, mem_dkimSecretNamesFrom]
  simp [signingKeys]

/-- A Secret that several keys refer to is mounted once. -/
theorem nodup_DKIMSecretNames (gw : GatewayObject Selector) : (DKIMSecretNames gw).Nodup :=
  (List.mergeSort_perm _ _).nodup_iff.mpr (nodup_dkimSecretNamesFrom _ _)

section
variable {v : GatewayValidator Selector} {gw : GatewayObject Selector}

/-- An admitted gateway has either references or an issuer. -/
theorem GatewayValidator.Clean.certificateSecrets_eq (h : v.Clean gw) :
    CertificateSecretNames gw = certificateSecrets gw := by
  obtain ⟨path, htls⟩ := h.tls
  rw [GatewayValidator.validateTLS] at htls
  simp only [List.append_eq_nil_iff] at htls
  have hsource := htls.1.1.1
  rw [CertificateSecretNames, certificateSecrets]
  cases hissuer : gw.tls.issuerRef with
  | none =>
    cases hrefs : gw.tls.certificateRefs with
    | nil => rfl
    | cons ref refs => rfl
  | some issuer =>
    have hnone : ¬ gw.tls.certificateRefs.length > 0 := by
      intro hrefs
      rw [certificateSourceErrors, if_pos ⟨hrefs, by rw [hissuer]; rfl⟩] at hsource
      cases hsource
    rw [if_neg hnone]
    rfl

/-- No Secret is given twice for the certificates of an admitted gateway. -/
theorem GatewayValidator.Clean.nodup_certificates (h : v.Clean gw) :
    (certificateSecrets gw).Nodup := by
  obtain ⟨path, htls⟩ := h.tls
  rw [GatewayValidator.validateTLS] at htls
  simp only [List.append_eq_nil_iff] at htls
  have hrefs := (checkEach_start_eq_nil.mp htls.2).1
  rw [List.map_id] at hrefs
  rw [certificateSecrets]
  cases gw.tls.issuerRef with
  | none => exact hrefs
  | some issuer => exact List.nodup_singleton _

end

/-! ## Mounts -/

section
variable {stem : Bytes} {path : Bytes → Bytes} {secrets : List Bytes}

/-- Secrets are mounted in their order, each at its own path. -/
theorem secretMounts_paths :
    (secretMounts stem path secrets).map VolumeMount.mountPath = secrets.map path := by
  refine List.ext_getElem (by simp [secretMounts]) fun i hi hi' => ?_
  simp [secretMounts]

/-- The volumes are numbered, so that their names do not depend on those of the Secrets. -/
theorem secretMounts_names :
    (secretMounts stem path secrets).map VolumeMount.name =
      (List.range secrets.length).map fun i => stem ++ formatNat i := by
  refine List.ext_getElem (by simp [secretMounts]) fun i hi hi' => ?_
  simp [secretMounts]

/-- Every Secret is mounted, under its path and out of its volume. -/
theorem secretMounts_mounts {secret : Bytes} (h : secret ∈ secrets) :
    ∃ m ∈ secretMounts stem path secrets, ∃ vol ∈ secretVolumes stem secrets,
      vol.name = m.name ∧ vol.source = .secret secret ∧ m.mountPath = path secret := by
  obtain ⟨i, hi, rfl⟩ := List.mem_iff_getElem.mp h
  have hm : (⟨stem ++ formatNat i, path secrets[i], true⟩ : VolumeMount) ∈
      secretMounts stem path secrets :=
    List.mem_mapIdx.mpr ⟨i, hi, rfl⟩
  have hvol : (⟨stem ++ formatNat i, .secret secrets[i]⟩ : Volume) ∈ secretVolumes stem secrets :=
    List.mem_mapIdx.mpr ⟨i, hi, rfl⟩
  exact ⟨_, hm, _, hvol, rfl, rfl, rfl⟩

/-- A mount is of one of the Secrets. -/
theorem mem_secretMounts {m : VolumeMount} (h : m ∈ secretMounts stem path secrets) :
    ∃ secret ∈ secrets, m.mountPath = path secret := by
  have hpath : m.mountPath ∈ secrets.map path := by
    rw [← secretMounts_paths]
    exact List.mem_map_of_mem h
  obtain ⟨secret, hsecret, heq⟩ := List.mem_map.mp hpath
  exact ⟨secret, hsecret, heq.symm⟩

end

/-- The elements of `TLSDir`. -/
def tlsElems : List Bytes := [lit "etc", lit "mailout", lit "tls"]

/-- The elements of `DKIMDir`. -/
def dkimElems : List Bytes := [lit "etc", lit "mailout", lit "dkim"]

/-- The elements of the directory of the certificates are plain. -/
theorem plain_tlsElems : ∀ e ∈ tlsElems, Filepath.Plain e := by decide

/-- The elements of the directory of the DKIM keys are plain. -/
theorem plain_dkimElems : ∀ e ∈ dkimElems, Filepath.Plain e := by decide

/-- For a plain name `filepath.Join` only puts a slash between the directory and the Secret. -/
theorem CertificateMountPath_eq {secret : Bytes} (h : Filepath.Plain secret) :
    CertificateMountPath secret = Filepath.abs (tlsElems ++ [secret]) :=
  Filepath.join_abs (List.cons_ne_nil _ _) plain_tlsElems h

/-- The same of the directory of the DKIM keys. -/
theorem DKIMMountPath_eq {secret : Bytes} (h : Filepath.Plain secret) :
    DKIMMountPath secret = Filepath.abs (dkimElems ++ [secret]) :=
  Filepath.join_abs (List.cons_ne_nil _ _) plain_dkimElems h

/-- The files of a certificate are in the directory its Secret is mounted at. -/
theorem mountedCertificate_files {secret : Bytes} (h : Filepath.Plain secret) :
    (mountedCertificate secret).certFile =
        CertificateMountPath secret ++ Filepath.slash :: lit "tls.crt" ∧
      (mountedCertificate secret).keyFile =
        CertificateMountPath secret ++ Filepath.slash :: lit "tls.key" :=
  ⟨Filepath.join_join_abs (List.cons_ne_nil _ _) plain_tlsElems h (by decide),
    Filepath.join_join_abs (List.cons_ne_nil _ _) plain_tlsElems h (by decide)⟩

/-- A private key is in the directory its Secret is mounted at. -/
theorem DKIMMountPath_file {secret key : Bytes} (h : Filepath.Plain secret)
    (hkey : Filepath.Plain key) :
    Filepath.join [DKIMMountPath secret, key] = DKIMMountPath secret ++ Filepath.slash :: key :=
  Filepath.join_join_abs (List.cons_ne_nil _ _) plain_dkimElems h hkey

/-- The paths of the mounts, element by element. -/
def mountElems (certificates keys : List Bytes) : List (List Bytes) :=
  [[lit "etc", lit "mailout"], [lit "var", lit "spool", lit "mailout"]] ++
    certificates.map (fun secret => tlsElems ++ [secret]) ++
    keys.map fun secret => dkimElems ++ [secret]

/-- No two mounts have the same elements: the directories differ, and below one directory the names do. -/
theorem nodup_mountElems {certificates keys : List Bytes} (hcertificates : certificates.Nodup)
    (hkeys : keys.Nodup) : (mountElems certificates keys).Nodup := by
  have hconcat : ∀ dir : List Bytes, Function.Injective fun secret => dir ++ [secret] := by
    intro dir a b hab
    exact List.singleton_inj.mp (List.append_cancel_left hab)
  have hfixed : ([[lit "etc", lit "mailout"], [lit "var", lit "spool", lit "mailout"]] :
      List (List Bytes)).Nodup := by decide
  refine List.nodup_append'.mpr ⟨List.nodup_append'.mpr ⟨hfixed, hcertificates.map (hconcat _), ?_⟩,
    hkeys.map (hconcat _), ?_⟩
  · intro path hpath hmem
    obtain ⟨secret, -, rfl⟩ := List.mem_map.mp hmem
    revert hpath
    simp [tlsElems]
  · intro path hpath hmem
    obtain ⟨secret, -, rfl⟩ := List.mem_map.mp hmem
    have hdirs : lit "tls" ≠ lit "dkim" := by decide
    revert hpath
    simp [tlsElems, dkimElems, hdirs]

/-- The elements of the two fixed paths are plain. -/
theorem plain_fixedElems : ∀ es ∈ [[lit "etc", lit "mailout"], [lit "var", lit "spool", lit "mailout"]],
    es ≠ [] ∧ ∀ e ∈ es, Filepath.Plain e := by decide

/-- No two mounts are at the same path. Kubernetes would refuse the pod otherwise. -/
theorem nodup_mountPaths {certificates keys : List Bytes} (hcertificates : certificates.Nodup)
    (hkeys : keys.Nodup) (hplain : ∀ secret ∈ certificates, Filepath.Plain secret)
    (hplain' : ∀ secret ∈ keys, Filepath.Plain secret) :
    ([ConfigDir, SpoolDir] ++ certificates.map CertificateMountPath ++
      keys.map DKIMMountPath).Nodup := by
  have hpaths : [ConfigDir, SpoolDir] ++ certificates.map CertificateMountPath ++
      keys.map DKIMMountPath = (mountElems certificates keys).map Filepath.abs := by
    rw [mountElems, List.map_append, List.map_append, List.map_map, List.map_map]
    congr 1
    · congr 1
      exact List.map_congr_left fun secret h => CertificateMountPath_eq (hplain secret h)
    · exact List.map_congr_left fun secret h => DKIMMountPath_eq (hplain' secret h)
  have helems : ∀ es ∈ mountElems certificates keys, es ≠ [] ∧ ∀ e ∈ es, Filepath.Plain e := by
    intro es hes
    rcases List.mem_append.mp hes with hes | hes
    · rcases List.mem_append.mp hes with hes | hes
      · exact plain_fixedElems es hes
      · obtain ⟨secret, hsecret, rfl⟩ := List.mem_map.mp hes
        exact ⟨by simp, List.forall_mem_append.mpr ⟨plain_tlsElems,
          List.forall_mem_singleton.mpr (hplain secret hsecret)⟩⟩
    · obtain ⟨secret, hsecret, rfl⟩ := List.mem_map.mp hes
      exact ⟨by simp, List.forall_mem_append.mpr ⟨plain_dkimElems,
        List.forall_mem_singleton.mpr (hplain' secret hsecret)⟩⟩
  rw [hpaths]
  refine List.Nodup.map_on (fun es hes es' hes' heq => ?_) (nodup_mountElems hcertificates hkeys)
  exact Filepath.abs_inj (helems es hes).1 (helems es' hes').1 (helems es hes).2 (helems es' hes').2 heq

/-- Numbered names are different. -/
theorem nodup_numbered (stem : Bytes) (n : Nat) :
    ((List.range n).map fun i => stem ++ formatNat i).Nodup :=
  List.nodup_range.map fun _ _ h => formatNat_inj (List.append_cancel_left h)

/-- Names with different first letters are different. -/
theorem nodup_mountNames (n m : Nat) :
    ([lit "config", SpoolVolumeName] ++ ((List.range n).map fun i => lit "tls-" ++ formatNat i) ++
      (List.range m).map fun i => lit "dkim-" ++ formatNat i).Nodup := by
  have hfixed : [lit "config", SpoolVolumeName].Nodup := by decide
  have hhead : ∀ name ∈ [lit "config", SpoolVolumeName],
      name.head? ≠ some 0x74 ∧ name.head? ≠ some 0x64 := by decide
  refine List.nodup_append'.mpr ⟨List.nodup_append'.mpr ⟨hfixed, nodup_numbered _ n, ?_⟩,
    nodup_numbered _ m, ?_⟩
  · intro name hname hmem
    obtain ⟨i, -, rfl⟩ := List.mem_map.mp hmem
    exact (hhead _ hname).1 rfl
  · intro name hname hmem
    obtain ⟨j, -, rfl⟩ := List.mem_map.mp hmem
    rcases List.mem_append.mp hname with hname | hname
    · exact (hhead _ hname).2 rfl
    · obtain ⟨i, -, heq⟩ := List.mem_map.mp hname
      exact absurd (List.cons.inj heq).1 (by decide)

/-! ## The workload and the configuration -/

/-- The file is the one of a key of a Secret, in a mount of the Deployment that the Secret backs. -/
def DeploymentObject.Provides (d : DeploymentObject) (secret key file : Bytes) : Prop :=
  ∃ m ∈ d.volumeMounts, ∃ vol ∈ d.volumes, vol.name = m.name ∧ vol.source = .secret secret ∧
    Filepath.Plain key ∧ file = m.mountPath ++ Filepath.slash :: key

/-- A certificate or a private key of the configuration is read from the mount. -/
def VolumeMount.Used (m : VolumeMount) (cfg : DataplaneConfig) : Prop :=
  (∃ cert ∈ cfg.tls.certificates, Filepath.DirectlyIn m.mountPath cert.certFile ∧
    Filepath.DirectlyIn m.mountPath cert.keyFile) ∨
  ∃ key ∈ cfg.dkim, Filepath.DirectlyIn m.mountPath key.privateKeyFile

/-- The mounts of the Deployment are those that the configuration reads. -/
structure MountsMatch (gw : GatewayObject Selector) (cfg : DataplaneConfig)
    (d : DeploymentObject) : Prop where
  certificates : List.Forall₂ (fun cert secret => cert.name = secret ∧
    d.Provides secret (lit "tls.crt") cert.certFile ∧
    d.Provides secret (lit "tls.key") cert.keyFile) cfg.tls.certificates (certificateSecrets gw)
  keys : List.Forall₂ (fun key spec => key.domain = spec.domain ∧ key.selector = spec.selector ∧
    d.Provides spec.privateKeySecretRef.name (DKIMKeyName spec) key.privateKeyFile)
    cfg.dkim (signingKeys gw)
  used : ∀ m ∈ d.volumeMounts,
    m.name = lit "config" ∨ m.name = SpoolVolumeName ∨ m.Used cfg
  paths : (d.volumeMounts.map VolumeMount.mountPath).Nodup
  names : (d.volumeMounts.map VolumeMount.name).Nodup

/-- The ports of the objects are those of the spec's listeners. -/
structure PortsMatch (gw : GatewayWorkload Selector) (cfg : DataplaneConfig)
    (d : DeploymentObject) : Prop where
  statuses : (ListenerStatuses cfg).map ListenerStatus.port = renderedPorts gw.listeners
  service : (gw.Service cfg).ports.map ServicePort.port = renderedPorts gw.listeners
  target : (gw.Service cfg).ports.map ServicePort.targetPort = renderedPorts gw.listeners
  container : d.ports.map ContainerPort.containerPort = renderedPorts gw.listeners ++ [MetricsPort]
  metrics : MetricsPort ∉ renderedPorts gw.listeners
  policy : ∀ p, gw.MetricsNetworkPolicy cfg = some p →
    ∃ rule, p.ingress.filter (fun r => r.peers.isEmpty) = [rule] ∧
      rule.ports = renderedPorts gw.listeners

/-- The endpoint is that of the submission listener if there is one, and else that of the smtps
listener. -/
def EndpointMatches (endpoint : Endpoint) (cfg : DataplaneConfig) : Prop :=
  ∃ l ∈ cfg.listeners,
    (l.name = lit "submission" ∨
      l.name = lit "smtps" ∧ ∀ l' ∈ cfg.listeners, l'.name ≠ lit "submission") ∧
    l.addr = portAddr endpoint.port ∧ l.mode.text = endpoint.tls

section
variable {v : GatewayValidator Selector} {gw : GatewayWorkload Selector} {cfg : DataplaneConfig}
  {d : DeploymentObject} {image : Bytes}

/-- What of a gateway's configuration the workload has to agree with. -/
structure RendersFrom (gw : GatewayObject Selector) (cfg : DataplaneConfig) : Prop where
  listeners : cfg.listeners = renderListeners gw.listeners
  certificates : cfg.tls.certificates = (CertificateSecretNames gw).map mountedCertificate
  dkim : cfg.dkim = renderDKIM (signingKeys gw)

/-- A configuration that was rendered has its listeners, certificates and keys from the gateway. -/
theorem rendersFrom_of_GatewayConfig {inp : Input Selector} {gw : GatewayObject Selector}
    (hgw : inp.gateway = some gw) {sorted : List Account}
    (h : GatewayConfig inp sorted = .ok cfg) : RendersFrom gw cfg := by
  simp only [GatewayConfig, hgw] at h
  cases h
  refine ⟨rfl, rfl, ?_⟩
  unfold signingKeys
  dsimp only
  split_ifs
  · rfl
  · rfl

/-- There is a listener to probe. -/
theorem exists_Deployment (hcfg : RendersFrom gw.toGatewayObject cfg) (image : Bytes) :
    ∃ d, gw.Deployment cfg image = some d := by
  cases hstatuses : ListenerStatuses cfg with
  | nil =>
    rw [ListenerStatuses, List.map_eq_nil_iff, hcfg.listeners] at hstatuses
    exact absurd hstatuses (renderListeners_ne_nil _)
  | cons first rest =>
    rw [GatewayWorkload.Deployment, hstatuses]
    exact ⟨_, rfl⟩

/-- The Secrets of the certificates are provided. -/
theorem provides_certificate (hd : gw.Deployment cfg image = some d) {secret key : Bytes}
    (hsecret : secret ∈ CertificateSecretNames gw.toGatewayObject) (hkey : Filepath.Plain key) :
    d.Provides secret key (CertificateMountPath secret ++ Filepath.slash :: key) := by
  obtain ⟨first, -, rfl⟩ := Option.map_eq_some_iff.mp hd
  obtain ⟨m, hm, vol, hvol, hname, hsource, hpath⟩ :=
    @secretMounts_mounts (lit "tls-") CertificateMountPath _ _ hsecret
  exact ⟨m, List.mem_append_left _ (List.mem_append_right _ hm), vol,
    List.mem_append_left _ (List.mem_append_right _ hvol), hname, hsource, hkey, by rw [hpath]⟩

/-- The Secrets of the keys are provided. -/
theorem provides_key (hd : gw.Deployment cfg image = some d) {secret key : Bytes}
    (hsecret : secret ∈ DKIMSecretNames gw.toGatewayObject) (hkey : Filepath.Plain key) :
    d.Provides secret key (DKIMMountPath secret ++ Filepath.slash :: key) := by
  obtain ⟨first, -, rfl⟩ := Option.map_eq_some_iff.mp hd
  obtain ⟨m, hm, vol, hvol, hname, hsource, hpath⟩ :=
    @secretMounts_mounts (lit "dkim-") DKIMMountPath _ _ hsecret
  exact ⟨m, List.mem_append_right _ hm, vol, List.mem_append_right _ hvol, hname, hsource, hkey,
    by rw [hpath]⟩

/-- The certificates of an admitted gateway have names that are one element of a path. -/
theorem GatewayValidator.Clean.plain_certificates (hclean : v.Clean gw.toGatewayObject)
    (hnames : gw.toGatewayObject.ValidNames) :
    ∀ secret ∈ CertificateSecretNames gw.toGatewayObject, Filepath.Plain secret := by
  intro secret h
  rw [hclean.certificateSecrets_eq] at h
  exact plain_of_subdomain (hnames.certificates secret h)

/-- The Secret of a key that signs, and the key in it, are one element of a path each. -/
theorem GatewayObject.ValidNames.plain_keys {gw : GatewayObject Selector} (hnames : gw.ValidNames)
    {k : DKIMKeySpec} (hk : k ∈ signingKeys gw) :
    Filepath.Plain k.privateKeySecretRef.name ∧ Filepath.Plain (DKIMKeyName k) := by
  have hmem : k ∈ gw.dkim := by
    unfold signingKeys at hk
    split_ifs at hk
    · cases hk
    · exact hk
  exact ⟨plain_of_subdomain (hnames.secrets k hmem), hnames.keyName hmem⟩

/-- Every certificate of the configuration is found in the pod at the path that the configuration says,
under the name of its Secret. -/
theorem certificates_match (hclean : v.Clean gw.toGatewayObject)
    (hnames : gw.toGatewayObject.ValidNames) (hcfg : RendersFrom gw.toGatewayObject cfg)
    (hd : gw.Deployment cfg image = some d) :
    List.Forall₂ (fun cert secret => cert.name = secret ∧
      d.Provides secret (lit "tls.crt") cert.certFile ∧
      d.Provides secret (lit "tls.key") cert.keyFile)
      cfg.tls.certificates (certificateSecrets gw.toGatewayObject) := by
  rw [hcfg.certificates, ← hclean.certificateSecrets_eq, List.forall₂_map_left_iff,
    List.forall₂_same]
  intro secret hsecret
  obtain ⟨hcert, hkey⟩ := mountedCertificate_files (hclean.plain_certificates hnames secret hsecret)
  refine ⟨rfl, ?_, ?_⟩
  · rw [hcert]
    exact provides_certificate hd hsecret (by decide)
  · rw [hkey]
    exact provides_certificate hd hsecret (by decide)

/-- Every DKIM key of the configuration is found in the pod at the path that the configuration says. -/
theorem keys_match (hnames : gw.toGatewayObject.ValidNames)
    (hcfg : RendersFrom gw.toGatewayObject cfg) (hd : gw.Deployment cfg image = some d) :
    List.Forall₂ (fun key spec => key.domain = spec.domain ∧ key.selector = spec.selector ∧
      d.Provides spec.privateKeySecretRef.name (DKIMKeyName spec) key.privateKeyFile)
      cfg.dkim (signingKeys gw.toGatewayObject) := by
  rw [hcfg.dkim, renderDKIM, List.forall₂_map_left_iff, List.forall₂_same]
  intro k hk
  obtain ⟨hsecret, hkey⟩ := hnames.plain_keys hk
  refine ⟨rfl, rfl, ?_⟩
  dsimp only
  rw [DKIMMountPath_file hsecret hkey]
  exact provides_key hd (mem_DKIMSecretNames.mpr ⟨hsecret.1, k, hk, rfl⟩) hkey

/-- Each mount of a Secret is used by what was rendered for the Secret. -/
theorem mounts_used (hclean : v.Clean gw.toGatewayObject)
    (hnames : gw.toGatewayObject.ValidNames) (hcfg : RendersFrom gw.toGatewayObject cfg)
    (hd : gw.Deployment cfg image = some d) :
    ∀ m ∈ d.volumeMounts, m.name = lit "config" ∨ m.name = SpoolVolumeName ∨ m.Used cfg := by
  obtain ⟨first, -, rfl⟩ := Option.map_eq_some_iff.mp hd
  intro m hm
  rcases List.mem_append.mp hm with hm | hm
  · rcases List.mem_append.mp hm with hm | hm
    · rcases List.mem_cons.mp hm with rfl | hm
      · exact .inl rfl
      · rw [List.mem_singleton.mp hm]
        exact .inr (.inl rfl)
    · obtain ⟨secret, hsecret, hpath⟩ := mem_secretMounts hm
      obtain ⟨hcert, hkey⟩ :=
        mountedCertificate_files (hclean.plain_certificates hnames secret hsecret)
      refine .inr (.inr (.inl ⟨mountedCertificate secret, ?_, ?_, ?_⟩))
      · rw [hcfg.certificates]
        exact List.mem_map_of_mem hsecret
      · exact ⟨lit "tls.crt", by decide, by rw [hcert, hpath]⟩
      · exact ⟨lit "tls.key", by decide, by rw [hkey, hpath]⟩
  · obtain ⟨secret, hsecret, hpath⟩ := mem_secretMounts hm
    obtain ⟨-, k, hk, rfl⟩ := mem_DKIMSecretNames.mp hsecret
    obtain ⟨hplain, hkey⟩ := hnames.plain_keys hk
    have hmem : _ ∈ renderDKIM (signingKeys gw.toGatewayObject) := List.mem_map_of_mem hk
    refine .inr (.inr (.inr ⟨_, hcfg.dkim ▸ hmem, DKIMKeyName k, hkey, ?_⟩))
    rw [hpath]
    exact DKIMMountPath_file hplain hkey

/-- All that the configuration refers to is mounted where it says, and nothing is mounted over it. -/
theorem mounts_match (hclean : v.Clean gw.toGatewayObject) (hnames : gw.toGatewayObject.ValidNames)
    (hcfg : RendersFrom gw.toGatewayObject cfg) (hd : gw.Deployment cfg image = some d) :
    MountsMatch gw.toGatewayObject cfg d := by
  refine ⟨certificates_match hclean hnames hcfg hd, keys_match hnames hcfg hd,
    mounts_used hclean hnames hcfg hd, ?_, ?_⟩
  · obtain ⟨first, -, rfl⟩ := Option.map_eq_some_iff.mp hd
    rw [List.map_append, List.map_append, secretMounts_paths, secretMounts_paths]
    refine nodup_mountPaths ?_ (nodup_DKIMSecretNames _) (hclean.plain_certificates hnames) ?_
    · rw [hclean.certificateSecrets_eq]
      exact hclean.nodup_certificates
    · intro secret hsecret
      obtain ⟨-, k, hk, rfl⟩ := mem_DKIMSecretNames.mp hsecret
      exact (hnames.plain_keys hk).1
  · obtain ⟨first, -, rfl⟩ := Option.map_eq_some_iff.mp hd
    rw [List.map_append, List.map_append, secretMounts_names, secretMounts_names]
    exact nodup_mountNames _ _

/-- The listeners of the configuration, the ports of the container and the rules of the network policy
agree. -/
theorem ports_match (hclean : v.Clean gw.toGatewayObject) (hports : gw.listeners.Int32)
    (hcfg : RendersFrom gw.toGatewayObject cfg) (hd : gw.Deployment cfg image = some d) :
    PortsMatch gw cfg d := by
  have hstatuses : (ListenerStatuses cfg).map ListenerStatus.port = renderedPorts gw.listeners := by
    rw [ListenerStatuses, hcfg.listeners, List.map_map]
    refine map_renderListeners hports fun p hp name mode => ?_
    rw [Function.comp_apply, listenerStatus_portAddr hp]
  obtain ⟨path, hlisteners⟩ := hclean.listeners
  refine ⟨hstatuses, ?_, ?_, ?_, (validateListeners_ports hlisteners).2, ?_⟩
  · rw [GatewayWorkload.Service, List.map_map]
    exact hstatuses
  · rw [GatewayWorkload.Service, List.map_map]
    exact hstatuses
  · obtain ⟨first, -, rfl⟩ := Option.map_eq_some_iff.mp hd
    rw [List.map_append, List.map_map]
    exact congrArg (· ++ [MetricsPort]) hstatuses
  · intro p hp
    unfold GatewayWorkload.MetricsNetworkPolicy at hp
    split_ifs at hp with hscrapers
    cases hp
    have hrestricted : gw.allowedScrapers.isEmpty = false := by
      rw [List.isEmpty_eq_false_iff]
      exact fun hnil => hscrapers (by rw [hnil]; rfl)
    refine ⟨⟨cfg.listeners.map listenerPortOf, []⟩, ?_, ?_⟩
    · simp [hrestricted]
    · rw [hcfg.listeners]
      exact map_renderListeners hports fun p hp name mode => listenerPortOf_portAddr hp name mode

/-- The statuses of the rendered listeners. -/
theorem ListenerStatuses_eq (hports : gw.listeners.Int32)
    (hcfg : RendersFrom gw.toGatewayObject cfg) :
    ListenerStatuses cfg =
      (submissionPort gw.listeners).toList.map (⟨lit "submission", ·, lit "starttls"⟩) ++
        (smtpsPort gw.listeners).toList.map (⟨lit "smtps", ·, lit "implicit"⟩) := by
  have hrole : ∀ name mode (port : Option Int), (∀ p ∈ port, int32 p = p) →
      (port.toList.map (listenerOn name mode)).map listenerStatus =
        port.toList.map (⟨name, ·, mode.text⟩) := by
    intro name mode port hport
    cases port with
    | none => rfl
    | some p => exact congrArg (fun l => [l]) (listenerStatus_portAddr (hport p rfl) name (.mode mode))
  rw [ListenerStatuses, hcfg.listeners, renderListeners_eq, List.map_append,
    hrole _ _ _ fun p hp => (hports.submission p hp).1, hrole _ _ _ fun p hp => (hports.smtps p hp).1]
  rfl

/-- The endpoint that an account is told is a listener of the configuration, with the TLS mode that goes
with it. -/
theorem endpoint_matches (hports : gw.listeners.Int32)
    (hcfg : RendersFrom gw.toGatewayObject cfg) :
    EndpointMatches (GatewayEndpoint gw.toGatewayObject cfg) cfg := by
  have hnames : lit "smtps" ≠ lit "submission" := by decide
  have hlisteners := hcfg.listeners
  rw [renderListeners_eq] at hlisteners
  rw [EndpointMatches, GatewayEndpoint, ListenerStatuses_eq hports hcfg, hlisteners]
  cases hsubmission : submissionPort gw.listeners with
  | none =>
    cases hsmtps : smtpsPort gw.listeners with
    | none =>
      have hnil := renderListeners_eq gw.listeners
      rw [hsubmission, hsmtps] at hnil
      exact absurd hnil (renderListeners_ne_nil _)
    | some q =>
      refine ⟨listenerOn (lit "smtps") .implicit q, by simp, .inr ⟨rfl, ?_⟩, ?_, ?_⟩
      · simp [listenerOn, hnames]
      · simp [listenerOn]
      · simp [listenerOn, ModeSetting.text, TLSMode.text]
  | some p =>
    have hp := (hports.submission p hsubmission).2
    refine ⟨listenerOn (lit "submission") .startTLS p, by simp, .inl rfl, ?_, ?_⟩
    · cases hsmtps : smtpsPort gw.listeners with
      | none => simp [listenerOn]
      | some q => simp [listenerOn, hp, hnames]
    · cases hsmtps : smtpsPort gw.listeners with
      | none => simp [listenerOn, ModeSetting.text, TLSMode.text]
      | some q => simp [listenerOn, hp, hnames, ModeSetting.text, TLSMode.text]

end

/-- **The workload matches the configuration.** For an admitted gateway whose Secrets and keys have
names that Kubernetes allows, with any accounts, credentials and image: rendering succeeds, the
Deployment mounts what the configuration reads and nothing else, each Secret once and under a path of
its own; the Service, the statuses, the container and the rule of the policy that is for every source
have the ports of the spec's listeners, as both parsers read back what the renderer printed; and
applications are sent to the submission listener, or to the other one where there is none. -/
theorem workload_matches (v : GatewayValidator Selector) (gw : GatewayWorkload Selector)
    (hadmits : v.Admits gw.toGatewayObject) (hnames : gw.toGatewayObject.ValidNames)
    (hports : gw.listeners.Int32) (inp : Input Selector)
    (hgw : inp.gateway = some gw.toGatewayObject) (res : Except Bytes DataplaneConfig)
    (hrenders : Renders inp res) (image : Bytes) :
    ∃ cfg d, res = .ok cfg ∧ gw.Deployment cfg image = some d ∧
      MountsMatch gw.toGatewayObject cfg d ∧ PortsMatch gw cfg d ∧
      EndpointMatches (GatewayEndpoint gw.toGatewayObject cfg) cfg ∧
      ∀ p, int32 p = p → ∀ name mode,
        (listenerStatus ⟨name, portAddr p, mode⟩).port = p ∧
          listenerPortOf ⟨name, portAddr p, mode⟩ = p := by
  obtain ⟨sorted, -, rfl⟩ := hrenders
  obtain ⟨cfg, hcfg⟩ : ∃ cfg, GatewayConfig inp sorted = .ok cfg := by
    rw [GatewayConfig, hgw]
    exact ⟨_, rfl⟩
  have hfrom := rendersFrom_of_GatewayConfig hgw hcfg
  have hclean := hadmits.clean
  obtain ⟨d, hd⟩ := exists_Deployment hfrom image
  refine ⟨cfg, d, hcfg, hd, mounts_match hclean hnames hfrom hd, ports_match hclean hports hfrom hd,
    endpoint_matches hports hfrom, fun p hp name mode => ⟨?_, listenerPortOf_portAddr hp name mode⟩⟩
  rw [listenerStatus_portAddr hp]

/-- The gateway with both listeners and two keys in one Secret, scraped from one namespace. -/
def fullWorkload : GatewayWorkload Unit :=
  { fullGateway with
    replicas := some 2
    serviceType := []
    serviceAnnotations := []
    allowedScrapers := [⟨some (), none⟩] }

/-- The names in that gateway are ones that the API server accepts. -/
theorem fullWorkload_validNames : fullWorkload.toGatewayObject.ValidNames where
  certificates := by decide +kernel
  secrets := by decide +kernel
  keys := by decide +kernel

/-- That gateway is admitted, and its pod has what its configuration says. -/
theorem workload_matches_full :
    plainValidator.Admits fullWorkload.toGatewayObject ∧
      ∃ cfg d p, fullWorkload.Deployment cfg (lit "mailout:dev") = some d ∧
        MountsMatch fullWorkload.toGatewayObject cfg d ∧ PortsMatch fullWorkload cfg d ∧
        fullWorkload.MetricsNetworkPolicy cfg = some p ∧
        renderedPorts fullWorkload.listeners = [587, 8465] := by
  have hadmits : plainValidator.Admits fullWorkload.toGatewayObject := by decide +kernel
  obtain ⟨sorted, hsorts, -⟩ := exists_sortsBy Account.username ([] : List Account)
  obtain ⟨cfg, d, -, hd, hmounts, hports, -, -⟩ := workload_matches plainValidator fullWorkload hadmits
    fullWorkload_validNames (by decide)
    ⟨some fullWorkload.toGatewayObject, [], [], [], [], ⟨[], [], [], [], []⟩, []⟩ rfl _
    ⟨sorted, hsorts, rfl⟩ (lit "mailout:dev")
  exact ⟨hadmits, cfg, d, _, hd, hmounts, hports, rfl, by decide⟩

end Mailout
