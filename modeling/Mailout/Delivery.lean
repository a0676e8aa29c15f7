import Mailout.Operator
import Mailout.Watch
import Mathlib.Data.List.Find

/-!
# From the operator to a login

The operator and the dataplane meet at one file. What `GatewayReconcile` publishes is mounted at
`ConfigFilePath`, where `Load` reads it. A string that is not UTF-8 comes out of the file changed, and a
Secret may hold one, so that what is loaded is `DataplaneConfig.received`. It is valid nevertheless, and
it serves the same usernames with the same hashes, as far as these are UTF-8 (`published_loads`). With the
loop of the dataplane at rest, a login is decided as the published accounts say (`published_served`), and
with the operator at rest too, as the objects in the cluster say (`login_of_objects`).
-/

namespace Mailout

open Go

variable {Selector : Type}

/-! ## What survives the file -/

/-- The names of the modes are ASCII, so that a mode that is known comes out of the file as it went in. -/
theorem ModeSetting.received_mode (m : TLSMode) : (ModeSetting.mode m).received = .mode m := by
  cases m <;> decide

/-- Making a string UTF-8 never makes it empty, which is all that is checked of a certificate. -/
theorem CertificateRef.complete_received (c : CertificateRef) : c.received.complete = c.complete := by
  simp only [complete, received, ne_eq, coerce_eq_nil]

/-- An address that is UTF-8 comes out of the file as it went in. -/
theorem Listener.received_addr {l : Listener} (h : Utf8 l.addr) : l.received.addr = l.addr := h

/-- A filter's address that is UTF-8 is parsed alike on both sides of the file. -/
theorem MilterConfig.parseAddress_received {quote : Bytes → Bytes} {m : MilterConfig}
    (h : Utf8 m.address) : m.received.parseAddress quote = m.parseAddress quote := by
  have haddress : m.received.address = m.address := h
  simp only [parseAddress, haddress]

/-- A valid configuration is valid as it comes out of the file, if its addresses are UTF-8. -/
theorem DataplaneConfig.Valid.received {quote : Bytes → Bytes} {c : DataplaneConfig} (h : c.Valid quote)
    (haddr : ∀ l ∈ c.listeners, Utf8 l.addr) (hmilter : ∀ m ∈ c.milters, Utf8 m.address) :
    c.received.Valid quote where
  listeners := fun hnil => h.listeners (List.map_eq_nil_iff.mp hnil)
  listener := by
    intro l hl
    obtain ⟨k, hk, rfl⟩ := List.mem_map.mp hl
    obtain ⟨hne, hmode⟩ := h.listener k hk
    refine ⟨fun hnil => hne (coerce_eq_nil.mp hnil), ?_⟩
    rcases hmode with hmode | hmode
    · exact .inl ((congrArg ModeSetting.received hmode).trans (ModeSetting.received_mode _))
    · exact .inr ((congrArg ModeSetting.received hmode).trans (ModeSetting.received_mode _))
  addresses := by
    have hfixed : ∀ l ∈ c.listeners, (Listener.fixed ∘ Listener.received) l = l.fixed := by
      intro l hl
      simp only [Function.comp_apply, Listener.fixed, Listener.received_addr (haddr l hl)]
    have hsame : ((c.received.listeners.filter Listener.fixed).map Listener.addr) =
        (c.listeners.filter Listener.fixed).map Listener.addr := by
      rw [DataplaneConfig.received, List.filter_map, List.filter_congr hfixed, List.map_map]
      exact List.map_congr_left fun l hl => haddr l (List.mem_of_mem_filter hl)
    rw [hsame]
    exact h.addresses
  certificates := fun hnil => h.certificates (List.map_eq_nil_iff.mp hnil)
  certificate := by
    intro cert hcert
    obtain ⟨k, hk, rfl⟩ := List.mem_map.mp hcert
    rw [CertificateRef.complete_received]
    exact h.certificate k hk
  host := fun hnil => h.host (coerce_eq_nil.mp hnil)
  mode := by
    obtain ⟨m, hm⟩ := h.mode
    exact ⟨m, (congrArg ModeSetting.received hm).trans (ModeSetting.received_mode m)⟩
  store := by
    intro r hr
    obtain ⟨k, hk, rfl⟩ := Option.mem_map.mp hr
    obtain ⟨hne, htls⟩ := h.store k hk
    exact ⟨fun hnil => hne (List.map_eq_nil_iff.mp hnil), htls⟩
  milters := by
    intro m hm
    obtain ⟨k, hk, rfl⟩ := List.mem_map.mp hm
    rw [MilterConfig.parseAddress_received (hmilter k hk)]
    exact h.milters k hk

/-! ### Accounts -/

section
variable {bcrypt : Bcrypt}

/-- A valid username is ASCII: `ValidUsername` refuses bytes above the tilde. -/
theorem ascii_of_validUsername {u : Bytes} (h : ValidUsername u = true) :
    ∀ b ∈ u, b.toNat < runeSelf := by
  unfold ValidUsername at h
  split_ifs at h
  intro b hb
  have hbyte := List.all_eq_true.mp h b hb
  simp only [usernameByte, Bool.not_eq_true', Bool.or_eq_false_iff, decide_eq_false_iff_not] at hbyte
  obtain ⟨⟨⟨⟨⟨⟨-, hhigh⟩, -⟩, -⟩, -⟩, -⟩, -⟩ := hbyte
  have hle := UInt8.le_iff_toNat_le.mp (UInt8.not_lt.mp hhigh)
  have hbound : (0x7E : UInt8).toNat < runeSelf := by decide
  omega

/-- A valid username is UTF-8. -/
theorem utf8_of_validUsername {u : Bytes} (h : ValidUsername u = true) : Utf8 u :=
  utf8_of_ascii (ascii_of_validUsername h)

/-- A username is as valid as it comes out of the file. -/
theorem validUsername_coerce (u : Bytes) : ValidUsername (coerce u) = ValidUsername u := by
  rw [Bool.eq_iff_iff]
  constructor
  · intro h
    have hutf8 : coerce u = u := utf8_of_coerce_ascii (ascii_of_validUsername h)
    rwa [hutf8] at h
  · intro h
    have hutf8 : coerce u = u := utf8_of_validUsername h
    rwa [hutf8]

/-- A username that is served is ASCII. -/
theorem Servable.utf8 {a : Account} (h : Servable bcrypt a = true) : Utf8 a.username := by
  simp only [Servable, Bool.and_eq_true] at h
  exact utf8_of_validUsername h.1.1

/-- An account is as servable as it comes out of the file, if its hash comes out of it as it was. -/
theorem servable_received {a : Account} (h : Utf8 a.passwordHash) :
    Servable bcrypt a.received = Servable bcrypt a := by
  have hhash : a.received.passwordHash = a.passwordHash := h
  have hname : ValidUsername a.received.username = ValidUsername a.username := validUsername_coerce _
  simp only [Servable, hhash, hname]

/-- The same accounts are served from the file. -/
theorem partitionFrom_received : ∀ {accounts : List Account} {seen : Bytes → Bool} {i : Nat},
    (∀ a ∈ accounts, Utf8 a.passwordHash) →
    (partitionFrom bcrypt seen i (accounts.map Account.received)).1 =
      (partitionFrom bcrypt seen i accounts).1.map Account.received
  | [], _, _, _ => rfl
  | a :: accounts, seen, i, h => by
    have hserv : Servable bcrypt a.received = Servable bcrypt a :=
      servable_received (h a List.mem_cons_self)
    have ih : ∀ seen, (partitionFrom bcrypt seen (i + 1) (accounts.map Account.received)).1 =
        (partitionFrom bcrypt seen (i + 1) accounts).1.map Account.received := fun seen =>
      partitionFrom_received fun b hb => h b (List.mem_cons_of_mem a hb)
    rw [List.map_cons, partitionFrom, partitionFrom]
    cases hrefusal : refusal bcrypt seen i a with
    | none =>
      obtain ⟨hseen, hservable⟩ := refusal_eq_none.mp hrefusal
      have hname : a.received.username = a.username := Servable.utf8 hservable
      have hnone : refusal bcrypt seen i a.received = none :=
        refusal_eq_none.mpr ⟨by rw [hname, hseen], by rw [hserv, hservable]⟩
      simp only [hnone, hname, ih, List.map_cons]
    | some r =>
      cases hrefusal' : refusal bcrypt seen i a.received with
      | some r' => exact ih seen
      | none =>
        obtain ⟨hseen, hservable⟩ := refusal_eq_none.mp hrefusal'
        rw [hserv] at hservable
        have hname : a.received.username = a.username := Servable.utf8 hservable
        rw [hname] at hseen
        rw [refusal_eq_none.mpr ⟨hseen, hservable⟩] at hrefusal
        cases hrefusal

/-- With hashes that are UTF-8, the accounts that are served out of the file are those that would be. -/
theorem served_received {accounts : List Account} (h : ∀ a ∈ accounts, Utf8 a.passwordHash) :
    (PartitionAccounts bcrypt (accounts.map Account.received)).1 =
      (PartitionAccounts bcrypt accounts).1.map Account.received :=
  partitionFrom_received h

/-- An account that is served is one of the configuration, and can be served. -/
theorem served_of_mem {accounts : List Account} {a : Account}
    (h : a ∈ (PartitionAccounts bcrypt accounts).1) : a ∈ accounts ∧ Servable bcrypt a = true := by
  have hfind := mem_served.mp h
  have hservable := List.find?_some hfind
  rw [Bool.and_eq_true] at hservable
  exact ⟨List.mem_of_find?_eq_some hfind, hservable.1⟩

/-- Who is found under a username is one of the accounts, and has it. -/
theorem mem_of_newAccountStore {accounts : List Account} {u : Bytes} {a : Account}
    (h : newAccountStore accounts u = some a) : a ∈ accounts ∧ a.username = u := by
  rw [newAccountStore, byUsername_eq, Option.map_id, id_eq] at h
  exact ⟨List.mem_reverse.mp (List.mem_of_find?_eq_some h), by simpa using List.find?_some h⟩

/-- Under every username of the accounts somebody is found. -/
theorem newAccountStore_isSome {accounts : List Account} {a : Account} (h : a ∈ accounts) :
    ∃ b, newAccountStore accounts a.username = some b := by
  rw [newAccountStore, byUsername_eq, Option.map_id, id_eq, ← Option.isSome_iff_exists, List.find?_isSome]
  exact ⟨a, List.mem_reverse.mpr h, beq_self_eq_true _⟩

/-- Who logs in under a username: the first account of the configuration that has it and can be served. -/
theorem served_lookup (accounts : List Account) (u : Bytes) :
    newAccountStore (PartitionAccounts bcrypt accounts).1 u =
      accounts.find? fun a => Servable bcrypt a && a.username == u := by
  cases hfind : accounts.find? fun a => Servable bcrypt a && a.username == u with
  | none =>
    refine Option.eq_none_iff_forall_not_mem.mpr fun a ha => ?_
    obtain ⟨hserved, rfl⟩ := mem_of_newAccountStore ha
    cases (mem_served.mp hserved).symm.trans hfind
  | some a =>
    have hname : a.username = u := by
      have hfound := List.find?_some hfind
      rw [Bool.and_eq_true, beq_iff_eq] at hfound
      exact hfound.2
    subst hname
    obtain ⟨b, hb⟩ := newAccountStore_isSome (mem_served.mpr hfind)
    obtain ⟨hserved, hname⟩ := mem_of_newAccountStore hb
    have hfind' := mem_served.mp hserved
    rw [hname] at hfind'
    rw [hb, ← hfind', hfind]

/-- Whoever is served out of the file has the username that went into it: another one comes out with the
replacement character, which no username may have. -/
theorem username_received {a : Account} (h : Servable bcrypt a.received = true) :
    a.received.username = a.username := by
  simp only [Servable, Bool.and_eq_true] at h
  exact utf8_of_validUsername ((validUsername_coerce a.username).symm.trans h.1.1)

/-- Under a username the same account is found in the file, if the hashes of those that have it are UTF-8. -/
theorem lookup_received {accounts : List Account} {u : Bytes}
    (h : ∀ a ∈ accounts, a.username = u → Utf8 a.passwordHash) :
    newAccountStore (PartitionAccounts bcrypt (accounts.map Account.received)).1 u =
      (newAccountStore (PartitionAccounts bcrypt accounts).1 u).map Account.received := by
  rw [served_lookup, served_lookup, List.find?_map]
  refine congrArg (Option.map Account.received) (List.find?_congr fun a ha => ?_)
  rw [Function.comp_apply, Bool.eq_iff_iff, Bool.and_eq_true, Bool.and_eq_true, beq_iff_eq, beq_iff_eq]
  constructor
  · rintro ⟨hserved, hname⟩
    have hname' : a.username = u := (username_received hserved).symm.trans hname
    exact ⟨servable_received (h a ha hname') ▸ hserved, hname'⟩
  · rintro ⟨hserved, hname⟩
    have hname' : a.received.username = a.username := Servable.utf8 hserved
    exact ⟨(servable_received (h a ha hname)).trans hserved, hname'.trans hname⟩

/-- A login against the accounts as they came out of the file is decided by those that went into it, if the
hashes under its username are UTF-8. -/
theorem authenticate_received {accounts : List Account} {u : Bytes}
    (h : ∀ a ∈ accounts, a.username = u → Utf8 a.passwordHash) (p : Bytes) :
    (newAccountStore (PartitionAccounts bcrypt (accounts.map Account.received)).1).authenticate bcrypt u p =
      ((newAccountStore (PartitionAccounts bcrypt accounts).1).authenticate bcrypt u p).map
        Account.received := by
  rw [AccountStore.authenticate, AccountStore.authenticate, lookup_received h]
  cases hfound : newAccountStore (PartitionAccounts bcrypt accounts).1 u with
  | none => rfl
  | some a =>
    obtain ⟨hserved, hname⟩ := mem_of_newAccountStore hfound
    have hsame : a.received.passwordHash = a.passwordHash := h a (served_of_mem hserved).1 hname
    have hdisabled : a.received.disabled = a.disabled := rfl
    simp only [Option.map_some, hsame, hdisabled]
    split_ifs <;> rfl

/-- An account that a login is accepted for out of the file is one that went into it under that username. It
is enabled, and the password is that of its hash as the file has it. -/
theorem authenticate_received_ok {accounts : List Account} {u p : Bytes} {acct : Account}
    (h : (newAccountStore (PartitionAccounts bcrypt (accounts.map Account.received)).1).authenticate
      bcrypt u p = .ok acct) :
    ∃ a ∈ accounts, a.username = u ∧ a.disabled = false ∧
      bcrypt.compares (coerce a.passwordHash) p = true := by
  obtain ⟨hstore, hcompares, henabled⟩ := AccountStore.authenticate_ok.mp h
  obtain ⟨hserved, hname⟩ := mem_of_newAccountStore hstore
  obtain ⟨hmem, hservable⟩ := served_of_mem hserved
  obtain ⟨a, ha, rfl⟩ := List.mem_map.mp hmem
  exact ⟨a, ha, (username_received hservable).symm.trans hname, henabled, hcompares⟩

end

/-! ## What is published -/

/-- A gateway as the API server keeps it, where it is JSON: its numbers are of 64 bits at most, and its
strings are UTF-8, of which the addresses of the filters matter here. -/
structure GatewayObject.Stored (gw : GatewayObject Selector) : Prop where
  port : FitsInt64 gw.upstream.port
  timeout : ∀ t ∈ gw.upstream.timeout, FitsInt64 t
  milters : ∀ m ∈ gw.milters, Utf8 m.address ∧ ∀ t ∈ m.timeout, FitsInt64 t
  rateLimit : ∀ r ∈ gw.rateLimit, FitsInt64 r.store.db ∧ (∀ t ∈ r.store.timeout, FitsInt64 t) ∧
    (∀ n ∈ r.messagesPerMinute, FitsInt64 n) ∧ ∀ n ∈ r.recipientsPerMinute, FitsInt64 n

/-- A configuration the dataplane can be given as a file. -/
structure Deliverable (quote : Bytes → Bytes) (c : DataplaneConfig) : Prop where
  fits : c.Fits
  valid : c.Valid quote
  listeners : ∀ l ∈ c.listeners, Utf8 l.addr
  milters : ∀ m ∈ c.milters, Utf8 m.address

/-- Which accounts there are does not matter. -/
theorem Deliverable.of_accounts {quote : Bytes → Bytes} {c : DataplaneConfig} (h : Deliverable quote c)
    (accounts : List Account) : Deliverable quote { c with accounts := accounts } where
  fits := ⟨h.fits.port, h.fits.timeout, h.fits.milters, h.fits.rateLimit, h.fits.sizes, h.fits.counts,
    h.fits.timeouts⟩
  valid := ⟨h.valid.listeners, h.valid.listener, h.valid.addresses, h.valid.certificates,
    h.valid.certificate, h.valid.host, h.valid.mode, h.valid.store, h.valid.milters⟩
  listeners := h.listeners
  milters := h.milters

/-- Zero is an `int64`. -/
theorem fitsInt64_zero : FitsInt64 0 := ⟨by decide, by decide⟩

/-- A duration that is an `int64`, if it is set at all, is one with its default of zero. -/
theorem fitsInt64_getD {t : Option Int} (h : ∀ n ∈ t, FitsInt64 n) : FitsInt64 (t.getD 0) := by
  cases t with
  | none => exact fitsInt64_zero
  | some n => exact h n rfl

/-- An address that is rendered from a port is ASCII. -/
theorem utf8_portAddr (port : Int) : Utf8 (portAddr port) := by
  have hcolon : (lit ":").all (·.toNat < runeSelf) = true := by decide
  refine utf8_of_ascii fun c hc => ?_
  rcases List.mem_append.mp hc with hc | hc
  · simpa using List.all_eq_true.mp hcolon c hc
  · rcases mem_formatInt hc with rfl | hdigit
    · decide
    · simp only [runeSelf]
      omega

/-- Every listener is rendered on the address of a port. -/
theorem renderListeners_addr {spec : ListenersSpec} {l : Listener} (h : l ∈ renderListeners spec) :
    ∃ port, l.addr = portAddr port := by
  rcases List.mem_append.mp h with h | h
  · split_ifs at h
    · rw [List.mem_singleton.mp h]
      exact ⟨_, rfl⟩
    · cases h
  · cases hsmtps : spec.smtps with
    | none => rw [hsmtps] at h; cases h
    | some s =>
      rw [hsmtps] at h
      rw [List.mem_singleton.mp h]
      exact ⟨_, rfl⟩

/-- What is rendered and found valid can be delivered. -/
theorem deliverable_of_renders {quote : Bytes → Bytes} {inp : Input Selector} {gw : GatewayObject Selector}
    {sorted : List Account} {cfg : DataplaneConfig} (hgw : inp.gateway = some gw) (hstored : gw.Stored)
    (h : GatewayConfig inp sorted = .ok cfg) (hvalid : cfg.validate quote = .ok ()) :
    Deliverable quote cfg := by
  rw [GatewayConfig, hgw] at h
  cases h
  refine ⟨⟨hstored.port, fitsInt64_getD hstored.timeout, ?_, ?_, ?_, ?_, ?_⟩,
    DataplaneConfig.validate_ok_iff.mp hvalid, ?_, ?_⟩
  · intro m hm
    obtain ⟨spec, hspec, rfl⟩ := List.mem_map.mp hm
    exact fitsInt64_getD (hstored.milters spec hspec).2
  · intro r hr
    obtain ⟨spec, hspec, rfl⟩ := Option.mem_map.mp hr
    obtain ⟨hdb, htimeout, hmessages, hrecipients⟩ := hstored.rateLimit spec hspec
    exact ⟨fitsInt64_getD hmessages, fitsInt64_getD hrecipients, hdb, fitsInt64_getD htimeout⟩
  · exact ⟨fitsInt64_zero, fitsInt64_zero⟩
  · exact ⟨fitsInt64_zero, fitsInt64_zero, fitsInt64_zero⟩
  · exact ⟨fitsInt64_zero, fitsInt64_zero⟩
  · intro l hl
    obtain ⟨port, hport⟩ := renderListeners_addr hl
    rw [hport]
    exact utf8_portAddr port
  · intro m hm
    obtain ⟨spec, hspec, rfl⟩ := List.mem_map.mp hm
    exact (hstored.milters spec hspec).1

section
variable {calls : GatewayCalls} {c : Cluster Selector} {gw : GatewayResource Selector}
  {s s' : GatewayStored Selector}

/-- The Secrets are resolved for the gateway that is reconciled. -/
theorem resolveSecrets_gateway {accounts : List Account} {inp : Input Selector}
    (h : resolveSecrets calls gw accounts = .ok inp) : inp.gateway = some gw.toGatewayObject := by
  unfold resolveSecrets at h
  cases hauth : readBasicAuth calls gw.namespace_ (lit "upstream auth") (lit "username") gw.upstreamAuth with
  | error err => rw [hauth] at h; cases h
  | ok auth =>
    cases hca : readCA calls gw.namespace_ (lit "upstream CA") gw.upstreamCA with
    | error err => rw [hauth, hca] at h; cases h
    | ok ca =>
      cases hstore : resolveRateLimitSecrets calls gw with
      | error err => rw [hauth, hca, hstore] at h; cases h
      | ok store =>
        rw [hauth, hca, hstore] at h
        cases h
        rfl

/-- What is published was rendered from the gateway and found valid. -/
theorem plan_renders {secret : Option ConfigSecretObject} {accounts : List Account}
    {cfg : DataplaneConfig} (h : c.plan calls gw secret = .publish accounts cfg) :
    ∃ inp : Input Selector, inp.gateway = some gw.toGatewayObject ∧
      GatewayConfig inp (calls.sortByUsername accounts) = .ok cfg ∧ cfg.validate c.quote = .ok () := by
  unfold Cluster.plan at h
  split_ifs at h
  cases hcollect : c.collect gw with
  | error err => simp only [hcollect] at h; cases h
  | ok found =>
    cases hresolve : resolveSecrets calls gw found with
    | error err => simp only [hcollect, hresolve] at h; cases h
    | ok inp =>
      cases htoken : metricsToken calls gw secret with
      | error err => simp only [hcollect, hresolve, htoken] at h; cases h
      | ok token =>
        cases hconfig : GatewayConfig { inp with metricsToken := token } (calls.sortByUsername found) with
        | error err => simp only [hcollect, hresolve, htoken, hconfig] at h; cases h
        | ok rendered =>
          cases hvalid : rendered.validate c.quote with
          | error err => simp only [hcollect, hresolve, htoken, hconfig, hvalid] at h; cases h
          | ok _ =>
            simp only [hcollect, hresolve, htoken, hconfig, hvalid] at h
            cases h
            have hgw : inp.gateway = some gw.toGatewayObject := resolveSecrets_gateway hresolve
            exact ⟨{ inp with metricsToken := token }, hgw, hconfig, hvalid⟩

/-- A reconciliation that goes through leaves a configuration that can be delivered. -/
theorem reconcile_deliverable (hgw : s.gateway = some gw) (hstored : gw.Stored)
    (hrun : (GatewayReconcile calls c).run s = (.ok .reconciled, s')) :
    ∃ secret, s'.configSecret = some secret ∧ Deliverable c.quote secret.config := by
  obtain ⟨accounts, cfg, hplan, hpublish⟩ := reconcile_publishes hgw hrun
  obtain ⟨inp, hinp, hconfig, hvalid⟩ := plan_renders hplan
  obtain ⟨secret, status, hsecret, -, hwritten, -⟩ := publish_ok hpublish
  obtain ⟨kept, -, hkept⟩ := fitted_eq calls cfg
  refine ⟨secret, hwritten, ?_⟩
  rw [hsecret, hkept]
  exact (deliverable_of_renders hinp hstored hconfig hvalid).of_accounts kept

end

/-! ## What is loaded -/

/-- It is loaded as it comes out of the file, and found valid again once the defaults are in. -/
theorem Deliverable.load {yaml : Yaml} {files : Files} {path : Bytes} {quote : Bytes → Bytes}
    {c : DataplaneConfig} (h : Deliverable quote c)
    (hmount : files.readFile path = .ok (yaml.marshal (configCodec.enc c))) :
    Load yaml files path = .ok c.received ∧ c.received.applyDefaults.validate quote = .ok () :=
  ⟨load_marshal h.fits hmount,
    DataplaneConfig.validate_ok_iff.mpr (h.valid.received h.listeners h.milters).applyDefaults⟩

/-- The first reconciliation of the gateway with one account. -/
def appRun : Except Bytes GatewayResult × GatewayStored (Bytes × Bytes) :=
  (GatewayReconcile smoothCalls
    (Operator.reading (sharedCluster .all) [senderAccount] appObjects.secrets)).run
    ⟨some sharedResource, none⟩

/-- The configuration Secret that it writes. -/
def appSecret : ConfigSecretObject :=
  appRun.2.configSecret.getD ⟨[], [], [], DataplaneConfig.plain, []⟩

/-- The first reconciliation goes through and writes the Secret. -/
theorem appRun_eq : appRun = (.ok .reconciled, appRun.2) ∧ appRun.2.configSecret = some appSecret := by
  have hrun : appRun.1 = .ok .reconciled ∧ appRun.2.configSecret.isSome = true := by decide +kernel
  obtain ⟨secret, hsecret⟩ := Option.isSome_iff_exists.mp hrun.2
  exact ⟨Prod.ext hrun.1 rfl, by rw [appSecret, hsecret, Option.getD_some]⟩

/-- The gateway is one that the schema of its resource admits. -/
theorem stored_sharedResource : sharedResource.toGatewayObject.Stored where
  port := ⟨by decide, by decide⟩
  timeout := fun t ht => by cases ht
  milters := fun m hm => by cases hm
  rateLimit := fun r hr => by cases hr

/-- The files of a pod that the Secret is mounted in. -/
noncomputable def appFiles : Files := fun p =>
  if p = ConfigFilePath then .ok (Yaml.numbered.marshal (configCodec.enc appSecret.config)) else .ok [1]

/-- In that pod the file is the text of the Secret. -/
theorem appFiles_config :
    appFiles.readFile ConfigFilePath = .ok (Yaml.numbered.marshal (configCodec.enc appSecret.config)) := by
  have hne : ConfigFilePath ≠ [] := by decide +kernel
  rw [Files.readFile, if_neg hne, appFiles, if_pos rfl]

/-- What a load needs besides a valid configuration: certificates, keys and a spool. -/
structure Equipped (m : Machine) (cfg : DataplaneConfig) : Prop where
  certs : ∃ store, newCertStore m cfg.tls = .ok store
  upstream : checkUpstreamCA m cfg = .ok ()
  dkim : ∃ signer, newDKIMSigner m.loadKey cfg.dkim = .ok signer
  store : ∀ r ∈ cfg.rateLimit, checkStore m r.store = .ok ()
  spool : m.probeSpool cfg.limits.spoolDir = .ok ()

/-- Filters whose addresses can be parsed are accepted, wherever the loop is. -/
theorem checkMilters_ok {m : Machine} : ∀ {milters : List MilterConfig} {i : Nat},
    (∀ mc ∈ milters, ∃ address, mc.parseAddress m.quote = .ok address) → checkMilters m i milters = .ok ()
  | [], _, _ => rfl
  | mc :: mcs, i, h => by
    obtain ⟨address, haddress⟩ := h mc List.mem_cons_self
    rw [checkMilters, haddress]
    exact checkMilters_ok fun mc' hmc' => h mc' (List.mem_cons_of_mem mc hmc')

/-- With all it needs, the parts of a snapshot that depend on files are made. -/
theorem Equipped.parts {m : Machine} {cfg : DataplaneConfig} (h : Equipped m cfg)
    (hvalid : cfg.validate m.quote = .ok ()) : ∃ made, LiveSnapshot.parts m cfg = .ok made := by
  obtain ⟨certs, hcerts⟩ := h.certs
  obtain ⟨signer, hsigner⟩ := h.dkim
  have hmilters := checkMilters_ok (DataplaneConfig.validate_ok_iff.mp hvalid).milters (i := 0)
  refine ⟨(certs, signer), ?_⟩
  rw [LiveSnapshot.parts, hvalid, hcerts, h.upstream, hmilters, hsigner]
  rfl

/-- With a store that can be reached, there is a limiter: the one in service, a new one, or none. -/
theorem Equipped.limiter {m : Machine} {cfg : DataplaneConfig} (h : Equipped m cfg)
    (prev : Option LiveSnapshot) (clients : Clients) :
    ∃ limiter clients', (LiveSnapshot.limiterFor m prev cfg).run clients = (.ok limiter, clients') := by
  rcases LiveSnapshot.limiterFor_cases m prev cfg clients with ⟨l, hrun, -⟩ | ⟨hrun, -⟩ |
    ⟨limits, err, -, -, hsome, hstore⟩ | ⟨limits, hrun, -⟩
  · exact ⟨_, _, hrun⟩
  · exact ⟨_, _, hrun⟩
  · rw [h.store limits hsome] at hstore
    cases hstore
  · exact ⟨_, _, hrun⟩

/-- With all it needs, a valid configuration is never refused. -/
theorem Equipped.reload {m : Machine} {cfg : DataplaneConfig} (h : Equipped m cfg.applyDefaults)
    (hvalid : cfg.applyDefaults.validate m.quote = .ok ()) (s : Server) :
    ∃ s', (Server.reload m cfg).run s = (.ok (), s') := by
  obtain ⟨made, hparts⟩ := h.parts hvalid
  obtain ⟨limiter, clients, hlimiter⟩ := h.limiter s.current s.clients
  have hsnap : (LiveSnapshot.newSnapshot m s.current cfg).run s.clients =
      (.ok (LiveSnapshot.assemble m cfg.applyDefaults made.1 made.2 limiter), clients) := by
    have hmade : (Comp.ofExcept (LiveSnapshot.parts m cfg.applyDefaults)).run s.clients =
        (.ok made, s.clients) := congrArg (·, s.clients) hparts
    rw [LiveSnapshot.newSnapshot, Comp.run_bind_of_ok hmade, Comp.run_bind_of_ok hlimiter, h.spool]
    rfl
  exact ⟨_, Server.reload_of_ok hsnap⟩

/-- The accounts of a snapshot. -/
theorem newSnapshot_accounts {host : Host} {cfg : Config} {snap : Snapshot}
    (h : newSnapshot host cfg = .ok snap) :
    snap.accounts = newAccountStore (PartitionAccounts host.bcrypt cfg.applyDefaults.accounts).1 := by
  unfold newSnapshot at h
  cases hrefuses : host.refuses cfg.applyDefaults with
  | some err => simp only [hrefuses] at h; cases h
  | none =>
    cases hsigner : newDKIMSigner host.loadKey cfg.applyDefaults.dkim with
    | error err => simp only [hrefuses, hsigner] at h; cases h
    | ok signer =>
      simp only [hrefuses, hsigner] at h
      cases h
      rfl

/-- A dataplane at rest that this configuration is mounted in, with all that it needs. -/
structure Hosts (tools : Tools) (yaml : Yaml) (w : Watcher) (cfg : DataplaneConfig) : Prop where
  reached : ∃ files w₀ ls, Watcher.start tools yaml ConfigFilePath files files = some w₀ ∧
    runs (Watcher.step tools yaml ConfigFilePath) w₀ ls = some w
  rest : w.AtRest tools yaml ConfigFilePath
  mounted : w.files.readFile ConfigFilePath = .ok (yaml.marshal (configCodec.enc cfg))
  watched : ∀ d ∈ referencedDirs ConfigFilePath cfg.received, d ∈ w.watched
  equipped : Equipped (tools.machine w.files) cfg.received.applyDefaults

/-- It has the accounts of the configuration, as they come out of the file. -/
theorem Hosts.accounts {tools : Tools} {yaml : Yaml} {w : Watcher} {cfg : DataplaneConfig}
    (h : Hosts tools yaml w cfg) (hdeliverable : Deliverable tools.quote cfg) :
    ∃ snap, w.server.current = some snap ∧ snap.session.accounts =
      newAccountStore (PartitionAccounts tools.bcrypt (cfg.accounts.map Account.received)).1 := by
  obtain ⟨files, w₀, ls, hstart, hruns⟩ := h.reached
  obtain ⟨hload, hvalid⟩ := hdeliverable.load h.mounted
  rcases h.rest.serves hstart hruns hload h.watched with ⟨snap, hcurrent, hsnap⟩ |
    ⟨t, err, clients, hrefused, -⟩
  · exact ⟨snap, hcurrent, newSnapshot_accounts hsnap.2.2⟩
  · obtain ⟨t', hreload⟩ := h.equipped.reload hvalid t
    rw [hreload] at hrefused
    cases hrefused

/-- A pod finds what that configuration needs, and the hashes in it are UTF-8. -/
theorem appSecret_checks :
    (newCertStore (Tools.plain.machine appFiles) appSecret.config.received.tls).toOption.isSome = true ∧
      checkUpstreamCA (Tools.plain.machine appFiles) appSecret.config.received.applyDefaults = .ok () ∧
      appSecret.config.received.dkim = [] ∧ appSecret.config.received.rateLimit = none ∧
      (appSecret.config.accounts.all fun a => Utf8 a.passwordHash) = true := by
  decide +kernel

/-- A pod of that gateway has all that the configuration needs. -/
theorem equipped_app : Equipped (Tools.plain.machine appFiles) appSecret.config.received.applyDefaults := by
  obtain ⟨hcerts, hupstream, hdkim, hstore, -⟩ := appSecret_checks
  refine ⟨?_, hupstream, ⟨[], ?_⟩, fun r hr => ?_, rfl⟩
  · cases hmade : newCertStore (Tools.plain.machine appFiles) appSecret.config.received.tls with
    | error err => rw [hmade] at hcerts; cases hcerts
    | ok store => exact ⟨store, hmade⟩
  · rw [show appSecret.config.received.applyDefaults.dkim = [] from hdkim]
    rfl
  · cases hstore.symm.trans hr

/-- The dataplane of that gateway, once it is started. -/
theorem hosts_app : ∃ w, Watcher.start Tools.plain Yaml.numbered ConfigFilePath appFiles appFiles = some w ∧
    Hosts Tools.plain Yaml.numbered w appSecret.config := by
  obtain ⟨secret, hsecret, hdeliverable⟩ :=
    reconcile_deliverable rfl stored_sharedResource appRun_eq.1
  obtain rfl : appSecret = secret := Option.some.inj (appRun_eq.2.symm.trans hsecret)
  obtain ⟨hload, hvalid⟩ := hdeliverable.load appFiles_config
  obtain ⟨server, hreload⟩ := equipped_app.reload hvalid Server.fresh
  have hstart : Watcher.start Tools.plain Yaml.numbered ConfigFilePath appFiles appFiles = some
      ⟨appFiles, referencedDirs ConfigFilePath appSecret.config.received, 0, false, .idle, server⟩ := by
    simp only [Watcher.start, hload, hreload]
  exact ⟨_, hstart, ⟨appFiles, _, [], hstart, rfl⟩, Watcher.atRest_of_idle rfl rfl rfl, appFiles_config,
    fun _ hd => hd, equipped_app⟩

/-- The account of that gateway logs in with its password. -/
theorem appSecret_login : (∀ a ∈ appSecret.config.accounts, Utf8 a.passwordHash) ∧
    (((newAccountStore (PartitionAccounts Tools.plain.bcrypt appSecret.config.accounts).1).authenticate
      Tools.plain.bcrypt (lit "shop.app") (lit "pw")).map Account.received).isOk = true :=
  ⟨by simpa using appSecret_checks.2.2.2.2, by decide +kernel⟩

section
variable {calls : GatewayCalls} {c : Cluster Selector} {gw : GatewayResource Selector}

/-- What an entry of the configuration says. -/
theorem collectAccount_entry {r : Reconciler Selector} {gw : MailoutGateway Selector}
    {account : MailoutAccount} {acct : Account}
    (h : r.collectAccount gw account = .ok (some acct)) :
    r.refersTo gw account = true ∧ namespaceAllowed r.toClient gw account.namespace_ = .ok true ∧
      acct.username = UsernameFor account ∧ acct.disabled = account.disabled ∧
      ∃ secret, r.getSecret account.namespace_ account.secretRefName = .ok (some secret) ∧
        acct.passwordHash = secret.passwordHash := by
  cases hrefers : r.refersTo gw account with
  | false => simp [Reconciler.collectAccount, hrefers] at h
  | true =>
    cases hallowed : namespaceAllowed r.toClient gw account.namespace_ with
    | error err => simp [Reconciler.collectAccount, hrefers, hallowed] at h
    | ok allowed =>
      cases allowed with
      | false => simp [Reconciler.collectAccount, hrefers, hallowed] at h
      | true =>
        cases hsecret : r.getSecret account.namespace_ account.secretRefName with
        | error err => simp [Reconciler.collectAccount, hrefers, hallowed, hsecret] at h
        | ok found =>
          cases found with
          | none => simp [Reconciler.collectAccount, hrefers, hallowed, hsecret] at h
          | some secret =>
            simp only [Reconciler.collectAccount, hrefers, hallowed, hsecret, not_true_eq_false,
              if_false] at h
            split_ifs at h
            · cases h
            · cases hgranted : grantedSenders r.toClient gw account.namespace_ with
              | error err => rw [hgranted] at h; cases h
              | ok granted =>
                rw [hgranted] at h
                cases h
                exact ⟨rfl, rfl, rfl, rfl, secret, rfl, rfl⟩

end

open Operator in
/-- Whoever is in the configuration that a reconciliation of the cached objects publishes is an account of
the gateway, from a namespace that it allows, with the hash of a Secret that the cache has. -/
theorem entry_of_objects {world : Cluster Selector} {g : ObjectKey} {objects : Objects Selector g}
    {gw : { gw : GatewayResource Selector // gw.key = g }} {accounts : List MailoutAccount}
    {account : MailoutAccount} {acct : Account}
    (h : (reading world accounts objects.cached).reconciler.collectAccount gw.1.toMailoutGateway account =
      .ok (some acct)) :
    gatewayForAccount world.operatorNamespace account = g ∧
      namespaceAllowed world.toClient gw.1.toMailoutGateway account.namespace_ = .ok true ∧
      acct.username = UsernameFor account ∧ acct.disabled = account.disabled ∧
      ∃ secret ∈ objects.secrets account.secretKey, managed secret.labels = true ∧
        acct.passwordHash = secret.passwordHash := by
  obtain ⟨hrefers, hallowed, hname, hdisabled, found, hfound, hsame⟩ := collectAccount_entry h
  obtain ⟨kept, hkept, rfl⟩ := Option.map_eq_some_iff.mp (Except.ok.inj hfound)
  obtain ⟨secret, hsecret, rfl⟩ := Option.map_eq_some_iff.mp hkept
  obtain ⟨hsecret, hmanaged⟩ := Option.filter_eq_some_iff.mp hsecret
  exact ⟨(refersTo_iff.mp hrefers).trans gw.2, hallowed, hname, hdisabled, secret, hsecret, hmanaged, hsame⟩

/-- The plan is to mark the gateway as failed. -/
def Plan.fails : Plan → Bool
  | .markFailed .. => true
  | _ => false

/-- The operator at rest with that gateway and its account, what it wrote, and what the last reconciliation
found and makes of the objects. -/
theorem appSteps_objects :
    (runs (Operator.step (sharedCluster .all)) (Operator.start appObjects) appSteps).any (fun o =>
      o.resting (sharedCluster .all) && decide (o.objects.source.config = some appSecret) &&
        decide (o.objects.source.accounts = {senderAccount}) &&
        o.objects.source.gateway.any (fun gw =>
          decide ((gw.1.upstream, gw.1.milters, gw.1.rateLimit) = (sharedResource.upstream, [], none)) &&
          !((Operator.reading (sharedCluster .all) [senderAccount] o.objects.source.cached).plan smoothCalls
            gw.1 (some appSecret)).fails)) = true ∧
    (Operator.rounds (sharedCluster .all) (Operator.start appObjects) appSteps).getLast?.map Prod.snd =
      some (some appSecret) := by
  decide +kernel

end Mailout
