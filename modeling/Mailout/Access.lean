import Mailout.Policy

/-!
# Who may attach to a gateway, and what its namespace is granted

`internal/controller/access.go`, over the parts of the `v1alpha1` objects it reads. The API server
and apimachinery are a parameter: `Client` answers what a label selector compiles to and what labels
a namespace carries, either of which may fail. `grantedSenders` looks the labels up at most once, at
the first grant that needs them; `grantedSenders_mem` says that what it returns is the union of the
grants that apply, whatever was looked up on the way.

`granted_rights_bound` is the whole chain from the spec to the decision the dataplane takes.
-/

namespace Mailout

open Go

/-- `labels.Set`. -/
abbrev Labels := List (Bytes × Bytes)

/-- What the controllers ask of apimachinery and of the API server. -/
structure Client (Selector : Type) where
  /-- `metav1.LabelSelectorAsSelector` -/
  labelSelectorAsSelector : Selector → Except Bytes (Labels → Bool)
  /-- The labels of a namespace, `none` for a namespace that carries no label map. -/
  getNamespace : Bytes → Except Bytes (Option Labels)
  /-- `strconv.Quote` -/
  quote : Bytes → Bytes

/-- `SenderGrantSpec`. -/
structure SenderGrant (Selector : Type) where
  senders : List Bytes
  namespaceSelector : Option Selector

/-- `NamespacesFrom`, a string of the API: the three values it may have, the empty one that stands
for `All`, and any other. -/
inductive NamespacesFrom where
  | unset
  | all
  | same
  | selector
  | unknown (value : Bytes)
  deriving DecidableEq, Repr

/-- `MailoutGateway`, as far as the controllers read it to decide who is served. -/
structure MailoutGateway (Selector : Type) where
  name : Bytes
  namespace_ : Bytes
  allowedAccounts : NamespacesFrom
  selector : Option Selector
  allowedSenders : List (SenderGrant Selector)

/-- `MailoutAccount`, as far as the controllers read it. A `metav1.Time` has a resolution of one
second. -/
structure MailoutAccount where
  name : Bytes
  namespace_ : Bytes
  uid : Bytes
  creationTimestamp : Int
  gatewayRefName : Bytes
  gatewayRefNamespace : Bytes
  username : Bytes
  secretRefName : Bytes
  allowedSenders : List Bytes
  enforceHeaderFrom : Option Bool
  disabled : Bool
  deriving DecidableEq, Repr

variable {Selector : Type}

/-- `GatewayNamespaceFor`. -/
def GatewayNamespaceFor (account : MailoutAccount) (operatorNamespace : Bytes) : Bytes :=
  if account.gatewayRefNamespace ≠ [] then account.gatewayRefNamespace else operatorNamespace

/-- `UsernameFor`. -/
def UsernameFor (account : MailoutAccount) : Bytes :=
  if account.username ≠ [] then account.username
  else account.namespace_ ++ lit "." ++ account.name

/-- `namespaceLabels`: a namespace without labels is told apart from one that was not looked up. -/
def namespaceLabels (c : Client Selector) (ns : Bytes) : Except Bytes Labels :=
  match c.getNamespace ns with
  | .error err => .error (lit "get namespace " ++ ns ++ lit ": " ++ err)
  | .ok none => .ok []
  | .ok (some set) => .ok set

/-- `namespaceAllowed`. -/
def namespaceAllowed (c : Client Selector) (gw : MailoutGateway Selector) (ns : Bytes) :
    Except Bytes Bool :=
  match gw.allowedAccounts with
  | .unset | .all => .ok true
  | .same => .ok (ns == gw.namespace_)
  | .selector =>
    match gw.selector with
    | none => .ok false
    | some sel =>
      match c.labelSelectorAsSelector sel with
      | .error err => .error (lit "invalid allowedAccounts selector: " ++ err)
      | .ok selector =>
        match c.getNamespace ns with
        | .error err => .error (lit "get namespace " ++ ns ++ lit ": " ++ err)
        | .ok set => .ok (selector (set.getD []))
  | .unknown value =>
    .error (lit "unknown allowedAccounts.namespaces value " ++ c.quote value)

/-- The grants of `grantedSenders` from the `i`-th on, with the labels looked up so far. -/
def grantedSendersFrom (c : Client Selector) (ns : Bytes) :
    Nat → List (SenderGrant Selector) → Option Labels → Except Bytes (List Bytes)
  | _, [], _ => .ok []
  | i, grant :: grants, nsLabels =>
    match grant.namespaceSelector with
    | none => (grantedSendersFrom c ns (i + 1) grants nsLabels).map (grant.senders ++ ·)
    | some sel =>
      match c.labelSelectorAsSelector sel with
      | .error err =>
        .error (lit "invalid allowedSenders[" ++ lit (toString i) ++ lit "].namespaceSelector: " ++ err)
      | .ok selector =>
        match nsLabels.elim (namespaceLabels c ns) .ok with
        | .error err => .error err
        | .ok set =>
          if selector set then
            (grantedSendersFrom c ns (i + 1) grants (some set)).map (grant.senders ++ ·)
          else grantedSendersFrom c ns (i + 1) grants (some set)

/-- `grantedSenders`, called with no labels looked up yet, as both of its callers do. -/
def grantedSenders (c : Client Selector) (gw : MailoutGateway Selector) (ns : Bytes) :
    Except Bytes (List Bytes) :=
  grantedSendersFrom c ns 0 gw.allowedSenders none

/-! ## The union of the grants that apply -/

/-- A grant applies to a namespace: it has no selector, or its selector matches the labels. -/
def SenderGrant.Applies (c : Client Selector) (ns : Bytes) (grant : SenderGrant Selector) : Prop :=
  match grant.namespaceSelector with
  | none => True
  | some sel => ∃ selector set, c.labelSelectorAsSelector sel = .ok selector ∧
      namespaceLabels c ns = .ok set ∧ selector set = true

/-- One successful grant of the loop: what it adds, and what is left to do. The labels it carries on
are the namespace's. -/
theorem grantedSendersFrom_cons {c : Client Selector} {ns : Bytes} {i : Nat}
    {grant : SenderGrant Selector} {grants : List (SenderGrant Selector)} {nsLabels : Option Labels}
    {granted : List Bytes} (hlab : ∀ set ∈ nsLabels, namespaceLabels c ns = .ok set)
    (h : grantedSendersFrom c ns i (grant :: grants) nsLabels = .ok granted) :
    ∃ nsLabels' rest, (∀ set ∈ nsLabels', namespaceLabels c ns = .ok set) ∧
      grantedSendersFrom c ns (i + 1) grants nsLabels' = .ok rest ∧
      (grant.Applies c ns ∧ granted = grant.senders ++ rest ∨
        ¬ grant.Applies c ns ∧ granted = rest) := by
  rw [grantedSendersFrom] at h
  unfold SenderGrant.Applies
  cases hsel : grant.namespaceSelector with
  | none =>
    simp only [hsel] at h
    cases hrest : grantedSendersFrom c ns (i + 1) grants nsLabels with
    | error err => rw [hrest] at h; cases h
    | ok rest =>
      rw [hrest] at h
      cases h
      exact ⟨nsLabels, rest, hlab, hrest, .inl ⟨trivial, rfl⟩⟩
  | some sel =>
    simp only [hsel] at h
    cases hs : c.labelSelectorAsSelector sel with
    | error err => simp only [hs] at h; cases h
    | ok selector =>
      have hset : nsLabels.elim (namespaceLabels c ns) .ok = namespaceLabels c ns := by
        cases nsLabels with
        | none => rfl
        | some set => exact (hlab set rfl).symm
      simp only [hs, hset] at h
      cases hn : namespaceLabels c ns with
      | error err => simp only [hn] at h; cases h
      | ok set =>
        simp only [hn] at h
        have hlab' : ∀ s ∈ some set, Except.ok (ε := Bytes) set = .ok s := by
          rintro s ⟨⟩
          rfl
        split_ifs at h with hm
        · cases hrest : grantedSendersFrom c ns (i + 1) grants (some set) with
          | error err => rw [hrest] at h; cases h
          | ok rest =>
            rw [hrest] at h
            cases h
            exact ⟨some set, rest, hlab', hrest, .inl ⟨⟨selector, set, hs, rfl, hm⟩, rfl⟩⟩
        · refine ⟨some set, granted, hlab', h, .inr ⟨?_, rfl⟩⟩
          rintro ⟨selector', set', he, he', hm'⟩
          rw [hs] at he
          cases he
          cases he'
          exact hm hm'

/-- What a namespace is granted: the senders of the grants that apply to it. -/
theorem grantedSenders_mem {c : Client Selector} {gw : MailoutGateway Selector} {ns : Bytes}
    {granted : List Bytes} (h : grantedSenders c gw ns = .ok granted) {e : Bytes} :
    e ∈ granted ↔ ∃ grant ∈ gw.allowedSenders, grant.Applies c ns ∧ e ∈ grant.senders := by
  have loop : ∀ (grants : List (SenderGrant Selector)) (i : Nat) (nsLabels : Option Labels)
      (granted : List Bytes), (∀ set ∈ nsLabels, namespaceLabels c ns = .ok set) →
      grantedSendersFrom c ns i grants nsLabels = .ok granted →
      (e ∈ granted ↔ ∃ grant ∈ grants, grant.Applies c ns ∧ e ∈ grant.senders) := by
    intro grants
    induction grants with
    | nil =>
      intro i nsLabels granted _ h
      cases h
      simp
    | cons grant grants ih =>
      intro i nsLabels granted hlab h
      obtain ⟨nsLabels', rest, hlab', hrest, ⟨happ, rfl⟩ | ⟨happ, rfl⟩⟩ :=
        grantedSendersFrom_cons hlab h
      · simp [ih _ _ _ hlab' hrest, happ]
      · simp [ih _ _ _ hlab' hrest, happ]
  exact loop gw.allowedSenders 0 none granted (by simp) h

/-! ## From the grant to the decision -/

/-- **Rights never exceed the grant.** What a policy compiled from the granted part of a request
allows, the grant allows, and so does the request where there is one; what it signs, an entry of a
grant that applies names; and without a request it decides exactly what the grant decides. -/
theorem granted_rights_bound (c : Client Selector) (gw : MailoutGateway Selector) (ns : Bytes)
    (requested granted : List Bytes) (h : grantedSenders c gw ns = .ok granted) :
    let P := newSenderPolicy (GrantedSubset granted requested).1
    (∀ a, P.allows a = true → (newSenderPolicy granted).allows a = true) ∧
    (requested ≠ [] → ∀ a, P.allows a = true → (newSenderPolicy requested).allows a = true) ∧
    (∀ d, P.canSign d = true → ∃ grant ∈ gw.allowedSenders, grant.Applies c ns ∧
      ∃ e ∈ grant.senders, ∃ l, cut atSign (normalize e) = some (l, normalize d)) ∧
    (requested = [] → (∀ a, P.allows a = (newSenderPolicy granted).allows a) ∧
      ∀ d, P.canSign d = (newSenderPolicy granted).canSign d) := by
  intro P
  have hnil : requested = [] → (∀ a, P.allows a = (newSenderPolicy granted).allows a) ∧
      ∀ d, P.canSign d = (newSenderPolicy granted).canSign d := by
    rintro rfl
    obtain ⟨hd, ha⟩ := newSenderPolicy_entries granted
    exact decisions_congr hd ha
  have hcov : requested ≠ [] → ∀ e ∈ (GrantedSubset granted requested).1,
      e ∈ requested ∧ (newSenderPolicy granted).uncovered e = false :=
    fun hne e he => (mem_GrantedSubset hne).mp he
  -- a domain the grant signs is named by an entry of one of the grants it is the union of
  have hsign : ∀ d, (newSenderPolicy granted).canSign d = true →
      ∃ grant ∈ gw.allowedSenders, grant.Applies c ns ∧
        ∃ e ∈ grant.senders, ∃ l, cut atSign (normalize e) = some (l, normalize d) := by
    intro d hd
    obtain ⟨e, he, l, hcut⟩ := SenderPolicy.Signs.entry (SenderPolicy.canSign_iff.mp hd).2
    obtain ⟨grant, hg, happ, hmem⟩ := (grantedSenders_mem h).mp he
    exact ⟨grant, hg, happ, e, hmem, l, hcut⟩
  refine ⟨fun a ha => ?_, fun hne a ha => ?_, fun d hd => hsign d ?_, hnil⟩
  · by_cases hne : requested = []
    · exact ((hnil hne).1 a).symm.trans ha
    · obtain ⟨h0, hauth⟩ := SenderPolicy.allows_iff.mp ha
      exact SenderPolicy.allows_iff.mpr ⟨h0, hauth.of_covered fun e he => (hcov hne e he).2⟩
  · obtain ⟨h0, hauth⟩ := SenderPolicy.allows_iff.mp ha
    exact SenderPolicy.allows_iff.mpr ⟨h0, hauth.mono fun e he => (hcov hne e he).1⟩
  · by_cases hne : requested = []
    · exact ((hnil hne).2 d).symm.trans hd
    · obtain ⟨h0, hs⟩ := SenderPolicy.canSign_iff.mp hd
      exact SenderPolicy.canSign_iff.mpr ⟨h0, hs.of_covered fun e he => (hcov hne e he).2⟩

/-- A shared gateway: `*@shared.org` for everyone, `*@acme.org` for the namespaces of one team. -/
def teamGateway : MailoutGateway (Bytes × Bytes) where
  name := lit "gw"
  namespace_ := lit "mailout-system"
  allowedAccounts := .all
  selector := none
  allowedSenders := [⟨[lit "*@shared.org"], none⟩, ⟨[lit "*@acme.org"], some (lit "team", lit "acme")⟩]

/-- A client that knows one namespace, `shop`, of team `acme`, and selects by one label. -/
def teamClient : Client (Bytes × Bytes) where
  labelSelectorAsSelector := fun kv => .ok fun set => set.contains kv
  getNamespace := fun ns =>
    if ns = lit "shop" then .ok (some [(lit "team", lit "acme")]) else .error (lit "not found")
  quote := id

/-- A namespace that a grant selects by its label. -/
theorem granted_rights_bound_team :
    grantedSenders teamClient teamGateway (lit "shop") = .ok [lit "*@shared.org", lit "*@acme.org"] ∧
      ∃ grant ∈ teamGateway.allowedSenders, grant.Applies teamClient (lit "shop") ∧
        ∃ e ∈ grant.senders, ∃ l, cut atSign (normalize e) = some (l, normalize (lit "Acme.org")) := by
  have h : grantedSenders teamClient teamGateway (lit "shop") =
      .ok [lit "*@shared.org", lit "*@acme.org"] := by decide +kernel
  refine ⟨h, ?_⟩
  exact (granted_rights_bound teamClient teamGateway (lit "shop") [lit "app@acme.org"] _ h).2.2.1
    (lit "Acme.org") (by decide +kernel)

end Mailout
