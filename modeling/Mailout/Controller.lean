import Mathlib.Data.List.Pairwise
import Mailout.Access
import Mailout.Account
import Mailout.Go.Sort

/-!
# Which account has a username

Two controllers decide who of several claimants of a username has it. The account controller asks
`usernameConflict` (`internal/controller/account_controller.go`), and the older object keeps the
name. The gateway controller takes the accounts that have a Secret (`collectAccounts`), `GatewayConfig`
sorts them by username, and `PartitionAccounts` serves the first of each. `served_accepted_iff` says
when the two agree, in every order of the list: when no younger claimant could be served.
-/

namespace Mailout

open Go

variable {Selector : Type}

/-- A credentials Secret, as far as the gateway controller reads it. A key that is missing reads as
the empty string. -/
structure Secret where
  passwordHash : Bytes
  deriving DecidableEq, Repr

/-- What a reconciler works with. -/
structure Reconciler (Selector : Type) extends Client Selector where
  operatorNamespace : Bytes
  /-- `Get` of a Secret by its namespace and name, `none` if there is none. -/
  getSecret : Bytes → Bytes → Except Bytes (Option Secret)

namespace Reconciler

/-- The account's reference is to this gateway. -/
def refersTo (r : Reconciler Selector) (gw : MailoutGateway Selector) (account : MailoutAccount) :
    Bool :=
  GatewayNamespaceFor account r.operatorNamespace == gw.namespace_ &&
    account.gatewayRefName == gw.name

/-- The body of the loop of `collectAccounts`, `none` for an account that is skipped. -/
def collectAccount (r : Reconciler Selector) (gw : MailoutGateway Selector)
    (account : MailoutAccount) : Except Bytes (Option Account) :=
  if ¬ r.refersTo gw account then .ok none
  else
    match namespaceAllowed r.toClient gw account.namespace_ with
    | .error err => .error err
    | .ok false => .ok none
    | .ok true =>
      match r.getSecret account.namespace_ account.secretRefName with
      | .error err => .error (lit "get secret " ++ account.namespace_ ++ lit "/" ++
          account.secretRefName ++ lit ": " ++ err)
      | .ok none => .ok none
      | .ok (some secret) =>
        if secret.passwordHash = [] then .ok none
        else
          match grantedSenders r.toClient gw account.namespace_ with
          | .error err => .error err
          | .ok granted => .ok (some {
              username := UsernameFor account
              passwordHash := secret.passwordHash
              disabled := account.disabled
              allowedSenders := (GrantedSubset granted account.allowedSenders).1
              skipHeaderFromCheck := account.enforceHeaderFrom == some false })

/-- `collectAccounts`, on the list the API server returns. -/
def collectAccounts (r : Reconciler Selector) (gw : MailoutGateway Selector) :
    List MailoutAccount → Except Bytes (List Account)
  | [] => .ok []
  | account :: list =>
    match r.collectAccount gw account with
    | .error err => .error err
    | .ok none => collectAccounts r gw list
    | .ok (some acct) => (collectAccounts r gw list).map (acct :: ·)

/-- The switch of `usernameConflict`: the older object keeps the name, and of two that were created
in the same second the one with the smaller UID. -/
def older (other account : MailoutAccount) : Bool :=
  if other.creationTimestamp < account.creationTimestamp then true
  else if account.creationTimestamp < other.creationTimestamp then false
  else other.uid < account.uid

/-- `usernameConflict`, on the list the API server returns: the object that has the name, or nothing. -/
def usernameConflict (r : Reconciler Selector) (account : MailoutAccount)
    (gw : MailoutGateway Selector) (username : Bytes) : List MailoutAccount → Bytes
  | [] => []
  | other :: list =>
    if other.namespace_ = account.namespace_ ∧ other.name = account.name then
      usernameConflict r account gw username list
    else if ¬ r.refersTo gw other then usernameConflict r account gw username list
    else if UsernameFor other ≠ username then usernameConflict r account gw username list
    else if older other account then other.namespace_ ++ lit "/" ++ other.name
    else usernameConflict r account gw username list

end Reconciler

/-- The accounts that are served after a reconciliation that was given `list`: those it collected,
as `GatewayConfig` sorts them, without those `PartitionAccounts` leaves out. -/
def Serves (bcrypt : Bcrypt) (r : Reconciler Selector) (gw : MailoutGateway Selector)
    (list : List MailoutAccount) (served : List Account) : Prop :=
  ∃ accounts sorted, r.collectAccounts gw list = .ok accounts ∧
    SortsBy Account.username accounts sorted ∧ served = (PartitionAccounts bcrypt sorted).1

/-- The accounts of a cluster. No two objects have one key, or one UID. -/
structure AccountObjects where
  items : List MailoutAccount
  keys : items.Pairwise fun a b => ¬ (a.namespace_ = b.namespace_ ∧ a.name = b.name)
  uids : items.Pairwise fun a b => a.uid ≠ b.uid

namespace AccountObjects

variable {objs : AccountObjects} {a b : MailoutAccount}

/-- Two accounts with one key are one. -/
theorem eq_of_key (ha : a ∈ objs.items) (hb : b ∈ objs.items)
    (h : a.namespace_ = b.namespace_ ∧ a.name = b.name) : a = b := by
  have : Std.Symm fun a b : MailoutAccount => ¬ (a.namespace_ = b.namespace_ ∧ a.name = b.name) :=
    ⟨fun _ _ hne heq => hne ⟨heq.1.symm, heq.2.symm⟩⟩
  by_contra hne
  exact objs.keys.forall ha hb hne h

/-- Two accounts with one UID are one. -/
theorem eq_of_uid (ha : a ∈ objs.items) (hb : b ∈ objs.items) (h : a.uid = b.uid) : a = b := by
  have : Std.Symm fun a b : MailoutAccount => a.uid ≠ b.uid := ⟨fun _ _ hne => hne.symm⟩
  by_contra hne
  exact objs.uids.forall ha hb hne h

end AccountObjects

/-! ## What each controller decides -/

section
variable {bcrypt : Bcrypt} {r : Reconciler Selector} {gw : MailoutGateway Selector}

namespace Reconciler

/-- The entry of the configuration that an account gives, if any. -/
def entry (r : Reconciler Selector) (gw : MailoutGateway Selector) (account : MailoutAccount) :
    Option Account :=
  (r.collectAccount gw account).toOption.join

/-- The entry of an account is what is collected of it. -/
theorem entry_eq_some {account : MailoutAccount} {acct : Account} :
    r.entry gw account = some acct ↔ r.collectAccount gw account = .ok (some acct) := by
  unfold entry
  cases r.collectAccount gw account with
  | error err => simp [Except.toOption]
  | ok found => simp [Except.toOption]

/-- An entry is that of an account of the gateway, under its username. -/
theorem collectAccount_some {account : MailoutAccount} {acct : Account}
    (h : r.collectAccount gw account = .ok (some acct)) :
    r.refersTo gw account = true ∧ acct.username = UsernameFor account := by
  cases hrefers : r.refersTo gw account with
  | false =>
    simp only [collectAccount, hrefers, Bool.false_eq_true, not_false_eq_true, if_true] at h
    cases h
  | true =>
    simp only [collectAccount, hrefers, not_true_eq_false, if_false] at h
    refine ⟨rfl, ?_⟩
    split at h
    · cases h
    · cases h
    · split at h
      · cases h
      · cases h
      · split_ifs at h
        · cases h
        · split at h
          · cases h
          · cases h
            rfl

/-- The list is collected if every object on it can be read, and gives the entries in its order. -/
theorem collectAccounts_eq_ok {list : List MailoutAccount} {accounts : List Account} :
    r.collectAccounts gw list = .ok accounts ↔
      (∀ account ∈ list, ∃ found, r.collectAccount gw account = .ok found) ∧
        accounts = list.filterMap (r.entry gw) := by
  induction list generalizing accounts with
  | nil => simp [collectAccounts, eq_comm]
  | cons account list ih =>
    rw [collectAccounts, List.forall_mem_cons, List.filterMap_cons]
    cases h : r.collectAccount gw account with
    | error err => simp
    | ok found =>
      cases found with
      | none =>
        have hentry : r.entry gw account = none := by rw [entry, h]; rfl
        rw [hentry, ih]
        simp
      | some acct =>
        rw [entry_eq_some.mpr h]
        cases hrest : r.collectAccounts gw list with
        | error err =>
          have hnot := fun accounts => (@ih accounts).mpr.mt (by rw [hrest]; exact nofun)
          simp only [Except.map, reduceCtorEq, false_iff, not_and]
          exact fun hok _ => hnot _ ⟨hok.2, rfl⟩
        | ok rest =>
          obtain ⟨hok, rfl⟩ := ih.mp hrest
          simp only [Except.map, Except.ok.injEq, exists_eq', true_and, eq_comm (b := accounts)]
          exact ⟨fun heq => ⟨hok, heq⟩, And.right⟩

/-- Another account of the gateway, that is older and has the same username. -/
structure Holds (r : Reconciler Selector) (gw : MailoutGateway Selector) (u : Bytes)
    (account other : MailoutAccount) : Prop where
  key : ¬ (other.namespace_ = account.namespace_ ∧ other.name = account.name)
  refers : r.refersTo gw other = true
  name : UsernameFor other = u
  older : older other account = true

/-- There is a conflict if one of the list holds the username. -/
theorem usernameConflict_eq_nil {account : MailoutAccount} {u : Bytes} {list : List MailoutAccount} :
    r.usernameConflict account gw u list = [] ↔ ∀ other ∈ list, ¬ r.Holds gw u account other := by
  induction list with
  | nil => simp [usernameConflict]
  | cons other list ih =>
    rw [usernameConflict, List.forall_mem_cons, ← ih]
    have hskip : ¬ r.Holds gw u account other → (r.usernameConflict account gw u list = [] ↔
        ¬ r.Holds gw u account other ∧ r.usernameConflict account gw u list = []) :=
      fun hnot => ⟨fun h => ⟨hnot, h⟩, And.right⟩
    split_ifs with hself hrefers hname holder
    · exact hskip fun h => h.key hself
    · exact hskip fun h => hname h.name
    · refine ⟨fun h => absurd h ?_, fun h => absurd ⟨hself, hrefers, not_not.mp hname, holder⟩ h.1⟩
      exact List.append_ne_nil_of_left_ne_nil (List.append_ne_nil_of_right_ne_nil _ (by decide)) _
    · exact hskip fun h => holder h.older
    · exact hskip fun h => hrefers h.refers

/-- One of two objects with different UIDs is older. -/
theorem eq_of_not_older {a b : MailoutAccount} (hab : older a b = false) (hba : older b a = false) :
    a.uid = b.uid := by
  have htime : a.creationTimestamp = b.creationTimestamp := by
    unfold older at hab hba
    split_ifs at hab hba
    omega
  unfold older at hab hba
  rw [htime] at hab hba
  simp only [lt_self_iff_false, if_false, decide_eq_false_iff_not, List.not_lt] at hab hba
  exact List.le_antisymm hba hab

end Reconciler

/-! ## Who is served -/

/-- What is served is the first entry that can be of each username, in some order of the entries. -/
theorem Serves.first {list : List MailoutAccount} {served : List Account}
    (h : Serves bcrypt r gw list served) : ∃ sorted : List Account,
      (∀ account ∈ list, ∃ found, r.collectAccount gw account = .ok found) ∧
      sorted.Perm (list.filterMap (r.entry gw)) ∧
      ∀ acct, acct ∈ served ↔
        sorted.find? (fun b => Servable bcrypt b && b.username == acct.username) = some acct := by
  obtain ⟨accounts, sorted, hcollect, hsorts, rfl⟩ := h
  obtain ⟨hreads, rfl⟩ := Reconciler.collectAccounts_eq_ok.mp hcollect
  exact ⟨sorted, hreads, hsorts.perm, fun _ => mem_served⟩

/-- Every entry that can be served is, if its account comes first. -/
theorem exists_serves {account : MailoutAccount} {list : List MailoutAccount} {acct : Account}
    (hreads : ∀ other ∈ account :: list, ∃ found, r.collectAccount gw other = .ok found)
    (hentry : r.collectAccount gw account = .ok (some acct)) (hserv : Servable bcrypt acct = true) :
    ∃ served, Serves bcrypt r gw (account :: list) served ∧ acct ∈ served := by
  obtain ⟨sorted, hsorts, hfind⟩ :=
    exists_sortsBy Account.username ((account :: list).filterMap (r.entry gw))
  refine ⟨_, ⟨_, sorted, Reconciler.collectAccounts_eq_ok.mpr ⟨hreads, rfl⟩, hsorts, rfl⟩, ?_⟩
  rw [mem_served, hfind]
  · rw [List.filterMap_cons_some (Reconciler.entry_eq_some.mpr hentry)]
    exact List.find?_cons_of_pos (by simp [hserv])
  · intro a b ha hb
    simp only [Bool.and_eq_true, beq_iff_eq] at ha hb
    rw [ha.2, hb.2]

/-- No account that could be served is in conflict. -/
def Undisputed (bcrypt : Bcrypt) (r : Reconciler Selector) (gw : MailoutGateway Selector)
    (list : List MailoutAccount) : Prop :=
  ∀ account ∈ list, ∀ acct, r.collectAccount gw account = .ok (some acct) →
    Servable bcrypt acct = true → r.usernameConflict account gw (UsernameFor account) list = []

/-- Then there is one entry to serve under each username. -/
theorem Undisputed.unique {objs : AccountObjects} (h : Undisputed bcrypt r gw objs.items) (u : Bytes) :
    ∀ a ∈ objs.items.filterMap (r.entry gw), ∀ b ∈ objs.items.filterMap (r.entry gw),
      (Servable bcrypt a && a.username == u) = true → (Servable bcrypt b && b.username == u) = true →
      a = b := by
  intro a ha b hb hpa hpb
  rw [Bool.and_eq_true, beq_iff_eq] at hpa hpb
  obtain ⟨A, hA, hea⟩ := List.mem_filterMap.mp ha
  obtain ⟨B, hB, heb⟩ := List.mem_filterMap.mp hb
  obtain ⟨hrefA, hnameA⟩ := Reconciler.collectAccount_some (Reconciler.entry_eq_some.mp hea)
  obtain ⟨hrefB, hnameB⟩ := Reconciler.collectAccount_some (Reconciler.entry_eq_some.mp heb)
  have hfreeA := Reconciler.usernameConflict_eq_nil.mp
    (h A hA a (Reconciler.entry_eq_some.mp hea) hpa.1)
  have hfreeB := Reconciler.usernameConflict_eq_nil.mp
    (h B hB b (Reconciler.entry_eq_some.mp heb) hpb.1)
  have hsame : A = B := by
    by_contra hne
    refine hne (AccountObjects.eq_of_uid hA hB (Reconciler.eq_of_not_older ?_ ?_))
    · refine Bool.eq_false_iff.mpr fun holder => hfreeB A hA ⟨fun hkey => ?_, hrefA, ?_, holder⟩
      · exact hne (AccountObjects.eq_of_key hA hB hkey)
      · rw [← hnameA, hpa.2, ← hpb.2, hnameB]
    · refine Bool.eq_false_iff.mpr fun holder => hfreeA B hB ⟨fun hkey => ?_, hrefB, ?_, holder⟩
      · exact hne (AccountObjects.eq_of_key hB hA hkey).symm
      · rw [← hnameB, hpb.2, ← hpa.2, hnameA]
  rw [hsame, heb] at hea
  exact (Option.some.inj hea).symm

/-- A conflict does not depend on the order of the list. -/
theorem usernameConflict_perm {account : MailoutAccount} {u : Bytes} {list list' : List MailoutAccount}
    (hperm : list.Perm list') (h : r.usernameConflict account gw u list = []) :
    r.usernameConflict account gw u list' = [] :=
  Reconciler.usernameConflict_eq_nil.mpr fun other hother =>
    Reconciler.usernameConflict_eq_nil.mp h other (hperm.mem_iff.mpr hother)

/-- **The account that is served is the one that was accepted**, in every order of the list and every
result of the sort, and who is served does not depend on either: if and only if the accounts cannot
be read, or none of those that could be served is in conflict. -/
theorem served_accepted_iff (bcrypt : Bcrypt) (r : Reconciler Selector) (gw : MailoutGateway Selector)
    (objs : AccountObjects) :
    ((∀ list served, list.Perm objs.items → Serves bcrypt r gw list served →
        ∀ account ∈ list, ∀ acct ∈ served, r.collectAccount gw account = .ok (some acct) →
          r.usernameConflict account gw acct.username list = []) ∧
      (∀ list served list' served', list.Perm objs.items → list'.Perm objs.items →
        Serves bcrypt r gw list served → Serves bcrypt r gw list' served' →
          ∀ acct, acct ∈ served ↔ acct ∈ served')) ↔
    ((∃ accounts, r.collectAccounts gw objs.items = .ok accounts) →
      Undisputed bcrypt r gw objs.items) := by
  constructor
  · rintro ⟨haccepted, -⟩ ⟨accounts, hcollect⟩ account haccount acct hentry hserv
    -- the list that has this account first
    have hperm := List.perm_cons_erase haccount
    have hreads := (Reconciler.collectAccounts_eq_ok.mp hcollect).1
    obtain ⟨served, hserves, hmem⟩ := exists_serves
      (fun other hother => hreads other (hperm.mem_iff.mpr hother)) hentry hserv
    have hfree := haccepted _ served hperm.symm hserves account List.mem_cons_self acct hmem hentry
    rw [(Reconciler.collectAccount_some hentry).2] at hfree
    exact usernameConflict_perm hperm.symm hfree
  · intro hundisputed
    have hunique : ∀ list served, list.Perm objs.items → Serves bcrypt r gw list served →
        Undisputed bcrypt r gw objs.items := by
      intro list served hperm hserves
      obtain ⟨-, hreads, -, -⟩ := hserves.first
      exact hundisputed ⟨_, Reconciler.collectAccounts_eq_ok.mpr
        ⟨fun other hother => hreads other (hperm.mem_iff.mpr hother), rfl⟩⟩
    refine ⟨fun list served hperm hserves account haccount acct hmem hentry => ?_,
      fun list served list' served' hperm hperm' hserves hserves' acct => ?_⟩
    · obtain ⟨sorted, -, -, hfirst⟩ := hserves.first
      have hserv := List.find?_some ((hfirst acct).mp hmem)
      rw [Bool.and_eq_true] at hserv
      rw [(Reconciler.collectAccount_some hentry).2]
      exact usernameConflict_perm hperm.symm
        (hunique list served hperm hserves account (hperm.mem_iff.mp haccount) acct hentry hserv.1)
    · obtain ⟨sorted, -, hsorted, hfirst⟩ := hserves.first
      obtain ⟨sorted', -, hsorted', hfirst'⟩ := hserves'.first
      have hone := (hunique list served hperm hserves).unique acct.username
      rw [hfirst, hfirst', find?_of_perm (hsorted.trans (hperm.filterMap _)) hone,
        find?_of_perm (hsorted'.trans (hperm'.filterMap _)) hone]

end

section

/-- A claimant of the username `app`, whose Secret has its own name. -/
def claimant (name uid : Bytes) (created : Int) : MailoutAccount where
  name := name
  namespace_ := lit "team"
  uid := uid
  creationTimestamp := created
  gatewayRefName := lit "relay"
  gatewayRefNamespace := []
  username := lit "app"
  secretRefName := name
  allowedSenders := [lit "app@example.test"]
  enforceHeaderFrom := none
  disabled := false

/-- A cluster where every Secret holds its own name as the hash. -/
def provisioned : Reconciler Unit where
  labelSelectorAsSelector _ := .ok fun _ => true
  getNamespace _ := .ok none
  quote := id
  operatorNamespace := lit "mailout"
  getSecret _ name := .ok (some ⟨name⟩)

def relayGateway : MailoutGateway Unit :=
  ⟨lit "relay", lit "mailout", .all, none, [⟨[lit "app@example.test"], none⟩]⟩

/-- Two claimants, of which the first is older. -/
def twoClaimants : AccountObjects where
  items := [claimant (lit "first") (lit "1") 0, claimant (lit "second") (lit "2") 1]
  keys := by decide +kernel
  uids := by decide +kernel

/-- The entry of one of them. -/
def claimantEntry (hash : Bytes) : Account := ⟨lit "app", hash, false, [lit "app@example.test"], false⟩

/-- Of two claimants that both have a Secret the list decides: the younger one is served if it comes
first, and is in conflict. -/
theorem served_disputed :
    (let bcrypt : Bcrypt := ⟨fun _ => some minBcryptCost, fun hash password => hash == password⟩;
      Serves bcrypt provisioned relayGateway twoClaimants.items [claimantEntry (lit "first")] ∧
      Serves bcrypt provisioned relayGateway twoClaimants.items.reverse
        [claimantEntry (lit "second")]) ∧
    provisioned.collectAccount relayGateway (claimant (lit "second") (lit "2") 1) =
      .ok (some (claimantEntry (lit "second"))) ∧
    provisioned.usernameConflict (claimant (lit "second") (lit "2") 1) relayGateway (lit "app")
      twoClaimants.items.reverse = lit "team/first" := by
  refine ⟨⟨?_, ?_⟩, by decide +kernel, by decide +kernel⟩
  · exact ⟨[claimantEntry (lit "first"), claimantEntry (lit "second")], _, by decide +kernel,
      ⟨.refl _, by decide +kernel⟩, by decide +kernel⟩
  · exact ⟨[claimantEntry (lit "second"), claimantEntry (lit "first")], _, by decide +kernel,
      ⟨.refl _, by decide +kernel⟩, by decide +kernel⟩

end

end Mailout
