import Mailout.AccountWebhook
import Mailout.Partition

/-!
# Who has an SMTP identity

Every account is asked about in a call of its own, on a list in an order of its own, whether another
one of its gateway has its username. `username_one_winner` says that the answers fit together: `older`
is a strict order that tells any two objects apart, so of the claimants of a username exactly the
least is told that it has it.

Admission keeps the claimants of a username in one namespace. A username starts with its namespace
and a dot, explicit or not (`Admits.inSpace`), and the namespace can be read off it again, so accounts
of different namespaces never meet, neither in `usernameConflict` nor in `PartitionAccounts`
(`Unaffected`).
-/

namespace Mailout

open Go

variable {Selector : Type}

/-! ## The older object -/

namespace Reconciler

/-- `a` was created before `b`, or in the same second with a smaller UID. -/
def Precedes (a b : MailoutAccount) : Prop :=
  a.creationTimestamp < b.creationTimestamp ∨
    a.creationTimestamp = b.creationTimestamp ∧ a.uid < b.uid

/-- The comparison of the source is the order in which accounts take precedence. -/
theorem older_iff {a b : MailoutAccount} : older a b = true ↔ Precedes a b := by
  unfold older Precedes
  split_ifs with hlt hgt
  · simp [hlt]
  · simp [hlt, ne_of_gt hgt]
  · have heq : a.creationTimestamp = b.creationTimestamp := by omega
    simp [heq]

/-- Precedence is transitive: the time of creation counts, and then the UID. -/
theorem Precedes.trans {a b c : MailoutAccount} (hab : Precedes a b) (hbc : Precedes b c) :
    Precedes a c := by
  rcases hab with hab | ⟨htime, huid⟩
  · left
    rcases hbc with hbc | ⟨htime', -⟩ <;> omega
  · rcases hbc with hbc | ⟨htime', huid'⟩
    · left
      omega
    · exact .inr ⟨htime.trans htime', List.lt_trans huid huid'⟩

/-- No account precedes itself. -/
theorem not_precedes_self (a : MailoutAccount) : ¬ Precedes a a := by
  rintro (h | ⟨-, h⟩)
  · exact lt_irrefl _ h
  · exact List.lt_irrefl _ h

/-- Some claimant has none before it. -/
theorem exists_oldest {list : List MailoutAccount} (hne : list ≠ []) :
    ∃ winner ∈ list, ∀ a ∈ list, ¬ Precedes a winner := by
  induction list with
  | nil => exact absurd rfl hne
  | cons head list ih =>
    by_cases hnil : list = []
    · subst hnil
      refine ⟨head, by simp, fun a ha => ?_⟩
      rw [List.mem_singleton.mp ha]
      exact not_precedes_self head
    · obtain ⟨winner, hmem, hleast⟩ := ih hnil
      by_cases hhead : Precedes head winner
      · refine ⟨head, by simp, fun a ha hlt => ?_⟩
        rcases List.mem_cons.mp ha with rfl | ha
        · exact not_precedes_self a hlt
        · exact hleast a ha (hlt.trans hhead)
      · refine ⟨winner, List.mem_cons_of_mem _ hmem, fun a ha => ?_⟩
        rcases List.mem_cons.mp ha with rfl | ha
        · exact hhead
        · exact hleast a ha

/-- Two objects that are not before each other have one UID. -/
theorem uid_eq_of_not_precedes {a b : MailoutAccount} (hab : ¬ Precedes a b)
    (hba : ¬ Precedes b a) : a.uid = b.uid := by
  rw [← older_iff, Bool.not_eq_true] at hab hba
  exact eq_of_not_older hab hba

end Reconciler

open Reconciler

/-- The accounts of a gateway that claim one username. -/
structure Claimants (r : Reconciler Selector) (gw : MailoutGateway Selector) (u : Bytes) extends
    AccountObjects where
  refers : ∀ a ∈ items, r.refersTo gw a = true
  name : ∀ a ∈ items, UsernameFor a = u

/-- A list the API server may return: of the accounts with the username it has the claimants, in any
order, and whatever others there are. -/
def Claimants.Listed {r : Reconciler Selector} {gw : MailoutGateway Selector} {u : Bytes}
    (claimants : Claimants r gw u) (list : List MailoutAccount) : Prop :=
  ∀ a, a ∈ claimants.items ↔ a ∈ list ∧ r.refersTo gw a = true ∧ UsernameFor a = u

/-- **A username conflict has exactly one winner**: the claimant with the least timestamp and UID is
told of no conflict and every other one of a conflict, each on whatever list its call is given. -/
theorem username_one_winner (r : Reconciler Selector) (gw : MailoutGateway Selector) (u : Bytes)
    (claimants : Claimants r gw u) (hne : claimants.items ≠ []) :
    ∃ winner ∈ claimants.items,
      (∀ a ∈ claimants.items, a ≠ winner → Precedes winner a) ∧
      ∀ a ∈ claimants.items, ∀ list, claimants.Listed list →
        (r.usernameConflict a gw u list = [] ↔ a = winner) := by
  obtain ⟨winner, hwinner, hleast⟩ := exists_oldest hne
  have hfirst : ∀ a ∈ claimants.items, a ≠ winner → Precedes winner a := by
    intro a ha hdiff
    by_contra hnot
    exact hdiff (AccountObjects.eq_of_uid ha hwinner (uid_eq_of_not_precedes (hleast a ha) hnot))
  refine ⟨winner, hwinner, hfirst, fun a ha list hlist => ?_⟩
  rw [usernameConflict_eq_nil]
  constructor
  · intro hfree
    by_contra hdiff
    refine hfree winner ((hlist winner).mp hwinner).1 ⟨fun hkey => ?_, claimants.refers winner hwinner,
      claimants.name winner hwinner, older_iff.mpr (hfirst a ha hdiff)⟩
    exact hdiff (AccountObjects.eq_of_key hwinner ha hkey).symm
  · rintro rfl other hother hholds
    have hmem : other ∈ claimants.items := (hlist other).mpr ⟨hother, hholds.refers, hholds.name⟩
    exact hleast other hmem (older_iff.mp hholds.older)

/-- The two claimants of `app`. -/
def appClaimants : Claimants provisioned relayGateway (lit "app") where
  toAccountObjects := twoClaimants
  refers := by decide +kernel
  name := by decide +kernel

/-- Of the claimants of one username the oldest gets it. -/
theorem username_one_winner_app :
    ∃ winner ∈ appClaimants.items,
      (∀ a ∈ appClaimants.items, a ≠ winner → Precedes winner a) ∧
      ∀ a ∈ appClaimants.items, ∀ list, appClaimants.Listed list →
        (provisioned.usernameConflict a relayGateway (lit "app") list = [] ↔ a = winner) :=
  username_one_winner _ _ _ appClaimants (List.cons_ne_nil _ _)

/-! ## Usernames of one namespace -/

def dot : UInt8 := 0x2E

/-- The dot between a namespace and a name is one byte. -/
theorem lit_dot : lit "." = [dot] := by decide

/-- An admitted username starts with the account's namespace and a dot. -/
theorem AccountValidator.Admits.inSpace {c : Cluster Selector} {account : MailoutAccount}
    (h : AccountValidator.Admits c account) :
    ∃ rest, UsernameFor account = account.namespace_ ++ dot :: rest := by
  obtain ⟨-, -, -, hspace, -⟩ := h.checks
  unfold UsernameFor
  split_ifs with hexplicit
  · unfold usernameSpaceErrors at hspace
    dsimp only at hspace
    split_ifs at hspace with hout
    have hin : (account.namespace_ ++ lit ".").isPrefixOf account.username = true := by
      by_contra hnot
      exact hout ⟨hexplicit, hnot⟩
    obtain ⟨rest, hrest⟩ := List.isPrefixOf_iff_prefix.mp hin
    exact ⟨rest, by rw [← hrest, lit_dot, List.append_assoc, List.singleton_append]⟩
  · exact ⟨account.name, by rw [lit_dot, List.append_assoc, List.singleton_append]⟩

/-- An admitted username can be served. -/
theorem AccountValidator.Admits.validUsername {c : Cluster Selector} {account : MailoutAccount}
    (h : AccountValidator.Admits c account) : ValidUsername (UsernameFor account) = true := by
  obtain ⟨-, -, -, -, husername⟩ := h.checks
  unfold usernameErrors at husername
  dsimp only at husername
  by_contra hinvalid
  rw [if_neg hinvalid] at husername
  split_ifs at husername

/-- The namespace of an admitted account can be read off its username. -/
theorem username_ne_of_namespace_ne {c c' : Cluster Selector} {a b : MailoutAccount}
    (ha : AccountValidator.Admits c a) (hb : AccountValidator.Admits c' b)
    (hdot : dot ∉ a.namespace_) (hdot' : dot ∉ b.namespace_) (hne : a.namespace_ ≠ b.namespace_) :
    UsernameFor a ≠ UsernameFor b := by
  obtain ⟨s, hs⟩ := ha.inSpace
  obtain ⟨t, ht⟩ := hb.inSpace
  intro heq
  have hcut : cut dot (UsernameFor a) = some (b.namespace_, t) := by
    rw [heq, ht]
    exact Go.cut_append hdot' t
  rw [hs, Go.cut_append hdot s, Option.some.injEq, Prod.mk.injEq] at hcut
  exact hne hcut.1

/-! ## Accounts that do not meet -/

/-- An object with another username changes nothing of a conflict. -/
theorem usernameConflict_insert {r : Reconciler Selector} {gw : MailoutGateway Selector}
    {a b : MailoutAccount} {u : Bytes} (hne : UsernameFor b ≠ u) (l₁ l₂ : List MailoutAccount) :
    r.usernameConflict a gw u (l₁ ++ b :: l₂) = r.usernameConflict a gw u (l₁ ++ l₂) := by
  induction l₁ with
  | nil =>
    rw [List.nil_append, usernameConflict]
    simp [hne]
  | cons other l₁ ih =>
    rw [List.cons_append, List.cons_append, usernameConflict, usernameConflict, ih]

/-- The report of a duplicate. -/
def duplicateOf (u : Bytes) : RejectedAccount := ⟨u, lit "duplicate username"⟩

/-- A duplicate is reported of an account under its own username, if that was seen. -/
theorem refusal_eq_duplicate {bcrypt : Bcrypt} {seen : Bytes → Bool} {i : Nat} {account : Account}
    {u : Bytes} : refusal bcrypt seen i account = some (duplicateOf u) ↔
      account.username = u ∧ u ≠ [] ∧ seen u = true := by
  -- The reason tells this report from the others.
  have hreason : ∀ {name reason : Bytes}, reason ≠ lit "duplicate username" →
      some (⟨name, reason⟩ : RejectedAccount) ≠ some (duplicateOf u) := by
    intro name reason hne heq
    exact hne (congrArg RejectedAccount.reason (Option.some.inj heq))
  unfold refusal
  split_ifs with hnil hdup hvalid hhash husable
  · refine iff_of_false (hreason (by decide)) ?_
    rintro ⟨rfl, hne, -⟩
    exact hne hnil
  · simp only [duplicateOf, Option.some.injEq, RejectedAccount.mk.injEq, and_true]
    refine ⟨fun h => ⟨h, h ▸ hnil, h ▸ hdup⟩, And.left⟩
  all_goals
    refine iff_of_false ?_ (by rintro ⟨rfl, -, hseen⟩; exact hdup hseen)
  · exact hreason (by decide)
  · exact nofun
  · exact hreason (by decide +kernel)
  · exact hreason (by decide +kernel)

/-- Accounts under other usernames change nothing of what becomes of the accounts under `u`: the
loop looks at `seen` only at the account's own username. -/
theorem partitionFrom_under {bcrypt : Bcrypt} {accounts : List Account} {u : Bytes} :
    ∀ {seen seen' : Bytes → Bool} (i j : Nat), seen u = seen' u →
      (duplicateOf u ∈ (partitionFrom bcrypt seen i accounts).2 ↔
        duplicateOf u ∈
          (partitionFrom bcrypt seen' j (accounts.filter fun x => x.username == u)).2) := by
  induction accounts with
  | nil => exact fun _ _ _ => Iff.rfl
  | cons account accounts ih =>
    intro seen seen' i j hseen
    rw [List.filter_cons]
    by_cases hname : account.username = u
    · rw [if_pos (by simpa using hname), partitionFrom, partitionFrom]
      have hsame : refusal bcrypt seen i account = none ↔ refusal bcrypt seen' j account = none := by
        rw [refusal_eq_none, refusal_eq_none, hname, hseen]
      have hdup : refusal bcrypt seen i account = some (duplicateOf u) ↔
          refusal bcrypt seen' j account = some (duplicateOf u) := by
        rw [refusal_eq_duplicate, refusal_eq_duplicate, hseen]
      cases h : refusal bcrypt seen i account with
      | none =>
        rw [hsame.mp h]
        exact ih _ _ (by rw [hname, Function.update_self, Function.update_self])
      | some rejected =>
        cases h' : refusal bcrypt seen' j account with
        | none =>
          rw [hsame.mpr h'] at h
          cases h
        | some rejected' =>
          simp only [h, h', Option.some.injEq] at hdup
          rw [List.mem_cons, List.mem_cons, ih _ _ hseen, eq_comm, hdup, eq_comm (a := rejected')]
    · rw [if_neg (by simpa using hname), partitionFrom]
      cases h : refusal bcrypt seen i account with
      | none => exact ih _ _ (by rw [Function.update_of_ne (Ne.symm hname), hseen])
      | some rejected =>
        rw [List.mem_cons, ih _ _ hseen]
        refine or_iff_right fun heq => hname ?_
        rw [← heq] at h
        exact (refusal_eq_duplicate.mp h).1

/-- An account under another username changes nothing of what becomes of the accounts under `u`. -/
theorem partition_insert {bcrypt : Bcrypt} {u : Bytes} {x : Account} (hne : x.username ≠ u)
    (l₁ l₂ : List Account) :
    (∀ y, y.username = u → (y ∈ (PartitionAccounts bcrypt (l₁ ++ x :: l₂)).1 ↔
      y ∈ (PartitionAccounts bcrypt (l₁ ++ l₂)).1)) ∧
    (duplicateOf u ∈ (PartitionAccounts bcrypt (l₁ ++ x :: l₂)).2 ↔
      duplicateOf u ∈ (PartitionAccounts bcrypt (l₁ ++ l₂)).2) := by
  constructor
  · rintro y rfl
    rw [mem_served, mem_served, List.find?_append, List.find?_append,
      List.find?_cons_of_neg (by simp [hne])]
  · rw [PartitionAccounts, PartitionAccounts, partitionFrom_under 0 0 rfl,
      @partitionFrom_under bcrypt (l₁ ++ l₂) u _ _ 0 0 rfl, List.filter_append, List.filter_append,
      List.filter_cons_of_neg (by simpa using hne)]

/-- `a` is refused nowhere because of `b`: taking `b` off the list changes no answer about `a`, and
taking out an entry under its username changes nothing of the accounts under that of `a`. -/
structure Unaffected (a b : MailoutAccount) : Prop where
  conflict : ∀ (r : Reconciler Selector) (gw : MailoutGateway Selector) l₁ l₂,
    r.usernameConflict a gw (UsernameFor a) (l₁ ++ b :: l₂) =
      r.usernameConflict a gw (UsernameFor a) (l₁ ++ l₂)
  served : ∀ bcrypt l₁ l₂ x, x.username = UsernameFor b → ∀ y, y.username = UsernameFor a →
    (y ∈ (PartitionAccounts bcrypt (l₁ ++ x :: l₂)).1 ↔
      y ∈ (PartitionAccounts bcrypt (l₁ ++ l₂)).1)
  duplicate : ∀ bcrypt l₁ l₂ x, x.username = UsernameFor b →
    (duplicateOf (UsernameFor a) ∈ (PartitionAccounts bcrypt (l₁ ++ x :: l₂)).2 ↔
      duplicateOf (UsernameFor a) ∈ (PartitionAccounts bcrypt (l₁ ++ l₂)).2)

/-- An account with another username decides nothing about this one, neither its claim nor its entry. -/
theorem unaffected_of_ne {a b : MailoutAccount} (hne : UsernameFor a ≠ UsernameFor b) :
    @Unaffected Selector a b where
  conflict _ _ l₁ l₂ := usernameConflict_insert (Ne.symm hne) l₁ l₂
  served _ l₁ l₂ _ hx := (partition_insert (hx ▸ Ne.symm hne) l₁ l₂).1
  duplicate _ l₁ l₂ _ hx := (partition_insert (hx ▸ Ne.symm hne) l₁ l₂).2

/-- **Tenants do not collide.** Two admitted accounts of different namespaces have different, valid
usernames, and neither is refused anywhere because of the other. -/
theorem tenants_apart (c c' : Cluster Selector) (a b : MailoutAccount)
    (ha : AccountValidator.Admits c a) (hb : AccountValidator.Admits c' b)
    (hne : a.namespace_ ≠ b.namespace_) (hdot : dot ∉ a.namespace_) (hdot' : dot ∉ b.namespace_) :
    UsernameFor a ≠ UsernameFor b ∧
      ValidUsername (UsernameFor a) = true ∧ ValidUsername (UsernameFor b) = true ∧
      @Unaffected Selector a b ∧ @Unaffected Selector b a := by
  have hnames := username_ne_of_namespace_ne ha hb hdot hdot' hne
  exact ⟨hnames, ha.validUsername, hb.validUsername, unaffected_of_ne hnames,
    unaffected_of_ne hnames.symm⟩

/-- Two tenants with accounts of one name have different usernames. -/
theorem tenants_apart_shop :
    UsernameFor (accountIn (lit "shop")) ≠ UsernameFor (accountIn (lit "blog")) ∧
      ValidUsername (UsernameFor (accountIn (lit "shop"))) = true ∧
      ValidUsername (UsernameFor (accountIn (lit "blog"))) = true ∧
      @Unaffected (Bytes × Bytes) (accountIn (lit "shop")) (accountIn (lit "blog")) ∧
      @Unaffected (Bytes × Bytes) (accountIn (lit "blog")) (accountIn (lit "shop")) :=
  tenants_apart (sharedCluster .all) (sharedCluster .all) _ _ (by decide +kernel) (by decide +kernel)
    (by decide) (by decide) (by decide)

end Mailout
