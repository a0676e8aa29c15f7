import Mailout.Account

/-!
# What becomes of each account of a configuration

`Config.PartitionAccounts` walks the accounts with a set of the usernames it has served. `verdictsFrom`
is what it says of each position, and the two lists it returns are read off these verdicts
(`partitionFrom_eq`). An account that is refused for its own username or hash does not enter the set,
so it takes nothing from anyone: what is served is a function of the usable accounts alone
(`partitionFrom_filter`).
-/

namespace Mailout

open Go

/-- `Inserts p xs ys`: `ys` is `xs` with elements of `p` put in, anywhere and any number of them. -/
inductive Inserts {α : Type} (p : α → Prop) : List α → List α → Prop where
  | nil : Inserts p [] []
  | keep (a : α) {xs ys : List α} : Inserts p xs ys → Inserts p (a :: xs) (a :: ys)
  | insert {a : α} {xs ys : List α} : p a → Inserts p xs ys → Inserts p xs (a :: ys)

/-- What is inserted and does not pass the filter does not show in it. -/
theorem Inserts.filter_eq {α : Type} {p : α → Bool} {xs ys : List α}
    (h : Inserts (fun a => p a = false) xs ys) : ys.filter p = xs.filter p := by
  induction h with
  | nil => rfl
  | keep a _ ih => rw [List.filter_cons, List.filter_cons, ih]
  | insert ha _ ih => rw [List.filter_cons, ha, ih]; rfl

/-- An account whose own username and hash can be used. -/
def Usable (bcrypt : Bcrypt) (account : Account) : Bool :=
  ValidUsername account.username && UsableHash bcrypt account.passwordHash

/-- The accounts of which a verdict is no refusal. -/
def unrefused (accounts : List Account) (verdicts : List (Option RejectedAccount)) : List Account :=
  ((accounts.zip verdicts).filter fun p => p.2.isNone).map Prod.fst

section
variable {bcrypt : Bcrypt}

/-- `bcrypt.Cost` refuses an empty hash, so the usable accounts are those that can be served. -/
theorem usable_eq_servable (hcost : bcrypt.cost [] = none) (account : Account) :
    Usable bcrypt account = Servable bcrypt account := by
  unfold Usable Servable
  by_cases hnil : account.passwordHash = []
  · simp [hnil, UsableHash, hcost]
  · simp [hnil]

/-! ## Verdicts -/

variable (bcrypt) in
/-- What the loop of `PartitionAccounts` says of each account, from the `i`-th on. -/
def verdictsFrom (seen : Bytes → Bool) : Nat → List Account → List (Option RejectedAccount)
  | _, [] => []
  | i, account :: accounts =>
    match refusal bcrypt seen i account with
    | some rejected => some rejected :: verdictsFrom seen (i + 1) accounts
    | none => none :: verdictsFrom (Function.update seen account.username true) (i + 1) accounts

/-- Every account gets a verdict. -/
theorem length_verdictsFrom {accounts : List Account} : ∀ (seen : Bytes → Bool) (i : Nat),
    (verdictsFrom bcrypt seen i accounts).length = accounts.length := by
  induction accounts with
  | nil => exact fun _ _ => rfl
  | cons account accounts ih =>
    intro seen i
    rw [verdictsFrom]
    cases refusal bcrypt seen i account <;> simp [ih]

/-- Both lists are read off the verdicts. -/
theorem partitionFrom_eq {accounts : List Account} : ∀ (seen : Bytes → Bool) (i : Nat),
    partitionFrom bcrypt seen i accounts =
      (unrefused accounts (verdictsFrom bcrypt seen i accounts),
        (verdictsFrom bcrypt seen i accounts).filterMap id) := by
  induction accounts with
  | nil => exact fun _ _ => rfl
  | cons account accounts ih =>
    intro seen i
    rw [partitionFrom, verdictsFrom]
    cases refusal bcrypt seen i account <;> simp [ih, unrefused]

/-- A username enters the set with the first account served under it. -/
theorem verdictsFrom_eq_none {accounts : List Account} : ∀ {seen : Bytes → Bool} {i k : Nat}
    {a : Account}, accounts[k]? = some a →
    ((verdictsFrom bcrypt seen i accounts)[k]? = some none ↔
      Servable bcrypt a = true ∧ seen a.username = false ∧
        ∀ j < k, ∀ b, accounts[j]? = some b → Servable bcrypt b = true →
          b.username ≠ a.username) := by
  induction accounts with
  | nil => intro seen i k a ha; cases ha
  | cons account accounts ih =>
    intro seen i k a ha
    rw [verdictsFrom]
    cases k with
    | zero =>
      obtain rfl : account = a := by simpa using ha
      have hnone := @refusal_eq_none bcrypt seen i account
      cases h : refusal bcrypt seen i account with
      | none => simpa [h, and_comm] using hnone
      | some rejected => simpa [h, and_comm] using hnone
    | succ k =>
      have hk : accounts[k]? = some a := by simpa using ha
      -- The account at the head is the one at position 0, the others move up by one.
      have hsplit : (∀ j < k + 1, ∀ b, (account :: accounts)[j]? = some b →
          Servable bcrypt b = true → b.username ≠ a.username) ↔
          (Servable bcrypt account = true → account.username ≠ a.username) ∧
            ∀ j < k, ∀ b, accounts[j]? = some b → Servable bcrypt b = true →
              b.username ≠ a.username := by
        rw [Nat.forall_lt_succ_left]
        simp
      rw [hsplit]
      cases h : refusal bcrypt seen i account with
      | none =>
        obtain ⟨-, hserv⟩ := refusal_eq_none.mp h
        simp only [List.getElem?_cons_succ, ih hk, Function.update_apply, hserv, forall_const]
        by_cases hname : a.username = account.username
        · simp [hname]
        · simp [hname, Ne.symm hname]
      | some rejected =>
        simp only [List.getElem?_cons_succ, ih hk]
        have hpass : seen a.username = false → Servable bcrypt account = true →
            account.username ≠ a.username := by
          intro hseen hserv hname
          have := @refusal_eq_none bcrypt seen i account
          rw [h] at this
          exact absurd (this.mpr ⟨hname ▸ hseen, hserv⟩) (by simp)
        tauto

/-! ## What is served -/

/-- **Unusable accounts take nothing from anyone.** What is served of a list is what is served of
its accounts that can be. -/
theorem partitionFrom_filter {accounts : List Account} : ∀ (seen : Bytes → Bool) (i j : Nat),
    (partitionFrom bcrypt seen i accounts).1 =
      (partitionFrom bcrypt seen j (accounts.filter (Servable bcrypt))).1 := by
  induction accounts with
  | nil => exact fun _ _ _ => rfl
  | cons account accounts ih =>
    intro seen i j
    rw [partitionFrom, List.filter_cons]
    cases hserv : Servable bcrypt account with
    | false =>
      cases h : refusal bcrypt seen i account with
      | none =>
        rw [(refusal_eq_none.mp h).2] at hserv
        cases hserv
      | some rejected => simpa using ih seen (i + 1) j
    | true =>
      simp only [if_true]
      rw [partitionFrom]
      cases hseen : seen account.username with
      | false =>
        rw [refusal_eq_none.mpr ⟨hseen, hserv⟩, refusal_eq_none.mpr ⟨hseen, hserv⟩]
        exact congrArg (account :: ·) (ih _ (i + 1) (j + 1))
      | true =>
        have hrefused : ∀ k, ∃ r, refusal bcrypt seen k account = some r := by
          intro k
          rw [← Option.ne_none_iff_exists', ne_eq, refusal_eq_none, hseen]
          simp
        obtain ⟨r, hr⟩ := hrefused i
        obtain ⟨r', hr'⟩ := hrefused j
        rw [hr, hr']
        exact ih seen (i + 1) (j + 1)

/-- Accounts that cannot be served do not matter for the others. -/
theorem served_filter (accounts : List Account) :
    (PartitionAccounts bcrypt accounts).1 =
      (PartitionAccounts bcrypt (accounts.filter (Servable bcrypt))).1 :=
  partitionFrom_filter _ 0 0

/-- No two accounts are served under one username, and none under one seen before. -/
theorem nodup_partitionFrom {accounts : List Account} : ∀ (seen : Bytes → Bool) (i : Nat),
    ((partitionFrom bcrypt seen i accounts).1.map (·.username)).Nodup := by
  induction accounts with
  | nil => exact fun _ _ => .nil
  | cons account accounts ih =>
    intro seen i
    rw [partitionFrom]
    cases h : refusal bcrypt seen i account with
    | some rejected => exact ih seen (i + 1)
    | none =>
      refine List.nodup_cons.mpr ⟨fun hmem => ?_, ih _ _⟩
      obtain ⟨a, ha, hname⟩ := List.mem_map.mp hmem
      have hunseen := (mem_partitionFrom.mp ha).1
      rw [hname, Function.update_self] at hunseen
      cases hunseen

/-- Every account is served or rejected. -/
theorem length_partitionFrom {accounts : List Account} : ∀ (seen : Bytes → Bool) (i : Nat),
    (partitionFrom bcrypt seen i accounts).1.length + (partitionFrom bcrypt seen i accounts).2.length =
      accounts.length := by
  induction accounts with
  | nil => exact fun _ _ => rfl
  | cons account accounts ih =>
    intro seen i
    rw [partitionFrom]
    cases refusal bcrypt seen i account with
    | some rejected =>
      have hrest := ih seen (i + 1)
      simp only [List.length_cons]
      omega
    | none =>
      have hrest := ih (Function.update seen account.username true) (i + 1)
      simp only [List.length_cons]
      omega

/-- If none is rejected, all are served. -/
theorem partitionFrom_of_nil {accounts : List Account} : ∀ {seen : Bytes → Bool} {i : Nat},
    (partitionFrom bcrypt seen i accounts).2 = [] →
      (partitionFrom bcrypt seen i accounts).1 = accounts := by
  induction accounts with
  | nil => exact fun _ => rfl
  | cons account accounts ih =>
    intro seen i h
    rw [partitionFrom] at h ⊢
    cases hrefusal : refusal bcrypt seen i account with
    | some rejected => simp [hrefusal] at h
    | none =>
      simp only [hrefusal] at h ⊢
      rw [ih h]

/-! ## What is reported -/

/-- A byte that is no control character. -/
def PrintableByte (b : UInt8) : Prop := 0x20 ≤ b.toNat ∧ b ≠ 0x7F

/-- A valid username can be printed in a log line as it is. -/
theorem printable_of_validUsername {u : Bytes} (h : ValidUsername u = true) :
    ∀ b ∈ u, PrintableByte b := by
  unfold ValidUsername at h
  split_ifs at h with hsize
  intro b hb
  have hbyte := List.all_eq_true.mp h b hb
  simp only [usernameByte, Bool.not_eq_true', Bool.or_eq_false_iff, decide_eq_false_iff_not] at hbyte
  obtain ⟨⟨⟨⟨⟨⟨hlow, hhigh⟩, -⟩, -⟩, -⟩, -⟩, -⟩ := hbyte
  rw [UInt8.not_le] at hlow
  refine ⟨Nat.le_of_lt (UInt8.lt_iff_toNat_lt.mp hlow), ?_⟩
  rintro rfl
  exact hhigh (by decide)

/-- So can the position of an account. -/
theorem printable_position (i : Nat) :
    ∀ b ∈ lit "accounts[" ++ formatNat i ++ lit "]", PrintableByte b := by
  have hopen : ∀ b ∈ lit "accounts[", 0x20 ≤ b.toNat ∧ b ≠ 0x7F := by decide +kernel
  have hclose : ∀ b ∈ lit "]", 0x20 ≤ b.toNat ∧ b ≠ 0x7F := by decide +kernel
  intro b hb
  rw [List.mem_append, List.mem_append] at hb
  rcases hb with (hb | hb) | hb
  · exact hopen b hb
  · have hdigit := mem_formatNat hb
    refine ⟨by omega, ?_⟩
    rintro rfl
    revert hdigit
    decide
  · exact hclose b hb

/-- What a refusal reports: the position, or the account's own username if that is valid. -/
theorem refusal_username {seen : Bytes → Bool} (hseen : ∀ u, seen u = true → ValidUsername u = true)
    {i : Nat} {account : Account} {r : RejectedAccount}
    (h : refusal bcrypt seen i account = some r) :
    r.username = lit "accounts[" ++ formatNat i ++ lit "]" ∨
      r.username = account.username ∧ ValidUsername account.username = true := by
  unfold refusal at h
  split_ifs at h with hnil hdup hvalid hhash husable
  · exact .inl (by rw [← Option.some.inj h])
  · exact .inr ⟨by rw [← Option.some.inj h], hseen _ hdup⟩
  · exact .inr ⟨by rw [← Option.some.inj h], hvalid⟩
  · exact .inr ⟨by rw [← Option.some.inj h], hvalid⟩
  · exact .inl (by rw [← Option.some.inj h])

/-- Every report names the account at its position, and only with a valid username. -/
theorem verdictsFrom_username {accounts : List Account} : ∀ {seen : Bytes → Bool} {i k : Nat}
    {a : Account} {r : RejectedAccount}, (∀ u, seen u = true → ValidUsername u = true) →
    accounts[k]? = some a → (verdictsFrom bcrypt seen i accounts)[k]? = some (some r) →
    r.username = lit "accounts[" ++ formatNat (i + k) ++ lit "]" ∨
      r.username = a.username ∧ ValidUsername a.username = true := by
  induction accounts with
  | nil => intro seen i k a r _ ha; cases ha
  | cons account accounts ih =>
    intro seen i k a r hseen ha hr
    rw [verdictsFrom] at hr
    cases k with
    | zero =>
      obtain rfl : account = a := by simpa using ha
      cases h : refusal bcrypt seen i account with
      | none => simp [h] at hr
      | some rejected =>
        obtain rfl : rejected = r := by simpa [h] using hr
        exact refusal_username hseen h
    | succ k =>
      have hk : accounts[k]? = some a := by simpa using ha
      rw [show i + (k + 1) = i + 1 + k by omega]
      cases h : refusal bcrypt seen i account with
      | some rejected => exact ih hseen hk (by simpa [h] using hr)
      | none =>
        refine ih (fun u hu => ?_) hk (by simpa [h] using hr)
        have hserv := (refusal_eq_none.mp h).2
        simp only [Servable, Bool.and_eq_true] at hserv
        rw [Function.update_apply] at hu
        split_ifs at hu with hname
        · rw [hname]
          exact hserv.1.1
        · exact hseen u hu

/-- Every report is printable. -/
theorem printable_rejected {accounts : List Account} {r : RejectedAccount}
    (h : r ∈ (PartitionAccounts bcrypt accounts).2) : ∀ b ∈ r.username, PrintableByte b := by
  rw [PartitionAccounts, partitionFrom_eq] at h
  obtain ⟨v, hv, rfl⟩ := List.mem_filterMap.mp h
  obtain ⟨k, hk⟩ := List.mem_iff_getElem?.mp hv
  have hlt : k < accounts.length := by
    rw [← length_verdictsFrom (fun _ => false) 0]
    exact (List.getElem?_eq_some_iff.mp hk).1
  have hname := verdictsFrom_username (fun u hu => by cases hu) (List.getElem?_eq_getElem hlt) hk
  rcases hname with hname | ⟨hname, hvalid⟩
  · rw [hname]
    exact printable_position _
  · rw [hname]
    exact printable_of_validUsername hvalid

end

/-- **One tenant's broken account stays its own.** Each position gets one verdict, the two lists are
the positions with and without a refusal, in order; an account is served exactly if it is the first
usable one of its username; unusable accounts put in anywhere leave what is served as it was; and no
report holds a control character. -/
theorem partition_isolates (bcrypt : Bcrypt) (hcost : bcrypt.cost [] = none)
    (accounts : List Account) :
    (∃ verdicts : List (Option RejectedAccount), verdicts.length = accounts.length ∧
      (PartitionAccounts bcrypt accounts).1 = unrefused accounts verdicts ∧
      (PartitionAccounts bcrypt accounts).2 = verdicts.filterMap id ∧
      ∀ k a, accounts[k]? = some a →
        (verdicts[k]? = some none ↔ Usable bcrypt a = true ∧
          ∀ j < k, ∀ b, accounts[j]? = some b → Usable bcrypt b = true → b.username ≠ a.username) ∧
        ∀ r, verdicts[k]? = some (some r) →
          r.username = lit "accounts[" ++ formatNat k ++ lit "]" ∨ r.username = a.username) ∧
    ((PartitionAccounts bcrypt accounts).1.map (·.username)).Nodup ∧
    (∀ accounts', Inserts (fun a => Usable bcrypt a = false) accounts accounts' →
      (PartitionAccounts bcrypt accounts').1 = (PartitionAccounts bcrypt accounts).1) ∧
    ∀ r ∈ (PartitionAccounts bcrypt accounts).2, ∀ b ∈ r.username, PrintableByte b := by
  have heq : Usable bcrypt = Servable bcrypt := funext (usable_eq_servable hcost)
  refine ⟨⟨verdictsFrom bcrypt (fun _ => false) 0 accounts, length_verdictsFrom _ _, ?_, ?_, ?_⟩,
    nodup_partitionFrom _ _, ?_, fun r hr => printable_rejected hr⟩
  · rw [PartitionAccounts, partitionFrom_eq]
  · rw [PartitionAccounts, partitionFrom_eq]
  · intro k a ha
    refine ⟨?_, fun r hr => ?_⟩
    · rw [verdictsFrom_eq_none ha, heq]
      simp
    · have hname := verdictsFrom_username (fun u hu => by cases hu) ha hr
      rw [Nat.zero_add] at hname
      exact hname.imp_right And.left
  · intro accounts' hins
    rw [heq] at hins
    rw [served_filter, hins.filter_eq, ← served_filter]

/-- bcrypt with a cost for the hashes that are not empty. -/
def plainBcrypt : Bcrypt := ⟨fun hash => if hash = [] then none else some 10, fun hash p => hash == p⟩

/-- Three accounts: a username with a line break, and twice the same one. -/
def threeAccounts : List Account :=
  [⟨lit "a\r\nb", lit "h", false, [], false⟩, ⟨lit "app", lit "h", false, [], false⟩,
    ⟨lit "app", lit "k", false, [], false⟩]

/-- Three accounts: one whose username cannot be served, and two under one username. -/
theorem partition_isolates_three :
    (∃ verdicts : List (Option RejectedAccount), verdicts.length = threeAccounts.length ∧
      (PartitionAccounts plainBcrypt threeAccounts).1 = unrefused threeAccounts verdicts ∧
      (PartitionAccounts plainBcrypt threeAccounts).2 = verdicts.filterMap id ∧
      ∀ k a, threeAccounts[k]? = some a →
        (verdicts[k]? = some none ↔ Usable plainBcrypt a = true ∧
          ∀ j < k, ∀ b, threeAccounts[j]? = some b → Usable plainBcrypt b = true →
            b.username ≠ a.username) ∧
        ∀ r, verdicts[k]? = some (some r) →
          r.username = lit "accounts[" ++ formatNat k ++ lit "]" ∨ r.username = a.username) ∧
    ((PartitionAccounts plainBcrypt threeAccounts).1.map (·.username)).Nodup ∧
    (∀ accounts', Inserts (fun a => Usable plainBcrypt a = false) threeAccounts accounts' →
      (PartitionAccounts plainBcrypt accounts').1 = (PartitionAccounts plainBcrypt threeAccounts).1) ∧
    ∀ r ∈ (PartitionAccounts plainBcrypt threeAccounts).2, ∀ b ∈ r.username, PrintableByte b :=
  partition_isolates plainBcrypt rfl threeAccounts

end Mailout
