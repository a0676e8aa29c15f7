import Mailout.Go.Strconv
import Mailout.Go.Strings
import Mathlib.Logic.Function.Basic

/-!
# Accounts

The accounts of `internal/gateway/config.go` and `auth.go`: which of a configuration's accounts are
served, and how a username and a password are resolved to one of them. bcrypt is a parameter, an
arbitrary relation between hashes and passwords and an arbitrary cost of a hash.

`mem_served` says that the account served under a username is the first one that can be.
-/

namespace Mailout

open Go

/-- `Account`. -/
structure Account where
  username : Bytes
  passwordHash : Bytes
  disabled : Bool
  allowedSenders : List Bytes
  skipHeaderFromCheck : Bool
  deriving DecidableEq, Repr

/-- `golang.org/x/crypto/bcrypt`. -/
structure Bcrypt where
  /-- `bcrypt.Cost`, `none` for a hash it cannot parse. -/
  cost : Bytes → Option Int
  /-- `bcrypt.CompareHashAndPassword` returns no error. -/
  compares : Bytes → Bytes → Bool

def minBcryptCost : Int := 10
def maxBcryptCost : Int := 14
def maxUsernameLength : Nat := 128

/-- `UsableHash`. -/
def UsableHash (bcrypt : Bcrypt) (hash : Bytes) : Bool :=
  match bcrypt.cost hash with
  | none => false
  | some cost => minBcryptCost ≤ cost ∧ cost ≤ maxBcryptCost

/-- The bytes of a username: printable ASCII without space or delimiter. -/
def usernameByte (b : UInt8) : Bool :=
  !(b ≤ 0x20 || b > 0x7E || b == 0x3A || b == 0x3B || b == 0x2C || b == 0x22 || b == 0x5C)

/-- `ValidUsername`. -/
def ValidUsername (username : Bytes) : Bool :=
  if username = [] ∨ username.length > maxUsernameLength then false else username.all usernameByte

/-- `RejectedAccount`. -/
structure RejectedAccount where
  username : Bytes
  reason : Bytes
  deriving DecidableEq, Repr

section
variable (bcrypt : Bcrypt)

/-- The switch of `PartitionAccounts` on the `i`-th account, `none` for one that is served. -/
def refusal (seen : Bytes → Bool) (i : Nat) (account : Account) : Option RejectedAccount :=
  if account.username = [] then
    some ⟨lit "accounts[" ++ formatNat i ++ lit "]", lit "username is required"⟩
  else if seen account.username then some ⟨account.username, lit "duplicate username"⟩
  else if ¬ ValidUsername account.username then
    -- the username is not echoed back
    some ⟨lit "accounts[" ++ formatNat i ++ lit "]",
      lit "username must be at most " ++ formatNat maxUsernameLength ++
        lit " printable ASCII characters without space or delimiter"⟩
  else if account.passwordHash = [] then
    some ⟨account.username, lit "passwordHash is required"⟩
  else if ¬ UsableHash bcrypt account.passwordHash then
    some ⟨account.username,
      lit ("passwordHash must be a bcrypt hash of cost 10 to 14; " ++
        "a malformed hash answers instantly and a costly one stalls the relay")⟩
  else none

/-- The loop of `PartitionAccounts`, from the `i`-th account on. -/
def partitionFrom (seen : Bytes → Bool) : Nat → List Account →
    List Account × List RejectedAccount
  | _, [] => ([], [])
  | i, account :: accounts =>
    match refusal bcrypt seen i account with
    | some rejected =>
      let rest := partitionFrom seen (i + 1) accounts
      (rest.1, rejected :: rest.2)
    | none =>
      let rest := partitionFrom (Function.update seen account.username true) (i + 1) accounts
      (account :: rest.1, rest.2)

/-- `PartitionAccounts`. -/
def PartitionAccounts (accounts : List Account) : List Account × List RejectedAccount :=
  partitionFrom bcrypt (fun _ => false) 0 accounts

end

/-- A map by username, filled in the order of a list. -/
def byUsername {α : Type} (f : Account → α) (accounts : List Account) : Bytes → Option α :=
  accounts.foldl (fun m acct => Function.update m acct.username (some (f acct))) fun _ => none

/-- `accountStore`, its map. -/
abbrev AccountStore := Bytes → Option Account

/-- `newAccountStore`. -/
def newAccountStore (accounts : List Account) : AccountStore := byUsername id accounts

/-- The errors of `accountStore.authenticate`. -/
inductive AuthError where
  | authFailed | accountDisabled
  deriving DecidableEq, Repr

/-- `accountStore.authenticate`. -/
def AccountStore.authenticate (bcrypt : Bcrypt) (s : AccountStore) (username password : Bytes) :
    Except AuthError Account :=
  match s username with
  | none => .error .authFailed
  | some acct =>
    if ¬ bcrypt.compares acct.passwordHash password then .error .authFailed
    else if acct.disabled then .error .accountDisabled
    else .ok acct

/-- A login is accepted for an account that exists, by its password, unless it is disabled. -/
theorem AccountStore.authenticate_ok {bcrypt : Bcrypt} {s : AccountStore} {u p : Bytes}
    {acct : Account} : s.authenticate bcrypt u p = .ok acct ↔
      s u = some acct ∧ bcrypt.compares acct.passwordHash p = true ∧ acct.disabled = false := by
  unfold AccountStore.authenticate
  cases s u with
  | none => simp
  | some found =>
    cases hcompares : bcrypt.compares found.passwordHash p <;> cases hdisabled : found.disabled <;>
      simp only [Option.some.injEq] <;> grind

/-- Under a username a map holds what the last account of that name says. -/
theorem byUsername_eq {α : Type} (f : Account → α) (accounts : List Account) (u : Bytes) :
    byUsername f accounts u = (accounts.reverse.find? fun acct => acct.username == u).map f := by
  induction accounts using List.reverseRecOn with
  | nil => rfl
  | append_singleton accounts acct ih =>
    rw [byUsername, List.foldl_append, List.reverse_append]
    show Function.update (byUsername f accounts) acct.username (some (f acct)) u = _
    rw [List.reverse_singleton, List.singleton_append, List.find?_cons]
    by_cases hu : acct.username = u
    · rw [hu, Function.update_self, BEq.rfl]
      rfl
    · rw [Function.update_of_ne (Ne.symm hu), ih, beq_eq_false_iff_ne.mpr hu]

/-! ## Who is served -/

section
variable {bcrypt : Bcrypt}

/-- An account that can be served, if no other has its username. -/
def Servable (bcrypt : Bcrypt) (account : Account) : Bool :=
  ValidUsername account.username && account.passwordHash ≠ [] &&
    UsableHash bcrypt account.passwordHash

/-- An account is served if its username was not seen before and it can be served at all. -/
theorem refusal_eq_none {seen : Bytes → Bool} {i : Nat} {account : Account} :
    refusal bcrypt seen i account = none ↔
      seen account.username = false ∧ Servable bcrypt account = true := by
  have hvalid : ValidUsername account.username = true → account.username ≠ [] := by
    intro h hnil
    rw [hnil] at h
    cases h
  unfold refusal Servable
  split_ifs <;> simp_all

/-- The account served under a username is the first that can be and was not seen before. -/
theorem mem_partitionFrom {seen : Bytes → Bool} {accounts : List Account} {i : Nat} {a : Account} :
    a ∈ (partitionFrom bcrypt seen i accounts).1 ↔ seen a.username = false ∧
      accounts.find? (fun b => Servable bcrypt b && b.username == a.username) = some a := by
  induction accounts generalizing seen i with
  | nil => simp [partitionFrom]
  | cons account accounts ih =>
    rw [partitionFrom, List.find?_cons]
    cases h : refusal bcrypt seen i account with
    | none =>
      obtain ⟨hseen, hserv⟩ := refusal_eq_none.mp h
      simp only [List.mem_cons, ih]
      by_cases hname : account.username = a.username
      · rw [hname] at hseen
        simp [hserv, hname, hseen, eq_comm]
      · have hne : a ≠ account := fun heq => hname (heq ▸ rfl)
        have hupd : Function.update seen account.username true a.username = seen a.username :=
          Function.update_of_ne (fun heq => hname heq.symm) ..
        have hp : (Servable bcrypt account && account.username == a.username) = false := by
          simp [hname]
        simp [hp, hne, hupd]
    | some rejected =>
      have hnot : ¬ (seen account.username = false ∧ Servable bcrypt account = true) := by
        rw [← @refusal_eq_none bcrypt seen i, h]
        exact fun hc => nomatch hc
      simp only [ih]
      cases hp : (Servable bcrypt account && account.username == a.username) with
      | false => rfl
      | true =>
        simp only [Bool.and_eq_true, beq_iff_eq] at hp
        have hseen : seen a.username = true := by
          rw [← hp.2]
          by_contra hc
          exact hnot ⟨Bool.eq_false_iff.mpr hc, hp.1⟩
        simp [hseen]

/-- **Who is served.** Under each username the first account that can be served is. -/
theorem mem_served {accounts : List Account} {a : Account} :
    a ∈ (PartitionAccounts bcrypt accounts).1 ↔
      accounts.find? (fun b => Servable bcrypt b && b.username == a.username) = some a := by
  rw [PartitionAccounts, mem_partitionFrom]
  simp

end

end Mailout
