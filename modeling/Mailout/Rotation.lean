import Mailout.AccountController
import Mailout.Go.Run

/-!
# The password of an account

A reconciliation that finds a rotation the status does not record replaces the password, and records
the rotation with a second write. If that write fails, the next reconciliation finds the rotation
unrecorded and replaces the password again: `rotation_replaced_twice`.

`changes_le` counts it for every run: each replacement is paid for by an edit of `spec.rotation` or by
a reconciliation that may have lost its record (`Loses`): it finds a rotation pending, and its patch of the
status fails. `rotation_changes_once` is the case where there is none.

Whether the Secret's password is the one its hash verifies is not looked at, only whether each of the
two can be used: `credentials_work_iff`, and `edited_password_kept` for a password that was edited by
hand.
-/

namespace Mailout

open Go

variable {Selector : Type} {bcrypt : Bcrypt}

/-- The password that applications read. -/
def Stored.password (s : Stored) : Option Bytes := s.secret.map SecretObject.password

/-- `spec.rotation`. -/
def Stored.rotation (s : Stored) : Option Bytes := s.account.map AccountObject.rotation

/-- A user edits `spec.rotation`. The API server counts the generations of a spec. -/
def Stored.edit (rotation : Bytes) (s : Stored) : Stored where
  account := s.account.map fun a =>
    if a.rotation = rotation then a
    else { a with rotation := rotation, generation := a.generation + 1 }
  secret := s.secret

/-- The password of a Secret that was there is another one now. -/
def Stored.replaced (s s' : Stored) : Bool := s.secret.isSome && s'.password ≠ s.password

/-- What happens to an account: a user edits its rotation, or it is reconciled, with whatever the
cluster answers and however the calls end. -/
inductive AccountAction (Selector : Type) (bcrypt : Bcrypt) where
  | edit (rotation : Bytes)
  | reconcile (c : Cluster Selector) (calls : Calls bcrypt)

/-- A reconciliation may lose its record: it finds a rotation pending on an account that its gateway
accepts, and the status cannot be written. -/
def Loses (s : Stored) : AccountAction Selector bcrypt → Prop
  | .edit _ => False
  | .reconcile c calls => s.pending = true ∧ c.accepts s = true ∧ calls.patchStatus ≠ none

instance (s : Stored) : ∀ a : AccountAction Selector bcrypt, Decidable (Loses s a)
  | .edit _ => inferInstanceAs (Decidable False)
  | .reconcile c calls =>
    inferInstanceAs (Decidable (s.pending = true ∧ c.accepts s = true ∧ calls.patchStatus ≠ none))

/-- The objects, with the number of passwords that were replaced, of edits that changed the rotation
and of reconciliations that may have lost their record. -/
structure Ledger where
  stored : Stored
  changes : Nat
  edits : Nat
  lost : Nat
  deriving DecidableEq, Repr

namespace Ledger

/-- Nothing has happened. -/
def start (s : Stored) : Ledger := ⟨s, 0, 0, 0⟩

/-- The objects after an action, and its entry in the books. -/
def step (l : Ledger) : AccountAction Selector bcrypt → Option Ledger
  | .edit rotation =>
    let stored := l.stored.edit rotation
    some { l with
      stored := stored
      edits := l.edits + if stored.rotation ≠ l.stored.rotation then 1 else 0 }
  | .reconcile c calls =>
    let stored := ((Reconcile calls c).run l.stored).2
    some { l with
      stored := stored
      changes := l.changes + if l.stored.replaced stored then 1 else 0
      lost := l.lost + if Loses l.stored (.reconcile c calls) then 1 else 0 }

end Ledger

/-- A replacement that is due: there is a Secret, and a rotation is pending. -/
def Stored.due (s : Stored) : Nat := if s.secret.isSome ∧ s.pending then 1 else 0

/-! ## One step -/

/-- One edit makes at most one replacement due, and none if it changes nothing. -/
theorem due_edit (s : Stored) (rotation : Bytes) : (s.edit rotation).due ≤
    s.due + if (s.edit rotation).rotation ≠ s.rotation then 1 else 0 := by
  split_ifs with hchanged
  · unfold Stored.due
    split_ifs <;> omega
  · have hsame : s.edit rotation = s := by
      obtain ⟨account, secret⟩ := s
      cases account with
      | none => rfl
      | some a =>
        simp only [Stored.rotation, Stored.edit, Option.map_some, ne_eq, Option.some.injEq,
          not_not] at hchanged
        split_ifs at hchanged with hrotation
        · simp [Stored.edit, hrotation]
        · exact absurd hchanged.symm hrotation
    rw [hsame]
    exact Nat.le_refl _

/-- Nothing is due once the rotation was observed. -/
theorem due_of_settled {s : Stored} (h : s.pending = false) : s.due = 0 := by
  simp [Stored.due, h]

/-- One replacement at most is due, however often the rotation was edited. -/
theorem due_le_one (s : Stored) : s.due ≤ 1 := by
  unfold Stored.due
  split_ifs <;> omega

/-- A password that is replaced while a rotation is pending was due to be. -/
theorem replaced_le_due {s : Stored} (h : s.pending = true) (s' : Stored) :
    (if s.replaced s' then 1 else 0) ≤ s.due := by
  cases hold : s.secret with
  | none => simp [Stored.replaced, hold]
  | some old =>
    have hdue : s.due = 1 := by simp [Stored.due, h, hold]
    rw [hdue]
    split_ifs <;> omega

/-- Where no rotation is pending, credentials that are sound are kept. -/
theorem replaced_of_settled {calls : Calls bcrypt} {s s' : Stored} {secret : SecretObject}
    (hsound : ∀ secret ∈ s.secret, secret.Sound bcrypt) (hsettled : s.pending = false)
    (hsecret : s'.secret = some secret)
    (hcred : credentials calls s.pending s.secret = .ok (secret.password, secret.passwordHash)) :
    s.replaced s' = false := by
  cases hold : s.secret with
  | none => simp [Stored.replaced, hold]
  | some old =>
    rw [hsettled, hold, credentials_of_sound (hsound old hold)] at hcred
    have hpassword : old.password = secret.password := congrArg Prod.fst (Except.ok.inj hcred)
    simp [Stored.replaced, Stored.password, hold, hsecret, hpassword]

/-- A reconciliation replaces a password only where one is due, and leaves none due that was not,
unless it loses its record. -/
theorem Reconciled.pays {calls : Calls bcrypt} {c : Cluster Selector} {s s' : Stored}
    (hsound : ∀ secret ∈ s.secret, secret.Sound bcrypt) (h : Reconciled calls c s s') :
    (if s.replaced s' then 1 else 0) + s'.due ≤
      s.due + if Loses s (.reconcile c calls) then 1 else 0 := by
  have hone := due_le_one s'
  cases h with
  | kept hsecret hpending =>
    have hdue : s'.due = s.due := by rw [Stored.due, Stored.due, hsecret, hpending]
    have hreplaced : s.replaced s' = false := by simp [Stored.replaced, Stored.password, hsecret]
    rw [hreplaced, hdue]
    simp
  | provisioned secret haccepts hsecret hcred hpending =>
    cases hbefore : s.pending with
    | false =>
      have hafter : s'.pending = false := by
        rcases hpending with ⟨-, hpending⟩ | ⟨-, hpending⟩
        · exact hpending
        · rw [hpending, hbefore]
      rw [replaced_of_settled hsound hbefore hsecret hcred, due_of_settled hafter]
      simp
    | true =>
      have hdue := replaced_le_due hbefore s'
      rcases hpending with ⟨-, hafter⟩ | ⟨hpatch, hafter⟩
      · rw [due_of_settled hafter]
        omega
      have hloses : Loses s (.reconcile c calls) := ⟨hbefore, haccepts, hpatch⟩
      rw [if_pos hloses]
      omega

/-- The credentials are sound after a reconciliation, if they were before. -/
theorem Reconciled.sound {calls : Calls bcrypt} {c : Cluster Selector} {s s' : Stored}
    (hsound : ∀ secret ∈ s.secret, secret.Sound bcrypt) (h : Reconciled calls c s s') :
    ∀ secret ∈ s'.secret, secret.Sound bcrypt := by
  cases h with
  | kept hsecret hpending => rwa [hsecret]
  | provisioned secret haccepts hsecret hcred hpending =>
    rw [hsecret]
    rintro _ ⟨⟩
    exact credentials_sound hcred

/-! ## Every run -/

/-- The books balance. -/
structure Ledger.Balanced (bcrypt : Bcrypt) (l : Ledger) : Prop where
  sound : ∀ secret ∈ l.stored.secret, secret.Sound bcrypt
  paid : l.changes + l.stored.due ≤ l.edits + l.lost

/-- Every action keeps the balance: a replacement is paid for by an edit or by a patch that failed. -/
theorem Ledger.Balanced.step {l l' : Ledger} {a : AccountAction Selector bcrypt} (h : l.Balanced bcrypt)
    (hstep : l.step a = some l') : l'.Balanced bcrypt := by
  have hpaid := h.paid
  cases a with
  | edit rotation =>
    cases hstep
    refine ⟨h.sound, ?_⟩
    have hdue := due_edit l.stored rotation
    dsimp only
    omega
  | reconcile c calls =>
    cases hstep
    have hreconciled := reconciled calls c l.stored
    refine ⟨hreconciled.sound h.sound, ?_⟩
    have hpays := hreconciled.pays h.sound
    dsimp only
    omega

/-- **Every replacement is paid for**, by an edit that changed the rotation or by a reconciliation
that found a rotation pending and could not record it. -/
theorem changes_le {s : Stored} (hfirst : s.secret = none) {actions : List (AccountAction Selector bcrypt)}
    {l : Ledger} (hrun : runs Ledger.step (Ledger.start s) actions = some l) :
    l.changes ≤ l.edits + l.lost := by
  have hstart : (Ledger.start s).Balanced bcrypt := by
    refine ⟨?_, ?_⟩
    · simp [Ledger.start, hfirst]
    · simp [Ledger.start, Stored.due, hfirst]
  have hpaid := (runs_invariant (I := fun _ l => Ledger.Balanced bcrypt l) hstart
    (fun _ _ _ _ h hstep => h.step hstep) hrun).paid
  omega

/-- **A rotation changes the password at most once.** In every run from before the first creation of
the Secret, with edits and reconciliations in any order, none of which fails to patch the status of an
accepted account while a rotation is pending, the password changes at most as often as the rotation was
edited. -/
theorem rotation_changes_once (s : Stored) (hfirst : s.secret = none)
    (actions : List (AccountAction Selector bcrypt)) (l : Ledger)
    (hrun : runs Ledger.step (Ledger.start s) actions = some l)
    (hrecorded : Meets Ledger.step (fun l a => ¬ Loses l.stored a) (Ledger.start s) actions) :
    l.changes ≤ l.edits := by
  have hlost : l.lost = 0 := by
    refine runs_invariant_of_meets (I := fun _ l => l.lost = 0) ?_ actions [] _ rfl hrecorded hrun
    intro _ t a u hzero hkeeps hstep
    cases a with
    | edit rotation =>
      cases hstep
      exact hzero
    | reconcile c calls =>
      cases hstep
      simp [hzero, hkeeps]
  have hle := changes_le hfirst hrun
  omega

/-! ## Two replacements for one edit -/

/-- A bcrypt whose hashes are the passwords. -/
def clearBcrypt : Bcrypt where
  cost := fun _ => some BcryptCost
  compares := fun hash password => hash == password

/-- A reconciliation that draws the same random byte throughout, and whose patch of the status ends
in this way. -/
def drawing (byte : UInt8) (patchStatus : Option Bytes) : Calls clearBcrypt where
  getAccount := none
  createOrUpdate := .direct
  patchStatus := patchStatus
  setStatusCondition := .latestFirst
  random := .ok ⟨List.replicate PasswordBytes byte, List.length_replicate⟩
  generateFromPassword := fun p => if p = [] then .error (lit "no password") else .ok p
  generate_ne_nil := by
    intro p h hok
    split_ifs at hok with hp
    cases hok
    exact hp
  cost_generate := fun _ => rfl
  compares_generate := by
    intro p h hok
    split_ifs at hok
    cases hok
    exact beq_self_eq_true p
  setControllerReference := fun _ owners => .ok owners

/-- The objects before the account is reconciled for the first time. -/
def unprovisioned : Stored where
  account := some {
    toMailoutAccount := accountIn (lit "shop")
    generation := 1
    rotation := []
    status := ⟨[], 0, [], [], [], []⟩ }
  secret := none

/-- The account is created and provisioned, its rotation is edited, and it is reconciled twice. -/
def rotating (patchStatus : Option Bytes) : List (AccountAction (Bytes × Bytes) clearBcrypt) :=
  [.reconcile (sharedCluster .all) (drawing 1 none), .edit (lit "2026-09"),
    .reconcile (sharedCluster .all) (drawing 2 patchStatus), .reconcile (sharedCluster .all) (drawing 3 none)]

/-- One edit, with a status patch that goes through. -/
theorem rotation_changes_once_edit :
    (∃ l, runs Ledger.step (Ledger.start unprovisioned) (rotating none) = some l ∧
      l.edits = 1 ∧ l.changes ≤ l.edits) := by
  have hmeets : Meets Ledger.step (fun l a => ¬ Loses l.stored a)
      (Ledger.start unprovisioned) (rotating none) := by decide +kernel
  have hsome : (runs Ledger.step (Ledger.start unprovisioned) (rotating none)).isSome := by
    decide +kernel
  have hedits : ∀ l ∈ runs Ledger.step (Ledger.start unprovisioned) (rotating none),
      l.edits = 1 := by decide +kernel
  obtain ⟨l, hrun⟩ := Option.isSome_iff_exists.mp hsome
  exact ⟨l, hrun, hedits l hrun, rotation_changes_once _ rfl _ l hrun hmeets⟩

/-- The first of the two reconciliations cannot write the status, and the second one replaces the
password once more: two new passwords for one edit. -/
theorem rotation_replaced_twice :
    ∃ l, runs Ledger.step (Ledger.start unprovisioned)
        (rotating (some (lit "conflict"))) = some l ∧ l.changes = 2 ∧ l.edits = 1 := by
  have hsome : (runs Ledger.step (Ledger.start unprovisioned)
      (rotating (some (lit "conflict")))).isSome := by decide +kernel
  have hcounts : ∀ l ∈ runs Ledger.step (Ledger.start unprovisioned)
      (rotating (some (lit "conflict"))), l.changes = 2 ∧ l.edits = 1 := by decide +kernel
  obtain ⟨l, hrun⟩ := Option.isSome_iff_exists.mp hsome
  exact ⟨l, hrun, hcounts l hrun⟩

/-! ## Credentials that work -/

/-- The hash can be served, and verifies the password. -/
def SecretObject.Works (bcrypt : Bcrypt) (secret : SecretObject) : Prop :=
  UsableHash bcrypt secret.passwordHash = true ∧
    bcrypt.compares secret.passwordHash secret.password = true

/-- Credentials that were generated work. -/
theorem works_of_generated {calls : Calls bcrypt} {secret : SecretObject}
    (h : calls.generateFromPassword secret.password = .ok secret.passwordHash) :
    secret.Works bcrypt :=
  ⟨usableHash_of_cost (calls.cost_generate h), calls.compares_generate h⟩

/-- **The published credentials work** after a reconciliation of the Secret that succeeds, if and only
if those of a Secret it keeps verify each other: one with a password and a usable hash, and no
rotation pending. -/
theorem credentials_work_iff (calls : Calls bcrypt) (account : AccountObject)
    (gw : GatewayObject Selector) (username : Bytes) (s s' : Stored)
    (hrun : (reconcileSecret calls account gw username).run s = (.ok (), s')) :
    (∃ secret, s'.secret = some secret ∧ secret.Works bcrypt) ↔
      ∀ old, s.secret = some old → old.Sound bcrypt →
        account.status.rotationObserved = account.rotation →
        bcrypt.compares old.passwordHash old.password = true := by
  rcases reconcileSecret_cases account gw username s with ⟨err, hfails⟩ | ⟨secret, hcred, hok⟩
  · rw [hfails] at hrun
    cases hrun
  · rw [hok] at hrun
    obtain rfl : { s with secret := some secret } = s' := congrArg Prod.snd hrun
    constructor
    · rintro ⟨found, hfound, hworks⟩ old hold hsound hsettled
      obtain rfl : secret = found := Option.some.inj hfound
      rw [hold, decide_eq_false (not_not.mpr hsettled), credentials_of_sound hsound] at hcred
      obtain ⟨hpassword, hhash⟩ := Prod.mk.inj (Except.ok.inj hcred)
      rw [hpassword, hhash]
      exact hworks.2
    · intro hkept
      refine ⟨secret, rfl, ?_⟩
      rcases credentials_ok hcred with ⟨old, hold, hsound, hsettled, hpassword, hhash⟩ | ⟨-, hhash⟩
      · rw [decide_eq_false_iff_not, not_not] at hsettled
        rw [SecretObject.Works, hpassword, hhash]
        exact ⟨hsound.usable, hkept old hold hsound hsettled⟩
      · exact works_of_generated hhash

/-- The account of `unprovisioned`. -/
def shopAccount : AccountObject where
  toMailoutAccount := accountIn (lit "shop")
  generation := 1
  rotation := []
  status := ⟨[], 0, [], [], [], []⟩

/-- A Secret of the account, whose password and hash are given. -/
def shopSecret (password passwordHash : Bytes) : SecretObject :=
  AccountSecret shopAccount.toMailoutAccount (lit "shop.app") password passwordHash
    ⟨lit "mail.example.com", 587, lit "starttls"⟩ (lit "mailout-system") []

/-- A reconciliation of the account that finds this Secret. -/
def republished (old : Option SecretObject) : Except Bytes Unit × Stored :=
  (reconcileSecret (drawing 1 none) shopAccount (sharedGateway .all) (lit "shop.app")).run
    ⟨some shopAccount, old⟩

/-- With no Secret there yet, and with one that is kept. -/
theorem credentials_work_first :
    (∃ s' secret, republished none = (.ok (), s') ∧ s'.secret = some secret ∧ secret.Works clearBcrypt) ∧
    ∃ s' secret, republished (some (shopSecret (lit "generated") (lit "generated"))) = (.ok (), s') ∧
      s'.secret = some secret ∧ secret.Works clearBcrypt ∧ secret.password = lit "generated" := by
  have hfirst : (republished none).1 = .ok () := by decide +kernel
  have hagain : (republished (some (shopSecret (lit "generated") (lit "generated")))).1 = .ok () ∧
      ∀ secret ∈ (republished (some (shopSecret (lit "generated") (lit "generated")))).2.secret,
        secret.password = lit "generated" := by decide +kernel
  constructor
  · have hrun : republished none = (.ok (), (republished none).2) := Prod.ext hfirst rfl
    obtain ⟨secret, hsecret, hworks⟩ :=
      (credentials_work_iff _ _ _ _ _ _ hrun).mpr fun old hold => by cases hold
    exact ⟨_, secret, hrun, hsecret, hworks⟩
  · have hrun : republished (some (shopSecret (lit "generated") (lit "generated"))) = (.ok (), _) :=
      Prod.ext hagain.1 rfl
    obtain ⟨secret, hsecret, hworks⟩ := (credentials_work_iff _ _ _ _ _ _ hrun).mpr fun old hold _ _ => by
      cases hold
      decide
    exact ⟨_, secret, hrun, hsecret, hworks, hagain.2 secret hsecret⟩

/-- A password that was edited by hand is kept beside the hash of another one, and does not log in. -/
theorem edited_password_kept :
    ∃ s' secret, republished (some (shopSecret (lit "edited") (lit "generated"))) = (.ok (), s') ∧
      s'.secret = some secret ∧ secret.password = lit "edited" ∧
      UsableHash clearBcrypt secret.passwordHash = true ∧
      clearBcrypt.compares secret.passwordHash secret.password = false := by
  have hok : (republished (some (shopSecret (lit "edited") (lit "generated")))).1 = .ok () := by
    decide +kernel
  have hsome : (republished (some (shopSecret (lit "edited") (lit "generated")))).2.secret.isSome := by
    decide +kernel
  have hkept : ∀ secret ∈ (republished (some (shopSecret (lit "edited") (lit "generated")))).2.secret,
      secret.password = lit "edited" ∧ UsableHash clearBcrypt secret.passwordHash = true ∧
      clearBcrypt.compares secret.passwordHash secret.password = false := by decide +kernel
  obtain ⟨secret, hsecret⟩ := Option.isSome_iff_exists.mp hsome
  exact ⟨_, secret, Prod.ext hok rfl, hsecret, hkept secret hsecret⟩

end Mailout
