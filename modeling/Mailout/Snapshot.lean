import Mailout.Account
import Mailout.Dkim
import Mailout.Milter
import Mailout.Relay

/-!
# Configurations and snapshots

`newSnapshot` of `internal/gateway/server.go`: everything the dataplane derives from a configuration,
built once and replaced as a whole. `policyFor_of_account` says that what applies to an account that
is served is what its own entry in the configuration says.
-/

namespace Mailout

open Go

/-- `Config`, as far as a session uses it. -/
structure Config where
  hostname : Bytes
  upstreamTLS : TLSMode
  upstreamUsername : Bytes
  upstreamPassword : Bytes
  milters : List Milter
  dkim : List DKIMKey
  rateLimit : Option RateLimit
  accounts : List Account
  spoolDir : Bytes
  spoolThreshold : Int

/-- `defaultSpoolThreshold`. -/
def defaultSpoolThreshold : Int := 1024 * 1024

/-- `Config.applyDefaults`. -/
def Config.applyDefaults (c : Config) : Config :=
  { c with hostname := if c.hostname = [] then lit "mailout" else c.hostname,
           spoolThreshold := if c.spoolThreshold = 0 then defaultSpoolThreshold else c.spoolThreshold }

/-- `newRelayer`. -/
def newRelayer (cfg : Config) : Relayer :=
  ⟨cfg.upstreamTLS, cfg.upstreamUsername, cfg.upstreamPassword, cfg.hostname⟩

/-- `newMilterChain`: a filter without a name gets its position. -/
def newMilterChain (cfg : Config) : List Milter :=
  cfg.milters.mapIdx fun i mc =>
    if mc.name = [] then { mc with name := lit "milters[" ++ formatNat i ++ lit "]" } else mc

/-- `accountPolicy`. -/
structure AccountPolicy where
  milters : List Milter
  senders : SenderPolicy
  skipHeaderFromCheck : Bool
  deriving DecidableEq, Repr

/-- `snapshot`. -/
structure Snapshot where
  hostname : Bytes
  spoolDir : Bytes
  spoolThreshold : Int
  rejected : List RejectedAccount
  accounts : AccountStore
  relay : Relayer
  milters : List Milter
  dkim : DKIMSigner
  limiter : Option Limiter
  policies : Bytes → Option AccountPolicy

/-- What a process brings along when it loads a configuration. -/
structure Host where
  bcrypt : Bcrypt
  /-- `loadDKIMPrivateKey` -/
  loadKey : DKIMKey → Except Bytes Nat
  /-- The first error of the other steps of `newSnapshot`: `Config.Validate`, the certificates, the
  upstream's CA, the filters' addresses, the quota store's options, the spool directory. -/
  refuses : Config → Option Bytes

/-- The policy `newSnapshot` makes for an account. -/
def policyOf (milters : List Milter) (acct : Account) : AccountPolicy :=
  ⟨milters, newSenderPolicy acct.allowedSenders, acct.skipHeaderFromCheck⟩

/-- `newSnapshot`. -/
def newSnapshot (host : Host) (config : Config) : Except Bytes Snapshot :=
  let cfg := config.applyDefaults
  match host.refuses cfg with
  | some err => .error err
  | none =>
    match newDKIMSigner host.loadKey cfg.dkim with
    | .error err => .error err
    | .ok signer =>
      let milters := newMilterChain cfg
      let (served, rejected) := PartitionAccounts host.bcrypt cfg.accounts
      .ok {
        hostname := cfg.hostname
        spoolDir := cfg.spoolDir
        spoolThreshold := cfg.spoolThreshold
        rejected := rejected
        accounts := newAccountStore served
        relay := newRelayer cfg
        milters := milters
        dkim := signer
        limiter := cfg.rateLimit.map fun limits => ⟨cfg.hostname, limits⟩
        policies := byUsername (policyOf milters) served }

namespace Snapshot

/-- `snapshot.policyFor`. -/
def policyFor (s : Snapshot) (username : Bytes) : AccountPolicy :=
  match s.policies username with
  | some policy => policy
  | none => ⟨s.milters, newSenderPolicy [], false⟩

/-- `newSpool` of a snapshot. -/
def newSpool (s : Snapshot) : Spool :=
  { dir := s.spoolDir, threshold := s.spoolThreshold, buf := [], file := none, n := 0 }

end Snapshot

/-- A host that refuses no configuration, where a password is its own hash. -/
def Host.plain : Host where
  bcrypt := ⟨fun _ => some minBcryptCost, fun hash password => hash == password⟩
  loadKey _ := .ok 0
  refuses _ := none

/-- A configuration with some accounts and keys, without filters or a quota. -/
def Config.plain (accounts : List Account) (dkim : List DKIMKey) : Config where
  hostname := lit "relay.test"
  upstreamTLS := .none
  upstreamUsername := []
  upstreamPassword := []
  milters := []
  dkim := dkim
  rateLimit := none
  accounts := accounts
  spoolDir := []
  spoolThreshold := 0

/-- The snapshot of a configuration that loads. -/
theorem newSnapshot_of_isSome {host : Host} {cfg : Config}
    (h : (newSnapshot host cfg).toOption.isSome) :
    newSnapshot host cfg = .ok ((newSnapshot host cfg).toOption.get h) := by
  revert h
  cases newSnapshot host cfg with
  | ok s => exact fun _ => rfl
  | error e => exact fun h => nomatch h

/-! ## What a snapshot says of an account -/

/-- The account a snapshot has under a username, and the policy it has for it, are of one entry. -/
theorem policyFor_of_account {host : Host} {cfg : Config} {s : Snapshot} {u : Bytes} {acct : Account}
    (h : newSnapshot host cfg = .ok s) (hu : s.accounts u = some acct) :
    acct.username = u ∧ s.policyFor u = policyOf s.milters acct := by
  unfold newSnapshot at h
  simp only at h
  split at h
  · cases h
  · split at h
    · cases h
    · cases h
      simp only [newAccountStore, byUsername_eq, Option.map_id, id_eq] at hu
      refine ⟨by simpa using List.find?_some hu, ?_⟩
      unfold Snapshot.policyFor
      simp only
      rw [byUsername_eq, hu]
      rfl

/-- The filters of an account are the filters of the configuration. -/
theorem policyFor_milters {host : Host} {cfg : Config} {s : Snapshot} (h : newSnapshot host cfg = .ok s)
    (u : Bytes) : (s.policyFor u).milters = s.milters := by
  unfold newSnapshot at h
  simp only at h
  split at h
  · cases h
  · split at h
    · cases h
    · cases h
      unfold Snapshot.policyFor
      simp only
      rw [byUsername_eq]
      cases List.find? _ (PartitionAccounts host.bcrypt cfg.applyDefaults.accounts).1.reverse <;> rfl

end Mailout
