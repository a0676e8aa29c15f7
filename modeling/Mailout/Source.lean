import Mailout.Encoding
import Mailout.Server
import Mathlib.Data.Set.Countable
import Mathlib.Logic.Equiv.List
import Mathlib.Tactic.DeriveCountable

/-!
# The configuration source

`internal/source/file.go` without its loop: `Load`, which parses the file, and `referencedDirs`, the
directories that have to be watched for a configuration. What a load into the server finds on its machine
is here made out of the files it reads (`Tools.machine`): the key pairs of `loadKeyPair`, and the keys of
`loadDKIMPrivateKey`. A load depends on the files it reads only (`Tools.attempt_congr`).
-/

namespace Mailout

open Go

/-! ## Reading the file -/

/-- The contents of the files, or the error that reading them gives. -/
abbrev Files := Bytes → Except Bytes Bytes

/-- `os.ReadFile`. No file has an empty name. -/
def Files.readFile (files : Files) (path : Bytes) : Except Bytes Bytes :=
  if path = [] then .error (lit "open : no such file or directory") else files path

/-- `sigs.k8s.io/yaml`. What it writes of a configuration it reads back, with the keys sorted. -/
structure Yaml where
  marshal : Json → Bytes
  unmarshal : Bytes → Option Json
  unmarshal_marshal : ∀ c : DataplaneConfig,
    unmarshal (marshal (configCodec.enc c)) = some (configCodec.enc c).sorted

/-- Why `Load` fails; the texts that the libraries give are left out. -/
inductive LoadError where
  | read (path err : Bytes)
  | parse (path : Bytes)
  | decode (path : Bytes) (err : DecodeError)
  deriving DecidableEq, Repr

/-- `File.Load`. -/
def Load (yaml : Yaml) (files : Files) (path : Bytes) : Except LoadError DataplaneConfig :=
  match files.readFile path with
  | .error err => .error (.read path err)
  | .ok raw =>
    match yaml.unmarshal raw with
    | none => .error (.parse path)
    | some v =>
      match configCodec.dec v configCodec.zero with
      | .error err => .error (.decode path err)
      | .ok cfg => .ok cfg

/-- Loading reads one file. -/
theorem load_congr {yaml : Yaml} {files files' : Files} {path : Bytes}
    (h : files'.readFile path = files.readFile path) : Load yaml files' path = Load yaml files path := by
  rw [Load, Load, h]

/-- What `yaml.Marshal` wrote is loaded as it comes out of the file. -/
theorem load_marshal {yaml : Yaml} {files : Files} {path : Bytes} {c : DataplaneConfig}
    (hfits : c.Fits) (h : files.readFile path = .ok (yaml.marshal (configCodec.enc c))) :
    Load yaml files path = .ok c.received := by
  have hread : configCodec.dec (configCodec.enc c).sorted configCodec.zero = .ok c.received :=
    configCodec_reads hfits
  simp only [Load, h, yaml.unmarshal_marshal, hread]

/-! ### A format

Any numbering of the documents gives a format, in which a document is as many blanks as its number. -/

instance countable_uint8 : Countable UInt8 :=
  Function.Injective.countable (f := UInt8.toNat) fun _ _ => UInt8.toNat_inj.mp

deriving instance Countable for TLSMode, ModeSetting, Listener, CertificateRef, TLSConfig, Upstream,
  Account, MilterConfig, DKIMKey, RateLimitStore, RateLimitConfig, Limits, DataplaneConfig

/-- The configurations are countably many, so that their texts can be numbered. -/
theorem exists_numbering : ∃ f : Json → Nat, Set.InjOn f (Set.range configCodec.enc) :=
  Set.countable_iff_exists_injOn.mp (Set.countable_range configCodec.enc)

noncomputable def numbering : Json → Nat := exists_numbering.choose

/-- Two texts with one number are the same. -/
theorem numbering_inj {c c' : DataplaneConfig}
    (h : numbering (configCodec.enc c) = numbering (configCodec.enc c')) :
    configCodec.enc c = configCodec.enc c' :=
  exists_numbering.choose_spec ⟨c, rfl⟩ ⟨c', rfl⟩ h

open Classical in
/-- The format of the numbering. -/
noncomputable def Yaml.numbered : Yaml where
  marshal v := List.replicate (numbering v) 0x20
  unmarshal raw :=
    if h : ∃ c, numbering (configCodec.enc c) = raw.length then some (configCodec.enc h.choose).sorted
    else none
  unmarshal_marshal c := by
    have h : ∃ c', numbering (configCodec.enc c') =
        (List.replicate (numbering (configCodec.enc c)) (0x20 : UInt8)).length :=
      ⟨c, List.length_replicate.symm⟩
    rw [dif_pos h, numbering_inj (h.choose_spec.trans List.length_replicate)]

/-! ## The files a configuration refers to -/

/-- The files of a certificate. -/
def CertificateRef.files (c : CertificateRef) : List Bytes := [c.certFile, c.keyFile]

/-- The files a configuration refers to: certificates, their keys, and DKIM keys. -/
def DataplaneConfig.files (c : DataplaneConfig) : List Bytes :=
  (c.tls.certificates.flatMap CertificateRef.files ++ c.dkim.map DKIMKey.privateKeyFile).filter (· ≠ [])

/-- `File.referencedDirs`: the directory of the configuration itself, and those of the files. -/
def referencedDirs (path : Bytes) (c : DataplaneConfig) : List Bytes :=
  ((path :: c.files).map Filepath.dir).dedup.mergeSort fun a b => decide (a ≤ b)

/-- The directories that are watched: that of the configuration, and those of the files it refers to. -/
theorem mem_referencedDirs {path : Bytes} {c : DataplaneConfig} {d : Bytes} :
    d ∈ referencedDirs path c ↔ d = Filepath.dir path ∨ ∃ p ∈ c.files, d = Filepath.dir p := by
  rw [referencedDirs, List.mem_mergeSort, List.mem_dedup, List.map_cons, List.mem_cons,
    List.mem_map]
  simp only [eq_comm]

/-! ## Loading it -/

/-- What does not depend on the files: the parts of a `Machine`, with `tls.X509KeyPair` and
`parsePrivateKey` on what was read. -/
structure Tools where
  bcrypt : Bcrypt
  quote : Bytes → Bytes
  x509KeyPair : Bytes → Bytes → Except Bytes Bytes
  parsePrivateKey : Bytes → Except Bytes Nat
  parseCertificate : Bytes → Except Bytes Certificate
  hasCertificate : Bytes → Bool
  probeSpool : Bytes → Except Bytes Unit

namespace Tools

variable (t : Tools)

/-- `loadKeyPair`. -/
def loadKeyPair (files : Files) (ref : CertificateRef) : Except Bytes Bytes := do
  let (certPEM, keyPEM) ←
    if ref.certFile = [] then pure (ref.certPEM, ref.keyPEM)
    else do
      let certPEM ← (files.readFile ref.certFile).mapError (lit "read certFile: " ++ ·)
      let keyPEM ← (files.readFile ref.keyFile).mapError (lit "read keyFile: " ++ ·)
      pure (certPEM, keyPEM)
  (t.x509KeyPair certPEM keyPEM).mapError (lit "invalid keypair: " ++ ·)

/-- `loadDKIMPrivateKey`; the decoding of the PEM block belongs to `parsePrivateKey` here. -/
def loadKey (files : Files) (k : DKIMKey) : Except Bytes Nat := do
  let raw ←
    if k.privateKeyFile = [] then pure k.privateKeyPEM
    else (files.readFile k.privateKeyFile).mapError (lit "read privateKeyFile: " ++ ·)
  if raw = [] then .error (lit "privateKeyPEM or privateKeyFile is required")
  else t.parsePrivateKey raw

/-- What a load finds on a machine with these files. -/
def machine (files : Files) : Machine where
  bcrypt := t.bcrypt
  loadKey := t.loadKey files
  quote := t.quote
  loadKeyPair := t.loadKeyPair files
  parseCertificate := t.parseCertificate
  hasCertificate := t.hasCertificate
  probeSpool := t.probeSpool

/-- What `Reload` leaves of a server, whether it takes the configuration or refuses it. -/
def attempt (files : Files) (cfg : DataplaneConfig) (s : Server) : Server :=
  ((Server.reload (t.machine files) cfg).run s).2

variable {t} {files files' : Files}

/-- An empty path is no file, so that only the others have to agree. -/
theorem readFile_congr {paths : List Bytes}
    (h : ∀ p ∈ paths.filter (· ≠ []), files'.readFile p = files.readFile p) {p : Bytes} (hp : p ∈ paths) :
    files'.readFile p = files.readFile p := by
  by_cases hnil : p = []
  · rw [hnil]
    rfl
  · exact h p (List.mem_filter.mpr ⟨hp, by simpa using hnil⟩)

/-- The certificates depend on their files only. -/
theorem newCertStoreFrom_congr {m m' : Machine} (hparse : m'.parseCertificate = m.parseCertificate)
    (name : Bytes) : ∀ {refs : List CertificateRef} (i : Nat) (s : CertStore),
    (∀ ref ∈ refs, m'.loadKeyPair ref = m.loadKeyPair ref) →
    newCertStoreFrom m' name i refs s = newCertStoreFrom m name i refs s
  | [], i, s, _ => rfl
  | ref :: refs, i, s, h => by
    have ih := fun cert => newCertStoreFrom_congr hparse name (i + 1) (s.add name i ref.name cert)
      fun r hr => h r (List.mem_cons_of_mem ref hr)
    simp only [newCertStoreFrom, h ref List.mem_cons_self, hparse, ih]

/-- So do the keys. -/
theorem newDKIMSignerFrom_congr {load load' : DKIMKey → Except Bytes Nat} :
    ∀ {keys : List DKIMKey} (i : Nat) (s : DKIMSigner), (∀ k ∈ keys, load' k = load k) →
    newDKIMSignerFrom load' i keys s = newDKIMSignerFrom load i keys s
  | [], i, s, _ => rfl
  | k :: keys, i, s, h => by
    have ih := fun s => newDKIMSignerFrom_congr (i + 1) s fun k' hk => h k' (List.mem_cons_of_mem k hk)
    simp only [newDKIMSignerFrom, h k List.mem_cons_self, ih]

/-- The filters depend on no file. -/
theorem checkMilters_congr {m m' : Machine} (hquote : m'.quote = m.quote) :
    ∀ (milters : List MilterConfig) (i : Nat), checkMilters m' i milters = checkMilters m i milters
  | [], _ => rfl
  | mc :: mcs, i => by
    simp only [checkMilters, hquote, checkMilters_congr hquote mcs]

/-- A load depends on the files the configuration refers to only. -/
theorem attempt_congr {cfg : DataplaneConfig}
    (h : ∀ p ∈ cfg.files, files'.readFile p = files.readFile p) :
    t.attempt files' cfg = t.attempt files cfg := by
  have hall : ∀ p ∈ cfg.tls.certificates.flatMap CertificateRef.files ++ cfg.dkim.map DKIMKey.privateKeyFile,
      files'.readFile p = files.readFile p := fun p hp => readFile_congr h hp
  have hpair : ∀ ref ∈ cfg.tls.certificates,
      (t.machine files').loadKeyPair ref = (t.machine files).loadKeyPair ref := by
    intro ref href
    have hfile : ∀ p ∈ ref.files, files'.readFile p = files.readFile p := fun p hp =>
      hall p (List.mem_append_left _ (List.mem_flatMap.mpr ⟨ref, href, hp⟩))
    have hcert := hfile ref.certFile (by simp [CertificateRef.files])
    have hkey := hfile ref.keyFile (by simp [CertificateRef.files])
    simp only [machine, loadKeyPair, hcert, hkey]
  have hdkim : ∀ k ∈ cfg.dkim, (t.machine files').loadKey k = (t.machine files).loadKey k := by
    intro k hk
    have hfile := hall k.privateKeyFile (List.mem_append_right _ (List.mem_map_of_mem hk))
    simp only [machine, loadKey, hfile]
  have hcerts : newCertStore (t.machine files') cfg.tls = newCertStore (t.machine files) cfg.tls := by
    have hparse : (t.machine files').parseCertificate = (t.machine files).parseCertificate := rfl
    have hfrom := newCertStoreFrom_congr hparse cfg.tls.defaultCertificate 0 ⟨[], [], none⟩ hpair
    rw [newCertStore, newCertStore, hfrom]
  have hsigner : newDKIMSigner (t.machine files').loadKey cfg.applyDefaults.dkim =
      newDKIMSigner (t.machine files).loadKey cfg.applyDefaults.dkim :=
    newDKIMSignerFrom_congr _ _ hdkim
  have hparts : LiveSnapshot.parts (t.machine files') cfg.applyDefaults =
      LiveSnapshot.parts (t.machine files) cfg.applyDefaults := by
    have htls : cfg.applyDefaults.tls = cfg.tls := rfl
    have hquote : (t.machine files').quote = (t.machine files).quote := rfl
    unfold LiveSnapshot.parts
    rw [htls, hcerts, hsigner, checkMilters_congr hquote]
    rfl
  have hsnap : ∀ prev, LiveSnapshot.newSnapshot (t.machine files') prev cfg =
      LiveSnapshot.newSnapshot (t.machine files) prev cfg := by
    intro prev
    simp only [LiveSnapshot.newSnapshot, hparts]
    rfl
  funext s
  simp only [attempt, Server.reload, Comp.run, hsnap]

end Tools

end Mailout
