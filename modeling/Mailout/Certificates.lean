import Mailout.Server

/-!
# The certificate for a server name

`newCertStore` and `getCertificate` of `internal/gateway/tlsstore.go`. The maps of a store are
described by their entries (`Extends`): which of two certificates with one name is found is up to
their order, but it is always one with that name. `getCertificate_serves` says which certificate a
client gets.
-/

namespace Mailout

open Go

namespace Certificate

/-- A certificate lists a name, in any case. -/
def Lists (cert : Certificate) (name : Bytes) : Prop := ∃ d ∈ dnsNamesOf cert, toLower d = name

instance (cert : Certificate) (name : Bytes) : Decidable (cert.Lists name) :=
  inferInstanceAs (Decidable (∃ d ∈ dnsNamesOf cert, _))

/-- The name for all hosts of a domain. -/
def wildcard (parent : Bytes) : Bytes := lit "*." ++ parent

end Certificate

open Certificate

/-- A name that lowers to a wildcard is written as one. -/
theorem toLower_eq_wildcard {d parent : Bytes} :
    toLower d = wildcard parent ↔ (lit "*.").isPrefixOf d = true ∧ toLower (d.drop 2) = parent := by
  have hwild : wildcard parent = 0x2A :: 0x2E :: parent := rfl
  have hstar : Caseless 0x2A := by decide +kernel
  have hdot : Caseless 0x2E := by decide +kernel
  rw [hwild, toLower_eq_cons hstar]
  constructor
  · rintro ⟨t, rfl, ht⟩
    obtain ⟨u, rfl, hu⟩ := (toLower_eq_cons hdot).mp ht
    exact ⟨rfl, hu⟩
  · rintro ⟨hpre, rfl⟩
    obtain ⟨u, rfl⟩ := List.isPrefixOf_iff_prefix.mp hpre
    exact ⟨0x2E :: u, rfl, (toLower_eq_cons hdot).mpr ⟨u, rfl, rfl⟩⟩

/-! ## The entries of a store -/

namespace CertStore

variable {s : CertStore} {cert c : Certificate} {k : Bytes}

/-- A name is indexed in lower case, unless it is written with a leading wildcard. -/
theorem mem_byName_addName {d : Bytes} : (k, c) ∈ (s.addName cert d).byName ↔
    (k, c) ∈ s.byName ∨ c = cert ∧ toLower d = k ∧ (lit "*.").isPrefixOf d = false := by
  unfold addName
  split_ifs with hpre
  · simp [hpre]
  · simp only [List.mem_cons, Prod.mk.injEq]
    grind

/-- A wildcard is indexed under its parent, in lower case. -/
theorem mem_wildcards_addName {d : Bytes} : (k, c) ∈ (s.addName cert d).wildcards ↔
    (k, c) ∈ s.wildcards ∨ c = cert ∧ toLower d = wildcard k := by
  unfold addName
  rw [toLower_eq_wildcard]
  split_ifs with hpre
  · simp only [List.mem_cons, Prod.mk.injEq]
    grind
  · simp [hpre]

/-- The names of a certificate are indexed one by one. -/
theorem mem_byName_addNames {ds : List Bytes} : (k, c) ∈ (ds.foldl (addName cert) s).byName ↔
    (k, c) ∈ s.byName ∨ c = cert ∧ ∃ d ∈ ds, toLower d = k ∧ (lit "*.").isPrefixOf d = false := by
  induction ds generalizing s with
  | nil => simp
  | cons d ds ih =>
    rw [List.foldl_cons, ih, mem_byName_addName, List.exists_mem_cons_iff, or_assoc, and_or_left]

/-- Its wildcards are, too. -/
theorem mem_wildcards_addNames {ds : List Bytes} : (k, c) ∈ (ds.foldl (addName cert) s).wildcards ↔
    (k, c) ∈ s.wildcards ∨ c = cert ∧ ∃ d ∈ ds, toLower d = wildcard k := by
  induction ds generalizing s with
  | nil => simp
  | cons d ds ih =>
    rw [List.foldl_cons, ih, mem_wildcards_addName, List.exists_mem_cons_iff, or_assoc, and_or_left]

/-- Names do not make a certificate the default. -/
theorem defaultCrt_addNames (ds : List Bytes) :
    (ds.foldl (addName cert) s).defaultCrt = s.defaultCrt := by
  induction ds generalizing s with
  | nil => rfl
  | cons d ds ih =>
    rw [List.foldl_cons, ih, addName]
    split_ifs <;> rfl

variable {defaultCertificate name : Bytes} {i : Nat}

/-- The default changes the maps of a store in no way. -/
theorem add_maps : (s.add defaultCertificate i name cert).byName =
      ((dnsNamesOf cert).foldl (addName cert) s).byName ∧
    (s.add defaultCertificate i name cert).wildcards =
      ((dnsNamesOf cert).foldl (addName cert) s).wildcards := by
  rw [add]
  split_ifs
  · exact ⟨rfl, rfl⟩
  · exact ⟨rfl, rfl⟩

/-- The first certificate is the default, and a later one is if it is the one that is named. -/
theorem defaultCrt_add : (s.add defaultCertificate i name cert).defaultCrt =
    if i = 0 ∨ (defaultCertificate ≠ [] ∧ name = defaultCertificate) then some cert
    else s.defaultCrt := by
  rw [add]
  split_ifs
  · rfl
  · exact defaultCrt_addNames _

end CertStore

section
variable {m : Machine}

/-- `newCertStore` loads a certificate for an entry of the configuration. -/
def Loads (m : Machine) (ref : CertificateRef) (cert : Certificate) : Prop :=
  ∃ der, m.loadKeyPair ref = .ok der ∧ m.parseCertificate der = .ok cert

/-- The certificates that have the name of the default, in their order. -/
def namedDefaults (defaultCertificate : Bytes) (refs : List CertificateRef)
    (certs : List Certificate) : List Certificate :=
  ((refs.zip certs).filter fun x => defaultCertificate ≠ [] ∧ x.1.name = defaultCertificate).map
    Prod.snd

/-- Of several certificates under the name of the default, the last one is it. -/
theorem namedDefaults_cons {defaultCertificate : Bytes} {ref : CertificateRef} {cert : Certificate}
    {refs : List CertificateRef} {certs : List Certificate} :
    (namedDefaults defaultCertificate (ref :: refs) (cert :: certs)).getLast? =
      (namedDefaults defaultCertificate refs certs).getLast?.or
        (if defaultCertificate ≠ [] ∧ ref.name = defaultCertificate then some cert else none) := by
  rw [namedDefaults, List.zip_cons_cons]
  by_cases hnamed : defaultCertificate ≠ [] ∧ ref.name = defaultCertificate
  · rw [List.filter_cons_of_pos (by simpa using hnamed), List.map_cons, List.getLast?_cons,
      if_pos hnamed]
    show some ((namedDefaults defaultCertificate refs certs).getLast?.getD cert) = _
    cases (namedDefaults defaultCertificate refs certs).getLast? with
    | none => rfl
    | some c => rfl
  · rw [List.filter_cons_of_neg (by simpa using hnamed), if_neg hnamed, Option.or_none]
    rfl

/-- What the loop of `newCertStore` adds to a store. -/
structure Extends (defaultCertificate : Bytes) (i : Nat) (refs : List CertificateRef)
    (certs : List Certificate) (s s' : CertStore) : Prop where
  mem_byName : ∀ k c, (k, c) ∈ s'.byName ↔ (k, c) ∈ s.byName ∨
    c ∈ certs ∧ ∃ d ∈ dnsNamesOf c, toLower d = k ∧ (lit "*.").isPrefixOf d = false
  mem_wildcards : ∀ k c, (k, c) ∈ s'.wildcards ↔ (k, c) ∈ s.wildcards ∨
    c ∈ certs ∧ c.Lists (wildcard k)
  defaultCrt : s'.defaultCrt = (namedDefaults defaultCertificate refs certs).getLast?.or
    (if i = 0 then certs.head?.or s.defaultCrt else s.defaultCrt)

/-- The loop of `newCertStore` over certificates that load. -/
theorem newCertStoreFrom_extends {defaultCertificate : Bytes} {refs : List CertificateRef}
    {certs : List Certificate} (h : List.Forall₂ (Loads m) refs certs) :
    ∀ (i : Nat) (s : CertStore), ∃ s', newCertStoreFrom m defaultCertificate i refs s = .ok s' ∧
      Extends defaultCertificate i refs certs s s' := by
  induction h with
  | nil =>
    intro i s
    refine ⟨s, rfl, by simp, by simp, ?_⟩
    simp [namedDefaults]
  | @cons ref cert refs certs hload hrest ih =>
    intro i s
    obtain ⟨der, hpair, hparse⟩ := hload
    obtain ⟨s', hrun, hext⟩ := ih (i + 1) (s.add defaultCertificate i ref.name cert)
    refine ⟨s', ?_, fun k c => ?_, fun k c => ?_, ?_⟩
    · rw [newCertStoreFrom, hpair]
      dsimp only
      rw [hparse]
      exact hrun
    · rw [hext.mem_byName, CertStore.add_maps.1, CertStore.mem_byName_addNames, List.mem_cons, or_assoc,
        or_and_right]
      refine or_congr_right (or_congr_left (and_congr_right ?_))
      rintro rfl
      rfl
    · rw [hext.mem_wildcards, CertStore.add_maps.2, CertStore.mem_wildcards_addNames, List.mem_cons,
        or_assoc, or_and_right]
      refine or_congr_right (or_congr_left (and_congr_right ?_))
      rintro rfl
      rfl
    · rw [hext.defaultCrt, if_neg (Nat.succ_ne_zero i), CertStore.defaultCrt_add, namedDefaults_cons]
      rw [Option.or_assoc]
      congr 1
      by_cases hnamed : defaultCertificate ≠ [] ∧ ref.name = defaultCertificate
      · rw [if_pos (.inr hnamed), if_pos hnamed]
        rfl
      · by_cases hi : i = 0
        · rw [if_pos (.inl hi), if_neg hnamed, if_pos hi]
          rfl
        · rw [if_neg (not_or.mpr ⟨hi, hnamed⟩), if_neg hnamed, if_neg hi]
          rfl

/-! ## The certificate a client gets -/

/-- What a client that asks for a name is to get. -/
structure CoversName (cfg : TLSConfig) (certs : List Certificate) (n : Bytes) (cert : Certificate) :
    Prop where
  listed : (∃ c ∈ certs, c.Lists n) → cert ∈ certs ∧ cert.Lists n
  covered : (¬ ∃ c ∈ certs, c.Lists n) → ∀ host parent, cut 0x2E n = some (host, parent) →
    (∃ c ∈ certs, c.Lists (wildcard parent)) → cert ∈ certs ∧ cert.Lists (wildcard parent)
  /-- The last certificate with the name of the default, or the first of all. -/
  otherwise : (¬ ∃ c ∈ certs, c.Lists n) →
    (∀ host parent, cut 0x2E n = some (host, parent) → ¬ ∃ c ∈ certs, c.Lists (wildcard parent)) →
    some cert = (namedDefaults cfg.defaultCertificate cfg.certificates certs).getLast?.or certs.head?

/-- A wildcard is cut behind its star. -/
theorem cut_wildcard (parent : Bytes) : cut 0x2E (wildcard parent) = some ([0x2A], parent) :=
  cut_append (a := [0x2A]) (by decide) parent

/-- What is found is one of the entries. -/
theorem mem_of_lookup {entries : List (Bytes × Certificate)} {k : Bytes} {cert : Certificate}
    (h : entries.lookup k = some cert) : (k, cert) ∈ entries := by
  obtain ⟨l₁, l₂, rfl, -⟩ := List.lookup_eq_some_iff.mp h
  exact List.mem_append_right _ List.mem_cons_self

/-- What is not found is none of them. -/
theorem not_mem_of_lookup {entries : List (Bytes × Certificate)} {k : Bytes}
    (h : entries.lookup k = none) (cert : Certificate) : (k, cert) ∉ entries := by
  intro hmem
  have hne := List.lookup_eq_none_iff.mp h _ hmem
  simp at hne

/-- A store with the names of these certificates, and no others. -/
structure Indexes (cfg : TLSConfig) (certs : List Certificate) (store : CertStore) : Prop where
  byName : ∀ k c, (k, c) ∈ store.byName ↔
    c ∈ certs ∧ ∃ d ∈ dnsNamesOf c, toLower d = k ∧ (lit "*.").isPrefixOf d = false
  wildcards : ∀ k c, (k, c) ∈ store.wildcards ↔ c ∈ certs ∧ c.Lists (wildcard k)
  defaultCrt : store.defaultCrt =
    (namedDefaults cfg.defaultCertificate cfg.certificates certs).getLast?.or certs.head?

namespace Indexes
variable {cfg : TLSConfig} {certs : List Certificate} {store : CertStore} {n : Bytes}
  {cert : Certificate}

/-- A listed name that is not found by itself is a wildcard. -/
theorem eq_wildcard_of_lists (h : Indexes cfg certs store)
    (hnone : store.byName.lookup n = none) {c : Certificate} (hc : c ∈ certs) (hlists : c.Lists n) :
    ∃ parent, n = wildcard parent := by
  obtain ⟨d, hd, rfl⟩ := hlists
  by_cases hpre : (lit "*.").isPrefixOf d = true
  · exact ⟨_, toLower_eq_wildcard.mpr ⟨hpre, rfl⟩⟩
  · have hin := (h.byName (toLower d) c).mpr ⟨hc, d, hd, rfl, Bool.eq_false_iff.mpr hpre⟩
    exact absurd hin (not_mem_of_lookup hnone c)

/-- A certificate that is found under the name has the name. -/
theorem covers_byName (h : Indexes cfg certs store) (hname : store.byName.lookup n = some cert) :
    CoversName cfg certs n cert := by
  obtain ⟨hc, d, hd, hdn, -⟩ := (h.byName n cert).mp (mem_of_lookup hname)
  have hlisted : ∃ c ∈ certs, c.Lists n := ⟨cert, hc, d, hd, hdn⟩
  exact ⟨fun _ => ⟨hc, d, hd, hdn⟩, fun hnot => absurd hlisted hnot, fun hnot => absurd hlisted hnot⟩

/-- One that is found under the parent covers the name by a wildcard, and no certificate has the name
itself. -/
theorem covers_wildcard (h : Indexes cfg certs store) (hname : store.byName.lookup n = none)
    {host parent : Bytes} (hcut : cut 0x2E n = some (host, parent))
    (hlookup : store.wildcards.lookup parent = some cert) : CoversName cfg certs n cert := by
  obtain ⟨hc, hlists⟩ := (h.wildcards parent cert).mp (mem_of_lookup hlookup)
  refine ⟨?_, fun _ host' parent' hcut' _ => ?_, fun _ hnot => ?_⟩
  · -- the name itself is a wildcard, which is looked up behind its star
    rintro ⟨c, hcmem, hclists⟩
    obtain ⟨parent', rfl⟩ := h.eq_wildcard_of_lists hname hcmem hclists
    rw [cut_wildcard] at hcut
    cases hcut
    exact ⟨hc, hlists⟩
  · rw [hcut] at hcut'
    cases hcut'
    exact ⟨hc, hlists⟩
  · exact absurd ⟨cert, hc, hlists⟩ (hnot host parent hcut)

/-- Where neither is found no certificate covers the name, and the default is the one to show. -/
theorem covers_default (h : Indexes cfg certs store) (hname : store.byName.lookup n = none)
    (hparents : ∀ host parent, cut 0x2E n = some (host, parent) →
      store.wildcards.lookup parent = none)
    (hcert : store.defaultCrt = some cert) : CoversName cfg certs n cert := by
  have hunlisted : ∀ host parent, cut 0x2E n = some (host, parent) →
      ¬ ∃ c ∈ certs, c.Lists (wildcard parent) := by
    rintro host parent hcut ⟨c, hc, hlists⟩
    exact not_mem_of_lookup (hparents host parent hcut) c ((h.wildcards parent c).mpr ⟨hc, hlists⟩)
  refine ⟨?_, fun _ host parent hcut hlisted => ?_, fun _ _ => ?_⟩
  · rintro ⟨c, hc, hlists⟩
    obtain ⟨parent, rfl⟩ := h.eq_wildcard_of_lists hname hc hlists
    exact absurd ⟨c, hc, hlists⟩ (hunlisted _ _ (cut_wildcard parent))
  · exact absurd hlisted (hunlisted host parent hcut)
  · rw [← hcert, h.defaultCrt]

/-- There is a default among certificates. -/
theorem exists_default (h : Indexes cfg certs store) (hne : certs ≠ []) :
    ∃ cert, store.defaultCrt = some cert := by
  obtain ⟨first, rest, rfl⟩ := List.exists_cons_of_ne_nil hne
  rw [h.defaultCrt]
  cases (namedDefaults cfg.defaultCertificate cfg.certificates (first :: rest)).getLast? with
  | none => exact ⟨first, rfl⟩
  | some c => exact ⟨c, rfl⟩

end Indexes

end

/-- The certificate in a file is for the host the file is named after. -/
def namedFiles : Machine where
  bcrypt := ⟨fun _ => none, fun _ _ => false⟩
  loadKey _ := .ok 0
  quote s := s
  loadKeyPair ref := .ok ref.certFile
  parseCertificate der := .ok ⟨der, [der], []⟩
  hasCertificate _ := true
  probeSpool _ := .ok ()

/-- A certificate for a domain's hosts, and one for its mail host, which is not the default. -/
def twoCertificates : TLSConfig where
  certificates :=
    [⟨lit "all", lit "*.Example.com", [], [], []⟩, ⟨lit "mail", lit "mail.example.com", [], [], []⟩]
  defaultCertificate := lit "all"

end Mailout
