import Mailout.Go.Strings
import Mathlib.Data.List.Sort

/-!
# Sender policies

`internal/gateway/policy.go`: which addresses an account may send from, and therefore which domains
it may have signed. A policy is compiled from entries, `app@example.com` or `*@example.com`, into
two sets; `GrantedSubset` narrows what an account asks for to what its namespace was granted.

Every function of the source normalises and splits an entry on its own. `mem_domains` and
`mem_addresses` say once what a compiled policy holds, in terms of the one normal form
`Go.normalize`; what the policy decides is stated over them, and `Authorizes` is the decision
without the parsing.
-/

namespace Mailout

open Go

def atSign : UInt8 := 0x40
def lessThan : UInt8 := 0x3C
def greaterThan : UInt8 := 0x3E
def star : Bytes := lit "*"

/-- `senderPolicy`: the exact addresses and the whole domains allowed. The two maps of the source
are the lists of their keys, each key once. -/
structure SenderPolicy where
  addresses : List Bytes
  domains : List Bytes
  deriving DecidableEq, Repr

namespace SenderPolicy

/-- One entry of `newSenderPolicy`. A malformed entry grants nothing. -/
def addEntry (p : SenderPolicy) (entry : Bytes) : SenderPolicy :=
  match cut atSign (normalize entry) with
  | none => p
  | some (localPart, domain) =>
    if domain = [] ∨ localPart = [] then p
    else if localPart = star then { p with domains := p.domains.insert domain }
    else { p with addresses := p.addresses.insert (normalize entry) }

/-- `senderPolicy.empty`. -/
def empty (p : SenderPolicy) : Bool := p.addresses.length == 0 && p.domains.length == 0

end SenderPolicy

/-- `newSenderPolicy`. -/
def newSenderPolicy (allowedSenders : List Bytes) : SenderPolicy :=
  allowedSenders.foldl SenderPolicy.addEntry ⟨[], []⟩

/-- What stands between the last `<` and the first `>` after it, and the whole address where there
is no such pair. -/
def insideAngles (addr : Bytes) : Bytes :=
  match lastIndexByte lessThan addr with
  | none => addr
  | some start =>
    match indexByte greaterThan (addr.drop start) with
    | none => addr
    | some stop => if 0 < stop then (addr.take (start + stop)).drop (start + 1) else addr

/-- `bareAddress`: an address without display name and angle brackets, empty without an `@`. -/
def bareAddress (address : Bytes) : Bytes :=
  let addr := trimSpace (insideAngles (trimSpace address))
  if contains addr [atSign] then addr else []

namespace SenderPolicy

/-- `senderPolicy.allows`. -/
def allows (p : SenderPolicy) (address : Bytes) : Bool :=
  let addr := toLower (bareAddress address)
  if addr = [] then false
  else if addr ∈ p.addresses then true
  else
    match cut atSign addr with
    | some (_, domain) => domain ∈ p.domains
    | none => false

/-- `senderPolicy.canSign`. -/
def canSign (p : SenderPolicy) (domain : Bytes) : Bool :=
  let domain := normalize domain
  if domain = [] then false
  else if domain ∈ p.domains then true
  else p.addresses.any fun address =>
    match cut atSign address with
    | some (_, addressDomain) => addressDomain == domain
    | none => false

/-- One entry of `covers`: the policy does not grant it. -/
def uncovered (p : SenderPolicy) (entry : Bytes) : Bool :=
  match cut atSign (normalize entry) with
  | none => true
  | some (localPart, domain) =>
    if domain = [] ∨ localPart = [] then true
    else if localPart = star then domain ∉ p.domains
    else domain ∉ p.domains ∧ normalize entry ∉ p.addresses

/-- `senderPolicy.covers`: the requested entries that are not granted. -/
def covers (p : SenderPolicy) (requested : List Bytes) : List Bytes := requested.filter p.uncovered

/-- `senderPolicy.entries`: what the policy grants, in the syntax it was compiled from. -/
def entries (p : SenderPolicy) : List Bytes :=
  (p.domains.map (fun domain => star ++ atSign :: domain) ++ p.addresses).mergeSort (· ≤ ·)

end SenderPolicy

/-- `GrantedSubset`: what is asked for, split into what the grant covers and what it does not. -/
def GrantedSubset (granted requested : List Bytes) : List Bytes × List Bytes :=
  let policy := newSenderPolicy granted
  if requested.length = 0 then (policy.entries, [])
  else
    let refused := policy.covers requested
    (requested.filter fun entry => entry ∉ refused, refused)

/-! ## What a compiled policy holds -/

namespace SenderPolicy

/-- An entry that grants the whole domain `d`. -/
def IsDomainEntry (entry d : Bytes) : Prop :=
  cut atSign (normalize entry) = some (star, d) ∧ d ≠ []

/-- An entry that grants the address `a`. -/
def IsAddressEntry (entry a : Bytes) : Prop :=
  normalize entry = a ∧ ∃ l d, cut atSign a = some (l, d) ∧ d ≠ [] ∧ l ≠ [] ∧ l ≠ star

/-- The star is not empty. -/
theorem star_ne_nil : star ≠ [] := by decide

/-- An entry adds a domain if it is one of a domain, and no other. -/
theorem mem_domains_addEntry {p : SenderPolicy} {entry d : Bytes} :
    d ∈ (p.addEntry entry).domains ↔ d ∈ p.domains ∨ IsDomainEntry entry d := by
  unfold addEntry IsDomainEntry
  split
  · simp [*]
  · rename_i l d' hcut
    split_ifs with hne hstar <;>
      simp only [hcut, Option.some.injEq, Prod.mk.injEq, List.mem_insert_iff]
    · refine ⟨.inl, fun h => h.resolve_right ?_⟩
      rintro ⟨⟨rfl, rfl⟩, hd⟩
      exact hne.elim hd star_ne_nil
    · subst hstar
      constructor
      · rintro (rfl | h)
        · exact .inr ⟨⟨rfl, rfl⟩, fun h => hne (.inl h)⟩
        · exact .inl h
      · rintro (h | ⟨⟨-, rfl⟩, -⟩)
        · exact .inr h
        · exact .inl rfl
    · refine ⟨.inl, fun h => h.resolve_right ?_⟩
      rintro ⟨⟨rfl, -⟩, -⟩
      exact hstar rfl

/-- An entry adds an address if it is one of an address, and no other. -/
theorem mem_addresses_addEntry {p : SenderPolicy} {entry a : Bytes} :
    a ∈ (p.addEntry entry).addresses ↔ a ∈ p.addresses ∨ IsAddressEntry entry a := by
  unfold addEntry IsAddressEntry
  split
  · rename_i hcut
    refine ⟨.inl, fun h => h.resolve_right ?_⟩
    rintro ⟨rfl, l, d, h, -⟩
    rw [hcut] at h
    cases h
  · rename_i l d hcut
    split_ifs with hne hstar
    · refine ⟨.inl, fun h => h.resolve_right ?_⟩
      rintro ⟨rfl, l', d', h, hd, hl, -⟩
      rw [hcut] at h
      cases h
      exact hne.elim hd hl
    · refine ⟨.inl, fun h => h.resolve_right ?_⟩
      rintro ⟨rfl, l', d', h, -, -, hs⟩
      rw [hcut] at h
      cases h
      exact hs hstar
    · rw [List.mem_insert_iff]
      constructor
      · rintro (rfl | h)
        · exact .inr ⟨rfl, l, d, hcut, fun h => hne (.inl h), fun h => hne (.inr h), hstar⟩
        · exact .inl h
      · rintro (h | ⟨rfl, -⟩)
        · exact .inr h
        · exact .inl rfl

end SenderPolicy

open SenderPolicy

/-- The domains of a compiled policy are those of its `*@` entries. -/
theorem mem_domains {l : List Bytes} {d : Bytes} :
    d ∈ (newSenderPolicy l).domains ↔ ∃ e ∈ l, IsDomainEntry e d := by
  have h : ∀ p : SenderPolicy, d ∈ (l.foldl addEntry p).domains ↔
      d ∈ p.domains ∨ ∃ e ∈ l, IsDomainEntry e d := by
    induction l with
    | nil => simp
    | cons e l ih => intro p; simp [ih, mem_domains_addEntry, or_assoc]
  simpa [newSenderPolicy] using h ⟨[], []⟩

/-- The addresses of a compiled policy are its other well-formed entries, normalised. -/
theorem mem_addresses {l : List Bytes} {a : Bytes} :
    a ∈ (newSenderPolicy l).addresses ↔ ∃ e ∈ l, IsAddressEntry e a := by
  have h : ∀ p : SenderPolicy, a ∈ (l.foldl addEntry p).addresses ↔
      a ∈ p.addresses ∨ ∃ e ∈ l, IsAddressEntry e a := by
    induction l with
    | nil => simp
    | cons e l ih => intro p; simp [ih, mem_addresses_addEntry, or_assoc]
  simpa [newSenderPolicy] using h ⟨[], []⟩

/-! ## What a policy decides -/

namespace SenderPolicy

/-- The decision of a policy on an address that is already bare and in lower case: it is granted
itself, or its domain is. -/
def Authorizes (p : SenderPolicy) (addr : Bytes) : Prop :=
  addr ∈ p.addresses ∨ ∃ l d, cut atSign addr = some (l, d) ∧ d ∈ p.domains

/-- The domain `d` is granted, or an address in it is. -/
def Signs (p : SenderPolicy) (d : Bytes) : Prop :=
  d ∈ p.domains ∨ ∃ a ∈ p.addresses, ∃ l, cut atSign a = some (l, d)

/-- A sender is allowed if the policy authorizes its bare address, which must not be empty. -/
theorem allows_iff {p : SenderPolicy} {address : Bytes} : p.allows address = true ↔
    toLower (bareAddress address) ≠ [] ∧ p.Authorizes (toLower (bareAddress address)) := by
  unfold allows Authorizes
  generalize toLower (bareAddress address) = addr
  simp only
  split_ifs with h0 h1
  · simp [h0]
  · simp [h0, h1]
  · cases hcut : cut atSign addr with
    | none => simp [h1]
    | some q => obtain ⟨l, d⟩ := q; simp [h0, h1]

/-- A domain may be signed for if the policy has it, as the source compares it. -/
theorem canSign_iff {p : SenderPolicy} {domain : Bytes} : p.canSign domain = true ↔
    normalize domain ≠ [] ∧ p.Signs (normalize domain) := by
  unfold canSign Signs
  generalize normalize domain = d
  simp only
  split_ifs with h0 h1
  · simp [h0]
  · simp [h0, h1]
  · simp only [List.any_eq_true, ne_eq, h0, not_false_eq_true, h1, false_or, true_and]
    refine exists_congr fun a => and_congr_right fun _ => ?_
    cases hcut : cut atSign a with
    | none => simp
    | some q => simp [Prod.ext_iff]

/-- An entry `covers` does not report is granted: its domain wholesale, or the address itself. -/
theorem uncovered_eq_false {p : SenderPolicy} {entry : Bytes} : p.uncovered entry = false ↔
    ∃ l d, cut atSign (normalize entry) = some (l, d) ∧ d ≠ [] ∧ l ≠ [] ∧
      (d ∈ p.domains ∨ l ≠ star ∧ normalize entry ∈ p.addresses) := by
  unfold uncovered
  cases hcut : cut atSign (normalize entry) with
  | none => simp
  | some q =>
    obtain ⟨l, d⟩ := q
    simp only [Option.some.injEq, Prod.mk.injEq]
    split_ifs with hne hstar
    · simp only [false_iff, not_exists]
      rintro l' d' ⟨⟨rfl, rfl⟩, hd, hl, -⟩
      exact hne.elim hd hl
    · rw [not_or] at hne
      simp [hne.1, hstar, star_ne_nil]
    · rw [not_or] at hne
      simp only [decide_eq_false_iff_not, not_and_or, not_not]
      constructor
      · rintro h
        exact ⟨l, d, ⟨rfl, rfl⟩, hne.1, hne.2, h.imp id fun h => ⟨hstar, h⟩⟩
      · rintro ⟨l', d', ⟨rfl, rfl⟩, -, -, h⟩
        exact h.imp id fun h => h.2

end SenderPolicy

/-! ## Narrowing

A policy compiled from covered entries decides nothing the covering policy does not.
-/

/-- A policy compiled from fewer entries holds less. -/
theorem SenderPolicy.Authorizes.mono {l l' : List Bytes} (hsub : ∀ e ∈ l, e ∈ l') {addr : Bytes}
    (h : (newSenderPolicy l).Authorizes addr) : (newSenderPolicy l').Authorizes addr := by
  rcases h with h | ⟨lp, d, hcut, h⟩
  · obtain ⟨e, he, hent⟩ := mem_addresses.mp h
    exact .inl (mem_addresses.mpr ⟨e, hsub e he, hent⟩)
  · obtain ⟨e, he, hent⟩ := mem_domains.mp h
    exact .inr ⟨lp, d, hcut, mem_domains.mpr ⟨e, hsub e he, hent⟩⟩

/-- A covered `*@` entry names a granted domain. -/
theorem domain_of_covered {p : SenderPolicy} {e d : Bytes} (hcov : p.uncovered e = false)
    (h : IsDomainEntry e d) : d ∈ p.domains := by
  obtain ⟨l, d', hcut, -, -, hg⟩ := uncovered_eq_false.mp hcov
  rw [h.1] at hcut
  cases hcut
  exact hg.resolve_right fun hn => hn.1 rfl

/-- A covered address is granted, itself or through its domain. -/
theorem address_of_covered {p : SenderPolicy} {e a : Bytes} (hcov : p.uncovered e = false)
    (h : IsAddressEntry e a) : ∃ l d, cut atSign a = some (l, d) ∧ (d ∈ p.domains ∨ a ∈ p.addresses) := by
  obtain ⟨l, d, hcut, -, -, hg⟩ := uncovered_eq_false.mp hcov
  obtain ⟨rfl, -⟩ := h
  exact ⟨l, d, hcut, hg.imp id fun hn => hn.2⟩

/-- A policy authorizes what the entries that it covers authorize. -/
theorem SenderPolicy.Authorizes.of_covered {p : SenderPolicy} {l : List Bytes}
    (hcov : ∀ e ∈ l, p.uncovered e = false) {addr : Bytes}
    (h : (newSenderPolicy l).Authorizes addr) : p.Authorizes addr := by
  rcases h with h | ⟨lp, d, hcut, h⟩
  · obtain ⟨e, he, hent⟩ := mem_addresses.mp h
    obtain ⟨lp, d, hcut, hg | hg⟩ := address_of_covered (hcov e he) hent
    · exact .inr ⟨lp, d, hcut, hg⟩
    · exact .inl hg
  · obtain ⟨e, he, hent⟩ := mem_domains.mp h
    exact .inr ⟨lp, d, hcut, domain_of_covered (hcov e he) hent⟩

/-- It may sign for what the entries that it covers may sign for. -/
theorem SenderPolicy.Signs.of_covered {p : SenderPolicy} {l : List Bytes}
    (hcov : ∀ e ∈ l, p.uncovered e = false) {d : Bytes}
    (h : (newSenderPolicy l).Signs d) : p.Signs d := by
  rcases h with h | ⟨a, h, lp, hcut⟩
  · obtain ⟨e, he, hent⟩ := mem_domains.mp h
    exact .inl (domain_of_covered (hcov e he) hent)
  · obtain ⟨e, he, hent⟩ := mem_addresses.mp h
    obtain ⟨lp', d', hcut', hg⟩ := address_of_covered (hcov e he) hent
    rw [hcut] at hcut'
    cases hcut'
    exact hg.imp id fun hg => ⟨a, hg, lp, hcut⟩

/-- Who may send from an address may sign for its domain. -/
theorem SenderPolicy.Authorizes.signs {p : SenderPolicy} {addr l d : Bytes} (h : p.Authorizes addr)
    (hcut : cut atSign addr = some (l, d)) : p.Signs d := by
  rcases h with h | ⟨l', d', hcut', h⟩
  · exact .inr ⟨addr, h, l, hcut⟩
  · rw [hcut] at hcut'
    cases hcut'
    exact .inl h

/-- A domain a compiled policy signs is that of an entry the policy may send from. -/
theorem SenderPolicy.Signs.granted {l : List Bytes} {d : Bytes} (h : (newSenderPolicy l).Signs d) :
    ∃ e ∈ l, (newSenderPolicy l).Authorizes (normalize e) ∧
      ∃ lp, cut atSign (normalize e) = some (lp, d) ∧ d ≠ [] := by
  rcases h with h | ⟨a, h, lp, hcut⟩
  · obtain ⟨e, he, hcut, hne⟩ := mem_domains.mp h
    exact ⟨e, he, .inr ⟨star, d, hcut, h⟩, star, hcut, hne⟩
  · obtain ⟨e, he, rfl, lp', d', hcut', hne, -⟩ := mem_addresses.mp h
    rw [hcut] at hcut'
    cases hcut'
    exact ⟨e, he, .inl h, lp, hcut, hne⟩

/-- A domain a compiled policy signs is the domain of one of its entries. -/
theorem SenderPolicy.Signs.entry {l : List Bytes} {d : Bytes} (h : (newSenderPolicy l).Signs d) :
    ∃ e ∈ l, ∃ lp, cut atSign (normalize e) = some (lp, d) := by
  obtain ⟨e, he, -, lp, hcut, -⟩ := h.granted
  exact ⟨e, he, lp, hcut⟩

/-! ## Compiling what a policy lists

`entries` gives a policy back in the syntax it was compiled from; compiling that again gives the
same policy, because an entry is compiled into its normal form and the normal form is compiled into
itself.
-/

/-- The runes on either side of the `@` an address is cut at. -/
theorem runes_cut {s l d : Bytes} (h : cut atSign s = some (l, d)) :
    runes s = runes l ++ ⟨0x40, [atSign]⟩ :: runes d := by
  rw [(cut_eq_some.mp h).1]
  exact runes_append_ascii l (by decide) d

/-- The `*@` entry of a domain that stands in a normalised entry is in normal form. -/
theorem normalize_star_at {s l d : Bytes} (hs : normalize s = s) (hcut : cut atSign s = some (l, d))
    (hd : d ≠ []) : normalize (star ++ atSign :: d) = star ++ atSign :: d := by
  obtain ⟨⟨-, hlast⟩, hrunes⟩ := normal_iff.mp hs
  rw [runes_cut hcut] at hlast hrunes
  have hr : runes (star ++ atSign :: d) = ⟨0x2A, star⟩ :: ⟨0x40, [atSign]⟩ :: runes d := by
    rw [runes_append_ascii star (by decide) d]
    rfl
  have hne : runes d ≠ [] := fun h => hd (by rw [← rawOf_runes d, h, rawOf_nil])
  refine normal_iff.mpr ⟨⟨?_, ?_⟩, ?_⟩
  · rw [hr]
    rintro c ⟨⟩
    decide
  · rw [hr, List.getLast?_cons_cons, List.getLast?_cons_of_ne_nil hne]
    rwa [List.getLast?_append_cons, List.getLast?_cons_of_ne_nil hne] at hlast
  · rw [hr]
    intro c hc
    rcases List.mem_cons.mp hc with rfl | hc
    · decide +kernel
    · exact hrunes c (List.mem_append_right _ hc)

/-- The entries of a policy are those of its domains and its addresses. -/
theorem mem_entries {p : SenderPolicy} {e : Bytes} :
    e ∈ p.entries ↔ (∃ d ∈ p.domains, star ++ atSign :: d = e) ∨ e ∈ p.addresses := by
  simp [entries]

/-- The `*@` entry of a granted domain grants that domain, and nothing else. -/
theorem star_at_entry {l : List Bytes} {d : Bytes} (hd : d ∈ (newSenderPolicy l).domains) :
    cut atSign (normalize (star ++ atSign :: d)) = some (star, d) ∧ d ≠ [] := by
  obtain ⟨e, -, hcut, hne⟩ := mem_domains.mp hd
  rw [normalize_star_at (normalize_normalize e) hcut hne]
  exact ⟨cut_append (by decide) d, hne⟩

/-- Written out and read again, a policy has the same domains and addresses. -/
theorem newSenderPolicy_entries (l : List Bytes) :
    (∀ d, d ∈ (newSenderPolicy (newSenderPolicy l).entries).domains ↔ d ∈ (newSenderPolicy l).domains) ∧
      ∀ a, a ∈ (newSenderPolicy (newSenderPolicy l).entries).addresses ↔
        a ∈ (newSenderPolicy l).addresses := by
  refine ⟨fun d => ?_, fun a => ?_⟩
  · rw [mem_domains]
    constructor
    · rintro ⟨e, he, hcut, hne⟩
      rcases mem_entries.mp he with ⟨d', hd', rfl⟩ | he
      · rw [(star_at_entry hd').1] at hcut
        cases hcut
        exact hd'
      · obtain ⟨e', -, rfl, lp, d', hcut', -, -, hstar⟩ := mem_addresses.mp he
        rw [normalize_normalize, hcut'] at hcut
        cases hcut
        exact absurd rfl hstar
    · exact fun hd => ⟨_, mem_entries.mpr (.inl ⟨d, hd, rfl⟩), star_at_entry hd⟩
  · rw [mem_addresses]
    constructor
    · rintro ⟨e, he, rfl, lp, d, hcut, -, -, hstar⟩
      rcases mem_entries.mp he with ⟨d', hd', rfl⟩ | he
      · rw [(star_at_entry hd').1] at hcut
        cases hcut
        exact absurd rfl hstar
      · obtain ⟨e', -, rfl, -⟩ := mem_addresses.mp he
        rwa [normalize_normalize]
    · intro ha
      obtain ⟨e, -, rfl, hent⟩ := mem_addresses.mp ha
      exact ⟨normalize e, mem_entries.mpr (.inr ha), normalize_normalize e, hent⟩

/-- Two policies that hold the same decide the same. -/
theorem decisions_congr {p q : SenderPolicy} (hd : ∀ d, d ∈ p.domains ↔ d ∈ q.domains)
    (ha : ∀ a, a ∈ p.addresses ↔ a ∈ q.addresses) :
    (∀ a, p.allows a = q.allows a) ∧ ∀ d, p.canSign d = q.canSign d := by
  refine ⟨fun a => ?_, fun d => ?_⟩
  · rw [Bool.eq_iff_iff, allows_iff, allows_iff]
    simp only [Authorizes, ha, hd]
  · rw [Bool.eq_iff_iff, canSign_iff, canSign_iff]
    simp only [Signs, ha, hd]

/-! ## `GrantedSubset` -/

/-- What `GrantedSubset` allows of a request was asked for and is covered. -/
theorem mem_GrantedSubset {granted requested : List Bytes} (hne : requested ≠ []) {e : Bytes} :
    e ∈ (GrantedSubset granted requested).1 ↔
      e ∈ requested ∧ (newSenderPolicy granted).uncovered e = false := by
  have hlen : ¬ requested.length = 0 := by simpa using hne
  simp only [GrantedSubset, if_neg hlen, covers, List.mem_filter, decide_eq_true_eq, not_and,
    Bool.not_eq_true]
  exact and_congr_right fun h => ⟨fun hc => hc h, fun hc _ => hc⟩

example : newSenderPolicy [lit " App@Example.COM ", lit "*@example.org", lit "@x", lit "y@"] =
    ⟨[lit "app@example.com"], [lit "example.org"]⟩ := by decide +kernel
example : (newSenderPolicy [lit "*@example.org"]).allows (lit "Bob <bob@Example.Org>") = true := by
  decide +kernel
example : (GrantedSubset [lit "*@b.org"] [lit "x@b.org", lit "y@c.org"]) =
    ([lit "x@b.org"], [lit "y@c.org"]) := by decide +kernel

end Mailout
