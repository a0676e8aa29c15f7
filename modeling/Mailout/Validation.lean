import Mathlib.Data.List.Nodup
import Mailout.Go.Strconv
import Mailout.Policy

/-!
# What an admission webhook reports

The errors of `field.ErrorList`, with the path of the field each is about, and the loop that both
webhooks of `internal/webhook/v1alpha1` run over a list: report an element whose key was seen before,
then what is wrong with the element itself. `checkEach_eq_nil` says when such a loop reports nothing.
`validateAllowedSenders` is the check of sender entries, shared by accounts and gateways;
`admitted_entries_compile` says that `newSenderPolicy` makes a grant of its own of every entry that was
admitted.
-/

namespace Mailout

open Go SenderPolicy

/-- `field.ErrorType`. -/
inductive FieldErrorType where
  | required
  | invalid
  | duplicate
  | forbidden
  | internal
  deriving DecidableEq, Repr

/-- The value an error reports. -/
inductive FieldValue (Selector : Type) where
  | absent
  | text (value : Bytes)
  | number (value : Int)
  | texts (values : List Bytes)
  | selector (value : Selector)
  deriving DecidableEq, Repr

/-- `field.Error`; `field` is the path as it is printed. -/
structure FieldError (Selector : Type) where
  type : FieldErrorType
  field : Bytes
  badValue : FieldValue Selector
  detail : Bytes
  deriving DecidableEq, Repr

/-- `field.Path`, as it is printed. -/
abbrev FieldPath := Bytes

/-- `Path.Child`. -/
def FieldPath.child (path : FieldPath) (name : Bytes) : FieldPath := path ++ lit "." ++ name

/-- `Path.Index`. -/
def FieldPath.index (path : FieldPath) (i : Nat) : FieldPath :=
  path ++ lit "[" ++ formatNat i ++ lit "]"

variable {Selector : Type}

namespace FieldError

/-- `field.Required`. -/
def required (path : FieldPath) (detail : Bytes) : FieldError Selector :=
  ⟨.required, path, .text [], detail⟩

/-- `field.Invalid`. -/
def invalid (path : FieldPath) (value : FieldValue Selector) (detail : Bytes) :
    FieldError Selector :=
  ⟨.invalid, path, value, detail⟩

/-- `field.Duplicate`. -/
def duplicate (path : FieldPath) (value : FieldValue Selector) : FieldError Selector :=
  ⟨.duplicate, path, value, []⟩

/-- `field.Forbidden`. -/
def forbidden (path : FieldPath) (detail : Bytes) : FieldError Selector :=
  ⟨.forbidden, path, .text [], detail⟩

/-- `field.InternalError`. -/
def internalError (path : FieldPath) (err : Bytes) : FieldError Selector :=
  ⟨.internal, path, .absent, err⟩

end FieldError

/-- Why a write is refused: what could not be looked up, or what is wrong with the object. -/
inductive AdmissionError (Selector : Type) where
  | lookup (err : Bytes)
  | invalid (errs : List (FieldError Selector))
  deriving DecidableEq, Repr

/-- The warnings of a write, and whether it is refused. -/
abbrev Admission (Selector : Type) := List Bytes × Except (AdmissionError Selector) Unit

/-! ## Checking a list -/

section
variable {α ε : Type}

/-- A loop that reports an element whose key was seen before, and then what `own` finds in it. -/
def checkEach (key : α → Bytes) (again : Nat → α → ε) (own : Nat → α → List ε) :
    Nat → List Bytes → List α → List ε
  | _, _, [] => []
  | i, seen, x :: xs =>
    (if key x ∈ seen then [again i x] else []) ++ own i x ++
      checkEach key again own (i + 1) (key x :: seen) xs

variable {key : α → Bytes} {again : Nat → α → ε} {own : Nat → α → List ε}

/-- The loop reports nothing if the keys are new and different, and no element has an error of its
own. -/
theorem checkEach_eq_nil {i : Nat} {seen : List Bytes} {xs : List α} :
    checkEach key again own i seen xs = [] ↔
      (xs.map key).Nodup ∧ (∀ x ∈ xs, key x ∉ seen) ∧
        ∀ j, ∀ h : j < xs.length, own (i + j) xs[j] = [] := by
  induction xs generalizing i seen with
  | nil => simp [checkEach]
  | cons x xs ih =>
    have hown : (∀ j, ∀ h : j < (x :: xs).length, own (i + j) (x :: xs)[j] = []) ↔
        own i x = [] ∧ ∀ j, ∀ h : j < xs.length, own (i + 1 + j) xs[j] = [] := by
      refine ⟨fun h => ⟨h 0 (Nat.succ_pos _), fun j hj => ?_⟩, fun h j hj => ?_⟩
      · have := h (j + 1) (Nat.succ_lt_succ hj)
        rwa [← Nat.add_assoc, Nat.add_right_comm] at this
      · cases j with
        | zero => exact h.1
        | succ j =>
          have := h.2 j (Nat.lt_of_succ_lt_succ hj)
          rwa [Nat.add_right_comm] at this
    rw [checkEach, List.append_eq_nil_iff, List.append_eq_nil_iff, ih, hown]
    have hseen : (if key x ∈ seen then [again i x] else []) = [] ↔ key x ∉ seen := by
      split_ifs with h <;> simp [h]
    rw [hseen, List.forall_mem_cons, List.map_cons, List.nodup_cons]
    simp only [List.mem_map, List.mem_cons, not_or]
    constructor
    · rintro ⟨⟨hx, hfirst⟩, hnodup, hnew, hrest⟩
      refine ⟨⟨?_, hnodup⟩, ⟨hx, fun y hy => (hnew y hy).2⟩, hfirst, hrest⟩
      rintro ⟨y, hy, heq⟩
      exact (hnew y hy).1 heq
    · rintro ⟨⟨hx, hnodup⟩, ⟨hfresh, hnew⟩, hfirst, hrest⟩
      exact ⟨⟨hfresh, hfirst⟩, hnodup, fun y hy => ⟨fun heq => hx ⟨y, hy, heq⟩, hnew y hy⟩, hrest⟩

/-- From the start of a list. -/
theorem checkEach_start_eq_nil {xs : List α} :
    checkEach key again own 0 [] xs = [] ↔
      (xs.map key).Nodup ∧ ∀ j, ∀ h : j < xs.length, own j xs[j] = [] := by
  rw [checkEach_eq_nil]
  simp

end

/-! ## Sender entries -/

/-- The switch of `validateAllowedSenders`. -/
def senderEntryErrors (path : FieldPath) (i : Nat) (entry : Bytes) : List (FieldError Selector) :=
  let refuse detail := [FieldError.invalid (path.index i) (.text entry) detail]
  match cut atSign (normalize entry) with
  | none => refuse (lit "must be an address (app@example.com) or a domain (*@example.com)")
  | some (local_, domain) =>
    if local_ = [] then
      refuse (lit "missing the local part; use *@example.com for a whole domain")
    else if domain = [] then refuse (lit "missing the domain")
    else if contains local_ (lit "*") ∧ local_ ≠ lit "*" then
      refuse (lit "a wildcard local part must be exactly *, partial matches are not supported")
    else if contains domain (lit "*") then
      refuse (lit "wildcards are not supported in the domain; list each domain")
    else []

/-- `validateAllowedSenders`. -/
def validateAllowedSenders (senders : List Bytes) (path : FieldPath) : List (FieldError Selector) :=
  checkEach normalize (fun i entry => .duplicate (path.index i) (.text entry))
    (senderEntryErrors path) 0 [] senders

/-! ## Compiling what was admitted -/

def starByte : UInt8 := 0x2A

/-- What the switch of `validateAllowedSenders` lets through: a whole domain, or an address, with no
other `*` in it. -/
structure WellFormedEntry (entry localPart domain : Bytes) : Prop where
  split : cut atSign (normalize entry) = some (localPart, domain)
  hasLocal : localPart ≠ []
  hasDomain : domain ≠ []
  wildcard : starByte ∈ localPart → localPart = star
  noStar : starByte ∉ domain

/-- An entry has no errors exactly if it is well formed. -/
theorem senderEntryErrors_eq_nil {path : FieldPath} {i : Nat} {entry : Bytes} :
    (senderEntryErrors path i entry : List (FieldError Selector)) = [] ↔
      ∃ l d, WellFormedEntry entry l d := by
  have hstar : lit "*" = [starByte] := by decide
  unfold senderEntryErrors
  dsimp only
  cases hcut : Go.cut atSign (normalize entry) with
  | none =>
    refine iff_of_false (List.cons_ne_nil _ _) ?_
    rintro ⟨l, d, h⟩
    exact nomatch hcut.symm.trans h.split
  | some q =>
    obtain ⟨l, d⟩ := q
    have hone : ∀ {P : Prop}, (WellFormedEntry entry l d → P) →
        (∃ l d, WellFormedEntry entry l d) → P := by
      rintro P hP ⟨l', d', h⟩
      have heq := h.split
      rw [hcut, Option.some.injEq, Prod.mk.injEq] at heq
      obtain ⟨rfl, rfl⟩ := heq
      exact hP h
    simp only [hstar, contains_byte]
    split_ifs with hl hd hw hx
    · exact iff_of_false not_false (hone fun h => h.hasLocal hl)
    · exact iff_of_false not_false (hone fun h => h.hasDomain hd)
    · exact iff_of_false not_false (hone fun h => hw.2 (h.wildcard hw.1))
    · exact iff_of_false not_false (hone fun h => h.noStar hx)
    · refine iff_of_true rfl ⟨l, d, hcut, hl, hd, fun h => ?_, hx⟩
      by_contra hne
      exact hw ⟨h, hne⟩

/-- The entries a policy grants, in no particular order. -/
def SenderPolicy.grants (p : SenderPolicy) : List Bytes :=
  p.domains.map (fun domain => star ++ atSign :: domain) ++ p.addresses

/-- A well-formed entry that is new adds itself. -/
theorem WellFormedEntry.addEntry {e l d : Bytes} (h : WellFormedEntry e l d) {p : SenderPolicy}
    (hnew : normalize e ∉ p.grants) : (p.addEntry e).grants.Perm (normalize e :: p.grants) := by
  have hkept : ¬ (d = [] ∨ l = []) := not_or.mpr ⟨h.hasDomain, h.hasLocal⟩
  unfold SenderPolicy.addEntry
  rw [h.split]
  dsimp only
  rw [if_neg hkept]
  split_ifs with hl
  · have hentry : normalize e = star ++ atSign :: d := by
      rw [(cut_eq_some.mp h.split).1, hl]
    have hd : d ∉ p.domains := by
      intro hd
      refine hnew (List.mem_append_left _ ?_)
      rw [hentry]
      exact List.mem_map_of_mem hd
    simp only [SenderPolicy.grants, List.insert_of_not_mem hd, List.map_cons, List.cons_append, hentry]
    exact .refl _
  · have ha : normalize e ∉ p.addresses := fun ha => hnew (List.mem_append_right _ ha)
    simp only [SenderPolicy.grants, List.insert_of_not_mem ha]
    exact List.perm_middle

/-- What is compiled of well-formed entries no two of which are the same: these, and nothing else. -/
theorem grants_foldl {senders : List Bytes} (hform : ∀ e ∈ senders, ∃ l d, WellFormedEntry e l d)
    (hnodup : (senders.map normalize).Nodup) : ∀ p : SenderPolicy,
      (∀ e ∈ senders, normalize e ∉ p.grants) →
      (senders.foldl SenderPolicy.addEntry p).grants.Perm (senders.map normalize ++ p.grants) := by
  induction senders with
  | nil => exact fun p _ => .refl _
  | cons e senders ih =>
    intro p hnew
    obtain ⟨⟨l, d, he⟩, hrest⟩ := List.forall_mem_cons.mp hform
    obtain ⟨hfresh, hnew'⟩ := List.forall_mem_cons.mp hnew
    rw [List.map_cons, List.nodup_cons] at hnodup
    have hadd := he.addEntry hfresh
    have hih := ih hrest hnodup.2 (p.addEntry e) fun e' he' hmem => by
      rcases List.mem_cons.mp (hadd.mem_iff.mp hmem) with heq | hmem
      · exact hnodup.1 (heq ▸ List.mem_map_of_mem he')
      · exact hnew' e' he' hmem
    rw [List.foldl_cons, List.map_cons, List.cons_append]
    exact hih.trans ((hadd.append_left _).trans List.perm_middle)

/-- What is compiled of entries that were admitted is the entries, normalised. -/
theorem grants_admitted {senders : List Bytes} {path : FieldPath}
    (h : (validateAllowedSenders senders path : List (FieldError Selector)) = []) :
    (∀ e ∈ senders, ∃ l d, WellFormedEntry e l d) ∧
      (newSenderPolicy senders).grants.Perm (senders.map normalize) := by
  obtain ⟨hnodup, hown⟩ := checkEach_start_eq_nil.mp h
  have hform : ∀ e ∈ senders, ∃ l d, WellFormedEntry e l d := by
    intro e he
    obtain ⟨j, hj, rfl⟩ := List.mem_iff_getElem.mp he
    exact senderEntryErrors_eq_nil.mp (hown j hj)
  refine ⟨hform, ?_⟩
  have hall := grants_foldl hform hnodup ⟨[], []⟩ fun e _ hmem => nomatch hmem
  rwa [SenderPolicy.grants, SenderPolicy.grants, List.map_nil, List.append_nil, List.append_nil] at hall

/-- A well-formed entry is granted by the policy it is compiled into. -/
theorem WellFormedEntry.covered {senders : List Bytes} {e l d : Bytes} (h : WellFormedEntry e l d)
    (he : e ∈ senders) : (newSenderPolicy senders).uncovered e = false := by
  refine uncovered_eq_false.mpr ⟨l, d, h.split, h.hasDomain, h.hasLocal, ?_⟩
  by_cases hl : l = star
  · subst hl
    exact .inl (mem_domains.mpr ⟨e, he, h.split, h.hasDomain⟩)
  · exact .inr ⟨hl, mem_addresses.mpr ⟨e, he, rfl, l, d, h.split, h.hasDomain, h.hasLocal, hl⟩⟩

/-- **Admission and compilation agree.** Every entry that was admitted is compiled to a grant of its
own, which is listed as the entry it came from, and no `*` is left in what is compared. -/
theorem admitted_entries_compile (senders : List Bytes) (path : FieldPath)
    (h : (validateAllowedSenders senders path : List (FieldError Selector)) = []) :
    (newSenderPolicy senders).addresses.length + (newSenderPolicy senders).domains.length =
      senders.length ∧
    (newSenderPolicy senders).entries = (senders.map normalize).mergeSort (· ≤ ·) ∧
    (∀ d ∈ (newSenderPolicy senders).domains, starByte ∉ d) ∧
    (∀ a ∈ (newSenderPolicy senders).addresses, starByte ∉ a) ∧
    (GrantedSubset senders senders).2 = [] := by
  obtain ⟨hform, hgrants⟩ := grants_admitted h
  refine ⟨?_, ?_, ?_, ?_, ?_⟩
  · have hlen := hgrants.length_eq
    rw [SenderPolicy.grants, List.length_append, List.length_map, List.length_map] at hlen
    omega
  · exact ((List.mergeSort_perm _ _).trans (hgrants.trans (List.mergeSort_perm _ _).symm)).eq_of_pairwise'
      (List.pairwise_mergeSort' _ _) (List.pairwise_mergeSort' _ _)
  · intro d hd
    obtain ⟨e, he, hcut, -⟩ := mem_domains.mp hd
    obtain ⟨l, d', hwell⟩ := hform e he
    rw [hwell.split] at hcut
    cases hcut
    exact hwell.noStar
  · intro a ha
    obtain ⟨e, he, rfl, l, d, hcut, -, -, hl⟩ := mem_addresses.mp ha
    obtain ⟨l', d', hwell⟩ := hform e he
    have hsplit := hwell.split
    rw [hcut] at hsplit
    cases hsplit
    rw [(cut_eq_some.mp hcut).1, List.mem_append, List.mem_cons, not_or, not_or]
    exact ⟨fun hmem => hl (hwell.wildcard hmem), by decide, hwell.noStar⟩
  · unfold GrantedSubset
    dsimp only
    split_ifs
    · rfl
    · rw [SenderPolicy.covers, List.filter_eq_nil_iff]
      intro e he
      obtain ⟨l, d, hwell⟩ := hform e he
      rw [hwell.covered he]
      exact Bool.false_ne_true

/-- Two entries that are admitted, of an address and of a domain. -/
theorem admitted_entries_compile_mixed :
    (newSenderPolicy [lit " App@Example.com", lit "*@example.org"]).addresses.length +
      (newSenderPolicy [lit " App@Example.com", lit "*@example.org"]).domains.length = 2 ∧
    (newSenderPolicy [lit " App@Example.com", lit "*@example.org"]).entries =
      ([lit " App@Example.com", lit "*@example.org"].map normalize).mergeSort (· ≤ ·) ∧
    (∀ d ∈ (newSenderPolicy [lit " App@Example.com", lit "*@example.org"]).domains, starByte ∉ d) ∧
    (∀ a ∈ (newSenderPolicy [lit " App@Example.com", lit "*@example.org"]).addresses, starByte ∉ a) ∧
    (GrantedSubset [lit " App@Example.com", lit "*@example.org"]
      [lit " App@Example.com", lit "*@example.org"]).2 = [] :=
  @admitted_entries_compile Unit _ (lit "spec.allowedSenders") (by decide +kernel)

end Mailout
