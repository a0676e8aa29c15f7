import Mailout.Policy

/-!
# Lists of mailboxes in a From field

A From field may show several senders: a list of mailboxes, each an address or an address in angle
brackets behind a display name. `senderPolicy.allows` looks at one address of it: what stands between
the last `<` and the next `>`, and the whole text where there is no bracket.

`bareAddress_listText` says which address that is, and `allows_listText_iff` when an allowed list
shows allowed addresses only.
-/

namespace Mailout

open Go

def comma : UInt8 := 0x2C

/-- The characters that delimit addresses and quoted names. -/
def marks : Bytes := lit "<>,@\""

/-- A part of a mailbox, free of delimiters. -/
abbrev Part := { b : Bytes // ∀ c ∈ b, c ∉ marks }

/-- A mailbox: an address alone, or in angle brackets behind a display name. -/
inductive Mailbox where
  | bare (localPart domain : Part)
  | named (display localPart domain : Part)

namespace Mailbox

/-- The address, `local@domain`. -/
def address : Mailbox → Bytes
  | bare localPart domain | named _ localPart domain => localPart.1 ++ atSign :: domain.1

/-- The mailbox as it is written. -/
def text : Mailbox → Bytes
  | bare localPart domain => localPart.1 ++ atSign :: domain.1
  | named display localPart domain =>
    display.1 ++ lit " " ++ lessThan :: (localPart.1 ++ atSign :: domain.1 ++ [greaterThan])

def bracketed : Mailbox → Bool
  | bare .. => false
  | named .. => true

end Mailbox

/-- A non-empty list of mailboxes as it is written, `m` the first. -/
def listText (m : Mailbox) (ms : List Mailbox) : Bytes := m.text ++ ms.flatMap (comma :: ·.text)

/-- The last mailbox of a list that has brackets. -/
def lastBracketed (ms : List Mailbox) : Option Mailbox := ms.reverse.find? Mailbox.bracketed

/-- A part of an address has none of the marks in it. -/
theorem Part.not_mem (p : Part) {c : UInt8} (hc : c ∈ marks) : c ∉ p.1 := fun h => p.2 c h hc

/-- The text between the last `<` and the `>` behind it. -/
theorem insideAngles_between {a s b : Bytes} (hs : lessThan ∉ s) (hs' : greaterThan ∉ s)
    (hb : lessThan ∉ b) : insideAngles (a ++ lessThan :: (s ++ greaterThan :: b)) = s := by
  have hlast : lastIndexByte lessThan (a ++ lessThan :: (s ++ greaterThan :: b)) = some a.length := by
    refine lastIndexByte_append a ?_
    rw [List.mem_append, List.mem_cons, not_or, not_or]
    exact ⟨hs, by decide, hb⟩
  have hclose : indexByte greaterThan ((a ++ lessThan :: (s ++ greaterThan :: b)).drop a.length) =
      some (s.length + 1) := by
    rw [List.drop_left]
    have hopen : greaterThan ∉ lessThan :: s := by
      rw [List.mem_cons, not_or]
      exact ⟨by decide, hs'⟩
    exact indexByte_append hopen b
  rw [insideAngles, hlast]
  simp only [hclose, Nat.zero_lt_succ, if_true]
  rw [show a.length + (s.length + 1) = (a ++ lessThan :: s).length by simp,
    show a ++ lessThan :: (s ++ greaterThan :: b) = (a ++ lessThan :: s) ++ greaterThan :: b by simp,
    List.take_left, show a.length + 1 = (a ++ [lessThan]).length by simp,
    show a ++ lessThan :: s = (a ++ [lessThan]) ++ s by simp, List.drop_left]

/-- Without an angle bracket the whole text is the address. -/
theorem insideAngles_of_not_mem {s : Bytes} (h : lessThan ∉ s) : insideAngles s = s := by
  rw [insideAngles, lastIndexByte_eq_none h]

/-- The address that is judged, behind its `<`. -/
theorem bareAddress_between {a s b : Bytes} (hs : lessThan ∉ s) (hs' : greaterThan ∉ s)
    (hb : lessThan ∉ b) (hat : atSign ∈ s) :
    bareAddress (a ++ lessThan :: (s ++ greaterThan :: b)) = trimSpace s := by
  obtain ⟨a', b', htrim, hpre⟩ := trimSpace_between (c := lessThan) (d := greaterThan)
    (by decide) (by decide) (by decide) (by decide) a s b
  have hb' : lessThan ∉ b' := fun h => hb (hpre.subset h)
  rw [bareAddress, htrim, insideAngles_between hs hs' hb']
  exact if_pos (contains_byte.mpr (mem_trimSpace (by decide) (by decide) hat))

/-- A text without brackets is judged as a whole. -/
theorem bareAddress_of_not_mem {s : Bytes} (h : lessThan ∉ s) (hat : atSign ∈ s) :
    bareAddress s = trimSpace s := by
  have htrim : lessThan ∉ trimSpace s := fun hmem => h (mem_of_mem_trimSpace hmem)
  rw [bareAddress, insideAngles_of_not_mem htrim, trimSpace_trimSpace]
  exact if_pos (contains_byte.mpr (mem_trimSpace (by decide) (by decide) hat))

namespace Mailbox

/-- An address has an at sign and no angle brackets. -/
theorem address_parts (m : Mailbox) : atSign ∈ m.address ∧ lessThan ∉ m.address ∧
    greaterThan ∉ m.address := by
  have hsplit : ∃ l d : Part, m.address = l.1 ++ atSign :: d.1 := by
    cases m with
    | bare l d => exact ⟨l, d, rfl⟩
    | named n l d => exact ⟨l, d, rfl⟩
  obtain ⟨l, d, heq⟩ := hsplit
  rw [heq]
  refine ⟨by simp, ?_, ?_⟩
  · rw [List.mem_append, List.mem_cons, not_or, not_or]
    exact ⟨l.not_mem (by decide), by decide, d.not_mem (by decide)⟩
  · rw [List.mem_append, List.mem_cons, not_or, not_or]
    exact ⟨l.not_mem (by decide), by decide, d.not_mem (by decide)⟩

/-- A mailbox without brackets is written as its address. -/
theorem text_of_bare {m : Mailbox} (h : m.bracketed = false) : m.text = m.address := by
  cases m with
  | bare l d => rfl
  | named n l d => cases h

/-- One with brackets is written with its address in them, at the end. -/
theorem text_of_bracketed {m : Mailbox} (h : m.bracketed = true) :
    ∃ n, m.text = n ++ lessThan :: (m.address ++ greaterThan :: []) := by
  cases m with
  | bare l d => cases h
  | named n l d => exact ⟨_, rfl⟩

/-- A mailbox is written with an at sign. -/
theorem atSign_mem_text (m : Mailbox) : atSign ∈ m.text := by
  cases h : m.bracketed with
  | false =>
    rw [text_of_bare h]
    exact m.address_parts.1
  | true =>
    obtain ⟨n, hn⟩ := text_of_bracketed h
    rw [hn]
    simp [m.address_parts.1]

/-- A mailbox alone is judged by its address. -/
theorem bareAddress_text (m : Mailbox) : bareAddress m.text = trimSpace m.address := by
  obtain ⟨hat, hopen, hclose⟩ := m.address_parts
  cases h : m.bracketed with
  | false =>
    rw [text_of_bare h]
    exact bareAddress_of_not_mem hopen hat
  | true =>
    obtain ⟨n, hn⟩ := text_of_bracketed h
    rw [hn]
    exact bareAddress_between hopen hclose (by simp) hat

end Mailbox

/-- Mailboxes without brackets are written without any. -/
theorem lessThan_not_mem_flatMap {ms : List Mailbox} (h : ∀ k ∈ ms, k.bracketed = false) :
    lessThan ∉ ms.flatMap (comma :: ·.text) := by
  rw [List.mem_flatMap]
  rintro ⟨k, hk, hmem⟩
  rw [k.text_of_bare (h k hk), List.mem_cons] at hmem
  exact hmem.elim (by decide) k.address_parts.2.1

/-- A list of mailboxes is written with an at sign, since its first one is. -/
theorem atSign_mem_listText (m : Mailbox) (ms : List Mailbox) : atSign ∈ listText m ms :=
  List.mem_append_left _ m.atSign_mem_text

/-- A list that is cut before one of its mailboxes. -/
theorem listText_split {m k : Mailbox} {ms pre post : List Mailbox}
    (h : m :: ms = pre ++ k :: post) :
    ∃ a, listText m ms = a ++ k.text ++ post.flatMap (comma :: ·.text) := by
  cases pre with
  | nil =>
    cases h
    exact ⟨[], rfl⟩
  | cons m' pre =>
    rw [List.cons_append, List.cons.injEq] at h
    obtain ⟨rfl, rfl⟩ := h
    exact ⟨m.text ++ pre.flatMap (comma :: ·.text) ++ [comma], by simp [listText]⟩

/-- **Which address of a list is judged**: that of the last mailbox with brackets, and the whole
text where there is none. -/
theorem bareAddress_listText (m : Mailbox) (ms : List Mailbox) : bareAddress (listText m ms) =
    match lastBracketed (m :: ms) with
    | some k => bareAddress k.text
    | none => trimSpace (listText m ms) := by
  cases hlast : lastBracketed (m :: ms) with
  | some k =>
    obtain ⟨hk, as, bs, hrev, has⟩ := List.find?_eq_some_iff_append.mp hlast
    have hsplit : m :: ms = bs.reverse ++ k :: as.reverse := by
      rw [← List.reverse_reverse (m :: ms), hrev]
      simp
    obtain ⟨a, ha⟩ := listText_split hsplit
    obtain ⟨n, hn⟩ := Mailbox.text_of_bracketed hk
    obtain ⟨hat, hopen, hclose⟩ := k.address_parts
    have hafter : lessThan ∉ as.reverse.flatMap (comma :: ·.text) := by
      refine lessThan_not_mem_flatMap fun j hj => ?_
      simpa using has j (List.mem_reverse.mp hj)
    have hshape : listText m ms = (a ++ n) ++ lessThan :: (k.address ++ greaterThan ::
        as.reverse.flatMap (comma :: ·.text)) := by
      rw [ha, hn]
      simp
    simp only [k.bareAddress_text]
    rw [hshape]
    exact bareAddress_between hopen hclose hafter hat
  | none =>
    have hbare : ∀ k ∈ m :: ms, k.bracketed = false := by
      intro k hk
      have := List.find?_eq_none.mp hlast k (List.mem_reverse.mpr hk)
      simpa using this
    refine bareAddress_of_not_mem ?_ (atSign_mem_listText m ms)
    rw [listText, List.mem_append, not_or]
    refine ⟨?_, lessThan_not_mem_flatMap fun k hk => hbare k (List.mem_cons_of_mem _ hk)⟩
    rw [m.text_of_bare (hbare m (List.mem_cons_self ..))]
    exact m.address_parts.2.1

/-- **When an allowed list shows allowed addresses only.** Every mailbox is allowed, or the one that
is judged is refused: the last with brackets, and the whole text, taken as one address, where no
mailbox has any. -/
theorem allows_listText_iff (p : SenderPolicy) (m : Mailbox) (ms : List Mailbox) :
    (p.allows (listText m ms) = true → ∀ k ∈ m :: ms, p.allows k.text = true) ↔
      (∀ k ∈ m :: ms, p.allows k.text = true) ∨
      (∃ k, lastBracketed (m :: ms) = some k ∧ p.allows k.text = false) ∨
      (lastBracketed (m :: ms) = none ∧ ¬ p.Authorizes (normalize (listText m ms))) := by
  have hbare := bareAddress_listText m ms
  cases hlast : lastBracketed (m :: ms) with
  | some k =>
    have hallows : p.allows (listText m ms) = p.allows k.text := by
      rw [hlast] at hbare
      rw [SenderPolicy.allows, SenderPolicy.allows, hbare]
    rw [hallows]
    cases hk : p.allows k.text with
    | true => simp [hk]
    | false => simp [hk]
  | none =>
    rw [hlast] at hbare
    have hne : normalize (listText m ms) ≠ [] :=
      toLower_ne_nil (List.ne_nil_of_mem
        (mem_trimSpace (by decide) (by decide) (atSign_mem_listText m ms)))
    have hallows : p.allows (listText m ms) = true ↔ p.Authorizes (normalize (listText m ms)) := by
      rw [SenderPolicy.allows_iff, hbare]
      exact ⟨And.right, fun h => ⟨hne, h⟩⟩
    rw [hallows]
    constructor
    · intro h
      by_cases hauth : p.Authorizes (normalize (listText m ms))
      · exact .inl (h hauth)
      · exact .inr (.inr ⟨rfl, hauth⟩)
    · rintro (h | ⟨k, hk, -⟩ | ⟨-, h⟩)
      · exact fun _ => h
      · cases hk
      · exact fun hauth => absurd hauth h

/-- The local part has no mark in it. -/
theorem unmarked_ceo : ∀ c ∈ lit "ceo", c ∉ marks := by decide +kernel

/-- Nor has the other one. -/
theorem unmarked_app : ∀ c ∈ lit "app", c ∉ marks := by decide +kernel

/-- An address in front of an allowed name and address is shown to the reader, and not judged. -/
theorem allows_listText_hidden :
    (newSenderPolicy [lit "*@allowed.test"]).allows
      (listText (.bare ⟨lit "ceo", unmarked_ceo⟩ ⟨lit "victim.test", by decide +kernel⟩)
        [.named ⟨lit " App", by decide +kernel⟩ ⟨lit "app", unmarked_app⟩
          ⟨lit "allowed.test", by decide +kernel⟩]) = true ∧
    (newSenderPolicy [lit "*@allowed.test"]).allows
      (Mailbox.bare ⟨lit "ceo", unmarked_ceo⟩
        ⟨lit "victim.test", by decide +kernel⟩).text = false := by
  decide +kernel

end Mailout
