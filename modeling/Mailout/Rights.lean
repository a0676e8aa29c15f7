import Mailout.Dkim
import Mailout.Mailbox

/-!
# The right to sign and the right to send

A policy judges an address by `bareAddress`, which trims before and after it looks for brackets; the
key of a message is looked up by `domainOf`, which trims the domain alone. `trimSpace_insideAngles` and
`bareAddress_domain` say where the two can differ: in white space between the `@` and the domain.
`allows_signs` says that they agree for every policy none of whose entries has white space: an account
may have a domain signed exactly if there is an address in it that the account may send from.
-/

namespace Mailout

open Go SenderPolicy

/-! ## Two extractors -/

/-- The brackets an address is looked for in: none, one that is not closed, or a pair. -/
theorem insideAngles_cases (a : Bytes) :
    lessThan ∉ a ∨ (∃ p t, a = p ++ lessThan :: t ∧ lessThan ∉ t ∧ greaterThan ∉ t) ∨
      ∃ p s q, a = p ++ lessThan :: (s ++ greaterThan :: q) ∧ lessThan ∉ s ∧ greaterThan ∉ s ∧
        lessThan ∉ q := by
  by_cases ha : lessThan ∈ a
  · obtain ⟨t, p, hsplit, ht⟩ := List.eq_append_cons_of_mem (List.mem_reverse.mpr ha)
    have ha' : a = p.reverse ++ lessThan :: t.reverse := by
      rw [← List.reverse_reverse a, hsplit]
      simp
    have ht' : lessThan ∉ t.reverse := fun h => ht (List.mem_reverse.mp h)
    generalize t.reverse = u at ha' ht'
    by_cases hu : greaterThan ∈ u
    · obtain ⟨s, q, rfl, hs⟩ := List.eq_append_cons_of_mem hu
      rw [List.mem_append, List.mem_cons, not_or, not_or] at ht'
      exact .inr (.inr ⟨p.reverse, s, q, ha', ht'.1, hs, ht'.2.2⟩)
    · exact .inr (.inl ⟨p.reverse, u, ha', ht', hu⟩)
  · exact .inl ha

/-- A bracket that is not closed is part of the address. -/
theorem insideAngles_open {p t : Bytes} (ht : lessThan ∉ t) (ht' : greaterThan ∉ t) :
    insideAngles (p ++ lessThan :: t) = p ++ lessThan :: t := by
  have hclose : indexByte greaterThan (lessThan :: t) = none := by
    refine indexByte_eq_none ?_
    rw [List.mem_cons, not_or]
    exact ⟨by decide, ht'⟩
  rw [insideAngles, lastIndexByte_append p ht]
  simp only [List.drop_left, hclose]

/-- Trimming an address before its brackets are looked for changes nothing that is left when it is
trimmed afterwards. -/
theorem trimSpace_insideAngles (a : Bytes) :
    trimSpace (insideAngles (trimSpace a)) = trimSpace (insideAngles a) := by
  rcases insideAngles_cases a with ha | ⟨p, t, rfl, ht, ht'⟩ | ⟨p, s, q, rfl, hs, hs', hq⟩
  · have htrim : lessThan ∉ trimSpace a := fun h => ha (mem_of_mem_trimSpace h)
    rw [insideAngles_of_not_mem ha, insideAngles_of_not_mem htrim, trimSpace_trimSpace]
  · -- what is trimmed off behind the bracket neither closes it nor opens another
    have hkept : ∀ b ∈ rawOf ((runes t).rdropWhile RuneAt.space), b ∈ t := by
      intro b hb
      obtain ⟨u, hu⟩ := List.rdropWhile_prefix RuneAt.space (runes t)
      rw [← rawOf_runes t, ← hu, rawOf_append]
      exact List.mem_append_left _ hb
    have htrim := trimSpace_at (c := lessThan) (by decide) (by decide) p t
    have hopen : insideAngles (trimSpace (p ++ lessThan :: t)) = trimSpace (p ++ lessThan :: t) := by
      rw [htrim, insideAngles_open (fun h => ht (hkept _ h)) fun h => ht' (hkept _ h)]
    rw [hopen, insideAngles_open ht ht', trimSpace_trimSpace]
  · obtain ⟨p', q', htrim, hpre⟩ := trimSpace_between (c := lessThan) (d := greaterThan)
      (by decide) (by decide) (by decide) (by decide) p s q
    rw [htrim, insideAngles_between hs hs' hq, insideAngles_between hs hs' fun h => hq (hpre.subset h)]

/-- What is judged of an address, cut at its `@`, and the domain that is looked for a key. -/
theorem bareAddress_domain {a : Bytes} (h : bareAddress a ≠ []) :
    ∃ l d, cut atSign (bareAddress a) = some (l, rawOf ((runes d).rdropWhile RuneAt.space)) ∧
      domainOf a = toLower (trimSpace d) := by
  have hbare : bareAddress a = trimSpace (insideAngles a) ∧ atSign ∈ trimSpace (insideAngles a) := by
    unfold bareAddress at h ⊢
    dsimp only at h ⊢
    rw [trimSpace_insideAngles] at h ⊢
    split_ifs at h ⊢ with hat
    · exact ⟨rfl, contains_byte.mp hat⟩
    · exact absurd rfl h
  obtain ⟨l, d, hsplit, hl⟩ := List.eq_append_cons_of_mem (mem_of_mem_trimSpace hbare.2)
  refine ⟨rawOf ((runes l).dropWhile RuneAt.space), d, ?_, ?_⟩
  · rw [hbare.1, hsplit, trimSpace_at (by decide) (by decide)]
    refine cut_append (fun hmem => hl ?_) _
    obtain ⟨u, hu⟩ := List.dropWhile_suffix (p := RuneAt.space) (l := runes l)
    rw [← rawOf_runes l, ← hu, rawOf_append]
    exact List.mem_append_right _ hmem
  · rw [domainOf, hsplit, cut_append hl]

/-! ## Entries as addresses -/

/-- An entry without white space and angle brackets. -/
structure PlainEntry (e : Bytes) : Prop where
  solid : Solid e
  lessThan : lessThan ∉ e
  greaterThan : greaterThan ∉ e

/-- A normalized entry is in lower case. -/
theorem toLower_normalize (e : Bytes) : toLower (normalize e) = normalize e := toLower_toLower _

/-- A plain entry, taken for an address: it is judged as it stands. -/
theorem PlainEntry.bareAddress {e : Bytes} (he : PlainEntry e) (hat : atSign ∈ normalize e) :
    bareAddress (normalize e) = normalize e := by
  have hless : Mailout.lessThan ∉ normalize e := by
    rw [Go.normalize, mem_toLower (by decide), he.solid.trimSpace]
    exact he.lessThan
  rw [bareAddress_of_not_mem hless hat, he.solid.normalize.trimSpace]

/-- The domain of a plain entry has no spaces in it. -/
theorem PlainEntry.domain {e l d : Bytes} (he : PlainEntry e)
    (hcut : cut atSign (normalize e) = some (l, d)) : Solid d := by
  have hsolid := he.solid.normalize
  rw [(cut_eq_some.mp hcut).1] at hsolid
  exact hsolid.behind (by decide)

/-- And its domain is the one behind its `@`. -/
theorem PlainEntry.domainOf {e l d : Bytes} (he : PlainEntry e)
    (hcut : cut atSign (normalize e) = some (l, d)) : domainOf (normalize e) = d := by
  have hless : Mailout.lessThan ∉ normalize e := by
    rw [Go.normalize, mem_toLower (by decide), he.solid.trimSpace]
    exact he.lessThan
  have hsolid := he.domain hcut
  have hlow := cut_toLower (c := atSign) (by decide) (normalize e)
  rw [toLower_normalize, hcut, Option.map_some, Option.some.injEq, Prod.mk.injEq] at hlow
  rw [Mailout.domainOf, insideAngles_of_not_mem hless, hcut]
  show toLower (trimSpace d) = d
  rw [hsolid.trimSpace]
  exact hlow.2.symm

/-- **The right to sign a domain is the right to send from it.** -/
theorem allows_signs (entries : List Bytes) (hplain : ∀ e ∈ entries, PlainEntry e) :
    (∀ a, (newSenderPolicy entries).allows a = true →
      (newSenderPolicy entries).canSign (domainOf a) = true) ∧
    ∀ d, (newSenderPolicy entries).canSign d = true →
      ∃ a, (newSenderPolicy entries).allows a = true ∧ domainOf a = normalize d := by
  constructor
  · intro a ha
    obtain ⟨hne, hauth⟩ := allows_iff.mp ha
    have hbare : bareAddress a ≠ [] := by
      intro h
      rw [h] at hne
      exact hne rfl
    obtain ⟨l, d, hcut, hdomain⟩ := bareAddress_domain hbare
    generalize hright : rawOf ((runes d).rdropWhile RuneAt.space) = d' at hcut
    have hlow := cut_toLower (c := atSign) (by decide) (bareAddress a)
    rw [hcut] at hlow
    have hsigns := hauth.signs hlow
    -- the domain is granted, so it has no white space, and both extractors trim it alike
    obtain ⟨e, he, -, lp, hentry, hnil⟩ := hsigns.granted
    have hsolid := (hplain e he).domain hentry
    have hsolid' : Solid d' := solid_toLower.mp hsolid
    have htrim : trimSpace d = d' := by
      rw [← hright] at hsolid' ⊢
      exact trimSpace_of_solid_right hsolid'
    have hnormal : normalize (toLower d') = toLower d' := by
      rw [Go.normalize, hsolid.trimSpace, toLower_toLower]
    rw [hdomain, htrim, canSign_iff, hnormal]
    exact ⟨hnil, hsigns⟩
  · intro d hd
    obtain ⟨-, hsigns⟩ := canSign_iff.mp hd
    obtain ⟨e, he, hauth, l, hcut, -⟩ := hsigns.granted
    have hat : atSign ∈ normalize e := by
      rw [(cut_eq_some.mp hcut).1]
      exact List.mem_append_right _ List.mem_cons_self
    refine ⟨normalize e, allows_iff.mpr ?_, (hplain e he).domainOf hcut⟩
    rw [(hplain e he).bareAddress hat, toLower_normalize]
    exact ⟨List.ne_nil_of_mem hat, hauth⟩

/-- Entries of both kinds. -/
theorem allows_signs_app :
    (∀ a, (newSenderPolicy [lit "App@example.com", lit "*@example.org"]).allows a = true →
      (newSenderPolicy [lit "App@example.com", lit "*@example.org"]).canSign (domainOf a) = true) ∧
    ∀ d, (newSenderPolicy [lit "App@example.com", lit "*@example.org"]).canSign d = true →
      ∃ a, (newSenderPolicy [lit "App@example.com", lit "*@example.org"]).allows a = true ∧
        domainOf a = normalize d := by
  refine allows_signs _ fun e he => ?_
  simp only [List.mem_cons, List.not_mem_nil, or_false] at he
  rcases he with rfl | rfl
  · exact ⟨by decide +kernel, by decide, by decide⟩
  · exact ⟨by decide +kernel, by decide, by decide⟩

end Mailout
