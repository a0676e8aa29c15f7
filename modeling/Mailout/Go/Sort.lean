import Mathlib.Data.List.Basic

/-!
# Sorting

`sort.Slice`, by a key or by any comparison that is a strict weak order. The sort is not stable: of its
result it is only known that it is a permutation in order (`SortsBy`, `Sorts`). What a search finds in
it therefore depends on the order the list came in (`exists_sortsBy`, where the order is kept among
equal keys), unless there is only one thing to be found (`find?_of_perm`).
-/

namespace Go

variable {α κ : Type} [LE κ]

/-- A result of `sort.Slice(xs, func(i, j int) bool { return key(xs[i]) < key(xs[j]) })`. -/
structure SortsBy (key : α → κ) (xs ys : List α) : Prop where
  perm : ys.Perm xs
  sorted : ys.Pairwise fun a b => key a ≤ key b

/-- A result of `sort.Slice(xs, func(i, j int) bool { return less(xs[i], xs[j]) })`. -/
structure Sorts (less : α → α → Bool) (xs ys : List α) : Prop where
  perm : ys.Perm xs
  sorted : ys.Pairwise fun a b => less b a = false

/-- The only element of a list that meets a condition is found in every order. -/
theorem find?_of_perm {p : α → Bool} {xs ys : List α} (h : ys.Perm xs)
    (hunique : ∀ a ∈ xs, ∀ b ∈ xs, p a = true → p b = true → a = b) :
    ys.find? p = xs.find? p := by
  cases hx : xs.find? p with
  | none =>
    rw [List.find?_eq_none] at hx ⊢
    exact fun a ha => hx a (h.mem_iff.mp ha)
  | some a =>
    cases hy : ys.find? p with
    | none =>
      rw [List.find?_eq_none] at hy
      exact absurd (List.find?_some hx) (hy a (h.mem_iff.mpr (List.mem_of_find?_eq_some hx)))
    | some b =>
      rw [hunique a (List.mem_of_find?_eq_some hx) b (h.mem_iff.mp (List.mem_of_find?_eq_some hy))
        (List.find?_some hx) (List.find?_some hy)]

/-- One result of the sort keeps the order among equal keys. -/
theorem exists_sortsBy [Std.IsLinearPreorder κ] (key : α → κ) (xs : List α) :
    ∃ ys, SortsBy key xs ys ∧ ∀ p : α → Bool,
      (∀ a b, p a = true → p b = true → key a = key b) → ys.find? p = xs.find? p := by
  classical
  let le : α → α → Bool := fun a b => decide (key a ≤ key b)
  have htrans : ∀ a b c, le a b = true → le b c = true → le a c = true := by
    intro a b c hab hbc
    exact decide_eq_true (Std.le_trans (of_decide_eq_true hab) (of_decide_eq_true hbc))
  have htotal : ∀ a b, (le a b || le b a) = true := by
    intro a b
    simpa [le] using Std.le_total (a := key a) (b := key b)
  refine ⟨xs.mergeSort le, ⟨List.mergeSort_perm xs le, ?_⟩, fun p hp => ?_⟩
  · exact (List.pairwise_mergeSort htrans htotal xs).imp of_decide_eq_true
  · -- the elements that meet the condition have one key, so they stay as they are
    have hsorted : (xs.filter p).Pairwise fun a b => le a b = true := by
      refine List.pairwise_of_forall_mem_list fun a ha b hb => decide_eq_true ?_
      rw [hp a b (List.mem_filter.mp ha).2 (List.mem_filter.mp hb).2]
      exact Std.le_refl _
    have hsub : (xs.filter p).Sublist ((xs.mergeSort le).filter p) := by
      have hkept := (List.sublist_mergeSort htrans htotal hsorted List.filter_sublist).filter p
      simpa only [List.filter_filter, Bool.and_self] using hkept
    have hlen : (xs.filter p).length = ((xs.mergeSort le).filter p).length :=
      ((List.mergeSort_perm xs le).filter p).length_eq.symm
    rw [← List.head?_filter, ← List.head?_filter, hsub.eq_of_length hlen]

end Go
