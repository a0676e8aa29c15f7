import Mathlib.Data.List.Basic

/-!
# A cache that is fed by a watch

A server has objects, and a client keeps a copy of them that is brought up to date by the changes the
server sends. They arrive in the order in which they were made as far as they are about one object; those
about different objects may overtake each other, and a client that lists the objects anew misses what was
changed again meanwhile. Once everything has arrived the copy is what the server has
(`Coherent.eq_of_nil`), in whatever order it came (`Coherent.deliver`, `Coherent.skip`).
-/

namespace Go

variable {σ ε : Type}

/-- What a change does to the objects. Changes of different objects commute, and one overwrites another
of the same object. -/
structure Feed (σ ε : Type) where
  apply : σ → ε → σ
  /-- The two are about one object. -/
  same : ε → ε → Bool
  comm : ∀ {s e e'}, same e e' = false → apply (apply s e) e' = apply (apply s e') e
  cover : ∀ {s e e'}, same e e' = true → apply (apply s e) e' = apply s e'

namespace Feed

variable {feed : Feed σ ε}

/-- A change of an object none of the others is about may come last. -/
theorem foldl_comm {e : ε} : ∀ {l : List ε} {s : σ}, (∀ e' ∈ l, feed.same e e' = false) →
    l.foldl feed.apply (feed.apply s e) = feed.apply (l.foldl feed.apply s) e
  | [], _, _ => rfl
  | e' :: l, s, h => by
    rw [List.foldl_cons, feed.comm (h e' List.mem_cons_self), List.foldl_cons]
    exact foldl_comm fun d hd => h d (List.mem_cons_of_mem e' hd)

/-- A change of an object that is changed again does not matter. -/
theorem foldl_cover {e : ε} : ∀ {l : List ε} {s : σ}, (∃ e' ∈ l, feed.same e e' = true) →
    l.foldl feed.apply (feed.apply s e) = l.foldl feed.apply s
  | [], _, h => by
    obtain ⟨e', he', -⟩ := h
    cases he'
  | e' :: l, s, h => by
    rw [List.foldl_cons, List.foldl_cons]
    cases hsame : feed.same e e' with
    | true => rw [feed.cover hsame]
    | false =>
      rw [feed.comm hsame]
      obtain ⟨d, hd, hd'⟩ := h
      rcases List.mem_cons.mp hd with rfl | hd
      · rw [hsame] at hd'
        cases hd'
      · exact foldl_cover ⟨d, hd, hd'⟩

end Feed

/-- The objects of the server, the copy, and the changes that are under way. -/
structure Informer (σ ε : Type) where
  source : σ
  cache : σ
  pending : List ε

namespace Informer

section
variable (feed : Feed σ ε)

/-- Both sides when nothing is under way. -/
def synced (s : σ) : Informer σ ε := ⟨s, s, []⟩

/-- An object is changed at the server. -/
def write (i : Informer σ ε) (e : ε) : Informer σ ε :=
  ⟨feed.apply i.source e, i.cache, i.pending ++ [e]⟩

/-- The `n`-th change arrives, if none before it is about its object. -/
def deliver (i : Informer σ ε) (n : Nat) : Option (ε × Informer σ ε) :=
  match i.pending[n]? with
  | none => none
  | some e =>
    if (i.pending.take n).any (feed.same e) then none
    else some (e, ⟨i.source, feed.apply i.cache e, i.pending.eraseIdx n⟩)

/-- The `n`-th change never arrives, since its object was changed again. -/
def skip (i : Informer σ ε) (n : Nat) : Option (Informer σ ε) :=
  match i.pending[n]? with
  | none => none
  | some e =>
    if (i.pending.drop (n + 1)).any (feed.same e) then some { i with pending := i.pending.eraseIdx n }
    else none

/-- What is under way makes the copy what the server has. -/
def Coherent (i : Informer σ ε) : Prop := i.source = i.pending.foldl feed.apply i.cache

end

variable {feed : Feed σ ε} {i i' : Informer σ ε} {e : ε} {n : Nat}

/-- With nothing under way the copy is what the server has. -/
theorem coherent_synced (s : σ) : (synced s : Informer σ ε).Coherent feed := rfl

/-- A change at the server is under way then, behind the others. -/
theorem Coherent.write (h : i.Coherent feed) (e : ε) : (i.write feed e).Coherent feed := by
  show feed.apply i.source e = (i.pending ++ [e]).foldl feed.apply i.cache
  rw [List.foldl_append, ← h]
  rfl

/-- The changes before one that is under way, that one, and those behind it. -/
theorem pending_split (h : i.pending[n]? = some e) :
    i.pending = i.pending.take n ++ e :: i.pending.drop (n + 1) := by
  obtain ⟨hn, rfl⟩ := List.getElem?_eq_some_iff.mp h
  rw [← List.drop_eq_getElem_cons hn, List.take_append_drop]

/-- What a delivery does. -/
theorem deliver_eq_some (h : i.deliver feed n = some (e, i')) :
    i' = ⟨i.source, feed.apply i.cache e, i.pending.eraseIdx n⟩ ∧ i.pending[n]? = some e ∧
      ∀ e' ∈ i.pending.take n, feed.same e e' = false := by
  unfold deliver at h
  cases hget : i.pending[n]? with
  | none => rw [hget] at h; cases h
  | some found =>
    simp only [hget] at h
    split_ifs at h with hany
    cases h
    exact ⟨rfl, rfl, by simpa using hany⟩

/-- A change that arrives early commutes with those before it, since none of them is about its object. -/
theorem Coherent.deliver (h : i.Coherent feed) (hstep : i.deliver feed n = some (e, i')) :
    i'.Coherent feed := by
  obtain ⟨rfl, hget, hbefore⟩ := deliver_eq_some hstep
  show i.source = (i.pending.eraseIdx n).foldl feed.apply (feed.apply i.cache e)
  rw [h, List.eraseIdx_eq_take_drop_succ, List.foldl_append, Feed.foldl_comm hbefore]
  conv_lhs => rw [pending_split hget]
  rw [List.foldl_append, List.foldl_cons]

/-- What is skipped is no loss. -/
theorem skip_eq_some (h : i.skip feed n = some i') :
    ∃ e, i.pending[n]? = some e ∧ (∃ e' ∈ i.pending.drop (n + 1), feed.same e e' = true) ∧
      i' = { i with pending := i.pending.eraseIdx n } := by
  unfold skip at h
  cases hget : i.pending[n]? with
  | none => rw [hget] at h; cases h
  | some found =>
    simp only [hget] at h
    split_ifs at h with hany
    cases h
    exact ⟨found, rfl, by simpa using hany, rfl⟩

/-- A change that never arrives is covered by the later one of its object. -/
theorem Coherent.skip (h : i.Coherent feed) (hstep : i.skip feed n = some i') : i'.Coherent feed := by
  obtain ⟨e, hget, hlater, rfl⟩ := skip_eq_some hstep
  show i.source = (i.pending.eraseIdx n).foldl feed.apply i.cache
  rw [h, List.eraseIdx_eq_take_drop_succ, List.foldl_append]
  conv_lhs => rw [pending_split hget]
  rw [List.foldl_append, List.foldl_cons, Feed.foldl_cover hlater]

/-- Once everything has arrived the copy is what the server has. -/
theorem Coherent.eq_of_nil (h : i.Coherent feed) (hnil : i.pending = []) : i.cache = i.source := by
  rw [Coherent, hnil] at h
  exact h.symm

end Informer

end Go
