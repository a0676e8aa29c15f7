import Mathlib.Logic.Relation
import Mailout.Transaction

/-!
# How much of a body is in memory

A transaction is a sequence of steps (`Tx.Step`): it says something or reads, it writes a spool, makes
one with the settings of the snapshot or of a spool it made, closes one, or changes the message. None
of them puts more of a body into memory than the threshold allows, also where a file operation fails:
`Reaches.kept` is the invariant of all the worlds it goes through.
-/

namespace Mailout

open Go

/-! ## One spool -/

namespace Spool

/-- A spool with the settings of `fresh`, as Data keeps it: what is in memory is counted, and within
the threshold. -/
structure Kept (s fresh : Spool) : Prop where
  dir : s.dir = fresh.dir
  threshold : s.threshold = fresh.threshold
  counted : s.file = none → s.buf.length ≤ s.n
  bounded : s.file = none → (s.buf.length : Int) ≤ max fresh.threshold 0

variable {fresh s s' : Spool}

/-- A sibling is as new, with the same directory and threshold. -/
theorem Kept.sibling (h : Kept s fresh) : Kept s.sibling fresh :=
  ⟨h.dir, h.threshold, fun _ => Nat.zero_le _, fun _ => le_max_right _ _⟩

/-- A spool that is closed holds nothing in memory. -/
theorem Kept.close (h : Kept s fresh) : Kept s.close fresh :=
  ⟨h.dir, h.threshold, fun _ => Nat.zero_le _, fun _ => le_max_right _ _⟩

/-- A spool that is on disk has nothing in memory. -/
theorem Kept.of_file (hdir : s.dir = fresh.dir) (hthreshold : s.threshold = fresh.threshold)
    {f : SpoolFile} (hf : s.file = some f) : Kept s fresh := by
  refine ⟨hdir, hthreshold, fun hnone => ?_, fun hnone => ?_⟩
  all_goals
    rw [hf] at hnone
    cases hnone

/-- Reading takes no memory. -/
theorem Kept.read (h : Kept s fresh) (hs : SameBody s s') : Kept s' fresh := by
  have hdir := hs.dir.trans h.dir
  have hthreshold := hs.threshold.trans h.threshold
  cases hf' : s'.file with
  | some f => exact .of_file hdir hthreshold hf'
  | none =>
    have hf : s.file = none := by simpa [spooled, hf'] using hs.spooled.symm
    have hbuf : s'.buf = s.buf := by simpa [contents, hf, hf'] using hs.contents
    refine ⟨hdir, hthreshold, fun _ => ?_, fun _ => ?_⟩
    · rw [hbuf, hs.n]
      exact h.counted hf
    · rw [hbuf]
      exact h.bounded hf

/-- The test at the start of a write: behind it the write fits, or the spool is on disk. -/
theorem makeRoom_cases (p : Bytes) (st : SpoolState) :
    (∃ e st', (makeRoom p).run st = (.error e, st') ∧ st'.spool = st.spool) ∨
    (∃ st' f, (makeRoom p).run st = (.ok (), st') ∧ st'.spool.file = some f ∧
      st'.spool.dir = st.spool.dir ∧ st'.spool.threshold = st.spool.threshold) ∨
    (makeRoom p).run st = (.ok (), st) ∧ st.spool.file = none ∧
      (st.spool.n : Int) + p.length ≤ st.spool.threshold := by
  rw [makeRoom, Comp.run_bind_of_ok (run_self st)]
  split_ifs with h
  · rcases overflow_cases st with hrun | ⟨k, what, -, hrun⟩
    · exact .inr (.inl ⟨_, _, hrun, rfl, rfl, rfl⟩)
    · exact .inl ⟨_, _, hrun, rfl⟩
  · cases hf : st.spool.file with
    | some f => exact .inr (.inl ⟨st, f, rfl, hf, rfl, rfl⟩)
    | none =>
      refine .inr (.inr ⟨rfl, rfl, ?_⟩)
      simpa [hf] using h

/-- A write to the file stays in the file. -/
theorem writeFile_file (f : SpoolFile) (p : Bytes) (st : SpoolState) : ∃ g,
    ((writeFile f p).run st).2.spool.file = some g ∧
      ((writeFile f p).run st).2.spool.dir = st.spool.dir ∧
      ((writeFile f p).run st).2.spool.threshold = st.spool.threshold := by
  rw [writeFile, Comp.run_bind_of_ok (run_self st), Comp.run_bind_of_ok (run_ask st)]
  cases st.disk.answers st.disk.asked with
  | none => exact ⟨_, rfl, rfl, rfl⟩
  | some m => exact ⟨_, rfl, rfl, rfl⟩

/-- `spool.Write` keeps what is in memory within the threshold, whatever the disk answers. -/
theorem Kept.write {st : SpoolState} (h : Kept st.spool fresh) (p : Bytes) :
    Kept ((write p).run st).2.spool fresh := by
  rcases makeRoom_cases p st with ⟨e, st', hrun, hsame⟩ | ⟨st', f, hrun, hf, hdir, hthreshold⟩ |
    ⟨hrun, hf, hfits⟩
  · rw [Spool.write, Comp.run_bind_of_error hrun, hsame]
    exact h
  · rw [Spool.write, Comp.run_bind_of_ok hrun, Comp.run_bind_of_ok (run_self st'), hf]
    obtain ⟨g, hg, hdir', hthreshold'⟩ := writeFile_file f p st'
    exact .of_file (hdir'.trans (hdir.trans h.dir))
      (hthreshold'.trans (hthreshold.trans h.threshold)) hg
  · rw [Spool.write, Comp.run_bind_of_ok hrun, Comp.run_bind_of_ok (run_self st), hf]
    have hcounted := h.counted hf
    rw [h.threshold] at hfits
    refine ⟨h.dir, h.threshold, fun _ => ?_, fun _ => ?_⟩
    · show (st.spool.buf ++ p).length ≤ st.spool.n + p.length
      rw [List.length_append]
      omega
    · show ((st.spool.buf ++ p).length : Int) ≤ max fresh.threshold 0
      rw [List.length_append]
      omega

end Spool

/-! ## A transaction -/

namespace Tx

/-- What a transaction does next, from its `start`-th spool on; `fresh` has the settings of its
snapshot. -/
inductive Step (fresh : Spool) (start : SpoolRef) : World → World → Prop
  | watch {w w' : World} (h : Watches w w') : Step fresh start w w'
  | write (w : World) (ref : SpoolRef) (p : Bytes) :
      Step fresh start w ((onSpool ref (Spool.write p)).run w).2
  | create (w : World) : Step fresh start w ((create fresh).run w).2
  | sibling (w : World) (ref : SpoolRef) (hlow : start ≤ ref) (hhigh : ref < w.created) :
      Step fresh start w ((sibling ref).run w).2
  | close (w : World) (ref : SpoolRef) : Step fresh start w ((close ref).run w).2
  | setMessage (w : World) (msg : Message) : Step fresh start w ((setMessage msg).run w).2

/-- The worlds a transaction gets to by such steps. -/
def Reaches (fresh : Spool) (start : SpoolRef) : World → World → Prop :=
  Relation.ReflTransGen (Step fresh start)

/-- What is reached from what is reached is reached. -/
theorem reaches_trans {fresh : Spool} {start : SpoolRef} (w₁ w₂ w₃ : World)
    (h : Reaches fresh start w₁ w₂) (h' : Reaches fresh start w₂ w₃) : Reaches fresh start w₁ w₃ :=
  Relation.ReflTransGen.trans h h'

/-- The spools a transaction made are kept. -/
def Kept (fresh : Spool) (start : SpoolRef) (w : World) : Prop :=
  start ≤ w.created ∧ ∀ ref, start ≤ ref → ref < w.created → (w.spools ref).Kept fresh

variable {fresh : Spool} {start : SpoolRef} {w w' : World}

/-- A change of one spool, which keeps it. -/
theorem Kept.update (h : Kept fresh start w) {ref : SpoolRef} {s : Spool}
    (hs : (w.spools ref).Kept fresh → s.Kept fresh) {ref' : SpoolRef} (hlow : start ≤ ref')
    (hhigh : ref' < w.created) : (Function.update w.spools ref s ref').Kept fresh := by
  by_cases hr : ref' = ref
  · subst hr
    rw [Function.update_self]
    exact hs (h.2 ref' hlow hhigh)
  · rw [Function.update_of_ne hr]
    exact h.2 ref' hlow hhigh

/-- One more spool, which is kept. -/
theorem Kept.create (h : Kept fresh start w) {s : Spool} (hs : s.Kept fresh) :
    Kept fresh start ((Tx.create s).run w).2 := by
  refine ⟨Nat.le_succ_of_le h.1, fun ref hlow hhigh => ?_⟩
  show (Function.update w.spools w.created s ref).Kept fresh
  by_cases hr : ref = w.created
  · rw [hr, Function.update_self]
    exact hs
  · rw [Function.update_of_ne hr]
    exact h.2 ref hlow (Nat.lt_of_le_of_ne (Nat.le_of_lt_succ hhigh) hr)

/-- A step keeps the spools. -/
theorem Step.kept (hfresh : fresh.Kept fresh) (h : Step fresh start w w') (hw : Kept fresh start w) :
    Kept fresh start w' := by
  cases h with
  | watch h =>
    obtain ⟨es, hes⟩ := h
    refine ⟨hes.created ▸ hw.1, fun ref hlow hhigh => ?_⟩
    exact (hw.2 ref hlow (hes.created ▸ hhigh)).read (hes.spools ref)
  | write ref p => exact ⟨hw.1, fun _ => hw.update fun hs => Spool.Kept.write hs p⟩
  | create => exact hw.create hfresh
  | sibling ref hlow hhigh => exact hw.create (hw.2 ref hlow hhigh).sibling
  | close ref => exact ⟨hw.1, fun _ => hw.update Spool.Kept.close⟩
  | setMessage msg => exact hw

/-- **Memory.** At every point of a transaction, each of its spools holds within the threshold what it
holds in memory. -/
theorem Reaches.kept (hfresh : fresh.Kept fresh) (h : Reaches fresh start w w')
    (hw : Kept fresh start w) : Kept fresh start w' := by
  induction h with
  | refl => exact hw
  | tail _ hstep ih => exact hstep.kept hfresh ih

end Tx

end Mailout
