import Mailout.Transaction

/-!
# Failures of the disk, and who reports them

`Disk.Failed` says that a file operation failed between two states of the disk. `Alarms B x` says that
a failure while `x` runs shows in its result, which satisfies `B` then; `Blames E x` is the other half:
`x` fails with an `E` only when the disk did. Both go along the sequences and the error handling of a
computation. The methods of a spool do both (`Spool.reports_write`, `Spool.blames_write` and so on), and
so does a part of a transaction that works on spools (`Warns`).
-/

namespace Mailout

open Go

/-! ## Failures, and who reports them -/

section
variable {σ α β : Type} {disk : σ → Disk} {B : Except Err α → Prop} {C : Except Err β → Prop}
  {x : Comp Err σ α} {f : α → Comp Err σ β}

/-- A file operation that fails during a run of `x` shows in its result, which satisfies `B` then. -/
def Alarms (disk : σ → Disk) (B : Except Err α → Prop) (x : Comp Err σ α) : Prop :=
  ∀ s, (disk s).Later (disk (x.run s).2) ∧ ((disk s).Failed (disk (x.run s).2) → B (x.run s).1)

/-- A result that is an error `E`. -/
def FailsWith (E : Err → Prop) (r : Except Err α) : Prop := ∃ e, r = .error e ∧ E e

/-- A value is no error. -/
theorem not_failsWith_ok {α : Type} {E : Err → Prop} (a : α) : ¬ FailsWith E (.ok a) := by
  rintro ⟨e, he, -⟩
  cases he

/-- What does not ask the disk cannot find it failing. -/
theorem Alarms.calm (h : ∀ s, disk (x.run s).2 = disk s) : Alarms disk B x := by
  intro s
  rw [h s]
  exact ⟨.refl _, fun hfailed => absurd hfailed (Disk.not_failed _)⟩

/-- A run that ended otherwise than with an alarm met no failure. -/
theorem Alarms.not_failed {s s' : σ} {r : Except Err α} (hx : Alarms disk B x)
    (hrun : x.run s = (r, s')) (hr : ¬ B r) : ¬ (disk s).Failed (disk s') := by
  have h := (hx s).2
  rw [hrun] at h
  exact fun hfailed => hr (h hfailed)

/-- The disk goes on while `x` runs. -/
theorem Alarms.later {s s' : σ} {r : Except Err α} (hx : Alarms disk B x)
    (hrun : x.run s = (r, s')) : (disk s).Later (disk s') := by
  have h := (hx s).1
  rwa [hrun] at h

/-- A sequence raises the alarm if each of its parts does and the second hands on what the first
found. -/
theorem Alarms.bind (hx : Alarms disk B x) (hf : ∀ a, Alarms disk C (f a))
    (hok : ∀ a, B (.ok a) → ∀ s, C ((f a).run s).1) (herr : ∀ e, B (.error e) → C (.error e)) :
    Alarms disk C (x >>= f) := by
  intro s
  obtain ⟨hl, hB⟩ := hx s
  cases hrun : x.run s with
  | mk r s₁ =>
    rw [hrun] at hl hB
    cases r with
    | error e =>
      rw [Comp.run_bind_of_error hrun]
      exact ⟨hl, fun hfailed => herr e (hB hfailed)⟩
    | ok a =>
      obtain ⟨hl', hC⟩ := hf a s₁
      rw [Comp.run_bind_of_ok hrun]
      refine ⟨hl.trans hl', fun hfailed => ?_⟩
      rcases hfailed.split hl with h | h
      · exact hok a (hB h) s₁
      · exact hC h

/-- A sequence whose parts fail when the disk does. -/
theorem Alarms.next {E : Err → Prop} (hx : Alarms disk (FailsWith E) x)
    (hf : ∀ a, Alarms disk (FailsWith E) (f a)) : Alarms disk (FailsWith E) (x >>= f) := by
  refine hx.bind hf ?_ ?_
  · rintro a ⟨e, he, -⟩
    cases he
  · rintro e ⟨e', he, hE⟩
    exact ⟨e', congrArg Except.error (Except.error.inj he), hE⟩

/-- A call whose error is looked at: what is done with the error is itself an alarm. -/
theorem Alarms.caught {E : Err → Prop} {k : Except Err α → Comp Err σ β}
    (hx : Alarms disk (FailsWith E) x) (hk : ∀ r, Alarms disk C (k r))
    (herr : ∀ e, E e → ∀ s, C ((k (.error e)).run s).1) :
    Alarms disk C (x.attempt >>= k) := by
  have hattempt : Alarms disk (fun r : Except Err (Except Err α) =>
      ∃ r', r = .ok r' ∧ FailsWith E r') x.attempt :=
    fun s => ⟨(hx s).1, fun hfailed => ⟨_, rfl, (hx s).2 hfailed⟩⟩
  refine hattempt.bind hk ?_ ?_
  · rintro r ⟨r', heq, e, rfl, hE⟩
    cases heq
    exact herr e hE
  · rintro e ⟨r', heq, -⟩
    cases heq

/-- A deferred clean-up that does not ask the disk changes nothing of the alarm. -/
theorem Alarms.deferred {cleanup : Comp Err σ Unit} (hx : Alarms disk B x)
    (hc : ∀ s, disk (cleanup.run s).2 = disk s) : Alarms disk B (Comp.deferred cleanup x) := by
  intro s
  rw [Comp.run_deferred]
  simp only [hc]
  exact hx s

/-- The same for a clean-up that is made on errors only. -/
theorem Alarms.onError {cleanup : Comp Err σ Unit} (hx : Alarms disk B x)
    (hc : ∀ s, disk (cleanup.run s).2 = disk s) : Alarms disk B (Comp.onError cleanup x) := by
  intro s
  have h := hx s
  cases hrun : x.run s with
  | mk r s₁ =>
    rw [hrun] at h
    cases r with
    | ok a =>
      rw [Comp.run_onError_of_ok hrun]
      exact h
    | error e =>
      rw [Comp.run_onError_of_error hrun, hc]
      exact h

end

section
variable {σ α β : Type} {disk : σ → Disk} {E : Err → Prop} {x : Comp Err σ α} {f : α → Comp Err σ β}

/-- A run of `x` that fails with an `E` met a failure of the disk. -/
def Blames (disk : σ → Disk) (E : Err → Prop) (x : Comp Err σ α) : Prop :=
  ∀ s, FailsWith E (x.run s).1 → (disk s).Failed (disk (x.run s).2)

/-- What does not fail with an `E` has no one to blame. -/
theorem Blames.never (h : ∀ s, ¬ FailsWith E (x.run s).1) : Blames disk E x :=
  fun s hfails => absurd hfails (h s)

/-- A run that ended with an `E` met a failure. -/
theorem Blames.failed {s s' : σ} {e : Err} (hx : Blames disk E x) (hrun : x.run s = (.error e, s'))
    (he : E e) : (disk s).Failed (disk s') := by
  have h := hx s
  rw [hrun] at h
  exact h ⟨e, rfl, he⟩

/-- A sequence blames the disk if each of its parts does. -/
theorem Blames.bind (hl : ∀ s, (disk s).Later (disk (x.run s).2)) (hx : Blames disk E x)
    (hf : ∀ a, Blames disk E (f a)) : Blames disk E (x >>= f) := by
  intro s hfails
  have hxs := hx s
  have hls := hl s
  cases hrun : x.run s with
  | mk r s₁ =>
    rw [hrun] at hxs hls
    cases r with
    | error e =>
      rw [Comp.run_bind_of_error hrun] at hfails ⊢
      obtain ⟨e', he, hE⟩ := hfails
      exact hxs ⟨e', congrArg Except.error (Except.error.inj he), hE⟩
    | ok a =>
      rw [Comp.run_bind_of_ok hrun] at hfails ⊢
      exact (hf a s₁ hfails).before hls

/-- A call whose error is looked at: whatever is returned for it, the call blamed the disk. -/
theorem Blames.caught {k : Except Err α → Comp Err σ β} (hl : ∀ s, (disk s).Later (disk (x.run s).2))
    (hx : Blames disk (fun _ => True) x) (hkl : ∀ e s, (disk s).Later (disk ((k (.error e)).run s).2))
    (hk : ∀ a, Blames disk E (k (.ok a))) : Blames disk E (x.attempt >>= k) := by
  intro s hfails
  have hattempt : x.attempt.run s = (.ok (x.run s).1, (x.run s).2) := Comp.run_attempt _ _
  rw [Comp.run_bind_of_ok hattempt] at hfails ⊢
  cases hr : (x.run s).1 with
  | error e => exact (hx s ⟨e, hr, trivial⟩).onward (hkl e _)
  | ok a =>
    rw [hr] at hfails
    exact (hk a _ hfails).before (hl s)

end

/-! ## The spool -/

/-- An error that is no reply. -/
def IsOther (e : Err) : Prop := ∃ what, e = .other what

namespace Spool

/-- A method of a spool that returns the error of the disk. -/
abbrev Reports {α : Type} (op : SpoolOp α) : Prop := Alarms SpoolState.disk (FailsWith IsOther) op

variable {α : Type} {E : Err → Prop}

/-- A method that does not ask the disk. -/
theorem reports_calm {op : SpoolOp α} (h : ∀ st, (op.run st).2.disk = st.disk) : Reports op :=
  .calm h

/-- A file operation that transfers nothing. -/
theorem reports_call (what : Bytes) : Reports (call what) := by
  intro st
  rw [run_call]
  refine ⟨⟨1, rfl⟩, fun hfailed => ⟨.other what, ?_, what, rfl⟩⟩
  rw [if_pos (Disk.failed_after_one.mp hfailed)]

/-- Moving to a file: creating it, unlinking it and writing the buffer to it may each fail. -/
theorem reports_overflow : Reports overflow := by
  refine (reports_calm fun _ => rfl).next fun s => ?_
  refine (reports_call _).next fun _ => (reports_call _).next fun _ => (reports_call _).next fun _ => ?_
  exact reports_calm fun _ => rfl

/-- Setting the offset of the file. -/
theorem reports_seek (f : SpoolFile) (offset : Nat) (what : Bytes) : Reports (seek f offset what) := by
  refine (reports_call what).next fun _ => (reports_calm fun _ => rfl).next fun s => ?_
  exact reports_calm fun _ => rfl

/-- A write to the file, which may be cut short. -/
theorem reports_writeFile (f : SpoolFile) (p : Bytes) : Reports (writeFile f p) := by
  refine (reports_calm fun _ => rfl).next fun s st => ?_
  rw [Comp.run_bind_of_ok (run_ask st)]
  cases ha : st.disk.answers st.disk.asked with
  | none =>
    refine ⟨⟨1, rfl⟩, fun hfailed => ?_⟩
    have := Disk.failed_after_one.mp hfailed
    rw [ha] at this
    cases this
  | some m => exact ⟨⟨1, rfl⟩, fun _ => ⟨_, rfl, _, rfl⟩⟩

/-- The move to a file, where a write is due to it. -/
theorem reports_makeRoom (p : Bytes) : Reports (makeRoom p) := by
  refine (reports_calm fun _ => rfl).next fun s => ?_
  split_ifs
  · exact reports_overflow
  · exact reports_calm fun _ => rfl

/-- `spool.Write` returns the error of the disk. -/
theorem reports_write (p : Bytes) : Reports (write p) := by
  refine (reports_makeRoom p).next fun _ => (reports_calm fun _ => rfl).next fun s => ?_
  cases s.file with
  | some f => exact reports_writeFile f p
  | none => exact reports_calm fun _ => rfl

/-- So does `spool.Reader`, which rewinds the file. -/
theorem reports_reader : Reports reader := by
  refine (reports_calm fun _ => rfl).next fun s => ?_
  cases s.file with
  | none => exact reports_calm fun _ => rfl
  | some f => exact (reports_seek f 0 _).next fun _ => reports_calm fun _ => rfl

/-- And `spool.ReaderAt`. -/
theorem reports_readerAt (offset : Nat) : Reports (readerAt offset) := by
  refine (reports_calm fun _ => rfl).next fun s => ?_
  simp only
  cases s.file with
  | none => exact reports_calm fun _ => rfl
  | some f => exact (reports_seek f _ _).next fun _ => reports_calm fun _ => rfl

/-- A delivery that says it was cut short. -/
def CutShort (r : Except Err (Bytes × Option Err)) : Prop :=
  ∃ data e, r = .ok (data, some e) ∧ IsOther e

/-- A read of a file gives what it transferred, and the error it ended in, which is no reply. -/
theorem deliver_file_run (limit : Option Nat) (st : SpoolState) : ∃ data err,
    ((deliver .file limit).run st).1 = .ok (data, err) ∧ ∀ e, err = some e → IsOther e := by
  cases hf : st.spool.file with
  | none =>
    rw [deliver, Comp.run_bind_of_ok (run_self st), hf]
    refine ⟨_, _, rfl, ?_⟩
    rintro e ⟨⟩
    exact ⟨_, rfl⟩
  | some f =>
    rw [run_deliver_file hf]
    refine ⟨_, _, rfl, fun e he => ?_⟩
    obtain ⟨m, -, rfl⟩ := Option.map_eq_some_iff.mp he
    exact ⟨_, rfl⟩

/-- A reader gives what it read together with the error that cut it short. -/
theorem alarms_deliver (r : Reader) (limit : Option Nat) :
    Alarms SpoolState.disk CutShort (deliver r limit) := by
  cases r with
  | mem data => exact .calm fun _ => rfl
  | file =>
    intro st
    cases hf : st.spool.file with
    | none =>
      have hrun : (deliver .file limit).run st =
          (.ok ([], some (.other (lit "read spool file"))), st) := by
        rw [deliver, Comp.run_bind_of_ok (run_self st), hf]
        rfl
      rw [hrun]
      exact ⟨.refl _, fun hfailed => absurd hfailed (Disk.not_failed _)⟩
    | some f =>
      rw [run_deliver_file hf]
      refine ⟨⟨1, rfl⟩, fun hfailed => ?_⟩
      obtain ⟨m, hm⟩ := Option.isSome_iff_exists.mp (Disk.failed_after_one.mp hfailed)
      rw [transferred, hm]
      exact ⟨_, _, rfl, _, rfl⟩

/-- Reading to the end returns that error. -/
theorem reports_readAll (r : Reader) (limit : Option Nat) : Reports (readAll r limit) := by
  refine (alarms_deliver r limit).bind ?_ ?_ ?_
  · rintro ⟨data, _ | e⟩ <;> exact reports_calm fun _ => rfl
  · rintro got ⟨data, e, heq, hother⟩ st
    cases heq
    exact ⟨e, rfl, hother⟩
  · rintro e ⟨data, e', heq, -⟩
    cases heq

/-- The header block is read from the start of the spool. -/
theorem reports_headerBlock : Reports headerBlock :=
  reports_reader.next fun r => (reports_readAll r _).next fun _ => reports_calm fun _ => rfl

/-- A file operation that transfers nothing fails when the disk does, and only then. -/
theorem blames_call (what : Bytes) : Blames SpoolState.disk E (call what) := by
  rintro st ⟨e, he, -⟩
  rw [run_call] at he ⊢
  split_ifs at he with h
  exact Disk.failed_after_one.mpr h

/-- Moving to a file fails only with one of its three operations. -/
theorem blames_overflow : Blames SpoolState.disk E overflow := by
  have hcall : ∀ what st, SpoolState.disk st |>.Later ((call what).run st).2.disk :=
    fun what st => (reports_call what st).1
  refine .bind (fun _ => .refl _) (.never fun _ => not_failsWith_ok _) fun s => ?_
  refine .bind (hcall _) (blames_call _) fun _ => .bind (hcall _) (blames_call _) fun _ => ?_
  exact .bind (hcall _) (blames_call _) fun _ => .never fun _ => not_failsWith_ok _

/-- A write to the file fails only with the disk. -/
theorem blames_writeFile (f : SpoolFile) (p : Bytes) : Blames SpoolState.disk E (writeFile f p) := by
  refine .bind (fun _ => .refl _) (.never fun _ => not_failsWith_ok _) fun s => ?_
  rintro st ⟨e, he, -⟩
  rw [Comp.run_bind_of_ok (run_ask st)] at he ⊢
  cases hans : st.disk.answers st.disk.asked with
  | none =>
    rw [hans] at he
    cases he
  | some m => exact Disk.failed_after_one.mpr (by rw [hans]; rfl)

/-- `spool.Write` fails only with the disk. -/
theorem blames_write (p : Bytes) : Blames SpoolState.disk E (write p) := by
  have hroom : Blames SpoolState.disk E (makeRoom p) := by
    refine .bind (fun _ => .refl _) (.never fun _ => not_failsWith_ok _) fun s => ?_
    split_ifs
    · exact blames_overflow
    · exact .never fun _ => not_failsWith_ok _
  refine .bind (fun st => (reports_makeRoom p st).1) hroom fun _ => ?_
  refine .bind (fun _ => .refl _) (.never fun _ => not_failsWith_ok _) fun s => ?_
  cases s.file with
  | some f => exact blames_writeFile f p
  | none => exact .never fun _ => not_failsWith_ok _

/-- A reading operation that has a value fails only with the disk. -/
theorem Yields.blames {op : SpoolOp α} {st : SpoolState} {v : α} (h : Yields op st v)
    (hfails : FailsWith E (op.run st).1) : st.disk.Failed (op.run st).2.disk := by
  obtain ⟨-, hok | ⟨hfailed, -⟩⟩ := h
  · rw [hok] at hfails
    exact absurd hfails (not_failsWith_ok _)
  · exact hfailed

/-- The header block can be read unless the disk fails. -/
theorem blames_headerBlock : Blames SpoolState.disk E headerBlock :=
  fun st => (headerBlock_yields st).blames

end Spool

/-! ## A part of a transaction -/

section
variable {α : Type} {E : Err → Prop}

open Tx Comp

/-- A stretch of a run that does not ask the disk. -/
def Calm (w w' : World) : Prop := w'.disk = w.disk

/-- Nothing happens to the disk in no time. -/
theorem Calm.refl (w : World) : Calm w w := rfl

/-- Two stretches that do not ask the disk are one. -/
theorem Calm.trans (w₁ w₂ w₃ : World) (h : Calm w₁ w₂) (h' : Calm w₂ w₃) : Calm w₁ w₃ :=
  Eq.trans h' h

/-- A part of a transaction that fails with an `E` when the disk does. -/
abbrev Warns (E : Err → Prop) (x : Tx α) : Prop := Alarms World.disk (FailsWith E) x

/-- What does not ask the disk has nothing to warn of. -/
theorem Warns.calm {x : Tx α} (h : Keeps Calm x) : Warns E x := Alarms.calm h

/-- The alarm of a method of a spool, behind a pointer. -/
theorem Alarms.onSpool {B : Except Err α → Prop} {op : SpoolOp α}
    (h : Alarms SpoolState.disk B op) (ref : SpoolRef) : Alarms World.disk B (onSpool ref op) :=
  fun w => h ⟨w.disk, w.spools ref⟩

/-- A method that blames the disk does so behind a pointer. -/
theorem Blames.onSpool {op : SpoolOp α} (h : Blames SpoolState.disk E op) (ref : SpoolRef) :
    Blames World.disk E (onSpool ref op) :=
  fun w => h ⟨w.disk, w.spools ref⟩

/-- The errors of `spool.Write` are no replies. -/
theorem raises_write (p : Bytes) : Raises IsOther (Spool.write p) := by
  have hcall : ∀ what, Raises IsOther (Spool.call what) := by
    intro what
    refine .bind (.of_ok fun _ => ⟨_, rfl⟩) fun got => ?_
    split_ifs
    · exact .fail ⟨what, rfl⟩
    · exact .of_ok fun _ => ⟨_, rfl⟩
  have hroom : Raises IsOther (Spool.makeRoom p) := by
    refine .bind (.of_ok fun _ => ⟨_, rfl⟩) fun s => ?_
    split_ifs
    · refine .bind (.of_ok fun _ => ⟨_, rfl⟩) fun s => ?_
      refine .bind (hcall _) fun _ => .bind (hcall _) fun _ => .bind (hcall _) fun _ => ?_
      exact .of_ok fun _ => ⟨_, rfl⟩
    · exact .of_ok fun _ => ⟨_, rfl⟩
  refine .bind hroom fun _ => .bind (.of_ok fun _ => ⟨_, rfl⟩) fun s => ?_
  cases s.file with
  | none => exact .of_ok fun _ => ⟨_, rfl⟩
  | some f =>
    refine .bind (.of_ok fun _ => ⟨_, rfl⟩) fun s => .bind (.of_ok fun _ => ⟨_, rfl⟩) fun got => ?_
    cases got with
    | none => exact .of_ok fun _ => ⟨_, rfl⟩
    | some m => exact .bind (.of_ok fun _ => ⟨_, rfl⟩) fun _ => .fail ⟨_, rfl⟩

/-- `dst.Write` on a spool. -/
theorem warns_write (ref : SpoolRef) (p : Bytes) : Warns IsOther (onSpool ref (Spool.write p)) :=
  (Spool.reports_write p).onSpool ref

/-- What `io.Copy` does with what it read: it is written, unless it is nothing. -/
theorem warns_pass {write : Bytes → Tx Unit} (hwrite : ∀ p, Warns E (write p)) (data : Bytes) :
    Warns E (Tx.pass write data) := by
  unfold Tx.pass
  split_ifs
  · exact .calm fun _ => rfl
  · exact hwrite data

/-- What is passed on to a spool fails only with the disk. -/
theorem blames_pass (ref : SpoolRef) (data : Bytes) :
    Blames World.disk E (Tx.pass (fun p => onSpool ref (Spool.write p)) data) := by
  unfold Tx.pass
  split_ifs
  · exact .never fun _ => not_failsWith_ok _
  · exact (Spool.blames_write data).onSpool ref

/-- A copy fails when the disk does, with an error of the read or of the write. -/
theorem warns_copy (hother : ∀ e, IsOther e → E e) {src : SpoolRef} {write : Bytes → Tx Unit}
    (hwrite : ∀ p, Warns E (write p)) (hraises : ∀ p, Raises E (write p)) (r : Reader) :
    Warns E (copy src r write) := by
  have hpass : ∀ data, Raises E (Tx.pass write data) := by
    intro data
    unfold Tx.pass
    split_ifs
    · exact .of_ok fun _ => ⟨_, rfl⟩
    · exact hraises data
  have hloop : ∀ fuel, Warns E (copyFile src write fuel) := by
    intro fuel
    induction fuel with
    | zero => exact .calm fun _ => rfl
    | succ fuel ih =>
      refine ((Spool.alarms_deliver _ _).onSpool src).bind ?_ ?_ ?_
      · rintro ⟨data, err⟩
        refine (warns_pass hwrite data).next fun _ => ?_
        cases err with
        | some e => exact .calm fun _ => rfl
        | none =>
          simp only
          split_ifs
          · exact .calm fun _ => rfl
          · exact ih
      · -- a read that failed: what it gave is written before its error is returned
        rintro got ⟨data, e, heq, he⟩ w
        cases heq
        have hend : Raises E (do Tx.pass write data; Comp.fail e : Tx Unit) :=
          (hpass data).bind fun _ => .fail (hother e he)
        cases hrun : (do Tx.pass write data; Comp.fail e : Tx Unit).run w with
        | mk res w₁ =>
          cases res with
          | ok u =>
            obtain ⟨_, w₂, -, hfail⟩ := Comp.run_bind_ok hrun
            cases hfail
          | error e' =>
            have he' : ((do Tx.pass write data; Comp.fail e : Tx Unit).run w).1 = .error e' :=
              congrArg Prod.fst hrun
            exact ⟨e', rfl, hend w e' he'⟩
      · rintro e ⟨data, e', heq, -⟩
        cases heq
  cases r with
  | mem data => exact warns_pass hwrite data
  | file => exact Alarms.next (.calm fun _ => rfl) fun w => hloop _

/-- The errors of a method of a spool, behind a pointer. -/
theorem raises_onSpool {op : SpoolOp α} (h : Raises E op) (ref : SpoolRef) :
    Raises E (onSpool ref op) := fun w => h ⟨w.disk, w.spools ref⟩

/-- A stretch of a run behind which the disk has gone on. -/
def Onward (w w' : World) : Prop := w.disk.Later w'.disk

/-- The disk may stand still. -/
theorem Onward.refl (w : World) : Onward w w := Disk.Later.refl _

/-- The disk goes on along a sequence. -/
theorem Onward.trans (w₁ w₂ w₃ : World) (h : Onward w₁ w₂) (h' : Onward w₂ w₃) : Onward w₁ w₃ :=
  Disk.Later.trans h h'

/-- A part that warns lets the disk go on. -/
theorem Warns.onward {α : Type} {E : Err → Prop} {x : Tx α} (h : Warns E x) : Keeps Onward x :=
  fun w => (h w).1

end

end Mailout
