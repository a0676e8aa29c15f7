import Mailout.Go.Run
import Mailout.Spool

/-!
# A spool as a sequence of bytes

What a spool is for: a list of bytes that `Write` appends to, in memory and on disk alike.
`SequenceOp.onBytes` is what each method is to do to such a list, and `SequenceOp.perform` what it
does. In memory they are the same. On disk all methods move one offset, and `Write` writes where it
stands, so a write behind a read that stopped early goes into the middle of the body.

`sequence_iff` says that this is the only difference: a sequence of operations is answered as on a
list, at each of its steps, if and only if every write that writes anything finds the offset at the
end.
-/

namespace Mailout

open Go

/-- A method of a spool; a reader is read up to a limit. -/
inductive SequenceOp where
  | write (p : Bytes)
  | reset (data : Bytes)
  | len
  | bytes
  | headerBlock
  | reader (limit : Option Nat)
  | readerAt (offset : Nat) (limit : Option Nat)
  deriving DecidableEq, Repr

/-- What a method returns. -/
inductive SequenceResult where
  | done
  | length (n : Nat)
  | data (b : Bytes)
  | block (b : Bytes) (terminated : Bool)
  deriving DecidableEq, Repr

namespace SequenceOp

/-- A method on a list of bytes. -/
def onBytes (b : Bytes) : SequenceOp → SequenceResult × Bytes
  | .write p => (.done, b ++ p)
  | .reset data => (.done, data)
  | .len => (.length b.length, b)
  | .bytes => (.data b, b)
  | .headerBlock => (.block (headerBlockOf b).1 (headerBlockOf b).2, b)
  | .reader limit => (.data (limit.elim b b.take), b)
  | .readerAt offset limit =>
    (.data (limit.elim (b.drop (min offset b.length)) (b.drop (min offset b.length)).take), b)

/-- A method on a spool. -/
def perform : SequenceOp → SpoolOp SequenceResult
  | .write p => do
    Spool.write p
    return .done
  | .reset data => do
    Spool.reset data
    return .done
  | .len => return .length (← Spool.self).len
  | .bytes => return .data (← Spool.bytes)
  | .headerBlock => do
    let (block, terminated) ← Spool.headerBlock
    return .block block terminated
  | .reader limit => return .data (← Spool.readAll (← Spool.reader) limit)
  | .readerAt offset limit => return .data (← Spool.readAll (← Spool.readerAt offset) limit)

/-- What a sequence of methods returns on a list of bytes. -/
def resultsOn (b : Bytes) : List SequenceOp → List SequenceResult
  | [] => []
  | op :: ops => (op.onBytes b).1 :: resultsOn (op.onBytes b).2 ops

/-- A sequence of methods on a spool. -/
def performAll : List SequenceOp → SpoolOp (List SequenceResult)
  | [] => return []
  | op :: ops => return (← op.perform) :: (← performAll ops)

/-- The state behind a method, if it does not fail. -/
def next (st : SpoolState) (op : SequenceOp) : Option SpoolState :=
  match op.perform.run st with
  | (.ok _, st') => some st'
  | (.error _, _) => none

/-- A write that writes anything finds the body in memory, or the offset at the end of the file. -/
def InPlace (st : SpoolState) : SequenceOp → Prop
  | .write p => p = [] ∨ ∀ f ∈ st.spool.file, f.offset = f.content.length
  | _ => True

instance (st : SpoolState) (op : SequenceOp) : Decidable (InPlace st op) := by
  cases op <;> unfold InPlace <;> infer_instance

end SequenceOp

namespace Spool

/-! ## One method -/

/-- A spool that stands for a list of bytes, on a disk that does not fail. -/
structure Holds (st : SpoolState) (b : Bytes) : Prop where
  healthy : st.disk.Healthy
  contents : st.spool.contents = b
  sound : st.spool.Sound

variable {st : SpoolState} {b : Bytes}

/-- Reading leaves what a spool holds as it is. -/
theorem Holds.read {st' : SpoolState} (h : Holds st b) (hread : Reading st st')
    (hoffset : ∀ f, st'.spool.file = some f → f.offset ≤ f.content.length) : Holds st' b := by
  refine ⟨h.healthy.later hread.2, hread.1.contents.trans h.contents, ?_, hoffset⟩
  rw [hread.1.n, hread.1.contents]
  exact h.sound.size

/-- A read ends inside the file. -/
theorem readAll_offset {k : Nat} {r : Reader} (h : ReadsFrom st.spool k r)
    (hk : k ≤ st.spool.contents.length) (limit : Option Nat) :
    ∀ f, ((readAll r limit).run st).2.spool.file = some f → f.offset ≤ f.content.length := by
  have hstate : ((readAll r limit).run st).2 = ((deliver r limit).run st).2 := by
    obtain ⟨data, err, st', hrun, -⟩ := deliver_spec h limit
    rw [readAll, Comp.run_bind_of_ok hrun, hrun]
    cases err with
    | none => rfl
    | some e => rfl
  rw [hstate]
  cases r with
  | mem data =>
    obtain ⟨hf, -⟩ := h
    intro f hf'
    have hsame : st.spool.file = some f := hf'
    rw [hf] at hsame
    cases hsame
  | file =>
    obtain ⟨f, hf, rfl⟩ := h
    obtain ⟨data, err, st', hrun, -, hdata, -⟩ := deliver_spec (r := .file) ⟨f, hf, rfl⟩ limit
    have hlen : f.content = st.spool.contents := by simp [Spool.contents, hf]
    rw [run_deliver_file hf] at hrun ⊢
    obtain ⟨hres, -⟩ := Prod.mk.inj hrun
    rw [Except.ok.inj hres]
    rintro g ⟨⟩
    have hle : data.length ≤ f.content.length - f.offset := by
      rw [← List.length_drop, hlen]
      cases limit with
      | none => exact hdata.length_le
      | some n => exact hdata.length_le.trans (List.take_sublist _ _).length_le
    rw [← hlen] at hk
    show f.offset + data.length ≤ f.content.length
    omega

/-- Opening a reader and reading it. -/
theorem Holds.opened {op : SpoolOp Reader} {k : Nat} (h : Holds st b) (hopen : OpensAt op st k)
    (hk : k ≤ b.length) (limit : Option Nat) :
    ∃ st', Comp.run (do readAll (← op) limit) st =
      (.ok (limit.elim (b.drop k) (b.drop k).take), st') ∧ Holds st' b := by
  obtain ⟨hread, ⟨r, hr, hfrom⟩ | ⟨hfailed, -⟩⟩ := hopen
  · have hcontents : (op.run st).2.spool.contents = b := hread.1.contents.trans h.contents
    obtain ⟨hread', hres⟩ := readAll_yields hfrom limit
    have hok := hres.resolve_right fun hfailed => (h.healthy.later hread.2).not_failed hfailed.1
    rw [hcontents] at hok
    refine ⟨_, (Comp.run_bind_of_ok (Prod.ext hr rfl)).trans (Prod.ext hok rfl), ?_⟩
    exact h.read (hread.trans hread') (readAll_offset hfrom (hcontents ▸ hk) limit)
  · exact absurd hfailed h.healthy.not_failed

/-- `Write` where it appends. -/
theorem Holds.write (h : Holds st b) (hend : st.spool.AtEnd) (p : Bytes) :
    ∃ st', (Spool.write p).run st = (.ok (), st') ∧ Holds st' (b ++ p) := by
  obtain ⟨hlater, ⟨hok, happ⟩ | ⟨hfailed, -⟩⟩ := write_appends h.sound hend p
  · refine ⟨_, Prod.ext hok rfl, h.healthy.later hlater, ?_, happ.sound⟩
    rw [happ.contents, h.contents]
  · exact absurd hfailed h.healthy.not_failed

/-- `f.Write` on a disk that does not fail. -/
theorem run_write_file {f : SpoolFile} (hd : st.disk.Healthy) (hf : st.spool.file = some f)
    (p : Bytes) : (Spool.write p).run st = (.ok (), ⟨st.disk.after 1,
      { st.spool with file := some ⟨writeAt f.content f.offset p, f.offset + p.length⟩,
                      n := st.spool.n + p.length }⟩) := by
  have hroom : (makeRoom p).run st = (.ok (), st) := by
    rw [makeRoom, Comp.run_bind_of_ok (run_self st), if_neg (by simp [hf])]
    rfl
  rw [Spool.write, Comp.run_bind_of_ok hroom, Comp.run_bind_of_ok (run_self st), hf]
  show (writeFile f p).run st = _
  rw [writeFile, Comp.run_bind_of_ok (run_self st), Comp.run_bind_of_ok (run_ask st),
    hd _ (Nat.le_refl _)]
  rfl

/-- Writing nothing changes nothing, wherever the offset stands. -/
theorem Holds.write_nil (h : Holds st b) :
    ∃ st', (Spool.write []).run st = (.ok (), st') ∧ Holds st' b := by
  cases hf : st.spool.file with
  | none =>
    have hend : st.spool.AtEnd := fun f hf' => by rw [hf] at hf'; cases hf'
    obtain ⟨st', hrun, hst'⟩ := h.write hend []
    exact ⟨st', hrun, List.append_nil b ▸ hst'⟩
  | some f =>
    have hle := h.sound.offset f hf
    have hwrite : writeAt f.content f.offset [] = f.content := by
      simp [writeAt, Nat.sub_eq_zero_of_le hle]
    refine ⟨_, run_write_file h.healthy hf [], h.healthy.after 1, ?_, ?_, ?_⟩
    · rw [← h.contents]
      simp [Spool.contents, hf, hwrite]
    · have hsize := h.sound.size
      simpa [Spool.contents, hf, hwrite] using hsize
    · rintro g ⟨⟩
      simpa [hwrite] using hle

/-- On a disk that does not fail a system call goes through. -/
theorem run_call_healthy (hd : st.disk.Healthy) (what : Bytes) :
    (call what).run st = (.ok (), { st with disk := st.disk.after 1 }) := by
  rw [run_call, hd _ (Nat.le_refl _)]
  rfl

/-- So does a seek. -/
theorem run_seek_healthy (hd : st.disk.Healthy) (f : SpoolFile) (offset : Nat) (what : Bytes) :
    (seek f offset what).run st =
      (.ok (), ⟨st.disk.after 1, { st.spool with file := some { f with offset := offset } }⟩) := by
  rw [run_seek, hd _ (Nat.le_refl _)]
  rfl

/-- `Reset`: the offset is at the start of an empty file when the new body is written. -/
theorem Holds.reset (h : Holds st b) (data : Bytes) :
    ∃ st', (Spool.reset data).run st = (.ok (), st') ∧ Holds st' data := by
  rw [Spool.reset, Comp.run_bind_of_ok (run_self st)]
  cases hf : st.spool.file with
  | none =>
    have hempty : Holds { st with spool := { st.spool with buf := [], file := none, n := 0 } } [] :=
      ⟨h.healthy, rfl, rfl, fun f hf' => by cases hf'⟩
    obtain ⟨st', hrun, hst'⟩ := hempty.write (fun f hf' => by cases hf') data
    dsimp only
    rw [Comp.run_bind_of_ok (run_set _ st)]
    exact ⟨st', hrun, hst'⟩
  | some f =>
    have hd₁ := h.healthy.after 1
    have hempty : Holds ⟨(st.disk.after 1).after 1,
        { st.spool with file := some ⟨[], 0⟩, n := 0 }⟩ [] :=
      ⟨hd₁.after 1, rfl, rfl, fun f hf' => by cases hf'; exact Nat.le_refl 0⟩
    obtain ⟨st', hrun, hst'⟩ := hempty.write (fun f hf' => by cases hf'; rfl) data
    dsimp only
    rw [Comp.run_bind_of_ok (run_call_healthy h.healthy _), Comp.run_bind_of_ok (run_set _ _),
      Comp.run_bind_of_ok (run_seek_healthy hd₁ _ _ _), Comp.run_bind_of_ok (run_self _),
      Comp.run_bind_of_ok (run_set _ _)]
    exact ⟨st', hrun, hst'⟩

/-- `Bytes` gives what the spool holds. -/
theorem Holds.bytes (h : Holds st b) :
    ∃ st', Spool.bytes.run st = (.ok b, st') ∧ Holds st' b := by
  rw [Spool.bytes, Comp.run_bind_of_ok (run_self st)]
  cases hf : st.spool.file with
  | none =>
    have hbuf : st.spool.buf = b := by
      rw [← h.contents]
      simp [Spool.contents, hf]
    refine ⟨st, ?_, h⟩
    rw [← hbuf]
    rfl
  | some f => exact h.opened (reader_opens st) (Nat.zero_le _) none

/-- The header block is that of what the spool holds. -/
theorem Holds.headerBlock (h : Holds st b) :
    ∃ st', Spool.headerBlock.run st = (.ok (headerBlockOf b), st') ∧ Holds st' b := by
  obtain ⟨st', hrun, hst'⟩ := h.opened (reader_opens st) (Nat.zero_le _) (some maxHeaderBytes)
  refine ⟨st', ?_, hst'⟩
  have hbind : Spool.headerBlock =
      (do readAll (← reader) (some maxHeaderBytes)) >>= fun block => return cutBlock block := by
    rw [bind_assoc]
    rfl
  rw [hbind, Comp.run_bind_of_ok hrun]
  rfl

end Spool

namespace SequenceOp

variable {st : SpoolState} {b : Bytes}

/-- **One method.** It returns what it does on a list of bytes, and leaves the spool with what it
leaves there. -/
theorem perform_holds {op : SequenceOp} (h : Spool.Holds st b) (hop : op.InPlace st) :
    ∃ st', op.perform.run st = (.ok (op.onBytes b).1, st') ∧ Spool.Holds st' (op.onBytes b).2 := by
  cases op with
  | write p =>
    have hwrite : ∃ st', (Spool.write p).run st = (.ok (), st') ∧ Spool.Holds st' (b ++ p) := by
      rcases hop with rfl | hend
      · rw [List.append_nil]
        exact h.write_nil
      · exact h.write hend p
    obtain ⟨st', hrun, hst'⟩ := hwrite
    exact ⟨st', Comp.run_bind_of_ok hrun, hst'⟩
  | reset data =>
    obtain ⟨st', hrun, hst'⟩ := h.reset data
    exact ⟨st', Comp.run_bind_of_ok hrun, hst'⟩
  | len =>
    have hsize : st.spool.n = b.length := by rw [h.sound.size, h.contents]
    refine ⟨st, ?_, h⟩
    rw [perform, Comp.run_bind_of_ok (Spool.run_self st), Spool.len, hsize]
    rfl
  | bytes =>
    obtain ⟨st', hrun, hst'⟩ := h.bytes
    exact ⟨st', Comp.run_bind_of_ok hrun, hst'⟩
  | headerBlock =>
    obtain ⟨st', hrun, hst'⟩ := h.headerBlock
    exact ⟨st', Comp.run_bind_of_ok hrun, hst'⟩
  | reader limit =>
    obtain ⟨st', hrun, hst'⟩ := h.opened (Spool.reader_opens st) (Nat.zero_le _) limit
    refine ⟨st', ?_, hst'⟩
    rw [perform, ← bind_assoc, Comp.run_bind_of_ok hrun]
    rfl
  | readerAt offset limit =>
    have hsize : st.spool.n = b.length := by rw [h.sound.size, h.contents]
    have hopen := Spool.readerAt_opens st offset
    rw [hsize] at hopen
    obtain ⟨st', hrun, hst'⟩ := h.opened hopen (Nat.min_le_right _ _) limit
    refine ⟨st', ?_, hst'⟩
    rw [perform, ← bind_assoc, Comp.run_bind_of_ok hrun]
    rfl

/-! ## Sequences of methods -/

/-- A sequence of methods is answered as on a list of bytes. -/
def Agrees (st : SpoolState) (b : Bytes) (ops : List SequenceOp) : Prop :=
  ((performAll ops).run st).1 = .ok (resultsOn b ops)

/-- A first method that is answered as on a list leaves the answers to the others. -/
theorem agrees_cons {op : SequenceOp} {ops : List SequenceOp} {st' : SpoolState}
    (hrun : op.perform.run st = (.ok (op.onBytes b).1, st')) :
    Agrees st b (op :: ops) ↔ Agrees st' (op.onBytes b).2 ops := by
  rw [Agrees, Agrees, performAll, Comp.run_bind_of_ok hrun, resultsOn, Comp.run_bind]
  rcases (performAll ops).run st' with ⟨outs | e, st''⟩
  · simp
  · simp

/-- To agree on the bytes is to hold them. -/
theorem agrees_bytes (hd : st.disk.Healthy) :
    Agrees st b [.bytes] ↔ st.spool.contents = b := by
  obtain ⟨-, hok | ⟨hfailed, -⟩⟩ := Spool.bytes_yields st
  · have hrun : (perform .bytes).run st = (.ok (.data st.spool.contents), (Spool.bytes.run st).2) :=
      Comp.run_bind_of_ok (Prod.ext hok rfl)
    rw [Agrees, performAll, Comp.run_bind_of_ok hrun]
    show Except.ok [SequenceResult.data _] = Except.ok [.data b] ↔ _
    simp
  · exact absurd hfailed hd.not_failed

/-- A write makes a file longer only where it goes beyond its end. -/
theorem length_writeAt {content p : Bytes} {offset : Nat} (h : offset ≤ content.length) :
    (Spool.writeAt content offset p).length = max content.length (offset + p.length) := by
  simp only [Spool.writeAt, List.length_append, List.length_take, List.length_replicate,
    List.length_drop]
  omega

/-- A write that is out of place is seen by the next `Bytes`. -/
theorem not_agrees_of_not_inPlace {op : SequenceOp} (h : Spool.Holds st b) (hop : ¬ op.InPlace st) :
    ¬ Agrees st b [op, .bytes] := by
  cases op with
  | write p =>
    unfold InPlace at hop
    push Not at hop
    obtain ⟨hp, f, hf, hoffset⟩ := hop
    have hle := h.sound.offset f hf
    have hb : f.content = b := by
      rw [← h.contents]
      simp [Spool.contents, Option.mem_def.mp hf]
    have hrun : (perform (.write p)).run st = (.ok .done, _) :=
      Comp.run_bind_of_ok (Spool.run_write_file h.healthy hf p)
    rw [agrees_cons hrun, agrees_bytes (h.healthy.after 1)]
    -- The write overlaps what was there, so the body is too short by that.
    intro hcontents
    have hwritten : Spool.writeAt f.content f.offset p = b ++ p := hcontents
    have hlen := congrArg List.length hwritten
    rw [length_writeAt hle, List.length_append, hb] at hlen
    have hpos := List.length_pos_iff.mpr hp
    rw [hb] at hle hoffset
    omega
  | _ => exact absurd trivial hop

/-- A first method in its place leaves the condition on the others. -/
theorem meets_cons {op : SequenceOp} {ops : List SequenceOp} {st' : SpoolState} {r : SequenceResult}
    (hrun : op.perform.run st = (.ok r, st')) (hop : op.InPlace st) :
    Meets next InPlace st (op :: ops) ↔ Meets next InPlace st' ops := by
  have hnext : next st op = some st' := by rw [next, hrun]
  constructor
  · intro hmeets
    exact hmeets.2 st' hnext
  · intro hmeets
    refine ⟨hop, fun t ht => ?_⟩
    rw [hnext] at ht
    cases ht
    exact hmeets

/-- Every method in its place is answered as on a list. -/
theorem agrees_of_meets {ops : List SequenceOp} (h : Spool.Holds st b)
    (hmeets : Meets next InPlace st ops) : Agrees st b ops := by
  induction ops generalizing st b with
  | nil => rfl
  | cons op ops ih =>
    obtain ⟨st', hrun, hst'⟩ := perform_holds h hmeets.1
    exact (agrees_cons hrun).mpr (ih hst' ((meets_cons hrun hmeets.1).mp hmeets))

/-- Every method is in its place if the body is right behind each of them. -/
theorem meets_iff {ops : List SequenceOp} (h : Spool.Holds st b) :
    (∀ k, Agrees st b (ops.take k ++ [.bytes])) ↔ Meets next InPlace st ops := by
  induction ops generalizing st b with
  | nil =>
    refine iff_of_true (fun k => ?_) trivial
    rw [List.take_nil]
    exact (agrees_bytes h.healthy).mpr h.contents
  | cons op ops ih =>
    by_cases hop : op.InPlace st
    · obtain ⟨st', hrun, hst'⟩ := perform_holds h hop
      rw [meets_cons hrun hop, ← ih hst']
      constructor
      · intro hagrees k
        exact (agrees_cons hrun).mp (hagrees (k + 1))
      · intro hagrees k
        cases k with
        | zero => exact (agrees_bytes h.healthy).mpr h.contents
        | succ k => exact (agrees_cons hrun).mpr (hagrees k)
    · refine iff_of_false (fun hagrees => ?_) fun hmeets => hop hmeets.1
      have hfirst := hagrees 1
      rw [List.take_succ_cons, List.take_zero] at hfirst
      exact not_agrees_of_not_inPlace h hop hfirst

end SequenceOp

/-- A spool as it is created. -/
def Spool.fresh (dir : Bytes) (threshold : Int) : Spool := ⟨dir, threshold, [], none, 0⟩

open SequenceOp

/-- **A spool as a list.** From an empty spool, on a disk that does not fail, a sequence of methods
is answered as on a list of bytes, with the right body behind each of them, if and only if every
write that writes anything finds the body in memory or the offset at the end of the file. -/
theorem sequence_iff {disk : Disk} (hdisk : disk.Healthy) (dir : Bytes) (threshold : Int)
    (ops : List SequenceOp) :
    (Agrees ⟨disk, .fresh dir threshold⟩ [] ops ∧
      ∀ k, Agrees ⟨disk, .fresh dir threshold⟩ [] (ops.take k ++ [.bytes])) ↔
      Meets next InPlace ⟨disk, .fresh dir threshold⟩ ops := by
  have h : Spool.Holds ⟨disk, .fresh dir threshold⟩ [] :=
    ⟨hdisk, rfl, rfl, fun f hf => by cases hf⟩
  constructor
  · intro hagrees
    exact (meets_iff h).mp hagrees.2
  · intro hmeets
    exact ⟨agrees_of_meets h hmeets, (meets_iff h).mpr hmeets⟩

/-- A body on disk, read to its end and written on. -/
theorem sequence_iff_onDisk :
    Agrees ⟨⟨fun _ => none, 0⟩, .fresh [] (-1)⟩ []
        [.write (lit "ab"), .reader none, .write (lit "c"), .len] ∧
      ∀ k, Agrees ⟨⟨fun _ => none, 0⟩, .fresh [] (-1)⟩ []
        ([.write (lit "ab"), .reader none, .write (lit "c"), .len].take k ++ [.bytes]) :=
  (sequence_iff (fun _ _ => rfl) [] (-1) _).mpr (by decide +kernel)

/-- **Read, then written.** On disk, a write behind a read of the first byte overwrites the second. -/
theorem write_overwrites :
    ((performAll [.write (lit "ab"), .reader (some 1), .write (lit "c"), .bytes]).run
        ⟨⟨fun _ => none, 0⟩, .fresh [] (-1)⟩).1 =
      .ok [.done, .data (lit "a"), .done, .data (lit "ac")] ∧
    ¬ Agrees ⟨⟨fun _ => none, 0⟩, .fresh [] (-1)⟩ []
      [.write (lit "ab"), .reader (some 1), .write (lit "c"), .bytes] := by
  unfold Agrees
  decide +kernel

end Mailout
