import Mailout.Go.Comp
import Mailout.Message

/-!
# The spool of one message

`internal/gateway/spool.go`. A spool holds a body in memory up to a threshold and in a file past it.
The file has one descriptor, so one offset: a reader of a spooled body moves it, and a write goes
where it stands. What the operating system answers is a `Disk`: any file operation may fail, a
transfer after any number of bytes.

`contents` is the byte sequence a spool stands for. Reading is said in terms of it alone: `Yields op`
gives the value of a reading operation, which fails only when the disk does and moves nothing but the
offset (`headerBlock_yields`, `bytes_yields`). Writing is `write_appends`: on a spool whose offset
stands at the end, a write appends.
-/

namespace Mailout

open Go

/-- `smtp.SMTPError`. -/
structure SMTPError where
  code : Nat
  enhancedCode : Nat × Nat × Nat
  message : Bytes
  deriving DecidableEq, Repr

/-- An `error`: one that is an `*smtp.SMTPError`, the sentinel `errDiscard`, or any other. -/
inductive Err where
  | smtp (e : SMTPError)
  | discard
  | other (message : Bytes)
  deriving DecidableEq, Repr

/-- What the operating system answers to the file operations of a transaction, in the order they are
made: `none` for a success, `some m` for a failure, of a transfer after `m` bytes. -/
structure Disk where
  answers : Nat → Option Nat
  asked : Nat

/-- No operation from here on fails. -/
def Disk.Healthy (d : Disk) : Prop := ∀ i, d.asked ≤ i → d.answers i = none

/-- An open, unlinked file. -/
structure SpoolFile where
  content : Bytes
  offset : Nat
  deriving DecidableEq, Repr

/-- `spool`. -/
structure Spool where
  dir : Bytes
  threshold : Int
  buf : Bytes
  file : Option SpoolFile
  n : Nat
  deriving DecidableEq, Repr

/-- A method of a spool: it changes the spool and asks the disk. -/
structure SpoolState where
  disk : Disk
  spool : Spool

abbrev SpoolOp := Comp Err SpoolState

/-- An `io.Reader` over a body: a slice of its own in memory, or the descriptor of the spool. -/
inductive Reader where
  | mem (data : Bytes)
  | file
  deriving DecidableEq, Repr

namespace Spool

/-- The spool a method works on. -/
def self : SpoolOp Spool := do return (← Comp.get).spool

def set (s : Spool) : SpoolOp Unit := Comp.modify fun st => { st with spool := s }

/-- The answer to the next file operation. -/
def ask : SpoolOp (Option Nat) := do
  let st ← Comp.get
  Comp.modify fun st => { st with disk := { st.disk with asked := st.disk.asked + 1 } }
  return st.disk.answers st.disk.asked

/-- A file operation that transfers nothing. -/
def call (what : Bytes) : SpoolOp Unit := do
  if (← ask).isSome then Comp.fail (.other what)

/-- The bytes of a file after `p` was written at an offset; a gap before it reads as zeros. -/
def writeAt (content : Bytes) (offset : Nat) (p : Bytes) : Bytes :=
  content.take offset ++ List.replicate (offset - content.length) 0 ++ p ++
    content.drop (offset + p.length)

/-- `spool.spoolDir`; the system's temporary directory has no name here. -/
def spoolDir (s : Spool) : Bytes := if s.dir = [] then lit "TMPDIR" else s.dir

/-- `spool.overflow`: what is buffered moves to a file, unlinked as soon as it exists. -/
def overflow : SpoolOp Unit := do
  let s ← self
  call (lit "spool to " ++ s.spoolDir)
  call (lit "unlink spool file")
  call (lit "move body to spool")
  set { s with buf := [], file := some ⟨s.buf, s.buf.length⟩ }

/-- `f.Write` on the descriptor: a failed write leaves what it transferred. -/
def writeFile (f : SpoolFile) (p : Bytes) : SpoolOp Unit := do
  let s ← self
  match ← ask with
  | none => set { s with file := some ⟨writeAt f.content f.offset p, f.offset + p.length⟩,
                         n := s.n + p.length }
  | some m =>
    set { s with file := some ⟨writeAt f.content f.offset (p.take m), f.offset + (p.take m).length⟩,
                 n := s.n + (p.take m).length }
    Comp.fail (.other (lit "write spool file"))

/-- The test at the start of `spool.Write`. -/
def makeRoom (p : Bytes) : SpoolOp Unit := do
  let s ← self
  if s.file.isNone ∧ s.threshold < (s.n : Int) + p.length then overflow

/-- `spool.Write`. -/
def write (p : Bytes) : SpoolOp Unit := do
  makeRoom p
  let s ← self
  match s.file with
  | some f => writeFile f p
  | none => set { s with buf := s.buf ++ p, n := s.n + p.length }

/-- `spool.spooled`. -/
def spooled (s : Spool) : Bool := s.file.isSome

/-- `spool.Len`. -/
def len (s : Spool) : Nat := s.n

/-- `f.Seek(offset, io.SeekStart)`. -/
def seek (f : SpoolFile) (offset : Nat) (what : Bytes) : SpoolOp Unit := do
  call what
  let s ← self
  set { s with file := some { f with offset := offset } }

/-- `spool.Reader`. -/
def reader : SpoolOp Reader := do
  let s ← self
  match s.file with
  | none => return .mem s.buf
  | some f =>
    seek f 0 (lit "rewind spool")
    return .file

/-- `spool.ReaderAt`. -/
def readerAt (offset : Nat) : SpoolOp Reader := do
  let s ← self
  let offset := min offset s.n
  match s.file with
  | none => return .mem (s.buf.drop offset)
  | some f =>
    seek f offset (lit "seek spool")
    return .file

/-- What a reader delivers of its next `limit` bytes (all it has for `none`), and the error it ends
in if it does not reach them. -/
def deliver (r : Reader) (limit : Option Nat) : SpoolOp (Bytes × Option Err) := do
  match r with
  | .mem data => return (limit.elim data data.take, none)
  | .file =>
    let s ← self
    match s.file with
    | none => return ([], some (.other (lit "read spool file")))
    | some f =>
      let wanted := limit.elim (f.content.drop f.offset) (f.content.drop f.offset).take
      let got ← ask
      let data := got.elim wanted wanted.take
      set { s with file := some { f with offset := f.offset + data.length } }
      return (data, got.map fun _ => .other (lit "read spool file"))

/-- `io.ReadAll`, of at most `limit` bytes. -/
def readAll (r : Reader) (limit : Option Nat) : SpoolOp Bytes := do
  match ← deliver r limit with
  | (data, none) => return data
  | (_, some e) => Comp.fail e

/-- `spool.Bytes`. -/
def bytes : SpoolOp Bytes := do
  let s ← self
  match s.file with
  | none => return s.buf
  | some _ => readAll (← reader) none

/-- `spool.Reset`: replace the body, keeping the storage decision. -/
def reset (data : Bytes) : SpoolOp Unit := do
  let s ← self
  match s.file with
  | some f =>
    call (lit "truncate spool")
    set { s with file := some { f with content := [] } }
    seek { f with content := [] } 0 (lit "rewind spool")
    set { (← self) with n := 0 }
    write data
  | none =>
    set { s with buf := [], n := 0 }
    write data

/-- `spool.Close`; every caller drops its error. -/
def close (s : Spool) : Spool := { s with buf := [], file := none }

/-- `spool.sibling`, an empty spool with the same storage decisions. -/
def sibling (s : Spool) : Spool :=
  { dir := s.dir, threshold := s.threshold, buf := [], file := none, n := 0 }

end Spool

/-- A body that is in memory, on a disk that does not fail. -/
def inMemory (b : Bytes) : SpoolState :=
  ⟨⟨fun _ => none, 0⟩, { dir := [], threshold := b.length, buf := b, file := none, n := b.length }⟩

/-- `maxHeaderBytes`: how much of a body is read to find the end of its header block. -/
def maxHeaderBytes : Nat := 1024 * 1024

/-- Where `headerBlock` cuts a block: behind the first CRLF CRLF, else behind the first LF LF. -/
def cutBlock (block : Bytes) : Bytes × Bool :=
  match index (crlf ++ crlf) block with
  | some i => (block.take (i + 4), true)
  | none =>
    match index [lf, lf] block with
    | some i => (block.take (i + 2), true)
    | none => (block, false)

/-- `spool.headerBlock`. -/
def Spool.headerBlock : SpoolOp (Bytes × Bool) := do
  let block ← readAll (← reader) (some maxHeaderBytes)
  return cutBlock block

/-! ## What a spool holds -/

namespace Spool

/-- The bytes a spool stands for, wherever they are. -/
def contents (s : Spool) : Bytes := s.file.elim s.buf SpoolFile.content

/-- The part of a spool no reading operation touches: all but the offset of its file. -/
structure SameBody (s s' : Spool) : Prop where
  contents : s'.contents = s.contents
  dir : s'.dir = s.dir
  threshold : s'.threshold = s.threshold
  spooled : s'.spooled = s.spooled
  n : s'.n = s.n

/-- A spool holds what it holds. -/
theorem SameBody.refl (s : Spool) : SameBody s s := ⟨rfl, rfl, rfl, rfl, rfl⟩

/-- What is held stays held over two stretches of reading. -/
theorem SameBody.trans {s₁ s₂ s₃ : Spool} (h : SameBody s₁ s₂) (h' : SameBody s₂ s₃) :
    SameBody s₁ s₃ :=
  ⟨h'.contents.trans h.contents, h'.dir.trans h.dir,
    h'.threshold.trans h.threshold, h'.spooled.trans h.spooled, h'.n.trans h.n⟩

/-- Moving in the file does not change what the spool holds: the offset is no part of its contents. -/
theorem SameBody.offset {s : Spool} {f : SpoolFile} (h : s.file = some f) (k : Nat) :
    SameBody s { s with file := some { f with offset := k } } :=
  ⟨by simp [Spool.contents, h], rfl, rfl, by simp [Spool.spooled, h], rfl⟩

end Spool

/-- The header block of a body, and whether it was terminated. -/
def headerBlockOf (b : Bytes) : Bytes × Bool := cutBlock (b.take maxHeaderBytes)

namespace Disk

/-- The disk after `k` more file operations. -/
def after (d : Disk) (k : Nat) : Disk := { d with asked := d.asked + k }

/-- A disk that never fails does not fail later either. -/
theorem Healthy.after {d : Disk} (h : d.Healthy) (k : Nat) : (d.after k).Healthy :=
  fun i hi => h i (Nat.le_trans (Nat.le_add_right _ _) hi)

/-- A disk that answered some more operations. -/
def Later (d d' : Disk) : Prop := ∃ k, d' = d.after k

/-- No operation was asked for. -/
theorem Later.refl (d : Disk) : Later d d := ⟨0, rfl⟩

/-- The operations of two stretches are asked for one after the other. -/
theorem Later.trans {d₁ d₂ d₃ : Disk} (h : Later d₁ d₂) (h' : Later d₂ d₃) : Later d₁ d₃ := by
  obtain ⟨k, rfl⟩ := h
  obtain ⟨k', rfl⟩ := h'
  exact ⟨k + k', by simp [after, Nat.add_assoc]⟩

/-- A disk that never fails is such a disk whatever was asked of it. -/
theorem Healthy.later {d d' : Disk} (h : d.Healthy) (hl : Later d d') : d'.Healthy := by
  obtain ⟨k, rfl⟩ := hl
  exact h.after k

/-- An operation between two states of the disk failed. -/
def Failed (d d' : Disk) : Prop := ∃ i, d.asked ≤ i ∧ i < d'.asked ∧ (d.answers i).isSome = true

/-- Nothing fails where nothing is asked. -/
theorem not_failed (d : Disk) : ¬ d.Failed d := by
  rintro ⟨i, hle, hlt, -⟩
  omega

/-- One operation failed if the disk answers it with a failure. -/
theorem failed_after_one {d : Disk} :
    d.Failed (d.after 1) ↔ (d.answers d.asked).isSome = true := by
  constructor
  · rintro ⟨i, hle, hlt, h⟩
    have hi : i = d.asked := by
      simp only [after] at hlt
      omega
    rwa [hi] at h
  · exact fun h => ⟨d.asked, Nat.le_refl _, Nat.lt_succ_self _, h⟩

/-- What failed between two states failed before or behind one between them. -/
theorem Failed.split {d d₁ d₂ : Disk} (h : d.Failed d₂) (hl : d.Later d₁) :
    d.Failed d₁ ∨ d₁.Failed d₂ := by
  obtain ⟨k, rfl⟩ := hl
  obtain ⟨i, hle, hlt, hi⟩ := h
  by_cases hbefore : i < (d.after k).asked
  · exact .inl ⟨i, hle, hbefore, hi⟩
  · exact .inr ⟨i, Nat.not_lt.mp hbefore, hlt, hi⟩

/-- A failure stays one when the disk goes on. -/
theorem Failed.onward {d d₁ d₂ : Disk} (h : d.Failed d₁) (hl : d₁.Later d₂) : d.Failed d₂ := by
  obtain ⟨i, hle, hlt, hi⟩ := h
  obtain ⟨k, rfl⟩ := hl
  exact ⟨i, hle, Nat.lt_of_lt_of_le hlt (Nat.le_add_right _ _), hi⟩

/-- A failure behind a stretch is one of the stretch and what is behind it. -/
theorem Failed.before {d d₁ d₂ : Disk} (h : d₁.Failed d₂) (hl : d.Later d₁) : d.Failed d₂ := by
  obtain ⟨k, rfl⟩ := hl
  obtain ⟨i, hle, hlt, hi⟩ := h
  exact ⟨i, Nat.le_trans (Nat.le_add_right _ _) hle, hlt, hi⟩

/-- A disk that does not fail did not. -/
theorem Healthy.not_failed {d d' : Disk} (h : d.Healthy) : ¬ d.Failed d' := by
  rintro ⟨i, hle, -, hi⟩
  rw [h i hle] at hi
  cases hi

end Disk

namespace Spool

/-- Looking at the spool changes nothing. -/
@[simp] theorem run_self (st : SpoolState) : self.run st = (.ok st.spool, st) := rfl
/-- Setting the spool does not involve the disk. -/
@[simp] theorem run_set (s : Spool) (st : SpoolState) :
    (set s).run st = (.ok (), { st with spool := s }) := rfl
/-- An operation gets the next of the disk's answers. -/
@[simp] theorem run_ask (st : SpoolState) :
    ask.run st = (.ok (st.disk.answers st.disk.asked), { st with disk := st.disk.after 1 }) := rfl

/-- A system call fails if the disk has an answer for it, under the name of the call, and counts as asked in
either case. -/
theorem run_call (what : Bytes) (st : SpoolState) : (call what).run st =
    (if (st.disk.answers st.disk.asked).isSome then .error (.other what) else .ok (),
      { st with disk := st.disk.after 1 }) := by
  rw [call, Comp.run_bind_of_ok (run_ask st)]
  split_ifs <;> rfl

/-- A seek moves the offset of the file, unless the disk fails; the spool is left as it was then. -/
theorem run_seek (f : SpoolFile) (offset : Nat) (what : Bytes) (st : SpoolState) :
    (seek f offset what).run st =
      if (st.disk.answers st.disk.asked).isSome then
        (.error (.other what), { st with disk := st.disk.after 1 })
      else (.ok (), ⟨st.disk.after 1, { st.spool with file := some { f with offset := offset } }⟩) := by
  rw [seek, Comp.run_bind, run_call]
  split_ifs <;> rfl

/-- What a reading operation does to the spool and to the disk: it moves the offset at most. -/
def Reading (st st' : SpoolState) : Prop :=
  SameBody st.spool st'.spool ∧ Disk.Later st.disk st'.disk

/-- Nothing was read. -/
theorem Reading.refl (st : SpoolState) : Reading st st := ⟨.refl _, .refl _⟩

/-- Reading and reading on is reading. -/
theorem Reading.trans {st₁ st₂ st₃ : SpoolState} (h : Reading st₁ st₂) (h' : Reading st₂ st₃) :
    Reading st₁ st₃ := ⟨h.1.trans h'.1, h.2.trans h'.2⟩

/-- A reader over the body of a spool from an offset on. -/
def ReadsFrom (s : Spool) (k : Nat) : Reader → Prop
  | .mem data => s.file = none ∧ data = s.buf.drop k
  | .file => ∃ f, s.file = some f ∧ f.offset = k

/-- Opening a reader: it stands where it was asked to, or the disk failed. -/
def OpensAt (op : SpoolOp Reader) (st : SpoolState) (k : Nat) : Prop :=
  Reading st (op.run st).2 ∧
    ((∃ r, (op.run st).1 = .ok r ∧ ReadsFrom (op.run st).2.spool k r) ∨
      st.disk.Failed (op.run st).2.disk ∧ ∃ what, (op.run st).1 = .error (.other what))

/-- The common body of `Reader` and `ReaderAt`. -/
theorem opensAt_seek (st : SpoolState) (k : Nat) (what : Bytes) :
    OpensAt (match st.spool.file with
      | none => return .mem (st.spool.buf.drop k)
      | some f => do seek f k what; return .file) st k := by
  cases hf : st.spool.file with
  | none => exact ⟨.refl st, .inl ⟨_, rfl, hf, rfl⟩⟩
  | some f =>
    show OpensAt (do seek f k what; return .file) st k
    have hrun := run_seek f k what st
    split_ifs at hrun with h
    · rw [OpensAt, Comp.run_bind_of_error hrun]
      exact ⟨⟨.refl _, 1, rfl⟩, .inr ⟨Disk.failed_after_one.mpr h, what, rfl⟩⟩
    · rw [OpensAt, Comp.run_bind_of_ok hrun]
      exact ⟨⟨SameBody.offset hf k, 1, rfl⟩, .inl ⟨.file, rfl, _, rfl, rfl⟩⟩

/-- A spool in memory is read from its buffer, without the disk. -/
theorem run_reader_mem {st : SpoolState} (hf : st.spool.file = none) :
    reader.run st = (.ok (.mem st.spool.buf), st) := by
  rw [reader, Comp.run_bind_of_ok (run_self st), hf]
  rfl

/-- A spool on disk is rewound first. That is the one operation that can fail before a byte is read, and
`send` returns its error as it is. -/
theorem run_reader_file {st : SpoolState} {f : SpoolFile} (hf : st.spool.file = some f) :
    reader.run st = if (st.disk.answers st.disk.asked).isSome then
        (.error (.other (lit "rewind spool")), { st with disk := st.disk.after 1 })
      else (.ok .file, ⟨st.disk.after 1, { st.spool with file := some { f with offset := 0 } }⟩) := by
  rw [reader, Comp.run_bind_of_ok (run_self st), hf]
  show (seek f 0 (lit "rewind spool") >>= fun _ => _).run st = _
  rw [Comp.run_bind, run_seek]
  split_ifs <;> rfl

/-- `Reader` opens at the beginning. -/
theorem reader_opens (st : SpoolState) : OpensAt reader st 0 := by
  have h := opensAt_seek st 0 (lit "rewind spool")
  rwa [List.drop_zero] at h

/-- `ReaderAt` opens at the offset, or at the end of what the spool holds if that is before it. -/
theorem readerAt_opens (st : SpoolState) (k : Nat) :
    OpensAt (readerAt k) st (min k st.spool.n) :=
  opensAt_seek st (min k st.spool.n) (lit "seek spool")

/-- What a read of a file transfers, and the error it ends in: all that was asked for, or what the
disk let through. -/
def transferred (d : Disk) (wanted : Bytes) : Bytes × Option Err :=
  ((d.answers d.asked).elim wanted wanted.take,
    (d.answers d.asked).map fun _ => .other (lit "read spool file"))

/-- One read of the file: what the disk lets through of the bytes from the offset on, and the offset moves
behind them. -/
theorem run_deliver_file {st : SpoolState} {f : SpoolFile} (hf : st.spool.file = some f)
    (limit : Option Nat) :
    (deliver .file limit).run st =
      (.ok (transferred st.disk (limit.elim (f.content.drop f.offset) (f.content.drop f.offset).take)),
        ⟨st.disk.after 1, { st.spool with file := some { f with offset := f.offset +
          (transferred st.disk (limit.elim (f.content.drop f.offset)
            (f.content.drop f.offset).take)).1.length } }⟩) := by
  rw [deliver]
  simp only [Comp.run_bind, run_self, hf, run_ask, run_set, Comp.run_pure]
  rfl

/-- What a reader delivers: the bytes from where it stands, up to the limit; fewer only with an
error, which is the file system's and which it gives only when it failed. -/
theorem deliver_spec {st : SpoolState} {k : Nat} {r : Reader} (h : ReadsFrom st.spool k r)
    (limit : Option Nat) :
    ∃ data err st', (deliver r limit).run st = (.ok (data, err), st') ∧ Reading st st' ∧
      data <+: limit.elim (st.spool.contents.drop k) (st.spool.contents.drop k).take ∧
      (err = none → data = limit.elim (st.spool.contents.drop k) (st.spool.contents.drop k).take) ∧
      (∀ e, err = some e → st.disk.Failed st'.disk ∧ ∃ what, e = .other what) := by
  cases r with
  | mem data =>
    obtain ⟨hf, rfl⟩ := h
    have hc : st.spool.contents = st.spool.buf := by simp [contents, hf]
    rw [hc]
    exact ⟨_, none, st, rfl, .refl st, List.prefix_rfl, fun _ => rfl, fun e he => nomatch he⟩
  | file =>
    obtain ⟨f, hf, rfl⟩ := h
    have hc : st.spool.contents = f.content := by simp [contents, hf]
    rw [hc]
    refine ⟨_, _, _, run_deliver_file hf limit, ⟨SameBody.offset hf _, 1, rfl⟩, ?_, ?_, ?_⟩
    · cases st.disk.answers st.disk.asked with
      | none => exact List.prefix_rfl
      | some m => exact List.take_prefix _ _
    · cases st.disk.answers st.disk.asked with
      | none => exact fun _ => rfl
      | some m => exact fun h => nomatch h
    · intro e he
      obtain ⟨m, hm, rfl⟩ := Option.map_eq_some_iff.mp he
      exact ⟨Disk.failed_after_one.mpr (by rw [hm]; rfl), _, rfl⟩

/-- Whatever it finds, a delivery reads. -/
theorem deliver_reading (r : Reader) (limit : Option Nat) (st : SpoolState) :
    Reading st ((deliver r limit).run st).2 := by
  cases r with
  | mem data => exact .refl st
  | file =>
    cases hf : st.spool.file with
    | none =>
      have hrun : (deliver .file limit).run st = (.ok ([], some (.other (lit "read spool file"))), st) := by
        rw [deliver]
        simp only [Comp.run_bind, run_self, hf, Comp.run_pure]
      rw [hrun]
      exact .refl st
    | some f =>
      rw [run_deliver_file hf]
      exact ⟨SameBody.offset hf _, 1, rfl⟩

/-- A reading operation whose value is `v`: it gives `v`, or fails because the disk does. -/
def Yields {α : Type} (op : SpoolOp α) (st : SpoolState) (v : α) : Prop :=
  Reading st (op.run st).2 ∧ ((op.run st).1 = .ok v ∨
    st.disk.Failed (op.run st).2.disk ∧ ∃ what, (op.run st).1 = .error (.other what))

/-- Reading to the end, or to a limit, gives the bytes from the reader's position on or fails with the disk.
-/
theorem readAll_yields {st : SpoolState} {k : Nat} {r : Reader} (h : ReadsFrom st.spool k r)
    (limit : Option Nat) : Yields (readAll r limit) st
      (limit.elim (st.spool.contents.drop k) (st.spool.contents.drop k).take) := by
  obtain ⟨data, err, st', hrun, hread, -, hdata, herr⟩ := deliver_spec h limit
  rw [Yields, readAll, Comp.run_bind_of_ok hrun]
  cases err with
  | none => exact ⟨hread, .inl (congrArg Except.ok (hdata rfl))⟩
  | some e =>
    obtain ⟨hfailed, what, rfl⟩ := herr e rfl
    exact ⟨hread, .inr ⟨hfailed, what, rfl⟩⟩

/-- Opening a reader and reading it from there. -/
theorem Yields.of_reader {op : SpoolOp Reader} {st : SpoolState} {k : Nat}
    (h : OpensAt op st k) (limit : Option Nat) : Yields (do readAll (← op) limit) st
      (limit.elim (st.spool.contents.drop k) (st.spool.contents.drop k).take) := by
  obtain ⟨hread, hok | ⟨hfailed, what, herr⟩⟩ := h
  · obtain ⟨r, hr, hfrom⟩ := hok
    obtain ⟨hread', hres⟩ := readAll_yields hfrom limit
    rw [hread.1.contents] at hres
    rw [Yields, Comp.run_bind_of_ok (Prod.ext hr rfl)]
    exact ⟨hread.trans hread', hres.imp_right fun ⟨hfailed, hwhat⟩ => ⟨hfailed.before hread.2, hwhat⟩⟩
  · rw [Yields, Comp.run_bind_of_error (Prod.ext herr rfl)]
    exact ⟨hread, .inr ⟨hfailed, what, rfl⟩⟩

/-- The value of an operation that computes on what another one read. -/
theorem Yields.map {α β : Type} {op : SpoolOp α} {st : SpoolState} {v : α} (h : Yields op st v)
    (f : α → β) : Yields (do return f (← op)) st (f v) := by
  obtain ⟨hread, hok | ⟨hfailed, what, herr⟩⟩ := h
  · rw [Yields, Comp.run_bind_of_ok (Prod.ext hok rfl)]
    exact ⟨hread, .inl rfl⟩
  · rw [Yields, Comp.run_bind_of_error (Prod.ext herr rfl)]
    exact ⟨hread, .inr ⟨hfailed, what, rfl⟩⟩

/-- The header block that is read off a spool is that of its contents. -/
theorem headerBlock_yields (st : SpoolState) :
    Yields headerBlock st (headerBlockOf st.spool.contents) := by
  have h := (Yields.of_reader (reader_opens st) (some maxHeaderBytes)).map cutBlock
  rwa [bind_assoc] at h

/-- `Bytes` gives the whole contents. -/
theorem bytes_yields (st : SpoolState) : Yields bytes st st.spool.contents := by
  cases hf : st.spool.file with
  | none =>
    have hrun : bytes.run st = (.ok st.spool.buf, st) := by
      rw [bytes, Comp.run_bind_of_ok (run_self st), hf]
      rfl
    have hc : st.spool.contents = st.spool.buf := by simp [contents, hf]
    rw [Yields, hrun, hc]
    exact ⟨.refl st, .inl rfl⟩
  | some f =>
    have hrun : bytes.run st = Comp.run (do readAll (← reader) none) st := by
      rw [bytes, Comp.run_bind_of_ok (run_self st), hf]
    have h := Yields.of_reader (reader_opens st) none
    rwa [Yields, ← hrun] at h

/-! ## Writing -/

/-- What holds of a spool between two operations: the size counts the bytes, and the offset stands
inside the file. -/
structure Sound (s : Spool) : Prop where
  size : s.n = s.contents.length
  offset : ∀ f, s.file = some f → f.offset ≤ f.content.length

/-- The next write goes to the end. -/
def AtEnd (s : Spool) : Prop := ∀ f, s.file = some f → f.offset = f.content.length

/-- A write at the end of a file appends to it. -/
theorem writeAt_end (content p : Bytes) : writeAt content content.length p = content ++ p := by
  simp [writeAt]

/-- What appending does to a spool. -/
structure Appended (s s' : Spool) (p : Bytes) : Prop where
  contents : s'.contents = s.contents ++ p
  sound : s'.Sound
  atEnd : s'.AtEnd
  dir : s'.dir = s.dir
  threshold : s'.threshold = s.threshold

/-- An operation that appends `p`, or some first part of it when the disk fails. -/
def Appends (op : SpoolOp Unit) (st : SpoolState) (p : Bytes) : Prop :=
  Disk.Later st.disk (op.run st).2.disk ∧
    ((op.run st).1 = .ok () ∧ Appended st.spool (op.run st).2.spool p ∨
      st.disk.Failed (op.run st).2.disk ∧ (∃ what, (op.run st).1 = .error (.other what)) ∧
        ∃ q, q <+: p ∧ Appended st.spool (op.run st).2.spool q)

/-- Nothing was appended. -/
theorem Appended.refl {s : Spool} (hs : s.Sound) (he : s.AtEnd) : Appended s s [] :=
  ⟨(List.append_nil _).symm, hs, he, rfl, rfl⟩

/-- What is appended after something else was comes behind it. -/
theorem Appended.trans {s₁ s₂ s₃ : Spool} {p q : Bytes} (h : Appended s₁ s₂ p)
    (h' : Appended s₂ s₃ q) : Appended s₁ s₃ (p ++ q) :=
  ⟨by rw [h'.contents, h.contents, List.append_assoc], h'.sound, h'.atEnd,
    h'.dir.trans h.dir, h'.threshold.trans h.threshold⟩

/-- A system call goes through, or it fails because the disk did; the spool is the same in both cases. -/
theorem call_cases (what : Bytes) (st : SpoolState) :
    (call what).run st = (.ok (), { st with disk := st.disk.after 1 }) ∨
      st.disk.Failed (st.disk.after 1) ∧
        (call what).run st = (.error (.other what), { st with disk := st.disk.after 1 }) := by
  rw [run_call]
  split_ifs with h
  · exact .inr ⟨Disk.failed_after_one.mpr h, rfl⟩
  · exact .inl rfl

/-- Moving to a file: the spool is as it was if one of the three calls fails. -/
theorem overflow_cases (st : SpoolState) :
    overflow.run st = (.ok (), ⟨st.disk.after 3,
      { st.spool with buf := [], file := some ⟨st.spool.buf, st.spool.buf.length⟩ }⟩) ∨
    ∃ k what, st.disk.Failed (st.disk.after k) ∧
      overflow.run st = (.error (.other what), { st with disk := st.disk.after k }) := by
  have hstart := Comp.run_bind_of_ok (f := fun s => do
    call (lit "spool to " ++ s.spoolDir)
    call (lit "unlink spool file")
    call (lit "move body to spool")
    set { s with buf := [], file := some ⟨s.buf, s.buf.length⟩ }) (run_self st)
  rcases call_cases (lit "spool to " ++ st.spool.spoolDir) st with h₁ | ⟨hfailed, h₁⟩
  · rw [Comp.run_bind_of_ok h₁] at hstart
    rcases call_cases (lit "unlink spool file") { st with disk := st.disk.after 1 } with h₂ | ⟨hfailed, h₂⟩
    · rw [Comp.run_bind_of_ok h₂] at hstart
      rcases call_cases (lit "move body to spool") { st with disk := (st.disk.after 1).after 1 } with
        h₃ | ⟨hfailed, h₃⟩
      · rw [Comp.run_bind_of_ok h₃, run_set] at hstart
        exact .inl hstart
      · exact .inr ⟨3, _, hfailed.before ⟨2, rfl⟩, hstart.trans (Comp.run_bind_of_error h₃)⟩
    · exact .inr ⟨2, _, hfailed.before ⟨1, rfl⟩, hstart.trans (Comp.run_bind_of_error h₂)⟩
  · exact .inr ⟨1, _, hfailed, hstart.trans (Comp.run_bind_of_error h₁)⟩

/-- Moving to a file changes where the body is, not what it is. -/
theorem overflow_appends {st : SpoolState} (hf : st.spool.file = none) (hs : st.spool.Sound) :
    Appends overflow st [] := by
  have he : st.spool.AtEnd := fun f h => by rw [hf] at h; cases h
  rw [Appends]
  rcases overflow_cases st with hrun | ⟨k, what, hfailed, hrun⟩
  · rw [hrun]
    refine ⟨⟨3, rfl⟩, .inl ⟨rfl, ⟨by simp [contents, hf], ⟨?_, ?_⟩, ?_, rfl, rfl⟩⟩⟩
    · simpa [contents, hf] using hs.size
    · rintro f ⟨⟩
      exact Nat.le_refl _
    · rintro f ⟨⟩
      rfl
  · rw [hrun]
    exact ⟨⟨k, rfl⟩, .inr ⟨hfailed, ⟨what, rfl⟩, [], List.prefix_rfl, .refl hs he⟩⟩

/-- A write to the file at its end. -/
theorem Appended.file {s : Spool} {f : SpoolFile} (hf : s.file = some f) (hs : s.Sound)
    (he : s.AtEnd) (p : Bytes) : Appended s
      { s with file := some ⟨writeAt f.content f.offset p, f.offset + p.length⟩,
               n := s.n + p.length } p := by
  have hc : s.contents = f.content := by simp [Spool.contents, hf]
  rw [he f hf, writeAt_end]
  refine ⟨by simp [Spool.contents, hf], ⟨?_, ?_⟩, ?_, rfl, rfl⟩
  · simp [Spool.contents, hs.size, hf]
  · rintro g ⟨⟩
    simp
  · rintro g ⟨⟩
    simp

/-- A write to the file appends all of it, or the disk failed and what the spool counts is what it held
before. -/
theorem writeFile_appends {st : SpoolState} {f : SpoolFile} (hf : st.spool.file = some f)
    (hs : st.spool.Sound) (he : st.spool.AtEnd) (p : Bytes) : Appends (writeFile f p) st p := by
  have hstart := Comp.run_bind_of_ok (f := fun s => do
    match ← ask with
    | none => set { s with file := some ⟨writeAt f.content f.offset p, f.offset + p.length⟩,
                           n := s.n + p.length }
    | some m =>
      set { s with file := some ⟨writeAt f.content f.offset (p.take m),
                                 f.offset + (p.take m).length⟩,
                   n := s.n + (p.take m).length }
      Comp.fail (.other (lit "write spool file"))) (run_self st)
  rw [Comp.run_bind_of_ok (run_ask st)] at hstart
  rw [Appends, writeFile, hstart]
  cases ha : st.disk.answers st.disk.asked with
  | none => exact ⟨⟨1, rfl⟩, .inl ⟨rfl, .file hf hs he p⟩⟩
  | some m =>
    exact ⟨⟨1, rfl⟩, .inr ⟨Disk.failed_after_one.mpr (by rw [ha]; rfl), ⟨_, rfl⟩, p.take m,
      List.take_prefix _ _, .file hf hs he _⟩⟩

/-- A write to memory. -/
theorem Appended.mem {s : Spool} (hf : s.file = none) (hs : s.Sound) (p : Bytes) :
    Appended s { s with buf := s.buf ++ p, n := s.n + p.length } p := by
  refine ⟨by simp [Spool.contents, hf], ⟨?_, ?_⟩, ?_, rfl, rfl⟩
  · simp [Spool.contents, hs.size, hf]
  · intro f h
    rw [hf] at h
    cases h
  · intro f h
    rw [hf] at h
    cases h

/-- A sequence of appends. -/
theorem Appends.bind {op op' : SpoolOp Unit} {st : SpoolState} {p q : Bytes}
    (h : Appends op st p)
    (h' : (op.run st).1 = .ok () → Appended st.spool (op.run st).2.spool p →
      Appends op' (op.run st).2 q) :
    Appends (do op; op') st (p ++ q) := by
  obtain ⟨hl, ⟨hok, ha⟩ | ⟨hfailed, ⟨what, herr⟩, r, hr, ha⟩⟩ := h
  · rw [Appends, Comp.run_bind_of_ok (Prod.ext hok rfl)]
    obtain ⟨hl', ⟨hok', ha'⟩ | ⟨hfailed', hwhat, r, hr, ha'⟩⟩ := h' hok ha
    · exact ⟨hl.trans hl', .inl ⟨hok', ha.trans ha'⟩⟩
    · exact ⟨hl.trans hl', .inr ⟨hfailed'.before hl, hwhat, p ++ r,
        (List.prefix_append_right_inj p).mpr hr, ha.trans ha'⟩⟩
  · rw [Appends, Comp.run_bind_of_error (Prod.ext herr rfl)]
    exact ⟨hl, .inr ⟨hfailed, ⟨what, rfl⟩, r, hr.trans (List.prefix_append _ _), ha⟩⟩

/-- Moving the buffer to a file keeps what the spool holds, with the file at its end for the next write. -/
theorem makeRoom_appends {st : SpoolState} (hs : st.spool.Sound) (he : st.spool.AtEnd) (p : Bytes) :
    Appends (makeRoom p) st [] := by
  rw [Appends, makeRoom, Comp.run_bind_of_ok (run_self st)]
  split_ifs with h
  · exact overflow_appends (Option.isNone_iff_eq_none.mp h.1) hs
  · exact ⟨.refl _, .inl ⟨rfl, .refl hs he⟩⟩

/-- `spool.Write` on a spool whose offset stands at the end appends, in memory and on disk alike. -/
theorem write_appends {st : SpoolState} (hs : st.spool.Sound) (he : st.spool.AtEnd) (p : Bytes) :
    Appends (write p) st p := by
  refine Appends.bind (q := p) (makeRoom_appends hs he p) fun _ ha => ?_
  generalize ((makeRoom p).run st).2 = st₁ at ha
  rw [Appends, Comp.run_bind_of_ok (run_self st₁)]
  cases hf : st₁.spool.file with
  | none =>
    have hmem := Appended.mem hf ha.sound p
    rw [hf] at hmem
    exact ⟨.refl _, .inl ⟨rfl, hmem⟩⟩
  | some f => exact writeFile_appends hf ha.sound ha.atEnd p

end Spool

/-! ## The header block and the lines of a body -/

/-- A line with nothing on it: CRLF or LF alone. -/
def isEmptyLine (l : Bytes) : Bool := l == crlf || l == [lf]

/-- The two forms in which a line is empty. -/
theorem isEmptyLine_iff {l : Bytes} : isEmptyLine l = true ↔ l = crlf ∨ l = [lf] := by
  simp only [isEmptyLine, Bool.or_eq_true, beq_iff_eq]

/-- Nothing is left of an empty line without its end. -/
theorem trimLine_of_isEmptyLine {l : Bytes} (h : isEmptyLine l = true) : trimLine l = [] := by
  rcases isEmptyLine_iff.mp h with rfl | rfl <;> decide +kernel

/-- An empty line is no line of a header, not even a folded one. -/
theorem isHeaderLine_of_isEmptyLine {l : Bytes} (h : isEmptyLine l = true) (started : Bool) :
    isHeaderLine started l = false := by
  simp [isHeaderLine, trimLine_of_isEmptyLine h]

/-- The lines of a header end at the first empty one, so that what comes behind it does not matter. -/
theorem readLines_empty {e : Bytes} (he : isEmptyLine e = true) (ls rest : List Bytes) :
    ∀ started, readLines started (ls ++ e :: rest) = readLines started ls := by
  induction ls with
  | nil =>
    intro started
    simp [readLines, isHeaderLine_of_isEmptyLine he]
  | cons l ls ih =>
    intro started
    rw [List.cons_append, readLines, readLines, ih]

/-- An empty line in the text is one of its lines, between those before it and those behind it. -/
theorem splitLines_blank {u : Bytes} {e : Bytes} (he : e = crlf ∨ e = [lf]) (hu : [lf] <:+ u)
    (s : Bytes) : splitLines (u ++ e ++ s) = splitLines u ++ e :: splitLines s := by
  obtain ⟨v, rfl⟩ := hu
  have hline : IsLine e := by
    rcases he with rfl | rfl
    · exact ⟨[cr], rfl, by decide⟩
    · exact ⟨[], rfl, by simp⟩
  rw [List.append_assoc, splitLines_append, splitLines_line hline]

/-- How a terminated block ends: two line ends in a row, both CRLF, or both LF with no two CRLF in
what was read. -/
theorem headerBlockOf_terminated {b block : Bytes} (h : headerBlockOf b = (block, true)) :
    ∃ u e rest, block = u ++ e ++ e ∧ b = block ++ rest ∧ block.length ≤ maxHeaderBytes ∧
      (e = crlf ∨ e = [lf] ∧ ∀ j, ¬ crlf ++ crlf <+: (b.take maxHeaderBytes).drop j) := by
  rw [headerBlockOf, cutBlock] at h
  have hcut : ∀ {i : Nat} {e : Bytes}, index (e ++ e) (b.take maxHeaderBytes) = some i →
      ∃ u rest, (b.take maxHeaderBytes).take (i + (e ++ e).length) = u ++ e ++ e ∧
        b = (b.take maxHeaderBytes).take (i + (e ++ e).length) ++ rest ∧
        ((b.take maxHeaderBytes).take (i + (e ++ e).length)).length ≤ maxHeaderBytes := by
    intro i e hi
    obtain ⟨u, t, ht, -, htake⟩ := take_index hi
    refine ⟨u, t ++ b.drop maxHeaderBytes, by rw [htake, List.append_assoc], ?_, ?_⟩
    · rw [htake, ← List.append_assoc, ← ht, List.take_append_drop]
    · exact ((List.take_sublist _ _).length_le).trans (List.length_take_le _ _)
  cases hc : index (crlf ++ crlf) (b.take maxHeaderBytes) with
  | some i =>
    rw [hc] at h
    obtain ⟨u, rest, hu, hb, hlen⟩ := hcut hc
    cases h
    exact ⟨u, crlf, rest, hu, hb, hlen, .inl rfl⟩
  | none =>
    rw [hc] at h
    cases hl : index [lf, lf] (b.take maxHeaderBytes) with
    | none => simp [hl] at h
    | some i =>
      obtain ⟨u, rest, hu, hb, hlen⟩ := @hcut i [lf] hl
      simp only [hl, Prod.mk.injEq, and_true] at h
      subst h
      exact ⟨u, [lf], rest, hu, hb, hlen, .inr ⟨rfl, index_eq_none hc⟩⟩

/-- The last line of a terminated block is empty. -/
theorem headerBlockOf_lines {b block : Bytes} (h : headerBlockOf b = (block, true)) :
    ∃ ls e rest, isEmptyLine e = true ∧ (∀ l ∈ ls, IsLine l) ∧ splitLines block = ls ++ [e] ∧
      b = block ++ rest ∧ splitLines b = ls ++ e :: splitLines rest := by
  obtain ⟨u, e, rest, rfl, hb, -, he⟩ := headerBlockOf_terminated h
  have he' : e = crlf ∨ e = [lf] := he.imp_right And.left
  have hsuf : [lf] <:+ u ++ e := by
    rcases he' with rfl | rfl
    · exact ⟨u ++ [cr], by simp [crlf]⟩
    · exact ⟨u, rfl⟩
  refine ⟨splitLines (u ++ e), e, rest, ?_, fun l hl => ?_, ?_, hb, ?_⟩
  · exact isEmptyLine_iff.mpr he'
  · obtain ⟨v, hv⟩ := hsuf
    exact isLine_of_mem_splitLines (hv ▸ hl)
  · have := splitLines_blank he' hsuf []
    rwa [List.append_nil, splitLines_nil] at this
  · rw [hb]
    exact splitLines_blank he' hsuf rest

end Mailout
