import Mailout.Alarm

/-!
# Writing a body on any disk

A spool is written bit by bit, and every write may fail with its disk. `Carries` says what a part of a
transaction comes to, unless the disk fails it; `Carries.bind` goes on from there. `Draft` is a spool with
what was written to it so far: a write appends to it (`Draft.write`), and `io.Copy` from another spool
appends what its reader has (`copy_carries`, `Draft.copy`).
-/

namespace Mailout

open Go Tx

/-- A part of a transaction comes to a result and a world as said, unless the disk fails it. -/
def Carries {α : Type} (x : Tx α) (w : World) (Q : α → World → Prop) : Prop :=
  ∃ w', w.disk.Later w'.disk ∧ ((∃ a, x.run w = (.ok a, w') ∧ Q a w') ∨
    w.disk.Failed w'.disk ∧ ∃ what, x.run w = (.error (.other what), w'))

section
variable {w w' : World} {ref : SpoolRef} {α β : Type} {x : Tx α} {f : α → Tx β}
  {P Q : α → World → Prop} {R : β → World → Prop}

/-- A run that ends well carries what holds at its end. -/
theorem carries_of_run {a : α} (hrun : x.run w = (.ok a, w')) (hlater : w.disk.Later w'.disk)
    (h : Q a w') : Carries x w Q :=
  ⟨w', hlater, .inl ⟨a, hrun, h⟩⟩

/-- A value is carried as it is. -/
theorem carries_pure {a : α} (h : Q a w) : Carries (pure a) w Q :=
  carries_of_run (Comp.run_pure a w) (.refl _) h

/-- A disk that does not fail. -/
theorem Carries.healthy (h : Carries x w Q) (hd : w.disk.Healthy) :
    ∃ a w', x.run w = (.ok a, w') ∧ w.disk.Later w'.disk ∧ Q a w' := by
  obtain ⟨w', hlater, ⟨a, hrun, hQ⟩ | ⟨hfailed, -⟩⟩ := h
  · exact ⟨a, w', hrun, hlater, hQ⟩
  · exact absurd hfailed hd.not_failed

/-- A weaker property is carried as well. -/
theorem Carries.mono (h : Carries x w P) (himp : ∀ a w', P a w' → Q a w') : Carries x w Q := by
  obtain ⟨w', hlater, ⟨a, hrun, hP⟩ | hfailed⟩ := h
  · exact ⟨w', hlater, .inl ⟨a, hrun, himp a w' hP⟩⟩
  · exact ⟨w', hlater, .inr hfailed⟩

/-- With what every run of it keeps. -/
theorem Carries.keeps {K : World → World → Prop} (h : Carries x w Q) (hkeeps : Comp.Keeps K x) :
    Carries x w fun a w' => Q a w' ∧ K w w' := by
  have hw := hkeeps w
  obtain ⟨w', hlater, ⟨a, hrun, hQ⟩ | hfailed⟩ := h
  · rw [hrun] at hw
    exact ⟨w', hlater, .inl ⟨a, hrun, hQ, hw⟩⟩
  · exact ⟨w', hlater, .inr hfailed⟩

/-- A sequence carries on from what its first part carried. If that failed, it did so because the disk did.
-/
theorem Carries.bind (hx : Carries x w P) (hf : ∀ a w₁, P a w₁ → Carries (f a) w₁ R) :
    Carries (x >>= f) w R := by
  obtain ⟨w₁, hlater₁, ⟨a, hrun₁, hP⟩ | ⟨hfailed, what, hrun₁⟩⟩ := hx
  · obtain ⟨w₂, hlater₂, ⟨b, hrun₂, hR⟩ | ⟨hfailed, what, hrun₂⟩⟩ := hf a w₁ hP
    · exact ⟨w₂, hlater₁.trans hlater₂, .inl ⟨b, (Comp.run_bind_of_ok hrun₁).trans hrun₂, hR⟩⟩
    · exact ⟨w₂, hlater₁.trans hlater₂, .inr ⟨hfailed.before hlater₁, what,
        (Comp.run_bind_of_ok hrun₁).trans hrun₂⟩⟩
  · exact ⟨w₁, hlater₁, .inr ⟨hfailed, what, Comp.run_bind_of_error hrun₁⟩⟩

/-- A first part whose run is known. -/
theorem Carries.left {a : α} (hrun : x.run w = (.ok a, w')) (hlater : w.disk.Later w'.disk)
    (h : Carries (f a) w' R) : Carries (x >>= f) w R := by
  refine .bind (carries_of_run (Q := fun b w₁ => b = a ∧ w₁ = w') hrun hlater ⟨rfl, rfl⟩) ?_
  rintro _ _ ⟨rfl, rfl⟩
  exact h

/-- What fails only with the disk, and with an error that is no reply, comes to whatever it comes to. -/
theorem carries_of_blames (honward : Comp.Keeps Onward x) (hblames : Blames World.disk (fun _ => True) x)
    (hraises : Comp.Raises IsOther x) (w : World) : Carries x w fun a w' => x.run w = (.ok a, w') := by
  have hlater := honward w
  rcases hrun : x.run w with ⟨e | a, w'⟩
  · rw [hrun] at hlater
    obtain ⟨what, rfl⟩ := hraises w e (congrArg Prod.fst hrun)
    exact ⟨w', hlater, .inr ⟨hblames.failed hrun trivial, what, hrun⟩⟩
  · rw [hrun] at hlater
    exact carries_of_run hrun hlater rfl

/-- Closing a spool after an error does not change what is carried. -/
theorem Carries.onError (h : Carries x w Q) : Carries (Comp.onError (close ref) x) w Q := by
  obtain ⟨w', hlater, ⟨a, hrun, hQ⟩ | ⟨hfailed, what, hrun⟩⟩ := h
  · exact ⟨w', hlater, .inl ⟨a, Comp.run_onError_of_ok hrun, hQ⟩⟩
  · exact ⟨((close ref).run w').2, hlater, .inr ⟨hfailed, what, Comp.run_onError_of_error hrun⟩⟩

/-- Closing a spool at the end keeps what does not depend on it. -/
theorem Carries.deferred (h : Carries x w P)
    (hclose : ∀ a w', P a w' → Q a ((close ref).run w').2) :
    Carries (Comp.deferred (close ref) x) w Q := by
  obtain ⟨w', hlater, ⟨a, hrun, hP⟩ | ⟨hfailed, what, hrun⟩⟩ := h
  · refine ⟨((close ref).run w').2, hlater, .inl ⟨a, ?_, hclose a w' hP⟩⟩
    rw [Comp.run_deferred, hrun]
  · refine ⟨((close ref).run w').2, hlater, .inr ⟨hfailed, what, ?_⟩⟩
    rw [Comp.run_deferred, hrun]

end

/-! ## Drafts -/

/-- A spool that is being written, with what was written so far. -/
structure Draft (w : World) (ref : SpoolRef) (b : Bytes) : Prop where
  contents : (w.spools ref).contents = b
  sound : (w.spools ref).Sound
  atEnd : (w.spools ref).AtEnd

section
variable {w w' : World} {ref out : SpoolRef} {b : Bytes}

/-- An operation on one spool leaves the others as they are. -/
theorem onSpool_frame {α : Type} {op : SpoolOp α} {r : Except Err α}
    (hrun : (onSpool out op).run w = (r, w')) (hne : ref ≠ out) : w'.spools ref = w.spools ref := by
  rw [run_onSpool] at hrun
  cases hrun
  exact Function.update_of_ne hne _ _

/-- A draft is one as long as its spool is the same. -/
theorem Draft.of_eq (h : Draft w ref b) (hsame : w'.spools ref = w.spools ref) : Draft w' ref b :=
  ⟨by rw [hsame, h.contents], by rw [hsame]; exact h.sound, by rw [hsame]; exact h.atEnd⟩

/-- A new spool leaves the others as they are. -/
theorem withSpool_old {s : Spool} (h : ref < w.created) : (w.withSpool s).spools ref = w.spools ref :=
  Function.update_of_ne (Nat.ne_of_lt h) _ _

/-- A new spool is empty. -/
theorem draft_withSpool (w : World) (s : Spool) : Draft (w.withSpool s.sibling) w.created [] := by
  have hnew : (w.withSpool s.sibling).spools w.created = s.sibling := Function.update_self _ _ _
  refine ⟨?_, ⟨?_, ?_⟩, ?_⟩
  all_goals rw [hnew]
  · rfl
  · rfl
  · rintro f ⟨⟩
  · rintro f ⟨⟩

/-- A write appends. -/
theorem Draft.write (hdraft : Draft w out b) (p : Bytes) :
    Carries (onSpool out (Spool.write p)) w fun _ w' => Draft w' out (b ++ p) ∧ Works out w w' := by
  obtain ⟨hlater, ⟨hok, happ⟩ | ⟨hfailed, ⟨what, herr⟩, -⟩⟩ :=
    @Spool.write_appends ⟨w.disk, w.spools out⟩ hdraft.sound hdraft.atEnd p
  · have hspool : ((onSpool out (Spool.write p)).run w).2.spools out =
        ((Spool.write p).run ⟨w.disk, w.spools out⟩).2.spool := Function.update_self _ _ _
    refine ⟨_, hlater, .inl ⟨(), Prod.ext hok rfl, ⟨?_, ?_, ?_⟩, works_onSpool _ w⟩⟩
    · rw [hspool, happ.contents, hdraft.contents]
    · rw [hspool]
      exact happ.sound
    · rw [hspool]
      exact happ.atEnd
  · exact ⟨_, hlater, .inr ⟨hfailed, what, Prod.ext herr rfl⟩⟩

/-- A write to any spool, with what it leaves alone. -/
theorem carries_write (out : SpoolRef) (p : Bytes) (w : World) :
    Carries (onSpool out (Spool.write p)) w fun _ w' => ∀ ref, ref ≠ out → w'.spools ref = w.spools ref :=
  (carries_of_blames (Warns.onward (warns_write out p)) ((Spool.blames_write p).onSpool out)
    (raises_onSpool (raises_write p) out) w).mono fun _ _ hrun _ hne => onSpool_frame hrun hne

/-- A write that returned no error. -/
theorem Draft.written {p : Bytes} (hdraft : Draft w out b)
    (hrun : (onSpool out (Spool.write p)).run w = (.ok (), w')) : Draft w' out (b ++ p) := by
  obtain ⟨w₁, -, ⟨_, hrun', hdraft', -⟩ | ⟨-, what, hrun'⟩⟩ := hdraft.write p
  · rw [hrun] at hrun'
    cases hrun'
    exact hdraft'
  · rw [hrun] at hrun'
    cases hrun'

/-- The same for what `io.Copy` passes on, which is nothing if there is nothing to write. -/
theorem Draft.passed {p : Bytes} (hdraft : Draft w out b)
    (hrun : (Tx.pass (fun p => onSpool out (Spool.write p)) p).run w = (.ok (), w')) :
    Draft w' out (b ++ p) := by
  unfold Tx.pass at hrun
  split_ifs at hrun with hnil
  · cases hrun
    rwa [hnil, List.append_nil]
  · exact hdraft.written hrun

end

/-! ## Copying -/

/-- One read of the loop of `io.Copy`. -/
theorem readBuffer {src : SpoolRef} {w : World} {f : SpoolFile} (hf : (w.spools src).file = some f) :
    ∃ w₁, (onSpool src (Spool.deliver .file (some copyBuffer))).run w =
        (.ok (Spool.transferred w.disk ((f.content.drop f.offset).take copyBuffer)), w₁) ∧
      Observed w w₁ [] ∧ w₁.disk = w.disk.after 1 ∧ (w₁.spools src).file =
        some { f with offset := f.offset +
          (Spool.transferred w.disk ((f.content.drop f.offset).take copyBuffer)).1.length } := by
  have hrun := @Spool.run_deliver_file ⟨w.disk, w.spools src⟩ f hf (some copyBuffer)
  refine ⟨_, Prod.ext (by rw [run_onSpool, hrun]; rfl) rfl, .onSpool ?_, ?_, ?_⟩
  · rw [hrun]
    exact ⟨Spool.SameBody.offset hf _, 1, rfl⟩
  · rw [run_onSpool, hrun]
  · rw [run_onSpool, hrun]
    simp only [Function.update_self]
    rfl

/-- The reads of the loop of `io.Copy`, with `left` of the file to go: one that fails, one that finds
the end, and one that fills a buffer. -/
inductive BufferRead (src : SpoolRef) (w w₁ : World) (left : Bytes) : Prop
  | failed (m : Nat) (hanswer : w.disk.answers w.disk.asked = some m)
      (hread : (onSpool src (Spool.deliver .file (some copyBuffer))).run w =
        (.ok ((left.take copyBuffer).take m, some (.other (lit "read spool file"))), w₁))
  | ended (hanswer : w.disk.answers w.disk.asked = none) (hleft : left = [])
      (hread : (onSpool src (Spool.deliver .file (some copyBuffer))).run w = (.ok ([], none), w₁))
  | filled (f : SpoolFile) (hanswer : w.disk.answers w.disk.asked = none)
      (hread : (onSpool src (Spool.deliver .file (some copyBuffer))).run w =
        (.ok (left.take copyBuffer, none), w₁))
      (hdata : left.take copyBuffer ≠ []) (hfile : (w₁.spools src).file = some f)
      (hrest : f.content.drop f.offset = left.drop copyBuffer)
      (hshort : (left.drop copyBuffer).length < left.length)

/-- One read of the buffer size from a file yields a piece of what is left of it, or nothing at its end. -/
theorem bufferRead {src : SpoolRef} {w : World} {f : SpoolFile} (hf : (w.spools src).file = some f) :
    ∃ w₁, Observed w w₁ [] ∧ w₁.disk = w.disk.after 1 ∧
      BufferRead src w w₁ (f.content.drop f.offset) := by
  obtain ⟨w₁, hread, hobs, hdisk, hfile⟩ := readBuffer hf
  refine ⟨w₁, hobs, hdisk, ?_⟩
  generalize hleft : f.content.drop f.offset = left at *
  cases hanswer : w.disk.answers w.disk.asked with
  | some m =>
    have hgot : Spool.transferred w.disk (left.take copyBuffer) =
        ((left.take copyBuffer).take m, some (.other (lit "read spool file"))) := by
      simp [Spool.transferred, hanswer]
    exact .failed m hanswer (hgot ▸ hread)
  | none =>
    have hgot : Spool.transferred w.disk (left.take copyBuffer) = (left.take copyBuffer, none) := by
      simp [Spool.transferred, hanswer]
    rw [hgot] at hread hfile
    by_cases hempty : left = []
    · rw [hempty, List.take_nil] at hread
      exact .ended hanswer hempty hread
    · have hpos := List.length_pos_of_ne_nil hempty
      have hbuf : 0 < copyBuffer := by decide
      refine .filled _ hanswer hread (by simpa [copyBuffer] using hempty) hfile ?_ ?_
      · show f.content.drop (f.offset + (left.take copyBuffer).length) = _
        rw [← List.drop_drop, hleft, List.length_take, ← List.drop_eq_drop_min]
      · rw [List.length_drop]
        omega

section
variable {src : SpoolRef} {write : Bytes → Tx Unit} {I : Bytes → World → Prop}
  (hread : ∀ done w, I done w →
    I done ((onSpool src (Spool.deliver .file (some copyBuffer))).run w).2)
  (hwrite : ∀ done p w, I done w → Carries (write p) w fun _ w' =>
    I (done ++ p) w' ∧ w'.spools src = w.spools src)

include hwrite in
/-- A piece that is passed on is behind what was done before, and the source is as it was. -/
theorem pass_carries {done : Bytes} {w : World} (hI : I done w) (p : Bytes) :
    Carries (Tx.pass write p) w fun _ w' => I (done ++ p) w' ∧ w'.spools src = w.spools src := by
  unfold Tx.pass
  split_ifs with hnil
  · exact carries_pure ⟨by rwa [hnil, List.append_nil], rfl⟩
  · exact hwrite done p w hI

include hread hwrite

/-- The loop of `io.Copy`, with `I` about what it has passed on: it passes on all that was left of the
file. -/
theorem copyFile_carries : ∀ fuel done w f, I done w → (w.spools src).file = some f →
    (f.content.drop f.offset).length < fuel →
    Carries (copyFile src write fuel) w fun _ w' => I (done ++ f.content.drop f.offset) w' := by
  intro fuel
  induction fuel with
  | zero => exact fun _ _ _ _ _ hfuel => absurd hfuel (Nat.not_lt_zero _)
  | succ fuel ih =>
    intro done w f hI hf hfuel
    obtain ⟨w₁, hobs, hdisk, hbuffer⟩ := bufferRead hf
    have hI₁ := hread done w hI
    generalize f.content.drop f.offset = left at *
    cases hbuffer with
    | failed m hanswer hrun =>
      -- a read that fails ends the loop, behind what it transferred
      have hfailed : w.disk.Failed w₁.disk := by
        rw [hdisk]
        exact Disk.failed_after_one.mpr (by rw [hanswer]; rfl)
      rw [hrun] at hI₁
      obtain ⟨w₂, hlater, ⟨_, hpass, -⟩ | ⟨-, what, hpass⟩⟩ := pass_carries hwrite hI₁
        ((left.take copyBuffer).take m)
      · exact ⟨w₂, hobs.disk.trans hlater, .inr ⟨hfailed.onward hlater, _,
          run_copyFile_unread hrun hpass⟩⟩
      · exact ⟨w₂, hobs.disk.trans hlater, .inr ⟨hfailed.onward hlater, what,
          run_copyFile_unwritten hrun hpass⟩⟩
    | ended hanswer hleft hrun =>
      rw [hrun] at hI₁
      rw [hleft, List.append_nil]
      exact carries_of_run (run_copyFile_end hrun) hobs.disk hI₁
    | filled f₁ hanswer hrun hdata hfile hrest hshort =>
      rw [hrun] at hI₁
      obtain ⟨w₂, hlater, ⟨_, hpass, hI₂, hsrc⟩ | ⟨hfailed, what, hpass⟩⟩ := pass_carries hwrite hI₁
        (left.take copyBuffer)
      · obtain ⟨w₃, hlater₃, hdone⟩ := ih _ w₂ f₁ hI₂ (hsrc ▸ hfile) (by rw [hrest]; omega)
        rw [hrest, List.append_assoc, List.take_append_drop,
          ← run_copyFile_next hrun hpass hdata] at hdone
        have hall := hobs.disk.trans hlater
        exact ⟨w₃, hall.trans hlater₃, hdone.imp_right fun ⟨hfailed, herr⟩ =>
          ⟨hfailed.before hall, herr⟩⟩
      · exact ⟨w₂, hobs.disk.trans hlater, .inr ⟨hfailed.before hobs.disk, what,
          run_copyFile_unwritten hrun hpass⟩⟩

/-- `io.Copy` passes on all that its reader has. -/
theorem copy_carries {r : Reader} {k : Nat} {w : World} (hfrom : (w.spools src).ReadsFrom k r)
    (hI : I [] w) : Carries (copy src r write) w fun _ w' =>
      I ((w.spools src).contents.drop k) w' := by
  cases r with
  | mem data =>
    obtain ⟨hf, rfl⟩ := hfrom
    have hcontents : (w.spools src).contents = (w.spools src).buf := by simp [Spool.contents, hf]
    rw [hcontents]
    exact (pass_carries hwrite hI _).mono fun _ _ h => h.1
  | file =>
    obtain ⟨f, hf, rfl⟩ := hfrom
    have hcontents : (w.spools src).contents = f.content := by simp [Spool.contents, hf]
    have hrun : (copy src .file write).run w = (copyFile src write (f.content.length + 1)).run w := by
      rw [copy, Comp.run_bind_of_ok (Comp.run_get w), hcontents]
    rw [Carries, hrun, hcontents]
    refine copyFile_carries hread hwrite _ [] w f hI hf ?_
    rw [List.length_drop]
    omega

end

/-- A copy from another spool appends what its reader has. -/
theorem Draft.copy {w : World} {src out : SpoolRef} {b : Bytes} {r : Reader} {k : Nat}
    (hdraft : Draft w out b) (hne : src ≠ out) (hfrom : (w.spools src).ReadsFrom k r) :
    Carries (copy src r fun p => onSpool out (Spool.write p)) w fun _ w' =>
      Draft w' out (b ++ (w.spools src).contents.drop k) := by
  refine copy_carries (I := fun done w' => Draft w' out (b ++ done)) (fun done w' hI => ?_)
    (fun done p w' hI => ?_) hfrom (by rwa [List.append_nil])
  · exact hI.of_eq (onSpool_frame rfl hne.symm)
  · obtain ⟨w₁, hlater, ⟨_, hrun, hdraft₁, -⟩ | hfailed⟩ := hI.write p
    · rw [List.append_assoc] at hdraft₁
      exact carries_of_run hrun hlater ⟨hdraft₁, onSpool_frame hrun hne⟩
    · exact ⟨w₁, hlater, .inr hfailed⟩

end Mailout
