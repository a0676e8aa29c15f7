import Mailout.Go.Refine
import Mailout.Letter
import Mailout.Memory

/-!
# Where a body is kept

A transaction keeps its bodies in memory or in files, by the settings of its snapshot. On a disk that
does not fail it refines the delivery of a byte sequence (`Letter`), which knows nothing of storage.
`Stands` relates a world to a message on the desk. It is kept by what is said and read, and by writes
to spools that are not the body of the message; `Stands.replace` is how one of them becomes it.

`Stages` has the refinement lemmas for the stages of Data, `Independence` what follows for two
snapshots that differ in their spool settings.
-/

namespace Mailout

open Go Tx

/-! ## The relation -/

/-- A transaction that began in `w₀` under `snap` and is in `w` now was heard to say what is heard at
the desk. -/
structure Near (snap : Snapshot) (w₀ w : World) (d : Desk) : Prop where
  said : heard w.trace = d.heard
  healthy : w.disk.Healthy
  path : Reaches snap.newSpool w₀.created w₀ w

/-- The message of the transaction is the message on the desk. The spools `apart` are others. -/
structure Stands (snap : Snapshot) (w₀ : World) (apart : List SpoolRef) (w : World) (d : Desk) : Prop
    extends Near snap w₀ w d where
  from_ : w.msg.from_ = d.from_
  to_ : w.msg.to_ = d.to_
  bytes : w.bytes = d.bytes
  size : (w.spools w.msg.body).n = d.bytes.length
  low : w₀.created ≤ w.msg.body
  high : w.msg.body < w.created
  apart : ∀ ref ∈ apart, ref < w.created ∧ ref ≠ w.msg.body

/-- A relation between worlds and desks that is kept by what is said and read. -/
structure Listens (R : World → Desk → Prop) : Prop where
  said : ∀ {w d}, R w d → heard w.trace = d.heard
  observed : ∀ {w d w' es}, R w d → Observed w w' es →
    R w' { d with heard := d.heard ++ heard es }

section
variable {snap : Snapshot} {w₀ w w' : World} {d : Desk} {apart : List SpoolRef}
  {ref out : SpoolRef} {b p : Bytes} {es : List Event}

/-- A new spool is within its threshold. -/
theorem newSpool_kept (snap : Snapshot) : snap.newSpool.Kept snap.newSpool :=
  ⟨rfl, rfl, fun _ => Nat.le_refl _, fun _ => le_max_right _ _⟩

/-- The spools of a transaction are within their threshold. -/
theorem Near.kept (h : Near snap w₀ w d) : Kept snap.newSpool w₀.created w :=
  h.path.kept (newSpool_kept snap)
    ⟨Nat.le_refl _, fun _ hlow hhigh => absurd hhigh (Nat.not_lt.mpr hlow)⟩

/-- A transaction is near the desk when it begins, if the same was heard at both. -/
theorem Near.start (snap : Snapshot) (hd : w.disk.Healthy) (he : heard w.trace = d.heard) :
    Near snap w w d :=
  ⟨he, hd, .refl⟩

/-- It stays near while it only reads and reports, with what is heard of the reports at the desk as well. -/
theorem Near.observed (h : Near snap w₀ w d) (hobs : Observed w w' es) :
    Near snap w₀ w' { d with heard := d.heard ++ heard es } :=
  ⟨by rw [hobs.trace, heard_append, h.said], h.healthy.later hobs.disk,
    h.path.tail (.watch ⟨es, hobs⟩)⟩

/-- Nearness is kept by whatever only reads and reports. -/
theorem near_listens (snap : Snapshot) (w₀ : World) : Listens (Near snap w₀) :=
  ⟨Near.said, Near.observed⟩

/-- So is standing for the message on the desk: neither the message nor its spool changes. -/
theorem Stands.observed (h : Stands snap w₀ apart w d) (hobs : Observed w w' es) :
    Stands snap w₀ apart w' { d with heard := d.heard ++ heard es } where
  toNear := h.toNear.observed hobs
  from_ := by rw [hobs.msg, h.from_]
  to_ := by rw [hobs.msg, h.to_]
  bytes := by rw [World.bytes, hobs.msg, (hobs.spools _).contents]; exact h.bytes
  size := by rw [hobs.msg, (hobs.spools _).n]; exact h.size
  low := by rw [hobs.msg]; exact h.low
  high := by rw [hobs.msg, hobs.created]; exact h.high
  apart := by rw [hobs.msg, hobs.created]; exact h.apart

/-- Standing is kept by whatever only reads and reports. -/
theorem stands_listens (snap : Snapshot) (w₀ : World) (apart : List SpoolRef) :
    Listens (Stands snap w₀ apart) :=
  ⟨fun h => h.said, Stands.observed⟩

/-- What only reads is not noticed. -/
theorem Listens.read {R : World → Desk → Prop} (hR : Listens R) (h : R w d)
    (hobs : Observed w w' []) : R w' d := by
  have h' := hR.observed h hobs
  rwa [show heard [] = [] from rfl, List.append_nil] at h'

/-! ## Spools that are made, written and closed -/

/-- A write on a disk that does not fail appends. -/
theorem Near.write (h : Near snap w₀ w d) (hdraft : Draft w out b) (p : Bytes) : ∃ w',
    (onSpool out (Spool.write p)).run w = (.ok (), w') ∧ Near snap w₀ w' d ∧
      Draft w' out (b ++ p) ∧ Works out w w' := by
  obtain ⟨_, w', hrun, hlater, hdraft', hworks⟩ := (hdraft.write p).healthy h.healthy
  have hpath := h.path.tail (.write w out p)
  have hsaid : w'.trace = w.trace := (congrArg (fun r => r.2.trace) hrun).symm
  rw [hrun] at hpath
  exact ⟨w', hrun, ⟨hsaid ▸ h.said, h.healthy.later hlater, hpath⟩, hdraft', hworks⟩

/-- The same for what `io.Copy` writes, which is nothing if there is nothing to write. -/
theorem Near.pass (h : Near snap w₀ w d) (hdraft : Draft w out b) (p : Bytes) : ∃ w',
    (Tx.pass (fun p => onSpool out (Spool.write p)) p).run w = (.ok (), w') ∧ Near snap w₀ w' d ∧
      Draft w' out (b ++ p) ∧ Works out w w' := by
  unfold Tx.pass
  split_ifs with hnil
  · exact ⟨w, rfl, h, by rwa [hnil, List.append_nil], .refl w⟩
  · exact h.write hdraft p

/-- Work on a spool that is set apart does not touch the message. -/
theorem Stands.works (h : Stands snap w₀ apart w d) (hnear : Near snap w₀ w' d)
    (hworks : Works out w w') (hout : out ∈ apart) : Stands snap w₀ apart w' d where
  toNear := hnear
  from_ := by rw [hworks.msg, h.from_]
  to_ := by rw [hworks.msg, h.to_]
  bytes := by
    rw [World.bytes, hworks.msg, (hworks.spools _ (h.apart out hout).2.symm).contents]
    exact h.bytes
  size := by rw [hworks.msg, (hworks.spools _ (h.apart out hout).2.symm).n]; exact h.size
  low := by rw [hworks.msg]; exact h.low
  high := by rw [hworks.msg, hworks.created]; exact h.high
  apart := by rw [hworks.msg, hworks.created]; exact h.apart

/-- A write to a spool apart. -/
theorem Stands.write (h : Stands snap w₀ apart w d) (hout : out ∈ apart) (hdraft : Draft w out b)
    (p : Bytes) : ∃ w', (onSpool out (Spool.write p)).run w = (.ok (), w') ∧
      Stands snap w₀ apart w' d ∧ Draft w' out (b ++ p) ∧ Works out w w' := by
  obtain ⟨w', hrun, hnear, hdraft', hworks⟩ := h.toNear.write hdraft p
  exact ⟨w', hrun, h.works hnear hworks hout, hdraft', hworks⟩

/-- `sibling` of the body of the message: an empty spool apart. -/
theorem Stands.sibling (h : Stands snap w₀ apart w d) : ∃ w',
    (sibling w.msg.body).run w = (.ok w.created, w') ∧
      Stands snap w₀ (w.created :: apart) w' d ∧ Draft w' w.created [] ∧ w'.msg = w.msg ∧
      ∀ ref, ref < w.created → w'.spools ref = w.spools ref := by
  have hold : ∀ ref, ref < w.created →
      (w.withSpool (w.spools w.msg.body).sibling).spools ref = w.spools ref :=
    fun ref hlt => withSpool_old hlt
  refine ⟨w.withSpool (w.spools w.msg.body).sibling, rfl, ?_, draft_withSpool w _, rfl, hold⟩
  exact {
    said := h.said
    healthy := h.healthy
    path := h.path.tail (.sibling w w.msg.body h.low h.high)
    from_ := h.from_
    to_ := h.to_
    bytes := (congrArg Spool.contents (hold _ h.high)).trans h.bytes
    size := (congrArg Spool.n (hold _ h.high)).trans h.size
    low := h.low
    high := Nat.lt_succ_of_lt h.high
    apart := by
      intro ref hmem
      rcases List.mem_cons.mp hmem with rfl | hmem
      · exact ⟨Nat.lt_succ_self _, (Nat.ne_of_lt h.high).symm⟩
      · exact ⟨Nat.lt_succ_of_lt (h.apart ref hmem).1, (h.apart ref hmem).2⟩ }

/-- Closing a spool is not heard. -/
theorem Near.close (h : Near snap w₀ w d) (ref : SpoolRef) :
    Near snap w₀ ((close ref).run w).2 d :=
  ⟨h.said, h.healthy, h.path.tail (.close w ref)⟩

/-- A spool apart is closed. -/
theorem Stands.close (h : Stands snap w₀ (ref :: apart) w d) :
    Stands snap w₀ apart ((Tx.close ref).run w).2 d := by
  have hbody : ((Tx.close ref).run w).2.spools w.msg.body = w.spools w.msg.body :=
    Function.update_of_ne (h.apart ref List.mem_cons_self).2.symm _ _
  exact {
    toNear := h.toNear.close ref
    from_ := h.from_
    to_ := h.to_
    bytes := (congrArg Spool.contents hbody).trans h.bytes
    size := (congrArg Spool.n hbody).trans h.size
    low := h.low
    high := h.high
    apart := fun ref' hmem => h.apart ref' (List.mem_cons_of_mem _ hmem) }

/-- The message gets a spool apart as its body, and the old one is closed. -/
theorem Stands.replace (h : Stands snap w₀ (out :: apart) w d) (hdraft : Draft w out b)
    (hlow : w₀.created ≤ out) (hout : out ∉ apart) : ∃ w',
      (do Tx.close w.msg.body; setMessage { w.msg with body := out } : Tx Unit).run w = (.ok (), w') ∧
        Stands snap w₀ apart w' { d with bytes := b } := by
  obtain ⟨hhigh, hne⟩ := h.apart out List.mem_cons_self
  have hspool : Function.update w.spools w.msg.body (w.spools w.msg.body).close out = w.spools out :=
    Function.update_of_ne hne _ _
  refine ⟨_, rfl, ?_⟩
  exact {
    said := h.said
    healthy := h.healthy
    path := (h.path.tail (.close w w.msg.body)).tail (.setMessage _ { w.msg with body := out })
    from_ := h.from_
    to_ := h.to_
    bytes := (congrArg Spool.contents hspool).trans hdraft.contents
    size := by
      refine (congrArg Spool.n hspool).trans ?_
      rw [hdraft.sound.size, hdraft.contents]
    low := hlow
    high := hhigh
    apart := fun ref hmem => ⟨(h.apart ref (List.mem_cons_of_mem _ hmem)).1,
      fun (heq : ref = out) => hout (heq ▸ hmem)⟩ }

/-! ## Reading -/

/-- A reading operation, on a disk that does not fail. -/
theorem Stands.yields {α : Type} {op : SpoolOp α} {v : α} (h : Stands snap w₀ apart w d)
    (hop : Spool.Yields op ⟨w.disk, w.spools ref⟩ v) : ∃ w',
      (onSpool ref op).run w = (.ok v, w') ∧ Stands snap w₀ apart w' d ∧ Observed w w' [] := by
  obtain ⟨w', hobs, hrun | ⟨hfailed, -⟩⟩ := onSpool_yields hop
  · exact ⟨w', hrun, (stands_listens snap w₀ apart).read h hobs, hobs⟩
  · exact absurd hfailed h.healthy.not_failed

/-- A reader that is opened, on a disk that does not fail. -/
theorem Stands.opens {op : SpoolOp Reader} {k : Nat} (h : Stands snap w₀ apart w d)
    (hop : Spool.OpensAt op ⟨w.disk, w.spools ref⟩ k) : ∃ r w',
      (onSpool ref op).run w = (.ok r, w') ∧ Stands snap w₀ apart w' d ∧ Observed w w' [] ∧
        (w'.spools ref).ReadsFrom k r := by
  obtain ⟨w', hobs, ⟨r, hrun, hfrom⟩ | ⟨hfailed, -⟩⟩ := onSpool_opens hop
  · exact ⟨r, w', hrun, (stands_listens snap w₀ apart).read h hobs, hobs, hfrom⟩
  · exact absurd hfailed h.healthy.not_failed

/-- What a reader delivers, on a disk that does not fail. -/
theorem Stands.delivers {r : Reader} {k : Nat} (h : Stands snap w₀ apart w d)
    (hfrom : (w.spools ref).ReadsFrom k r) : ∃ w',
      (onSpool ref (Spool.deliver r none)).run w =
        (.ok ((w.spools ref).contents.drop k, none), w') ∧
      Stands snap w₀ apart w' d ∧ Observed w w' [] := by
  obtain ⟨data, err, w', hrun, hobs, -, hall, herr⟩ := onSpool_deliver hfrom none
  cases err with
  | some e => exact absurd (herr e rfl).1 h.healthy.not_failed
  | none =>
    rw [hall rfl] at hrun
    exact ⟨w', hrun, (stands_listens snap w₀ apart).read h hobs, hobs⟩

/-- `ReaderAt` of the body of the message. -/
theorem Stands.readerAt (h : Stands snap w₀ apart w d) (k : Nat) : ∃ r w' j,
    (onSpool w.msg.body (Spool.readerAt k)).run w = (.ok r, w') ∧ Stands snap w₀ apart w' d ∧
      Observed w w' [] ∧ (w'.spools w.msg.body).ReadsFrom j r ∧
      (w'.spools w.msg.body).contents.drop j = d.bytes.drop k := by
  obtain ⟨r, w', hrun, h', hobs, hfrom⟩ :=
    h.opens (Spool.readerAt_opens ⟨w.disk, w.spools w.msg.body⟩ k)
  have hbytes : (w'.spools w.msg.body).contents = d.bytes := (hobs.spools _).contents.trans h.bytes
  refine ⟨r, w', _, hrun, h', hobs, hfrom, ?_⟩
  rw [hbytes, h.size, ← List.drop_eq_drop_min]

end

/-! ## Saying -/

section
open Go.Comp (Refines Matches)

variable (peers : Peers) {R : World → Desk → Prop} (hR : Listens R)
include hR

/-- A report that is heard as it is, is made at the desk. -/
theorem refines_emit {e : Event} (he : e.audible = [e]) : Refines R (emit e) (Post.emit e) := by
  intro w d h
  have h' := hR.observed h (.emit e w)
  rw [show heard [e] = e.audible ++ [] from rfl, he, List.append_nil] at h'
  exact .of_run (run_emit e w) (Post.run_emit e d) h'

/-- The limits are checked in the same way: the store answers to what is heard. -/
theorem refines_perform {α : Type} (p : StoreProg α) :
    Refines R (perform peers.deaf p) (Post.perform peers p) := by
  induction p with
  | ret a => exact Comp.refines_pure a
  | call op k ih =>
    refine (refines_emit hR rfl).bind fun _ => .get fun w d h => ?_
    have hanswer : peers.deaf.quota w.trace op = peers.quota d.heard op :=
      congrArg (peers.quota · op) (hR.said h)
    rw [hanswer]
    exact ih _ w d h

/-- A filter that answers to what is heard gives the same answer on both sides. -/
theorem refines_say (f : Milter) (call : MilterCall) :
    Refines R (say peers.deaf f call) (Post.say peers f call) := by
  refine (refines_emit hR rfl).bind fun _ => .get fun w d h => ?_
  have hanswer : verdict peers.deaf w.trace = verdict peers d.heard :=
    congrArg (verdict peers) (hR.said h)
  rw [hanswer]
  exact .ofExcept _ h

/-- So the whole conversation is the same. -/
theorem refines_sayAll (f : Milter) (calls : List MilterCall) :
    Refines R (sayAll peers.deaf f calls) (Post.sayAll peers f calls) := by
  induction calls with
  | nil => exact Comp.refines_pure ()
  | cons call calls ih => exact (refines_say peers hR f call).bind fun _ => ih

/-- So is the beginning of a session. -/
theorem refines_openSession (f : Milter) (info : SessionInfo) (from_ : Bytes) :
    Refines R (openSession peers.deaf f info from_) (Post.openSession peers f info from_) := by
  refine (refines_emit hR rfl).bind fun _ => .get fun w d h => ?_
  have hanswer : peers.deaf.milter w.trace = peers.milter d.heard := congrArg peers.milter (hR.said h)
  rw [hanswer]
  cases peers.milter d.heard with
  | error e => exact .fail _ h
  | ok act => exact .pure () h

/-- A call of the SMTP client that does not write to the body. -/
theorem refines_callUpstream {call : UpstreamCall} (hcall : ∀ chunk, call ≠ .write chunk) :
    Refines R (callUpstream peers.deaf call) (Post.callUpstream peers call) := by
  intro w d h
  have haudible : heard [.upstream call, .accepted call] = [.upstream call, .accepted call] ∧
      heard [.upstream call] = [.upstream call] ∧
      peers.deaf.upstream (w.trace ++ [.upstream call]) =
        peers.upstream (heard (w.trace ++ [.upstream call])) := by
    rw [Peers.deaf]
    simp only [List.getLast?_append_cons]
    cases call with
    | write chunk => exact absurd rfl (hcall chunk)
    | _ => exact ⟨rfl, rfl, rfl⟩
  obtain ⟨hboth, hcalled, hanswer⟩ := haudible
  rw [heard_append, hR.said h, hcalled] at hanswer
  have hdesk := Post.run_callUpstream peers call d
  rcases callUpstream_cases peers.deaf call w with ⟨hnone, hrun⟩ | ⟨e, hsome, hrun⟩
  · have h' := hR.observed h (observed_said w [.upstream call, .accepted call])
    rw [hboth] at h'
    rw [← hanswer, hnone] at hdesk
    exact .of_run hrun hdesk h'
  · have h' := hR.observed h (observed_said w [.upstream call])
    rw [hcalled] at h'
    rw [← hanswer, hsome] at hdesk
    exact .of_run hrun hdesk h'

/-- The upstream server, too, answers to what is heard, so that a command ends alike on both sides. -/
theorem refines_command (stage : Bytes) {call : UpstreamCall} (hcall : ∀ chunk, call ≠ .write chunk) :
    Refines R (command peers.deaf stage call) (Post.command peers stage call) := by
  refine (refines_callUpstream peers hR hcall).bind fun r => ?_
  cases r with
  | some e => exact Comp.refines_fail _
  | none => exact Comp.refines_pure ()

/-- So does the connection. -/
theorem refines_dial (relay : Relayer) : Refines R (dial peers.deaf relay) (Post.dial peers relay) := by
  refine (refines_callUpstream peers hR (by simp)).bind fun r => ?_
  cases r with
  | some e => exact Comp.refines_fail _
  | none => exact .when (refines_command peers hR _ (by simp))

/-- So do the recipients, one after the other. -/
theorem refines_sendRecipients (rcpts : List Bytes) :
    Refines R (sendRecipients peers.deaf rcpts) (Post.sendRecipients peers rcpts) := by
  induction rcpts with
  | nil => exact Comp.refines_pure ()
  | cons rcpt rcpts ih => exact (refines_command peers hR _ (by simp)).bind fun _ => ih

end

end Mailout
