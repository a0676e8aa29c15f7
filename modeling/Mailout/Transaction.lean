import Mailout.Quota
import Mailout.Spool

/-!
# One transaction

What a message goes through between the end of DATA and the reply is a computation over a `World`:
the spools that exist, each behind a pointer as in the source, the disk they are on, the message that
the stages rewrite in place, and the trace of what was said to the filters, to the upstream server
and to the metrics. What a part of it does to its world is said by a relation between the world before
and the one behind: it says something and reads (`Observed`), works on a spool of its own (`Works`), says
nothing (`Silent`), or nothing but what is allowed (`Says`).

`copy` is `io.Copy` from a spool, one buffer at a time if the spool is on disk.
-/

namespace Mailout

open Go

/-- A `*spool`. -/
abbrev SpoolRef := Nat

/-- `Message`. -/
structure Message where
  from_ : Bytes
  to_ : List Bytes
  body : SpoolRef
  account : Bytes
  deriving DecidableEq, Repr

/-! ## What is said -/

/-- The macros a filter is given. -/
inductive Macro where
  | mtaFQDN | daemonName | ifName | authAuthen | authType | tlsVersion | cipher | mailAddr
  deriving DecidableEq, Repr

inductive Family where
  | inet | inet6
  deriving DecidableEq, Repr

/-- A call of the milter client. `body` is `BodyReadFrom`, with what its reader delivered and whether
that was all of it. -/
inductive MilterCall where
  | session (macros : List (Macro × Bytes))
  | conn (hostname : Bytes) (family : Family) (port : Nat) (addr : Bytes)
  | helo (hostname : Bytes)
  | mail (from_ : Bytes)
  | rcpt (to_ : Bytes)
  | dataStart
  | headerField (field : HeaderField)
  | headerEnd
  | body (data : Bytes) (whole : Bool)
  deriving DecidableEq, Repr

/-- The kinds of `milter.Action`. -/
inductive ActionType where
  | accept | continue_ | discard | reject | tempFail | skip | rejectWithCode
  deriving DecidableEq, Repr

/-- `milter.Action`, with what its method `StopProcessing` answers. -/
structure Action where
  type_ : ActionType
  smtpCode : Nat
  smtpReply : Bytes
  stopProcessing : Bool
  deriving DecidableEq, Repr

/-- `milter.ModifyAction`, by its type. -/
inductive ModifyAction where
  | addHeader (name value : Bytes)
  | insertHeader (index : Nat) (name value : Bytes)
  | changeHeader (index : Nat) (name value : Bytes)
  | replaceBody (body : Bytes)
  | changeFrom (from_ : Bytes)
  | addRcpt (rcpt : Bytes)
  | delRcpt (rcpt : Bytes)
  | quarantine (reason : Bytes)
  | other
  deriving DecidableEq, Repr

/-- A call of the SMTP client. `close` is closing the DATA writer, which sends the end-of-data mark. -/
inductive UpstreamCall where
  | dial
  | startTLS
  | hello (name : Bytes)
  | auth (username password : Bytes)
  | mail (from_ : Bytes)
  | rcpt (to_ : Bytes)
  | data
  | write (chunk : Bytes)
  | close
  | quit
  deriving DecidableEq, Repr

/-- The labels of `mailout_milter_decisions_total`. -/
inductive Decision where
  | accept | reject | discard | unavailable
  deriving DecidableEq, Repr

/-- The labels of `mailout_dkim_signatures_total`. -/
inductive DkimResult where
  | signed | refused | failed
  deriving DecidableEq, Repr

/-- The labels of `mailout_messages_total`. -/
inductive MessageResult where
  | relayed | rejected | deferred | discarded
  deriving DecidableEq, Repr

/-- What a transaction says, in the order it says it; `accepted` marks a call of the SMTP client that
returned no error. -/
inductive Event where
  | quota (call : StoreCall)
  | milter (filter : Bytes) (call : MilterCall)
  | milterDecided (filter : Bytes) (decision : Decision)
  | upstream (call : UpstreamCall)
  | accepted (call : UpstreamCall)
  | dkimResult (domain : Bytes) (result : DkimResult)
  | messageSpooled (account : Bytes)
  | messageHandled (account : Bytes) (result : MessageResult)
  | messageRelayed (account : Bytes) (bytes : Nat)
  deriving DecidableEq, Repr

/-! ## The world of a transaction -/

structure World where
  disk : Disk
  spools : SpoolRef → Spool
  /-- How many spools were made; the next one gets this number. -/
  created : Nat
  closed : List SpoolRef
  msg : Message
  trace : List Event

/-- The bytes of the message as it stands. -/
def World.bytes (w : World) : Bytes := (w.spools w.msg.body).contents

/-- What was said between two worlds of one run. -/
def newEvents (w w' : World) : List Event := w'.trace.drop w.trace.length

abbrev Tx := Comp Err World

/-- A transaction about a message that is in memory, before anything was said. -/
def World.about (from_ : Bytes) (to_ : List Bytes) (b : Bytes) : World where
  disk := (inMemory b).disk
  spools _ := (inMemory b).spool
  created := 1
  closed := []
  msg := ⟨from_, to_, 0, lit "app"⟩
  trace := []

/-- A world with one more spool. -/
def World.withSpool (w : World) (s : Spool) : World :=
  { w with spools := Function.update w.spools w.created s, created := w.created + 1 }

namespace Tx

def emit (e : Event) : Tx Unit := Comp.modify fun w => { w with trace := w.trace ++ [e] }

def message : Tx Message := do return (← Comp.get).msg

def setMessage (m : Message) : Tx Unit := Comp.modify fun w => { w with msg := m }

/-- A method of the spool behind a pointer. -/
def onSpool {α : Type} (ref : SpoolRef) (op : SpoolOp α) : Tx α := fun w =>
  ((op.run ⟨w.disk, w.spools ref⟩).1,
    { w with disk := (op.run ⟨w.disk, w.spools ref⟩).2.disk,
             spools := Function.update w.spools ref (op.run ⟨w.disk, w.spools ref⟩).2.spool })

/-- A new spool. -/
def create (s : Spool) : Tx SpoolRef := fun w =>
  (.ok w.created, { w with spools := Function.update w.spools w.created s, created := w.created + 1 })

/-- `sibling` of the spool behind a pointer. -/
def sibling (ref : SpoolRef) : Tx SpoolRef := do create ((← Comp.get).spools ref).sibling

/-- `_ = s.Close()`. -/
def close (ref : SpoolRef) : Tx Unit := Comp.modify fun w =>
  { w with spools := Function.update w.spools ref (w.spools ref).close, closed := w.closed ++ [ref] }

/-- The size of the buffer of `io.Copy`. -/
def copyBuffer : Nat := 32 * 1024

/-- `dst.Write`, which `io.Copy` does not call for nothing. -/
def pass (write : Bytes → Tx Unit) (data : Bytes) : Tx Unit :=
  if data = [] then pure () else write data

/-- The loop of `io.Copy` from a file: what was read is passed on before an error is looked at. -/
def copyFile (src : SpoolRef) (write : Bytes → Tx Unit) : Nat → Tx Unit
  | 0 => pure ()
  | fuel + 1 => do
    let (data, err) ← onSpool src (Spool.deliver .file (some copyBuffer))
    pass write data
    match err with
    | some e => Comp.fail e
    | none => if data = [] then pure () else copyFile src write fuel

/-- `io.Copy` from a reader of a spool. Each turn of the loop reads a byte at least, or ends it. -/
def copy (src : SpoolRef) (r : Reader) (write : Bytes → Tx Unit) : Tx Unit :=
  match r with
  | .mem data => pass write data
  | .file => do copyFile src write (((← Comp.get).spools src).contents.length + 1)

/-- An event is recorded at the end of the trace. -/
@[simp] theorem run_emit (e : Event) (w : World) :
    (emit e).run w = (.ok (), { w with trace := w.trace ++ [e] }) := rfl
/-- Looking at the message changes nothing. -/
@[simp] theorem run_message (w : World) : message.run w = (.ok w.msg, w) := rfl
/-- The message is replaced, and nothing else. -/
@[simp] theorem run_setMessage (m : Message) (w : World) :
    (setMessage m).run w = (.ok (), { w with msg := m }) := rfl
/-- A new spool gets the next number. -/
@[simp] theorem run_create (s : Spool) (w : World) : (create s).run w =
    (.ok w.created, { w with spools := Function.update w.spools w.created s,
                             created := w.created + 1 }) := rfl
/-- Closing a spool frees what it holds and is recorded. -/
@[simp] theorem run_close (ref : SpoolRef) (w : World) : (close ref).run w =
    (.ok (), { w with spools := Function.update w.spools ref (w.spools ref).close,
                      closed := w.closed ++ [ref] }) := rfl
/-- An operation on a spool runs on that spool and on the disk, and touches nothing else of the world. -/
theorem run_onSpool {α : Type} (ref : SpoolRef) (op : SpoolOp α) (w : World) :
    (onSpool ref op).run w = ((op.run ⟨w.disk, w.spools ref⟩).1,
      { w with disk := (op.run ⟨w.disk, w.spools ref⟩).2.disk,
               spools := Function.update w.spools ref (op.run ⟨w.disk, w.spools ref⟩).2.spool }) :=
  rfl

section
variable {src : SpoolRef} {write : Bytes → Tx Unit} {w w₁ w₂ : World} {data : Bytes} {fuel : Nat}

/-- A turn of the loop of `io.Copy` whose write fails. -/
theorem run_copyFile_unwritten {err : Option Err} {e : Err}
    (hread : (onSpool src (Spool.deliver .file (some copyBuffer))).run w = (.ok (data, err), w₁))
    (hpass : (pass write data).run w₁ = (.error e, w₂)) :
    (copyFile src write (fuel + 1)).run w = (.error e, w₂) := by
  rw [copyFile, Comp.run_bind_of_ok hread]
  exact Comp.run_bind_of_error hpass

/-- A turn whose read failed: what it transferred is passed on first. -/
theorem run_copyFile_unread {e : Err}
    (hread : (onSpool src (Spool.deliver .file (some copyBuffer))).run w = (.ok (data, some e), w₁))
    (hpass : (pass write data).run w₁ = (.ok (), w₂)) :
    (copyFile src write (fuel + 1)).run w = (.error e, w₂) := by
  rw [copyFile, Comp.run_bind_of_ok hread]
  exact Comp.run_bind_of_ok hpass

/-- The turn that finds the end of the file. -/
theorem run_copyFile_end
    (hread : (onSpool src (Spool.deliver .file (some copyBuffer))).run w = (.ok ([], none), w₁)) :
    (copyFile src write (fuel + 1)).run w = (.ok (), w₁) := by
  rw [copyFile, Comp.run_bind_of_ok hread]
  rfl

/-- A turn that passes a buffer on. -/
theorem run_copyFile_next
    (hread : (onSpool src (Spool.deliver .file (some copyBuffer))).run w = (.ok (data, none), w₁))
    (hpass : (pass write data).run w₁ = (.ok (), w₂)) (hdata : data ≠ []) :
    (copyFile src write (fuel + 1)).run w = (copyFile src write fuel).run w₂ := by
  rw [copyFile, Comp.run_bind_of_ok hread]
  show (pass write data >>= fun _ => _).run w₁ = _
  rw [Comp.run_bind_of_ok hpass]
  simp only [if_neg hdata]

end

/-! ## Saying and reading -/

/-- A stretch of a run that says `es` and reads, but changes neither the message nor a body. -/
structure Observed (w w' : World) (es : List Event) : Prop where
  trace : w'.trace = w.trace ++ es
  msg : w'.msg = w.msg
  spools : ∀ ref, (w.spools ref).SameBody (w'.spools ref)
  disk : w.disk.Later w'.disk
  created : w'.created = w.created
  closed : w'.closed = w.closed

/-- Nothing happened. -/
theorem Observed.refl (w : World) : Observed w w [] :=
  ⟨(List.append_nil _).symm, rfl, fun _ => .refl _, .refl _, rfl, rfl⟩

/-- Two stretches that only read and reported make one, with their events in order. -/
theorem Observed.trans {w₁ w₂ w₃ : World} {es es' : List Event} (h : Observed w₁ w₂ es)
    (h' : Observed w₂ w₃ es') : Observed w₁ w₃ (es ++ es') :=
  ⟨by rw [h'.trace, h.trace, List.append_assoc], h'.msg.trans h.msg,
    fun ref => (h.spools ref).trans (h'.spools ref), h.disk.trans h'.disk,
    h'.created.trans h.created, h'.closed.trans h.closed⟩

/-- An event is all that a report leaves. -/
theorem Observed.emit (e : Event) (w : World) : Observed w ((emit e).run w).2 [e] :=
  ⟨rfl, rfl, fun _ => .refl _, .refl _, rfl, rfl⟩

/-- A method that reads a spool. -/
theorem Observed.onSpool {α : Type} {ref : SpoolRef} {op : SpoolOp α} {w : World}
    (h : Spool.Reading ⟨w.disk, w.spools ref⟩ (op.run ⟨w.disk, w.spools ref⟩).2) :
    Observed w ((onSpool ref op).run w).2 [] := by
  refine ⟨(List.append_nil _).symm, rfl, fun ref' => ?_, h.2, rfl, rfl⟩
  show (w.spools ref').SameBody (Function.update w.spools ref _ ref')
  by_cases hr : ref' = ref
  · subst hr
    rw [Function.update_self]
    exact h.1
  · rw [Function.update_of_ne hr]
    exact .refl _

/-- A spool of the transaction opens for reading at the offset, or the disk failed; the world is otherwise
as it was. -/
theorem onSpool_opens {ref : SpoolRef} {op : SpoolOp Reader} {w : World} {k : Nat}
    (h : Spool.OpensAt op ⟨w.disk, w.spools ref⟩ k) : ∃ w', Observed w w' [] ∧
      ((∃ r, (onSpool ref op).run w = (.ok r, w') ∧ (w'.spools ref).ReadsFrom k r) ∨
        w.disk.Failed w'.disk ∧ ∃ what, (onSpool ref op).run w = (.error (.other what), w')) := by
  refine ⟨_, .onSpool h.1, ?_⟩
  obtain ⟨r, hr, hfrom⟩ | ⟨hfailed, what, herr⟩ := h.2
  · refine .inl ⟨r, Prod.ext hr rfl, ?_⟩
    rw [run_onSpool]
    simpa using hfrom
  · exact .inr ⟨hfailed, what, Prod.ext herr rfl⟩

/-- One delivery from a spool of the transaction: a beginning of the rest, all of it unless the disk failed.
-/
theorem onSpool_deliver {ref : SpoolRef} {r : Reader} {w : World} {k : Nat}
    (h : (w.spools ref).ReadsFrom k r) (limit : Option Nat) : ∃ data err w',
      (onSpool ref (Spool.deliver r limit)).run w = (.ok (data, err), w') ∧ Observed w w' [] ∧
      data <+: limit.elim ((w.spools ref).contents.drop k) ((w.spools ref).contents.drop k).take ∧
      (err = none → data =
        limit.elim ((w.spools ref).contents.drop k) ((w.spools ref).contents.drop k).take) ∧
      (∀ e, err = some e → w.disk.Failed w'.disk ∧ ∃ what, e = .other what) := by
  obtain ⟨data, err, st, hrun, hread, hpre, hall, herr⟩ :=
    @Spool.deliver_spec ⟨w.disk, w.spools ref⟩ k r h limit
  have hobs : Observed w ((onSpool ref (Spool.deliver r limit)).run w).2 [] :=
    .onSpool (by rw [hrun]; exact hread)
  have hdisk : ((onSpool ref (Spool.deliver r limit)).run w).2.disk = st.disk := by
    rw [run_onSpool, hrun]
  rw [← hdisk] at herr
  exact ⟨data, err, _, Prod.ext (by rw [run_onSpool, hrun]) rfl, hobs, hpre, hall, herr⟩

/-- What a reading operation yields on a spool it yields in the transaction, unless the disk failed. -/
theorem onSpool_yields {α : Type} {ref : SpoolRef} {op : SpoolOp α} {w : World} {v : α}
    (h : Spool.Yields op ⟨w.disk, w.spools ref⟩ v) : ∃ w', Observed w w' [] ∧
      ((onSpool ref op).run w = (.ok v, w') ∨
        w.disk.Failed w'.disk ∧ ∃ what, (onSpool ref op).run w = (.error (.other what), w')) := by
  refine ⟨_, .onSpool h.1, ?_⟩
  obtain hok | ⟨hfailed, what, herr⟩ := h.2
  · exact .inl (Prod.ext hok rfl)
  · exact .inr ⟨hfailed, what, Prod.ext herr rfl⟩

/-- A copy does to the world what its reads and writes do. -/
theorem copy_keeps {R : World → World → Prop} (hr : ∀ w, R w w)
    (ht : ∀ w₁ w₂ w₃, R w₁ w₂ → R w₂ w₃ → R w₁ w₃) {src : SpoolRef} {write : Bytes → Tx Unit}
    (hread : Comp.Keeps R (onSpool src (Spool.deliver .file (some copyBuffer))))
    (hwrite : ∀ p, Comp.Keeps R (write p)) (r : Reader) : Comp.Keeps R (copy src r write) := by
  have hpass : ∀ data, Comp.Keeps R (pass write data) := by
    intro data
    unfold pass
    split_ifs
    · exact .pure hr ()
    · exact hwrite data
  have hloop : ∀ fuel, Comp.Keeps R (copyFile src write fuel) := by
    intro fuel
    induction fuel with
    | zero => exact .pure hr ()
    | succ fuel ih =>
      refine .bind ht hread fun got => .bind ht (hpass got.1) fun _ => ?_
      cases got.2 with
      | some e => exact .fail hr e
      | none =>
        simp only
        split_ifs
        · exact .pure hr ()
        · exact ih
  cases r with
  | mem data => exact hpass data
  | file => exact .bind ht (.get hr) fun w => hloop _

/-- A stretch of a run that says something and reads. -/
def Watches (w w' : World) : Prop := ∃ es, Observed w w' es

/-- Nothing happened. -/
theorem Watches.refl (w : World) : Watches w w := ⟨[], .refl w⟩

/-- Watching goes on over two stretches. -/
theorem Watches.trans (w₁ w₂ w₃ : World) (h : Watches w₁ w₂) (h' : Watches w₂ w₃) :
    Watches w₁ w₃ := by
  obtain ⟨es, hes⟩ := h
  obtain ⟨es', hes'⟩ := h'
  exact ⟨es ++ es', hes.trans hes'⟩

/-- To report is to watch. -/
theorem watches_emit (e : Event) : Comp.Keeps Watches (emit e) := fun w => ⟨[e], .emit e w⟩

/-- To look at the message is to watch. -/
theorem watches_message : Comp.Keeps Watches message := fun w => .refl w

/-- An operation that only reads a spool only watches the world. -/
theorem watches_onSpool {α : Type} {ref : SpoolRef} {op : SpoolOp α}
    (h : ∀ st, Spool.Reading st (op.run st).2) : Comp.Keeps Watches (onSpool ref op) :=
  fun _ => ⟨[], .onSpool (h _)⟩

/-- A stretch of a run that works on a body of its own: it may write the spool `out`, and reads the
others. -/
structure Works (out : SpoolRef) (w w' : World) : Prop where
  msg : w'.msg = w.msg
  created : w'.created = w.created
  closed : w'.closed = w.closed
  spools : ∀ ref, ref ≠ out → (w.spools ref).SameBody (w'.spools ref)

section
variable {out : SpoolRef}

/-- Nothing was done. -/
theorem Works.refl (w : World) : Works out w w := ⟨rfl, rfl, rfl, fun _ _ => .refl _⟩

/-- Work on the spool `out` goes on over two stretches. -/
theorem Works.trans (w₁ w₂ w₃ : World) (h : Works out w₁ w₂) (h' : Works out w₂ w₃) :
    Works out w₁ w₃ :=
  ⟨h'.msg.trans h.msg, h'.created.trans h.created, h'.closed.trans h.closed,
    fun ref hne => (h.spools ref hne).trans (h'.spools ref hne)⟩

/-- Whatever is done to the spool `out` is work on it. -/
theorem works_onSpool {α : Type} (op : SpoolOp α) : Comp.Keeps (Works out) (onSpool out op) := by
  intro w
  refine ⟨rfl, rfl, rfl, fun ref hne => ?_⟩
  rw [run_onSpool]
  simp only [Function.update_of_ne hne]
  exact .refl _

/-- Whoever only watches does not touch another spool than `out` either. -/
theorem Works.of_watches {w w' : World} (h : Watches w w') : Works out w w' := by
  obtain ⟨es, hes⟩ := h
  exact ⟨hes.msg, hes.created, hes.closed, fun ref _ => hes.spools ref⟩

/-- What only watches works on nothing. -/
theorem works_of_watches {α : Type} {x : Tx α} (h : Comp.Keeps Watches x) :
    Comp.Keeps (Works out) x := fun w => .of_watches (h w)

end

/-- A stretch of a run that says nothing. -/
def Silent (w w' : World) : Prop := w'.trace = w.trace

/-- Nothing was said. -/
theorem Silent.refl (w : World) : Silent w w := rfl

/-- Silence goes on over two stretches. -/
theorem Silent.trans (w₁ w₂ w₃ : World) (h : Silent w₁ w₂) (h' : Silent w₂ w₃) : Silent w₁ w₃ :=
  Eq.trans h' h

/-- What is done on a spool is not reported. -/
theorem silent_onSpool {α : Type} (ref : SpoolRef) (op : SpoolOp α) :
    Comp.Keeps Silent (onSpool ref op) := fun _ => rfl

/-- Making a spool is not reported. -/
theorem silent_sibling (ref : SpoolRef) : Comp.Keeps Silent (sibling ref) := fun _ => rfl

/-- Closing a spool is not reported. -/
theorem silent_close (ref : SpoolRef) : Comp.Keeps Silent (close ref) := fun _ => rfl

/-- Looking at the message is not reported. -/
theorem silent_message : Comp.Keeps Silent message := fun _ => rfl

/-- Changing the message is not reported. -/
theorem silent_setMessage (m : Message) : Comp.Keeps Silent (setMessage m) := fun _ => rfl

/-- What `io.Copy` passes on is silent if its writer is. -/
theorem silent_pass {write : Bytes → Tx Unit} (h : ∀ p, Comp.Keeps Silent (write p)) (data : Bytes) :
    Comp.Keeps Silent (pass write data) := by
  unfold Tx.pass
  split_ifs
  · exact .pure Silent.refl _
  · exact h data

/-- A stretch of a run that says only what satisfies `P`. -/
def Says (P : Event → Prop) (w w' : World) : Prop := ∃ es, w'.trace = w.trace ++ es ∧ ∀ e ∈ es, P e

section
variable {P Q : Event → Prop}

/-- Who says nothing says only what satisfies `P`. -/
theorem Says.refl (w : World) : Says P w w := ⟨[], (List.append_nil _).symm, fun _ h => nomatch h⟩

/-- The reports of two stretches all satisfy `P` if those of each do. -/
theorem Says.trans (w₁ w₂ w₃ : World) (h : Says P w₁ w₂) (h' : Says P w₂ w₃) : Says P w₁ w₃ := by
  obtain ⟨es, hes, hall⟩ := h
  obtain ⟨es', hes', hall'⟩ := h'
  refine ⟨es ++ es', by rw [hes', hes, List.append_assoc], fun e he => ?_⟩
  rcases List.mem_append.mp he with he | he
  · exact hall e he
  · exact hall' e he

/-- Silence satisfies every `P`. -/
theorem Says.of_silent {w w' : World} (h : Silent w w') : Says P w w' :=
  ⟨[], by rw [h, List.append_nil], fun _ he => nomatch he⟩

/-- The events that are new at the end all satisfy `P`. -/
theorem Says.newEvents {w w' : World} (h : Says P w w') : ∀ e ∈ newEvents w w', P e := by
  obtain ⟨es, hes, hall⟩ := h
  rw [Mailout.newEvents, hes, List.drop_left]
  exact hall

/-- One report that satisfies `P`. -/
theorem says_emit {e : Event} (he : P e) : Comp.Keeps (Says P) (emit e) := fun _ =>
  ⟨[e], rfl, fun _ h => List.mem_singleton.mp h ▸ he⟩

/-- What is silent says nothing that is not allowed. -/
theorem says_of_silent {α : Type} {x : Tx α} (h : Comp.Keeps Silent x) : Comp.Keeps (Says P) x :=
  fun w => .of_silent (h w)

end

/-- A run that says `e`. -/
def Utters {α : Type} (e : Event) (x : Tx α) (w : World) : Prop := e ∈ newEvents w (x.run w).2

/-- What is said by a sequence whose first part does not say it is said by the rest, which the first
part then reaches. -/
theorem Utters.bind {α β : Type} {e : Event} {x : Tx α} {f : α → Tx β} {w : World}
    (h : Utters e (x >>= f) w) (hx : Comp.Keeps (Says (· ≠ e)) x)
    (hf : ∀ a, Comp.Keeps (Says fun _ => True) (f a)) :
    ∃ a w₁, x.run w = (.ok a, w₁) ∧ Utters e (f a) w₁ := by
  obtain ⟨es, hes, hall⟩ := hx w
  rw [Utters, newEvents] at h
  cases hrun : x.run w with
  | mk r w₁ =>
    rw [hrun] at hes
    cases r with
    | error err =>
      rw [Comp.run_bind_of_error hrun, hes, List.drop_left] at h
      exact absurd rfl (hall e h)
    | ok a =>
      obtain ⟨es', hes', -⟩ := hf a w₁
      rw [Comp.run_bind_of_ok hrun, hes', hes, List.append_assoc, List.drop_left] at h
      refine ⟨a, w₁, rfl, ?_⟩
      rw [Utters, newEvents, hes', List.drop_left]
      exact (List.mem_append.mp h).resolve_left fun hmem => hall e hmem rfl

/-- What says only what satisfies `P` does not say anything else. -/
theorem Utters.of_says {α : Type} {P : Event → Prop} {e : Event} {x : Tx α} {w : World}
    (h : Utters e x w) (hx : Comp.Keeps (Says P) x) : P e :=
  (hx w).newEvents e h

end Tx

end Mailout
