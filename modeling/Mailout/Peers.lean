import Mailout.Alarm
import Mailout.Drafts

/-!
# The parties of a transaction

The quota store, the filters and the upstream server are outside the process. `Peers` is whatever they
answer, as a function of everything said so far. The DKIM library is inside it and works on spools, so
what it does is a part of the transaction. `DKIMLibrary` is any such part that keeps four laws: it reaches
the world through its reader and its writer only, it returns their errors, it fails for no other reason
than that there is no signature for the message, and what it writes otherwise is the signature and the
message. `DKIMLibrary.buffered` is one that keeps them.
-/

namespace Mailout

open Go Tx

/-! ## The DKIM library -/

/-- A DKIM key that was loaded. The private key is a number of its own. -/
structure LoadedDKIMKey where
  domain : Bytes
  selector : Bytes
  signer : Nat
  headerKeys : List Bytes
  deriving DecidableEq, Repr

/-- `github.com/emersion/go-msgauth/dkim`, as far as it is used. -/
structure DKIMLibrary where
  /-- The header field that signs a message, or why there is none. -/
  field : LoadedDKIMKey → Bytes → Except Bytes Bytes
  /-- `dkim.Sign(signed, source, ...)`, where `source` reads the spool `body`. -/
  sign : LoadedDKIMKey → (body : SpoolRef) → (source : Reader) → (signed : SpoolRef) → Tx Unit
  /-- It does to the world what its reads and writes do. -/
  through : ∀ {R : World → World → Prop} (key body source signed), (∀ w, R w w) →
    (∀ w₁ w₂ w₃, R w₁ w₂ → R w₂ w₃ → R w₁ w₃) →
    (∀ limit, Comp.Keeps R (onSpool body (Spool.deliver source limit))) →
    (∀ p, Comp.Keeps R (onSpool signed (Spool.write p))) → Comp.Keeps R (sign key body source signed)
  /-- It returns an error of the disk. -/
  reports : ∀ key body source signed, Warns IsOther (sign key body source signed)
  /-- It fails for want of a signature, and for no other reason than that and the disk. -/
  refuses : ∀ {key body source signed w w' e}, (w.spools body).ReadsFrom 0 source →
    (sign key body source signed).run w = (.error e, w') → w.disk.Failed w'.disk ∨
      ∃ what, field key (w.spools body).contents = .error what ∧ e = .other what
  /-- It writes the signature and the message. -/
  signs : ∀ {key body source signed w w'}, body ≠ signed → (w.spools body).ReadsFrom 0 source →
    Draft w signed [] → (sign key body source signed).run w = (.ok (), w') →
      ∃ signature, field key (w.spools body).contents = .ok signature ∧
        Draft w' signed (signature ++ (w.spools body).contents)

namespace DKIMLibrary

variable (field : LoadedDKIMKey → Bytes → Except Bytes Bytes) (key : LoadedDKIMKey) (body : SpoolRef)
  (source : Reader) (signed : SpoolRef)

/-- The message is read to its end, then the signature and the message are written. -/
def signBuffered : Tx Unit := do
  let data ← onSpool body (Spool.readAll source none)
  let signature ← Comp.ofExcept ((field key data).mapError Err.other)
  onSpool signed (Spool.write signature)
  pass (fun p => onSpool signed (Spool.write p)) data

/-- The reads and writes of `signBuffered` are those of its reader and its writer. -/
theorem signBuffered_through {R : World → World → Prop} (hr : ∀ w, R w w)
    (ht : ∀ w₁ w₂ w₃, R w₁ w₂ → R w₂ w₃ → R w₁ w₃)
    (hread : ∀ limit, Comp.Keeps R (onSpool body (Spool.deliver source limit)))
    (hwrite : ∀ p, Comp.Keeps R (onSpool signed (Spool.write p))) :
    Comp.Keeps R (signBuffered field key body source signed) := by
  have hall : Comp.Keeps R (onSpool body (Spool.readAll source none)) := by
    intro w
    have hw := hread none w
    have hrun : ((Spool.readAll source none).run ⟨w.disk, w.spools body⟩).2 =
        ((Spool.deliver source none).run ⟨w.disk, w.spools body⟩).2 := by
      rw [Spool.readAll, Comp.run_bind]
      rcases (Spool.deliver source none).run ⟨w.disk, w.spools body⟩ with ⟨e | ⟨data, _ | e⟩, st⟩ <;> rfl
    rw [run_onSpool] at hw ⊢
    rwa [hrun]
  refine .bind ht hall fun data => .bind ht (.ofExcept hr _) fun signature => ?_
  refine .bind ht (hwrite _) fun _ => ?_
  unfold Tx.pass
  split_ifs
  · exact .pure hr _
  · exact hwrite data

/-- Each of them returns its error. -/
theorem signBuffered_reports : Warns IsOther (signBuffered field key body source signed) := by
  refine ((Spool.reports_readAll source none).onSpool body).next fun data => ?_
  refine Alarms.next (.calm fun w => ?_) fun signature => (warns_write signed signature).next fun _ => ?_
  · cases field key data <;> rfl
  · exact warns_pass (warns_write signed) data

variable {field key body source signed} {w w' : World}

/-- It fails when it cannot read the message, when there is no signature, and when it cannot write. -/
theorem signBuffered_refuses {e : Err} (hfrom : (w.spools body).ReadsFrom 0 source)
    (hrun : (signBuffered field key body source signed).run w = (.error e, w')) :
    w.disk.Failed w'.disk ∨ ∃ what, field key (w.spools body).contents = .error what ∧ e = .other what := by
  have hwrites : ∀ p, Blames World.disk (fun _ => True) (onSpool signed (Spool.write p)) :=
    fun p => (Spool.blames_write p).onSpool signed
  obtain ⟨w₁, hobs, hread | ⟨hfailed, what, hread⟩⟩ :=
    onSpool_yields (@Spool.readAll_yields ⟨w.disk, w.spools body⟩ 0 source hfrom none)
  · rw [signBuffered, Comp.run_bind_of_ok hread] at hrun
    have hdata : (w.spools body).contents.drop 0 = (w.spools body).contents := List.drop_zero
    simp only [Option.elim, hdata] at hrun
    cases hfield : field key (w.spools body).contents with
    | error what =>
      rw [hfield] at hrun
      cases hrun
      exact .inr ⟨what, rfl, rfl⟩
    | ok signature =>
      rw [hfield] at hrun
      have hrest : (do onSpool signed (Spool.write signature)
                       pass (fun p => onSpool signed (Spool.write p)) (w.spools body).contents :
          Tx Unit).run w₁ = (.error e, w') := hrun
      have hblames := Blames.bind (fun w => (warns_write signed signature w).1) (hwrites signature)
        fun _ => blames_pass signed (w.spools body).contents
      exact .inl ((hblames.failed hrest trivial).before hobs.disk)
  · rw [signBuffered, Comp.run_bind_of_error hread] at hrun
    cases hrun
    exact .inl hfailed

/-- What it writes is the signature and, unless it is empty, the message. -/
theorem signBuffered_signs (hne : body ≠ signed) (hfrom : (w.spools body).ReadsFrom 0 source)
    (hdraft : Draft w signed []) (hrun : (signBuffered field key body source signed).run w = (.ok (), w')) :
    ∃ signature, field key (w.spools body).contents = .ok signature ∧
      Draft w' signed (signature ++ (w.spools body).contents) := by
  obtain ⟨w₁, hobs, hread | ⟨-, what, hread⟩⟩ :=
    onSpool_yields (@Spool.readAll_yields ⟨w.disk, w.spools body⟩ 0 source hfrom none)
  · rw [signBuffered, Comp.run_bind_of_ok hread] at hrun
    have hdata : (w.spools body).contents.drop 0 = (w.spools body).contents := List.drop_zero
    simp only [Option.elim, hdata] at hrun
    have hdraft₁ : Draft w₁ signed [] := hdraft.of_eq (onSpool_frame hread hne.symm)
    cases hfield : field key (w.spools body).contents with
    | error what =>
      rw [hfield] at hrun
      cases hrun
    | ok signature =>
      rw [hfield] at hrun
      obtain ⟨_, w₂, hwrite, hpass⟩ := Comp.run_bind_ok (show (do
        onSpool signed (Spool.write signature)
        pass (fun p => onSpool signed (Spool.write p)) (w.spools body).contents :
          Tx Unit).run w₁ = (.ok (), w') from hrun)
      exact ⟨signature, rfl, (hdraft₁.written hwrite).passed hpass⟩
  · rw [signBuffered, Comp.run_bind_of_error hread] at hrun
    cases hrun

/-- A library that signs as `signBuffered` does. -/
def buffered (field : LoadedDKIMKey → Bytes → Except Bytes Bytes) : DKIMLibrary where
  field := field
  sign := signBuffered field
  through key body source signed := signBuffered_through field key body source signed
  reports := signBuffered_reports field
  refuses := signBuffered_refuses
  signs := signBuffered_signs

end DKIMLibrary

/-! ## The parties -/

/-- The parties outside the process, and the libraries that speak for them: what each answers to the
last thing said, given all that was said. -/
structure Peers where
  quota : List Event → (call : StoreCall) → call.Answer
  /-- `net.ParseIP(ip).To4() == nil` on an address that parses. -/
  isIPv6 : Bytes → Bool
  milter : List Event → Except Bytes (Option Action)
  milterEnd : List Event → Except Bytes (List ModifyAction × Option Action)
  upstream : List Event → Option Err
  dkim : DKIMLibrary

/-- Parties that agree to everything and change nothing. -/
def agreeable : Peers where
  quota
    | _, .now => (0 : Nat)
    | _, .incrBy .. => Except.ok 1
    | _, .expireNX .. => Except.ok ()
  isIPv6 _ := false
  milter _ := .ok none
  milterEnd _ := .ok ([], none)
  upstream _ := none
  dkim := .buffered fun _ _ => .ok []

namespace Tx

/-- A program of the quota store, as part of a transaction. -/
def perform {α : Type} (peers : Peers) : StoreProg α → Tx α
  | .ret a => pure a
  | .call op k => do
    emit (.quota op)
    perform peers (k (peers.quota (← Comp.get).trace op))

/-- A program of the quota store speaks to the store. -/
theorem says_perform {α : Type} {P : Event → Prop} (peers : Peers) (hP : ∀ call, P (.quota call)) :
    ∀ p : StoreProg α, Comp.Keeps (Says P) (perform peers p)
  | .ret a => .pure Says.refl a
  | .call op _ => .bind Says.trans (says_emit (hP op)) fun _ =>
      .bind Says.trans (.get Says.refl) fun _ => says_perform peers hP _

end Tx

end Mailout
