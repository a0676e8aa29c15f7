import Mailout.Storage

/-!
# The stages of Data on a message at the desk

Every stage of Data refines its counterpart of `Letter`: the filters (`refines_filterStage`), the
signature (`refines_signStage`), the relay (`refines_relayStage`), and before them the receipt of the
message and the check of its From field (`opening_endsAlike`), which may end before there is a message.
-/

namespace Mailout

open Go Tx

/-! ## The filters -/

section
open Go.Comp (Refines Matches)

variable (peers : Peers) {snap : Snapshot} {w₀ w w' : World} {d : Desk} {apart : List SpoolRef}
  {ref out : SpoolRef} {b : Bytes}

/-- The message stands, and its body is behind `body`. -/
def StandsIn (snap : Snapshot) (w₀ : World) (apart : List SpoolRef) (body : SpoolRef) (w : World)
    (d : Desk) : Prop :=
  Stands snap w₀ apart w d ∧ w.msg.body = body

/-- To stand for the message in a certain spool is kept by whatever only reads and reports. -/
theorem standsIn_listens (snap : Snapshot) (w₀ : World) (apart : List SpoolRef) (body : SpoolRef) :
    Listens (StandsIn snap w₀ apart body) :=
  ⟨fun h => h.1.said, fun h hobs => ⟨h.1.observed hobs, by rw [hobs.msg, h.2]⟩⟩

/-- A filter is shown the message on the desk. -/
theorem refines_askFilter (f : Milter) (info : SessionInfo) :
    Refines (Stands snap w₀ apart) (askFilter peers.deaf f info) (Post.askFilter peers f info) := by
  intro w d h
  have hlisten := standsIn_listens snap w₀ apart w.msg.body
  refine Matches.mono ?_ fun _ _ (h' : StandsIn snap w₀ apart w.msg.body _ _) => h'.1
  refine .left (run_message w) (.right (Comp.run_get d) ?_)
  rw [h.from_, h.to_]
  refine .bind (refines_openSession peers hlisten f info _ w d ⟨h, rfl⟩) (fun _ w₁ d₁ h₁ => ?_)
    fun _ _ h' => h'
  refine .bind (refines_sayAll peers hlisten f _ w₁ d₁ h₁) (fun _ w₂ d₂ h₂ => ?_) fun _ _ h' => h'
  obtain ⟨h₂, hbody₂⟩ := h₂
  -- the header block is the one of the message on the desk
  obtain ⟨w₃, hrun₃, h₃, hobs₃⟩ := h₂.yields (Spool.headerBlock_yields ⟨w₂.disk, w₂.spools w.msg.body⟩)
  have hbytes₂ : (w₂.spools w.msg.body).contents = d₂.bytes := by
    rw [← hbody₂]
    exact h₂.bytes
  rw [hbytes₂] at hrun₃
  refine .left hrun₃ (.right (Comp.run_get d₂) ?_)
  refine .bind (refines_sayAll peers hlisten f _ w₃ d₂ ⟨h₃, by rw [hobs₃.msg, hbody₂]⟩)
    (fun _ w₄ d₄ h₄ => ?_) fun _ _ h' => h'
  obtain ⟨h₄, hbody₄⟩ := h₄
  rw [← hbody₄]
  -- and so is what follows it
  obtain ⟨r, w₅, j, hrun₅, h₅, hobs₅, hfrom, hdrop⟩ := h₄.readerAt
    (if (headerBlockOf d₂.bytes).2 = true then (headerBlockOf d₂.bytes).1 else []).length
  obtain ⟨w₆, hrun₆, h₆, hobs₆⟩ := h₅.delivers hfrom
  rw [hdrop] at hrun₆
  have hbody₆ : w₆.msg.body = w₄.msg.body := by rw [hobs₆.msg, hobs₅.msg]
  refine .left hrun₅ (.left hrun₆ (.right (Comp.run_get d₄) ?_))
  refine .bind (refines_emit (standsIn_listens snap w₀ apart w₄.msg.body) rfl w₆ d₄ ⟨h₆, hbody₆⟩)
    (fun _ w₇ d₇ h₇ => ?_) fun _ _ h' => h'
  refine .left (Comp.run_get w₇) (.right (Comp.run_get d₇) ?_)
  have hanswer : peers.deaf.milterEnd w₇.trace = peers.milterEnd d₇.heard :=
    congrArg peers.milterEnd h₇.1.said
  rw [hanswer]
  exact .bind (.ofExcept _ h₇) (fun acts _ _ h' => .pure _ h') fun _ _ h' => h'

/-- Filling a spool that is new reaches no other one. -/
theorem reaches_fillBody {fresh : Spool} {start : SpoolRef} (parsed : ParsedMessage) (headerLen : Nat)
    (replacement : Option SpoolRef) (body : SpoolRef) :
    Comp.Keeps (Reaches fresh start) (fillBody parsed headerLen replacement body out) := by
  have hwrite : ∀ p, Comp.Keeps (Reaches fresh start) (onSpool out (Spool.write p)) :=
    fun p w => .single (.write w out p)
  have hheaders : ∀ fields, Comp.Keeps (Reaches fresh start) (writeHeaders out fields) := by
    intro fields
    induction fields with
    | nil => exact hwrite _
    | cons field fields ih => exact .bind reaches_trans (hwrite _) fun _ => ih
  have hread : Comp.Keeps (Reaches fresh start)
      (onSpool (replacement.getD body) (Spool.deliver .file (some copyBuffer))) :=
    fun w => .single (.watch (watches_onSpool (Spool.deliver_reading _ _) w))
  refine .bind reaches_trans (hheaders _) fun _ => .bind reaches_trans (fun w => ?_) fun r => ?_
  · exact .single (.watch (watches_openSource body headerLen replacement w))
  · exact copy_keeps (fun _ => .refl) reaches_trans hread hwrite r

/-- Rewriting makes a spool, and closes one that the transaction made. -/
theorem reaches_rewriteBody {fresh : Spool} {start : SpoolRef} (hlow : start ≤ w.msg.body)
    (hhigh : w.msg.body < w.created) (parsed : ParsedMessage) (headerLen : Nat)
    (replacement : Option SpoolRef) :
    Reaches fresh start w ((rewriteBody parsed headerLen replacement).run w).2 := by
  have hrest : Comp.Keeps (Reaches fresh start) (do
      Comp.onError (close w.created) (fillBody parsed headerLen replacement w.msg.body w.created)
      close w.msg.body
      setMessage { w.msg with body := w.created } : Tx Unit) := by
    refine .bind reaches_trans (.onError reaches_trans (fun w => .single (.close w _)) ?_) fun _ => ?_
    · exact reaches_fillBody parsed headerLen replacement _
    · exact .bind reaches_trans (fun w => .single (.close w _)) fun _ w => .single (.setMessage w _)
  exact .head (.sibling w w.msg.body hlow hhigh) (hrest _)

/-- `rewriteBody` puts the message together from the headers given and the body that goes with them. -/
theorem Stands.rewriteBody {replacement : Option SpoolRef} {new : Option Bytes}
    (h : Stands snap w₀ apart w d) (hmem : ∀ ref, replacement = some ref → ref ∈ apart)
    (hnew : Drafted w replacement new) (parsed : ParsedMessage) (headerLen : Nat) : ∃ w',
      (rewriteBody parsed headerLen replacement).run w = (.ok (), w') ∧ Stands snap w₀ apart w'
        { d with bytes := parsed.writeHeaders ++ new.getD (d.bytes.drop headerLen) } := by
  have hhand : InHand w replacement new :=
    ⟨h.high, by rw [h.size, h.bytes], fun ref href => h.apart ref (hmem ref href), hnew⟩
  obtain ⟨_, w', hrun, hlater, hmsg, hcreated, hbytes, hsize⟩ :=
    (hhand.rewriteBody parsed headerLen).healthy h.healthy
  have hsilent := silent_rewriteBody parsed headerLen replacement w
  have hreach : Reaches snap.newSpool w₀.created w _ :=
    reaches_rewriteBody h.low h.high parsed headerLen replacement
  rw [hrun] at hsilent hreach
  rw [h.bytes] at hbytes
  refine ⟨w', hrun, ?_⟩
  exact {
    said := by rw [hsilent]; exact h.said
    healthy := h.healthy.later hlater
    path := h.path.trans hreach
    from_ := by rw [hmsg]; exact h.from_
    to_ := by rw [hmsg]; exact h.to_
    bytes := hbytes
    size := hsize.trans (congrArg List.length hbytes)
    low := by rw [hmsg]; exact Nat.le_trans h.low (Nat.le_of_lt h.high)
    high := by rw [hmsg, hcreated]; exact Nat.lt_succ_self _
    apart := by
      intro ref href
      have hlt := (h.apart ref href).1
      rw [hmsg, hcreated]
      exact ⟨Nat.lt_succ_of_lt hlt, Nat.ne_of_lt hlt⟩ }

/-- An edit of the envelope. -/
theorem Stands.edit (h : Stands snap w₀ apart w d) (act : ModifyAction) :
    Stands snap w₀ apart { w with msg := act.onMessage w.msg } (d.edit act) := by
  have hpath := h.path.tail (.setMessage w (act.onMessage w.msg))
  have hto := h.to_
  cases act with
  | changeFrom from_ => exact { h with path := hpath, from_ := rfl }
  | addRcpt rcpt =>
    exact { h with path := hpath, to_ := congrArg (· ++ [unbracket rcpt]) hto }
  | delRcpt rcpt =>
    exact { h with path := hpath, to_ := congrArg (removeRecipient · (unbracket rcpt)) hto }
  | _ => exact h

/-- The message is put together again if it has to be, and needs a recipient. -/
theorem matches_finishModifications {replacement : Option SpoolRef} {new : Option Bytes}
    (f : Milter) (headerLen : Nat) (parsed : ParsedMessage) (changed : Bool)
    (h : Stands snap w₀ apart w d) (hmem : ∀ ref, replacement = some ref → ref ∈ apart)
    (hnew : Drafted w replacement new) :
    Matches (Stands snap w₀ apart) (finishModifications parsed headerLen changed replacement)
      (Post.applyModifications f headerLen [] parsed changed new) w d := by
  have hsome : replacement.isSome = new.isSome := by cases hnew <;> rfl
  refine Matches.bind (?_ : Matches (Stands snap w₀ apart) _ _ w d) (fun _ w₁ d₁ h₁ => ?_)
    fun _ _ h' => h'
  · rw [hsome]
    unfold Comp.when
    split_ifs
    · obtain ⟨w', hrun, h'⟩ := h.rewriteBody hmem hnew parsed headerLen
      exact .of_run hrun rfl h'
    · exact .pure () h
  · refine .left (run_message w₁) (.right (Comp.run_get d₁) ?_)
    rw [h₁.to_]
    split_ifs
    · exact .fail _ h₁
    · exact .pure () h₁

/-- The modifications are carried out on the message of the transaction as on the one on the desk. The
induction is over the actions, with the chunks of the new body so far in a spool apart. -/
theorem matches_applyModifications (f : Milter) (headerLen : Nat) (acts : List ModifyAction) :
    ∀ {w : World} {d : Desk} {apart : List SpoolRef} {replacement : Option SpoolRef}
      {new : Option Bytes} (parsed : ParsedMessage) (changed : Bool), Stands snap w₀ apart w d →
      (∀ ref, replacement = some ref → ref ∈ apart) → Drafted w replacement new →
      Matches (Stands snap w₀ apart) (applyModifications f headerLen acts parsed changed replacement)
        (Post.applyModifications f headerLen acts parsed changed new) w d := by
  induction acts with
  | nil =>
    intro w d apart replacement new parsed changed h hmem hnew
    exact matches_finishModifications f headerLen parsed changed h hmem hnew
  | cons act acts ih =>
    intro w d apart replacement new parsed changed h hmem hnew
    have hedit : act.edits = true → Matches (Stands snap w₀ apart)
        (applyModifications f headerLen (act :: acts) parsed changed replacement)
        (Post.applyModifications f headerLen (act :: acts) parsed changed new) w d := by
      intro he
      rw [Matches, applyModifications_edit _ _ _ _ _ _ he, Post.applyModifications_edit he]
      exact ih _ _ (h.edit act) hmem (hnew.of_spools rfl)
    cases act with
    | replaceBody body =>
      cases hnew with
      | none =>
        obtain ⟨w₁, hsibling, h₁, hdraft₁, -, -⟩ := h.sibling
        obtain ⟨w₂, hwrite, h₂, hdraft₂, -⟩ := h₁.write List.mem_cons_self hdraft₁ body
        refine .left (run_message w) (.left hsibling (.deferred ?_
          fun _ _ (h' : Stands snap w₀ (w.created :: apart) _ _) => h'.close))
        refine .left hwrite (ih parsed changed h₂ ?_ (.some hdraft₂))
        rintro ref ⟨⟩
        exact List.mem_cons_self
      | @some ref b hdraft =>
        obtain ⟨w₁, hwrite, h₁, hdraft₁, -⟩ := h.write (hmem ref rfl) hdraft body
        exact .left hwrite (ih parsed changed h₁ hmem (.some hdraft₁))
    | quarantine reason => exact .fail _ h
    | _ => exact hedit rfl

/-- A filter does the same to the message at the desk as to its spool: it is asked, and then the message is
changed as it asked. -/
theorem refines_runOne (f : Milter) (info : SessionInfo) :
    Refines (Stands snap w₀ apart) (runOne peers.deaf f info) (Post.runOne peers f info) := by
  rw [runOne_eq]
  refine (refines_askFilter peers f info).bind fun req w d h => ?_
  exact matches_applyModifications f req.headerLen req.acts req.parsed false h
    (fun ref href => nomatch href) .none

/-- One round of the chain, where a filter that fails may be passed over, is the same on both sides. -/
theorem refines_consult (info : SessionInfo) (f : Milter) :
    Refines (Stands snap w₀ apart) (consult peers.deaf info f) (Post.consult peers info f) := by
  have hlisten := stands_listens snap w₀ apart
  refine (refines_runOne peers f info).attempt.bind fun r => ?_
  match r with
  | .ok () => exact refines_emit hlisten rfl
  | .error (.smtp e) => exact (refines_emit hlisten rfl).bind fun _ => Comp.refines_fail _
  | .error .discard => exact (refines_emit hlisten rfl).bind fun _ => Comp.refines_fail _
  | .error (.other what) =>
    refine (refines_emit hlisten rfl).bind fun _ => ?_
    cases f.failOpen with
    | true => exact Comp.refines_pure ()
    | false => exact Comp.refines_fail _

/-- So is the chain, by induction on the filters. -/
theorem refines_runChain (info : SessionInfo) (filters : List Milter) :
    Refines (Stands snap w₀ apart) (runChain peers.deaf info filters)
      (Post.runChain peers info filters) := by
  induction filters with
  | nil => exact Comp.refines_pure ()
  | cons f filters ih =>
    rw [runChain_consult]
    exact (refines_consult peers info f).bind fun _ => ih

/-- So is the filter stage, with what it reports. -/
theorem refines_filterStage (info : SessionInfo) (acct : Account) (policy : AccountPolicy) :
    Refines (Stands snap w₀ apart) (filterStage peers.deaf info acct policy)
      (Post.filterStage peers info acct policy) := by
  have hlisten := stands_listens snap w₀ apart
  unfold filterStage Post.filterStage
  split_ifs
  · exact Comp.refines_pure true
  · refine (refines_runChain peers info policy.milters).attempt.bind fun r => ?_
    match r with
    | .ok () => exact Comp.refines_pure true
    | .error .discard => exact (refines_emit hlisten rfl).bind fun _ => Comp.refines_pure false
    | .error (.smtp e) => exact (refines_emit hlisten rfl).bind fun _ => Comp.refines_fail _
    | .error (.other what) => exact (refines_emit hlisten rfl).bind fun _ => Comp.refines_fail _

end

/-! ## The signature -/

section
open Go.Comp (Refines Matches)

variable (peers : Peers) {snap : Snapshot} {w₀ w : World} {d : Desk} {apart : List SpoolRef}
  {b : Bytes}

/-- The key for a message is chosen by its envelope and its header, which the spool yields. -/
theorem Stands.keyFor (h : Stands snap w₀ apart w d) (s : DKIMSigner) : ∃ w',
    (keyFor s).run w = (.ok (d.keyFor s), w') ∧ Stands snap w₀ apart w' d := by
  rw [Mailout.keyFor, Comp.run_bind_of_ok (run_message w), h.from_, Desk.keyFor]
  cases s.byDomain (domainOf d.from_) with
  | some key => exact ⟨w, rfl, h⟩
  | none =>
    obtain ⟨w', hrun, h', -⟩ := h.yields (Spool.headerBlock_yields ⟨w.disk, w.spools w.msg.body⟩)
    rw [show (w.spools w.msg.body).contents = d.bytes from h.bytes] at hrun
    have hattempt : (Comp.attempt (onSpool w.msg.body Spool.headerBlock)).run w =
        (.ok (.ok (headerBlockOf d.bytes)), w') := by
      rw [Comp.run_attempt, hrun]
    exact ⟨w', Comp.run_bind_of_ok hattempt, h'⟩

/-- `dkim.Sign` reads the message, and writes the signature and the message to a spool apart. Its steps
are reads and writes, so that the bodies stay within their threshold. -/
theorem Stands.dkim {out : SpoolRef} {source : Reader} (h : Stands snap w₀ apart w d)
    (hout : out ∈ apart) (hdraft : Draft w out []) (key : LoadedDKIMKey)
    (hfrom : (w.spools w.msg.body).ReadsFrom 0 source) :
    (∃ e w', peers.dkim.field key d.bytes = .error e ∧
      (peers.dkim.sign key w.msg.body source out).run w = (.error (.other e), w') ∧
      Stands snap w₀ apart w' d) ∨
    ∃ signature w', peers.dkim.field key d.bytes = .ok signature ∧
      (peers.dkim.sign key w.msg.body source out).run w = (.ok (), w') ∧
      Stands snap w₀ apart w' d ∧ w'.msg = w.msg ∧ Draft w' out (signature ++ d.bytes) := by
  have hne : w.msg.body ≠ out := (h.apart out hout).2.symm
  have hbytes : (w.spools w.msg.body).contents = d.bytes := h.bytes
  have hsilent := silent_dkim peers key w.msg.body source out w
  have hworks := works_dkim peers key w.msg.body source out w
  have hlater := (peers.dkim.reports key w.msg.body source out w).1
  have hpath : Reaches snap.newSpool w₀.created w _ :=
    peers.dkim.through key w.msg.body source out (fun _ => .refl) reaches_trans
      (fun limit w => .single (.watch (watches_onSpool (Spool.deliver_reading source limit) w)))
      (fun p w => .single (.write w out p)) w
  rcases hrun : (peers.dkim.sign key w.msg.body source out).run w with ⟨e | u, w'⟩
  all_goals
    rw [hrun] at hsilent hworks hlater hpath
    have hnear : Near snap w₀ w' d :=
      ⟨by rw [hsilent]; exact h.said, h.healthy.later hlater, h.path.trans hpath⟩
    have hstands : Stands snap w₀ apart w' d := h.works hnear hworks hout
  · obtain hfailed | ⟨what, hfield, rfl⟩ := peers.dkim.refuses hfrom hrun
    · exact absurd hfailed h.healthy.not_failed
    · exact .inl ⟨what, w', hbytes ▸ hfield, rfl, hstands⟩
  · obtain ⟨signature, hfield, hdraft'⟩ := peers.dkim.signs hne hfrom hdraft hrun
    rw [hbytes] at hfield hdraft'
    exact .inr ⟨signature, w', hfield, rfl, hstands, hworks.msg, hdraft'⟩

/-- The signed message takes the place of the message. -/
theorem refines_signWith (key : LoadedDKIMKey) :
    Refines (Stands snap w₀ apart) (signWith peers.deaf key) (Post.signWith peers key) := by
  intro w d h
  have hlisten := stands_listens snap w₀ apart
  obtain ⟨source, w₁, hopen, h₁, hobs, hfrom⟩ :=
    h.opens (Spool.reader_opens ⟨w.disk, w.spools w.msg.body⟩)
  have hattempt : (Comp.attempt (onSpool w.msg.body Spool.reader)).run w = (.ok (.ok source), w₁) := by
    rw [Comp.run_attempt, hopen]
  refine .left (run_message w) (.left hattempt (.right (Comp.run_get d) ?_))
  rw [← hobs.msg] at hfrom ⊢
  obtain ⟨w₂, hsibling, h₂, hdraft₂, hmsg₂, hold⟩ := h₁.sibling
  rw [← hold _ h₁.high] at hfrom
  refine .left hsibling ?_
  rw [← hmsg₂] at hfrom ⊢
  rcases h₂.dkim peers List.mem_cons_self hdraft₂ key hfrom with
    ⟨e, w₃, hdkim, hrun, h₃⟩ | ⟨signature, w₃, hdkim, hrun, h₃, hmsg₃, hdraft₃⟩
  · rw [hdkim]
    have hfailed : (Comp.attempt (peers.deaf.dkim.sign key w₂.msg.body source w₁.created)).run w₂ =
        (.ok (.error (.other e)), w₃) := by
      rw [Comp.run_attempt]
      exact congrArg (fun p : Except Err Unit × World => (Except.ok p.1, p.2)) hrun
    refine .left hfailed (.left (run_close _ _) ?_)
    exact .bind (refines_emit hlisten rfl _ _ h₃.close) (fun _ _ _ h' => .fail _ h') fun _ _ h' => h'
  · rw [hdkim]
    have hsigned : (Comp.attempt (peers.deaf.dkim.sign key w₂.msg.body source w₁.created)).run w₂ =
        (.ok (.ok ()), w₃) := by
      rw [Comp.run_attempt]
      exact congrArg (fun p : Except Err Unit × World => (Except.ok p.1, p.2)) hrun
    obtain ⟨w₄, hreplace, h₄⟩ := h₃.replace hdraft₃ (Nat.le_trans h₁.low (Nat.le_of_lt h₁.high))
      fun hin => Nat.lt_irrefl _ (h₁.apart _ hin).1
    rw [hmsg₃] at hreplace
    cases hreplace
    refine .left hsigned (.left (run_close _ _) (.left (run_setMessage _ _) ?_))
    exact .right (Comp.run_modify _ _) (refines_emit hlisten rfl _ _ h₄)

/-- A message is signed at the desk as in its spool: the library reads all of it, and the signed copy takes
its place. -/
theorem refines_sign (s : DKIMSigner) (policy : SenderPolicy) :
    Refines (Stands snap w₀ apart) (sign peers.deaf s policy) (Post.sign peers s policy) := by
  intro w d h
  obtain ⟨w', hkey, h'⟩ := h.keyFor s
  refine .left hkey (.right (Comp.run_get d) ?_)
  cases d.keyFor s with
  | none => exact .pure () h'
  | some key =>
    show Matches _ (if policy.canSign key.domain = true then _ else _)
      (if policy.canSign key.domain = true then _ else _) w' d
    split_ifs
    · exact refines_signWith peers key w' d h'
    · exact refines_emit (stands_listens snap w₀ apart) rfl w' d h'

/-- So is the signing stage, with what it reports. -/
theorem refines_signStage (signer : DKIMSigner) (acct : Account) (policy : AccountPolicy) :
    Refines (Stands snap w₀ apart) (signStage peers.deaf signer acct policy)
      (Post.signStage peers signer acct policy) := by
  unfold signStage Post.signStage
  split_ifs
  · exact Comp.refines_pure ()
  · refine (refines_sign peers signer policy.senders).attempt.bind fun r => ?_
    cases r with
    | ok u => exact Comp.refines_pure ()
    | error e =>
      exact (refines_emit (stands_listens snap w₀ apart) rfl).bind fun _ => Comp.refines_fail _

/-! ## The relay -/

/-- A write of the body is taken, and its bytes are heard. -/
theorem Stands.writeData (h : Stands snap w₀ apart w d) (chunk : Bytes) : ∃ w',
    (writeData peers.deaf chunk).run w = (.ok (), w') ∧ w'.spools = w.spools ∧ w'.disk = w.disk ∧
      Stands snap w₀ apart w' (d.wire chunk) := by
  rcases writeData_cases peers.deaf chunk w with ⟨-, hrun⟩ | ⟨hrefused, -⟩
  · refine ⟨_, hrun, rfl, rfl, ?_⟩
    have h' := h.observed (observed_said w [.upstream (.write chunk), .accepted (.write chunk)])
    rwa [show heard [.upstream (.write chunk), .accepted (.write chunk)] =
      chunk.map (fun byte => .accepted (.write [byte])) by simp [heard, Event.audible]] at h'
  · simp [takes, Peers.deaf] at hrefused

/-- The body goes to the DATA writer as a whole. -/
theorem Stands.copyBody {r : Reader} (h : Stands snap w₀ apart w d)
    (hfrom : (w.spools w.msg.body).ReadsFrom 0 r) : ∃ w',
      (Tx.copy w.msg.body r (Mailout.writeData peers.deaf)).run w = (.ok (), w') ∧
        Stands snap w₀ apart w' (d.wire d.bytes) := by
  have hbytes : (w.spools w.msg.body).contents.drop 0 = d.bytes := h.bytes
  have hcopy : Carries (Tx.copy w.msg.body r (Mailout.writeData peers.deaf)) w fun _ w' =>
      Stands snap w₀ apart w' (d.wire ((w.spools w.msg.body).contents.drop 0)) := by
    refine copy_carries (I := fun done w' => Stands snap w₀ apart w' (d.wire done))
      (fun done w' hI => ?_) (fun done p w' hI => ?_) hfrom ?_
    · exact (stands_listens snap w₀ apart).read hI (.onSpool (Spool.deliver_reading _ _ _))
    · obtain ⟨w'', hrun, hspools, hdisk, h'⟩ := hI.writeData peers p
      have hwire : (d.wire done).wire p = d.wire (done ++ p) := by
        simp only [Desk.wire, List.map_append, List.append_assoc]
      rw [hwire] at h'
      exact carries_of_run hrun (by rw [hdisk]; exact .refl _) ⟨h', by rw [hspools]⟩
    · simpa [Desk.wire] using h
  obtain ⟨_, w', hrun, -, h'⟩ := hcopy.healthy h.healthy
  rw [hbytes] at h'
  exact ⟨w', hrun, h'⟩

/-- Relaying sends the bytes of the message, in whatever pieces the spool delivers them: the pieces are not
heard, and none of them is refused. -/
theorem refines_send (relay : Relayer) :
    Refines (Stands snap w₀ apart) (send peers.deaf relay) (Post.send peers relay) := by
  have hlisten := stands_listens snap w₀ apart
  unfold send startData Post.send
  simp only [bind_assoc]
  refine (refines_dial peers hlisten relay).bind fun _ => ?_
  refine (refines_command peers hlisten _ (by simp)).bind fun _ => ?_
  refine (Comp.Refines.when (refines_command peers hlisten _ (by simp))).bind fun _ w d h => ?_
  refine .left (run_message w) (.right (Comp.run_get d) ?_)
  rw [h.from_, h.to_]
  refine .bind (refines_command peers hlisten _ (by simp) w d h) (fun _ w₁ d₁ h₁ => ?_) fun _ _ h' => h'
  refine .bind (refines_sendRecipients peers hlisten d.to_ w₁ d₁ h₁) (fun _ w₂ d₂ h₂ => ?_)
    fun _ _ h' => h'
  refine .bind (refines_command peers hlisten _ (by simp) w₂ d₂ h₂) (fun _ w₃ d₃ h₃ => ?_)
    fun _ _ h' => h'
  -- the DATA writer is there, and takes the body
  obtain ⟨r, w₄, hopen, h₄, hobs, hfrom⟩ :=
    h₃.opens (Spool.reader_opens ⟨w₃.disk, w₃.spools w₃.msg.body⟩)
  have hopened : (Comp.attempt (onSpool w₃.msg.body Spool.reader)).run w₃ = (.ok (.ok r), w₄) := by
    rw [Comp.run_attempt, hopen]
  rw [← hobs.msg] at hfrom
  obtain ⟨w₅, hcopy, h₅⟩ := h₄.copyBody peers hfrom
  have hcopied : (Comp.attempt (Tx.copy w₃.msg.body r (writeData peers.deaf))).run w₄ =
      (.ok (.ok ()), w₅) := by
    rw [Comp.run_attempt, ← hobs.msg, hcopy]
  refine .left (run_message w₃) (.left hopened (.left hcopied (.right (Comp.run_modify _ _) ?_)))
  refine .bind (refines_command peers hlisten _ (by simp) w₅ _ h₅) (fun _ w₆ d₆ h₆ => ?_)
    fun _ _ h' => h'
  exact .bind (refines_callUpstream peers hlisten (by simp) w₆ d₆ h₆) (fun _ _ _ h' => .pure () h')
    fun _ _ h' => h'

/-- So is the relay stage, with what it reports. -/
theorem refines_relayStage (relay : Relayer) (acct : Account) :
    Refines (Stands snap w₀ apart) (relayStage peers.deaf relay acct)
      (Post.relayStage peers relay acct) := by
  have hlisten := stands_listens snap w₀ apart
  refine (refines_send peers relay).attempt.bind fun r => ?_
  cases r with
  | error e => exact (refines_emit hlisten rfl).bind fun _ => Comp.refines_fail _
  | ok u =>
    refine .get fun w d h => ?_
    rw [Spool.len, h.size]
    exact refines_emit hlisten rfl w d h

/-! ## Receiving -/

/-- The check of the From field, once the header block could be read. -/
theorem run_checkHeaderFrom {st st' : SpoolState} {b : Bytes} (policy : SenderPolicy)
    (h : Spool.headerBlock.run st = (.ok (headerBlockOf b), st')) :
    (checkHeaderFrom policy).run st = (checkFrom policy b, st') := by
  have hattempt : (Comp.attempt Spool.headerBlock).run st = (.ok (.ok (headerBlockOf b)), st') := by
    rw [Comp.run_attempt, h]
  rw [checkHeaderFrom, headerFroms, bind_assoc, Comp.run_bind_of_ok hattempt, checkFrom]
  obtain ⟨header, terminated⟩ := headerBlockOf b
  cases terminated with
  | false => rfl
  | true =>
    simp only
    generalize fromValues (parseMessage header).headers = found
    rcases found with e | (_ | ⟨value, _ | ⟨other, others⟩⟩)
    · rfl
    · rfl
    · simp only [Comp.run_bind, Comp.run_ofExcept]
      split_ifs <;> rfl
    · rfl

/-- The header check reads the header of the message. -/
theorem Stands.checkHeaderFrom (h : Stands snap w₀ apart w d) (policy : SenderPolicy) : ∃ w',
    (onSpool w.msg.body (checkHeaderFrom policy)).run w = (checkFrom policy d.bytes, w') ∧
      Stands snap w₀ apart w' d := by
  obtain ⟨hread, hok | ⟨hfailed, -⟩⟩ := Spool.headerBlock_yields ⟨w.disk, w.spools w.msg.body⟩
  · rw [show (w.spools w.msg.body).contents = d.bytes from h.bytes] at hok
    have hcheck := run_checkHeaderFrom policy (Prod.ext hok rfl)
    refine ⟨((onSpool w.msg.body (Mailout.checkHeaderFrom policy)).run w).2, Prod.ext ?_ rfl, ?_⟩
    · rw [run_onSpool, hcheck]
    · refine (stands_listens snap w₀ apart).read h (.onSpool ?_)
      rw [hcheck]
      exact hread
  · exact absurd hfailed h.healthy.not_failed

/-- The header stage ends alike on both sides. -/
theorem matches_headerStage (h : Stands snap w₀ apart w d) (acct : Account) (policy : AccountPolicy) :
    Matches (Stands snap w₀ apart) (headerStage acct policy w.msg.body)
      (Post.headerStage acct policy) w d := by
  refine .right (Comp.run_get d) ?_
  unfold headerStage
  split_ifs
  · exact .pure () h
  · obtain ⟨w', hrun, h'⟩ := h.checkHeaderFrom policy.senders
    have hattempt : (Comp.attempt (onSpool w.msg.body (checkHeaderFrom policy.senders))).run w =
        (.ok (checkFrom policy.senders d.bytes), w') := by
      rw [Comp.run_attempt, hrun]
    refine .left hattempt ?_
    cases checkFrom policy.senders d.bytes with
    | ok u => exact .pure () h'
    | error e =>
      exact .bind (refines_emit (stands_listens snap w₀ apart) rfl w' d h')
        (fun _ _ _ h'' => .fail e h'') fun _ _ h'' => h''

/-- The chunks that the client sends end up one behind the other. -/
theorem Near.copyFrom {body : SpoolRef} (err : Option Err) (chunks : List Bytes) :
    ∀ {w : World} {b : Bytes}, Near snap w₀ w d → Draft w body b → ∃ w',
      (copyFrom body err chunks).run w = (err.elim (.ok ()) .error, w') ∧ Near snap w₀ w' d ∧
        Draft w' body (b ++ chunks.flatten) ∧ w'.created = w.created := by
  induction chunks with
  | nil =>
    intro w b h hdraft
    refine ⟨w, ?_, h, by rwa [List.flatten_nil, List.append_nil], rfl⟩
    cases err <;> rfl
  | cons chunk chunks ih =>
    intro w b h hdraft
    obtain ⟨w₁, hrun₁, h₁, hdraft₁, hworks⟩ := h.pass hdraft chunk
    obtain ⟨w₂, hrun₂, h₂, hdraft₂, hcreated₂⟩ := ih h₁ hdraft₁
    refine ⟨w₂, ?_, h₂, ?_, hcreated₂.trans hworks.created⟩
    · rw [Mailout.copyFrom, Comp.run_bind_of_ok hrun₁, hrun₂]
    · rwa [List.append_assoc, ← List.flatten_cons] at hdraft₂

/-- A message that was received is set on the desk. -/
theorem Near.setMessage {body : SpoolRef} (h : Near snap w₀ w d) (hdraft : Draft w body b)
    (hlow : w₀.created ≤ body) (hhigh : body < w.created) (from_ account : Bytes) (to_ : List Bytes) :
    Stands snap w₀ [] { w with msg := ⟨from_, to_, body, account⟩ } ⟨from_, to_, b, d.heard⟩ where
  said := h.said
  healthy := h.healthy
  path := h.path.tail (.setMessage w ⟨from_, to_, body, account⟩)
  from_ := rfl
  to_ := rfl
  bytes := hdraft.contents
  size := hdraft.sound.size.trans (congrArg List.length hdraft.contents)
  low := hlow
  high := hhigh
  apart := fun _ hmem => nomatch hmem

/-- How a part of Data and its counterpart end: both in the same error, or with a message that
stands. -/
def EndsAlike {α : Type} (snap : Snapshot) (w₀ : World) (x : Tx α) (X : Post Unit) (w : World)
    (d : Desk) : Prop :=
  (∃ e w' d', x.run w = (.error e, w') ∧ X.run d = (.error e, d') ∧ Near snap w₀ w' d') ∨
    ∃ a w' d', x.run w = (.ok a, w') ∧ X.run d = (.ok (), d') ∧ Stands snap w₀ [] w' d'

/-- The body is filled with the Received field and what the client sends. -/
theorem Near.receive {body : SpoolRef} (h : Near snap w₀ w d) (hdraft : Draft w body []) (s : Session)
    (acct : Account) (date : Bytes) (r : ClientData) : ∃ w',
      (receive s acct date r body).run w = (r.err.elim (.ok ()) .error, w') ∧ Near snap w₀ w' d ∧
        Draft w' body (receivedHeader s acct date ++ r.bytes) ∧ w'.created = w.created := by
  obtain ⟨w₁, hwrite, h₁, hdraft₁, hworks⟩ := h.write hdraft (receivedHeader s acct date)
  obtain ⟨w₂, hcopy, h₂, hdraft₂, hcreated⟩ := h₁.copyFrom r.err r.chunks hdraft₁
  have hattempt : (Comp.attempt (onSpool body (Spool.write (receivedHeader s acct date)))).run w =
      (.ok (.ok ()), w₁) := by
    rw [Comp.run_attempt, hwrite]
  refine ⟨w₂, ?_, h₂, hdraft₂, hcreated.trans hworks.created⟩
  rw [Mailout.receive, Comp.run_bind_of_ok hattempt, hcopy]

/-- That a body is on disk is told, but not heard. -/
theorem Near.spooled (h : Near snap w₀ w d) (c : Prop) [Decidable c] (account : Bytes) : ∃ w',
    (Comp.when c (emit (.messageSpooled account))).run w = (.ok (), w') ∧ Near snap w₀ w' d ∧
      w'.spools = w.spools ∧ w'.created = w.created := by
  unfold Comp.when
  split_ifs
  · have h' := (near_listens snap w₀).observed h (.emit (.messageSpooled account) w)
    rw [show heard [.messageSpooled account] = [] from rfl, List.append_nil] at h'
    exact ⟨_, rfl, h', rfl, rfl⟩
  · exact ⟨w, rfl, h, rfl, rfl⟩

/-- Data from the body it made to the filters. -/
theorem intake_endsAlike {s : Session} {body : SpoolRef} (h : Near s.snap w₀ w d)
    (hdraft : Draft w body []) (hlow : w₀.created ≤ body) (hhigh : body < w.created) (acct : Account)
    (date : Bytes) (r : ClientData) :
    EndsAlike s.snap w₀ (intake s acct date r body) (do
      Post.receive s acct date r
      Post.headerStage acct (s.snap.policyFor acct.username)) w d := by
  obtain ⟨w₁, hreceive, h₁, hdraft₁, hcreated₁⟩ := h.receive hdraft s acct date r
  cases herr : r.err with
  | some e =>
    rw [herr] at hreceive
    have hdesk : (Post.receive s acct date r).run d = (.error e, d) := by
      rw [Post.receive, herr]
      rfl
    exact .inl ⟨e, w₁, d, Comp.run_bind_of_error hreceive, Comp.run_bind_of_error hdesk, h₁⟩
  | none =>
    rw [herr] at hreceive
    obtain ⟨w₂, hspooled, h₂, hspools, hcreated₂⟩ :=
      h₁.spooled ((w₁.spools body).spooled = true) acct.username
    have h₃ := h₂.setMessage (hdraft₁.of_eq (by rw [hspools])) hlow
      (by rw [hcreated₂, hcreated₁]; exact hhigh) s.from_ acct.username s.to_
    obtain ⟨res, w₄, d₄, hstage, hdesk, h₄⟩ :=
      (matches_headerStage h₃ acct (s.snap.policyFor acct.username)).elim
    have hintake : (intake s acct date r body).run w = (res, w₄) := by
      rw [intake, Comp.run_bind_of_ok hreceive, Comp.run_bind_of_ok (Comp.run_get w₁),
        Comp.run_bind_of_ok hspooled, Comp.run_bind_of_ok (run_setMessage _ _), hstage]
    have hreceived : (Post.receive s acct date r).run d =
        (.ok (), ⟨s.from_, s.to_, receivedHeader s acct date ++ r.bytes, d.heard⟩) := by
      rw [Post.receive, herr]
      rfl
    have hdesk' := (Comp.run_bind_of_ok (f := fun _ =>
      Post.headerStage acct (s.snap.policyFor acct.username)) hreceived).trans hdesk
    cases res with
    | error e => exact .inl ⟨e, w₄, d₄, hintake, hdesk', h₄.toNear⟩
    | ok u => exact .inr ⟨u, w₄, d₄, hintake, hdesk', h₄⟩

/-- Data up to the filters. -/
theorem opening_endsAlike {s : Session} (h : Near s.snap w₀ w d) (acct : Account) (date : Bytes)
    (r : ClientData) :
    EndsAlike s.snap w₀ (opening peers.deaf s acct date r) (Post.opening peers s acct date r) w d := by
  have hlisten := near_listens s.snap w₀
  obtain ⟨res, w₁, d₁, hrun, hdesk, h₁⟩ := (refines_perform peers hlisten
    (Limiter.check s.snap.limiter acct.username s.to_.length) w d h).elim
  match res with
  | .error e =>
    exact .inl ⟨e, w₁, d₁, Comp.run_bind_of_error hrun, Comp.run_bind_of_error hdesk, h₁⟩
  | .ok (.error e) =>
    have hrefuse : Matches (Near s.snap w₀) (emit (.messageHandled acct.username .deferred) >>=
        fun _ => Comp.fail e : Tx SpoolRef) (Post.emit (.messageHandled acct.username .deferred) >>=
        fun _ => Comp.fail e) w₁ d₁ :=
      .bind (refines_emit hlisten rfl w₁ d₁ h₁) (fun _ _ _ h' => .fail e h') fun _ _ h' => h'
    refine .inl ⟨e, _, _, ?_, ?_, hrefuse.2⟩
    · rw [opening, Comp.run_bind_of_ok hrun]
      rfl
    · rw [Post.opening, Comp.run_bind_of_ok hdesk]
      rfl
  | .ok (.ok ()) =>
    have h₂ : Near s.snap w₀ (w₁.withSpool s.snap.newSpool) d₁ :=
      ⟨h₁.said, h₁.healthy, h₁.path.tail (.create w₁)⟩
    have hdraft : Draft (w₁.withSpool s.snap.newSpool) w₁.created [] :=
      draft_withSpool w₁ s.snap.newSpool
    have hstart : (opening peers.deaf s acct date r).run w = (do
        intake s acct date r w₁.created
        return w₁.created : Tx SpoolRef).run (w₁.withSpool s.snap.newSpool) := by
      rw [opening, Comp.run_bind_of_ok hrun]
      rfl
    have hstart' : (Post.opening peers s acct date r).run d = (do
        Post.receive s acct date r
        Post.headerStage acct (s.snap.policyFor acct.username) : Post Unit).run d₁ := by
      rw [Post.opening, Comp.run_bind_of_ok hdesk]
    rcases intake_endsAlike h₂ hdraft h₁.kept.1 (Nat.lt_succ_self _) acct date r with
      ⟨e, w', d', hintake, hdesk', h'⟩ | ⟨u, w', d', hintake, hdesk', h'⟩
    · exact .inl ⟨e, w', d', hstart.trans (Comp.run_bind_of_error hintake), hstart'.trans hdesk', h'⟩
    · exact .inr ⟨w₁.created, w', d', hstart.trans (Comp.run_bind_of_ok hintake),
        hstart'.trans hdesk', h'⟩

end

end Mailout
