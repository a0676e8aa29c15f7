import Mailout.Renewal

/-!
# Who closes a spool

Data closes the spool it made when it returns, and `rewriteBody` and `sign` close the body they
replace. `Holding` is what is true between two stages: of the spools made since the transaction began,
the message's own body is open and, while a filter's replacement is written, that one; all others are
closed. Every stage keeps it. So what is open when Data returns is the body the message ended with,
unless it is the one Data made, and it is not where a filter had the message rewritten or a key signed it:
`Installs` says when, and `data_closes_iff` that a spool is left open then and only then.
-/

namespace Mailout

open Go

/-- The spools made since the `k`-th that are open: the message's body, and the ones in `extra`. -/
structure Holding (k : Nat) (extra : List SpoolRef) (w : World) : Prop where
  bounded : ∀ ref ∈ w.closed, ref < w.created
  since : k ≤ w.msg.body
  body : w.msg.body < w.created
  spare : w.msg.body ∉ extra
  made : ∀ ref ∈ extra, ref < w.created
  live : ∀ ref, k ≤ ref → ref < w.created → (ref ∉ w.closed ↔ ref = w.msg.body ∨ ref ∈ extra)

/-- A stretch of a run that leaves behind what it found: the message's body open, and what else
was. -/
def Keeper (k : Nat) (extra : List SpoolRef) (w w' : World) : Prop := Holding k extra w → Holding k extra w'

section
variable {k : Nat} {extra : List SpoolRef}

open Tx Comp

/-- Nothing was opened or closed. -/
theorem Keeper.refl (w : World) : Keeper k extra w w := id

/-- Two stretches that leave behind what they found make one. -/
theorem Keeper.trans (w₁ w₂ w₃ : World) (h : Keeper k extra w₁ w₂) (h' : Keeper k extra w₂ w₃) :
    Keeper k extra w₁ w₃ := fun hw => h' (h hw)

/-- What makes no spool, closes none and leaves the message its body. -/
theorem Holding.same {w w' : World} (h : Holding k extra w) (hbody : w'.msg.body = w.msg.body)
    (hcreated : w'.created = w.created) (hclosed : w'.closed = w.closed) : Holding k extra w' := by
  obtain ⟨hbounded, hsince, hlt, hspare, hextra, hlive⟩ := h
  rw [← hbody] at hsince hlt hspare hlive
  rw [← hcreated] at hbounded hlt hextra hlive
  rw [← hclosed] at hbounded hlive
  exact ⟨hbounded, hsince, hlt, hspare, hextra, hlive⟩

/-- Whoever only reads and reports neither opens nor closes a spool. -/
theorem Keeper.of_watches {w w' : World} (h : Watches w w') : Keeper k extra w w' := by
  obtain ⟨es, hes⟩ := h
  exact fun hw => hw.same (by rw [hes.msg]) hes.created hes.closed

/-- The same of a computation. -/
theorem keeper_of_watches {α : Type} {x : Tx α} (h : Keeps Watches x) : Keeps (Keeper k extra) x :=
  fun w => .of_watches (h w)

/-- An operation on a spool does not close it. -/
theorem keeper_onSpool {α : Type} (ref : SpoolRef) (op : SpoolOp α) :
    Keeps (Keeper k extra) (onSpool ref op) := fun _ h => h.same rfl rfl rfl

/-- A report closes nothing. -/
theorem keeper_emit (e : Event) : Keeps (Keeper k extra) (emit e) :=
  keeper_of_watches (watches_emit e)

/-- A new spool is one more that is open. -/
theorem Holding.withSpool {w : World} (h : Holding k extra w) (s : Spool) :
    Holding k (w.created :: extra) (w.withSpool s) := by
  have hfresh : w.created ∉ w.closed := fun hmem => Nat.lt_irrefl _ (h.bounded _ hmem)
  refine ⟨fun ref hmem => Nat.lt_succ_of_lt (h.bounded ref hmem), h.since, Nat.lt_succ_of_lt h.body,
    ?_, ?_, ?_⟩
  · show w.msg.body ∉ w.created :: extra
    rw [List.mem_cons, not_or]
    exact ⟨Nat.ne_of_lt h.body, h.spare⟩
  · intro ref hmem
    rcases List.mem_cons.mp hmem with rfl | hmem
    · exact Nat.lt_succ_self _
    · exact Nat.lt_succ_of_lt (h.made ref hmem)
  · intro ref hk hlt
    show ref ∉ w.closed ↔ ref = w.msg.body ∨ ref ∈ w.created :: extra
    rcases Nat.lt_succ_iff_lt_or_eq.mp hlt with hlt | rfl
    · rw [h.live ref hk hlt, List.mem_cons]
      have hne : ref ≠ w.created := Nat.ne_of_lt hlt
      tauto
    · exact iff_of_true hfresh (.inr List.mem_cons_self)

/-- A spool that is open beside the body is closed. -/
theorem Holding.closeExtra {w : World} {ref : SpoolRef} (h : Holding k (ref :: extra) w)
    (hnew : ref ∉ extra) : Holding k extra ((close ref).run w).2 := by
  obtain ⟨hbounded, hsince, hlt, hspare, hextra, hlive⟩ := h
  rw [List.mem_cons, not_or] at hspare
  refine ⟨?_, hsince, hlt, hspare.2, fun r hmem => hextra r (List.mem_cons_of_mem _ hmem), ?_⟩
  · intro r hmem
    rcases List.mem_append.mp hmem with hmem | hmem
    · exact hbounded r hmem
    · rw [List.mem_singleton.mp hmem]
      exact hextra ref List.mem_cons_self
  · intro r hk hr
    show r ∉ w.closed ++ [ref] ↔ r = w.msg.body ∨ r ∈ extra
    have hiff := hlive r hk hr
    rw [List.mem_cons] at hiff
    rw [List.mem_append, List.mem_singleton, not_or, hiff]
    constructor
    · rintro ⟨hor, hne⟩
      tauto
    · rintro (rfl | hmem)
      · exact ⟨.inl rfl, hspare.1⟩
      · exact ⟨.inr (.inr hmem), fun heq => hnew (heq ▸ hmem)⟩

/-- A new body takes the place of the old one, which is closed. -/
theorem Holding.replace {w w' : World} {ref : SpoolRef} (h : Holding k (ref :: extra) w)
    (hnew : ref ∉ extra) (hk : k ≤ ref) (hbody : w'.msg.body = ref) (hcreated : w'.created = w.created)
    (hclosed : w'.closed = w.closed ++ [w.msg.body]) : Holding k extra w' := by
  obtain ⟨hbounded, hsince, hlt, hspare, hextra, hlive⟩ := h
  rw [List.mem_cons, not_or] at hspare
  refine ⟨?_, by rwa [hbody], ?_, by rwa [hbody], ?_, ?_⟩
  · intro r hmem
    rw [hclosed] at hmem
    rw [hcreated]
    rcases List.mem_append.mp hmem with hmem | hmem
    · exact hbounded r hmem
    · rwa [List.mem_singleton.mp hmem]
  · rw [hbody, hcreated]
    exact hextra ref List.mem_cons_self
  · intro r hmem
    rw [hcreated]
    exact hextra r (List.mem_cons_of_mem _ hmem)
  · intro r hkr hr
    rw [hcreated] at hr
    have hiff := hlive r hkr hr
    rw [List.mem_cons] at hiff
    rw [hclosed, hbody, List.mem_append, List.mem_singleton, not_or, hiff]
    constructor
    · rintro ⟨hor, hne⟩
      tauto
    · rintro (rfl | hmem)
      · exact ⟨.inr (.inl rfl), Ne.symm hspare.1⟩
      · refine ⟨.inr (.inr hmem), fun heq => hspare.2 (heq ▸ hmem)⟩

/-! ## Filters -/

/-- A rewritten message takes the place of the body, which is closed; if it cannot be written it is closed
itself, and the body stays. -/
theorem keeper_rewriteBody (parsed : ParsedMessage) (headerLen : Nat) (replacement : Option SpoolRef) :
    Keeps (Keeper k extra) (rewriteBody parsed headerLen replacement) := by
  intro w hw
  have hopen := hw.withSpool (w.spools w.msg.body).sibling
  have hnew : w.created ∉ extra := fun hmem => Nat.lt_irrefl _ (hw.made _ hmem)
  have hk : k ≤ w.created := Nat.le_trans hw.since (Nat.le_of_lt hw.body)
  rcases rewriteBody_cases parsed headerLen replacement w with
    ⟨w₁, hrun, hmsg, hcreated, hclosed⟩ | ⟨e, w₁, hrun, hmsg, hcreated, hclosed, -⟩
  · rw [hrun]
    exact hopen.replace hnew hk (by rw [hmsg]) hcreated hclosed
  · rw [hrun]
    exact (hopen.closeExtra hnew).same (by rw [hmsg]; rfl) hcreated hclosed

/-- The end of the modifications rewrites the message or leaves it as it is. -/
theorem keeper_finishModifications (parsed : ParsedMessage) (headerLen : Nat) (changed : Bool)
    (replacement : Option SpoolRef) :
    Keeps (Keeper k extra) (finishModifications parsed headerLen changed replacement) := by
  refine .bind Keeper.trans (.when Keeper.refl (keeper_rewriteBody _ _ _)) fun _ => ?_
  refine .bind Keeper.trans (keeper_of_watches watches_message) fun msg => ?_
  split_ifs
  · exact .fail Keeper.refl _
  · exact .pure Keeper.refl _

/-- Whatever a filter asks for, and whatever fails, the message's body is the one that is open. -/
theorem keeper_applyModifications (f : Milter) (headerLen : Nat) (acts : List ModifyAction) :
    ∀ (parsed : ParsedMessage) (changed : Bool) (replacement : Option SpoolRef)
      (extra : List SpoolRef),
      Keeps (Keeper k extra) (applyModifications f headerLen acts parsed changed replacement) := by
  induction acts with
  | nil => exact fun _ _ _ _ => keeper_finishModifications _ _ _ _
  | cons act acts ih =>
    intro parsed changed replacement extra
    by_cases hedit : act.edits = true
    · intro w hw
      rw [applyModifications_edit _ _ _ _ _ _ hedit]
      exact ih _ _ _ _ _ (hw.same (act.onMessage_body w.msg) rfl rfl)
    cases act with
    | quarantine reason => exact .fail Keeper.refl _
    | replaceBody chunk =>
      cases replacement with
      | some ref => exact .bind Keeper.trans (keeper_onSpool _ _) fun _ => ih _ _ _ _
      | none =>
        -- the replacement is open while the loop runs, and closed when it returns
        intro w hw
        have hnew : w.created ∉ extra := fun hmem => Nat.lt_irrefl _ (hw.made _ hmem)
        have hloop : Keeps (Keeper k (w.created :: extra)) (do
            onSpool w.created (Spool.write chunk)
            applyModifications f headerLen acts parsed changed (some w.created)) :=
          .bind Keeper.trans (keeper_onSpool _ _) fun _ => ih _ _ _ _
        exact (hloop _ (hw.withSpool (w.spools w.msg.body).sibling)).closeExtra hnew
    | _ => exact absurd rfl hedit

section
variable (peers : Peers)

/-- A filter closes its replacement, however it ends. -/
theorem keeper_runOne (f : Milter) (info : SessionInfo) :
    Keeps (Keeper k extra) (runOne peers f info) := by
  rw [runOne_eq]
  exact .bind Keeper.trans (keeper_of_watches (watches_askFilter peers f info)) fun req =>
    keeper_applyModifications _ _ _ _ _ _ _

/-- The chain leaves open what it found open, also where a filter that failed is passed over. -/
theorem keeper_runChain (info : SessionInfo) (filters : List Milter) :
    Keeps (Keeper k extra) (runChain peers info filters) := by
  induction filters with
  | nil => exact .pure Keeper.refl _
  | cons f filters ih =>
    rw [runChain_consult]
    refine .bind Keeper.trans ?_ fun _ => ih
    refine .bind Keeper.trans (.attempt (keeper_runOne peers f info)) fun r => ?_
    match r with
    | .ok () => exact keeper_emit _
    | .error (.smtp e) => exact .bind Keeper.trans (keeper_emit _) fun _ => .fail Keeper.refl _
    | .error .discard => exact .bind Keeper.trans (keeper_emit _) fun _ => .fail Keeper.refl _
    | .error (.other what) =>
      refine .bind Keeper.trans (keeper_emit _) fun _ => ?_
      split_ifs
      · exact .pure Keeper.refl _
      · exact .fail Keeper.refl _

/-- So does the filter stage. -/
theorem keeper_filterStage (info : SessionInfo) (acct : Account) (policy : AccountPolicy) :
    Keeps (Keeper k extra) (filterStage peers info acct policy) := by
  unfold filterStage
  split_ifs
  · exact .pure Keeper.refl _
  refine .bind Keeper.trans (.attempt (keeper_runChain peers info _)) fun r => ?_
  match r with
  | .ok () => exact .pure Keeper.refl _
  | .error .discard => exact .bind Keeper.trans (keeper_emit _) fun _ => .pure Keeper.refl _
  | .error (.smtp e) => exact .bind Keeper.trans (keeper_emit _) fun _ => .fail Keeper.refl _
  | .error (.other what) => exact .bind Keeper.trans (keeper_emit _) fun _ => .fail Keeper.refl _

/-! ## Signing and relaying -/

/-- A signed copy takes the place of the body, which is closed; a copy that was not finished is closed
itself. -/
theorem keeper_signWith (key : LoadedDKIMKey) : Keeps (Keeper k extra) (signWith peers key) := by
  intro w hw
  have hnew : ∀ w₁ : World, Holding k extra w₁ → w₁.created ∉ extra :=
    fun w₁ h₁ hmem => Nat.lt_irrefl _ (h₁.made _ hmem)
  have hwatch : Comp.Keeps Watches (onSpool w.msg.body Spool.reader) :=
    watches_onSpool fun st => (Spool.reader_opens st).1
  obtain ⟨es, hobs⟩ := hwatch w
  have hattempt : (Comp.attempt (onSpool w.msg.body Spool.reader)).run w = _ := Comp.run_attempt _ _
  rw [signWith, Comp.run_bind_of_ok (run_message w), Comp.run_bind_of_ok hattempt]
  rcases hreader : (onSpool w.msg.body Spool.reader).run w with ⟨e | source, w₁⟩
  · rw [hreader] at hobs
    exact hw.same (by rw [← hobs.msg]; rfl) hobs.created hobs.closed
  · rw [hreader] at hobs
    have hw₁ : Holding k extra w₁ := hw.same (by rw [hobs.msg]) hobs.created hobs.closed
    have hopen := hw₁.withSpool (w₁.spools w.msg.body).sibling
    have hworks := works_dkim peers key w.msg.body source w₁.created
      (w₁.withSpool (w₁.spools w.msg.body).sibling)
    have hstart : (sibling w.msg.body).run w₁ =
      (.ok w₁.created, w₁.withSpool (w₁.spools w.msg.body).sibling) := rfl
    have hattempt' : (Comp.attempt (peers.dkim.sign key w.msg.body source w₁.created)).run
      (w₁.withSpool (w₁.spools w.msg.body).sibling) = _ := Comp.run_attempt _ _
    simp only
    rw [Comp.run_bind_of_ok hstart, Comp.run_bind_of_ok hattempt']
    rcases hsign : (peers.dkim.sign key w.msg.body source w₁.created).run
        (w₁.withSpool (w₁.spools w.msg.body).sibling) with ⟨e | u, w₂⟩
    · rw [hsign] at hworks
      have hw₂ : Holding k (w₁.created :: extra) w₂ :=
        hopen.same (by rw [hworks.msg]) hworks.created hworks.closed
      exact (hw₂.closeExtra (hnew w₁ hw₁)).same rfl rfl rfl
    · rw [hsign] at hworks
      have hw₂ : Holding k (w₁.created :: extra) w₂ :=
        hopen.same (by rw [hworks.msg]) hworks.created hworks.closed
      have hbody : w₂.msg.body = w.msg.body := by rw [hworks.msg, ← hobs.msg]; rfl
      exact hw₂.replace (hnew w₁ hw₁) (Nat.le_trans hw₁.since (Nat.le_of_lt hw₁.body)) rfl rfl
        (by rw [hbody]; rfl)

/-- The signing stage leaves the body open, signed or not. -/
theorem keeper_signStage (signer : DKIMSigner) (acct : Account) (policy : AccountPolicy) :
    Keeps (Keeper k extra) (signStage peers signer acct policy) := by
  have hsign : Keeps (Keeper k extra) (sign peers signer policy.senders) := by
    refine .bind Keeper.trans (keeper_of_watches (watches_keyFor signer)) fun key => ?_
    cases key with
    | none => exact .pure Keeper.refl _
    | some key =>
      show Keeps (Keeper k extra) (if policy.senders.canSign key.domain = true then _ else _)
      split_ifs
      · exact keeper_signWith peers key
      · exact keeper_emit _
  unfold signStage
  split_ifs
  · exact .pure Keeper.refl _
  refine .bind Keeper.trans (.attempt hsign) fun r => ?_
  cases r with
  | ok u => exact .pure Keeper.refl _
  | error e => exact .bind Keeper.trans (keeper_emit _) fun _ => .fail Keeper.refl _

/-- From the filters on, the message's body is the one that is open. -/
theorem keeper_process (s : Session) (acct : Account) :
    Keeps (Keeper k extra) (process peers s acct) := by
  refine .bind Keeper.trans (keeper_filterStage peers _ _ _) fun there => ?_
  cases there with
  | false => exact .pure Keeper.refl _
  | true => exact .bind Keeper.trans (keeper_signStage peers _ _ _) fun _ =>
      keeper_of_watches (watches_relayStage _ _)

end

end

/-! ## Data -/

/-- The worlds a session is in between two transactions: what was closed was made before, and so was
the body of the last message. -/
structure World.Settled (w : World) : Prop where
  closed : ∀ ref ∈ w.closed, ref < w.created
  body : w.msg.body ≤ w.created

/-- Every spool made between two worlds is closed. -/
def ClosesAll (w w' : World) : Prop := ∀ ref, w.created ≤ ref → ref < w'.created → ref ∈ w'.closed

section
variable (peers : Peers) (s : Session) (acct : Account) (date : Bytes) (r : ClientData)

open Tx Comp

/-- Receiving a message works on its own spool only. -/
theorem works_receive (body : SpoolRef) : Keeps (Works body) (receive s acct date r body) := by
  have hcopy : ∀ chunks, Keeps (Works body) (copyFrom body r.err chunks) := by
    intro chunks
    induction chunks with
    | nil =>
      unfold copyFrom
      cases r.err with
      | some e => exact .fail Works.refl _
      | none => exact .pure Works.refl _
    | cons chunk chunks ih =>
      refine .bind Works.trans ?_ fun _ => ih
      unfold Tx.pass
      split_ifs
      · exact .pure Works.refl _
      · exact works_onSpool _
  refine .bind Works.trans (.attempt (works_onSpool _)) fun written => ?_
  cases written with
  | error e => exact .fail Works.refl _
  | ok u => exact hcopy _

/-- Up to the filters Data works on the body it made, and the message that is built is in it. -/
theorem intake_ends {body : SpoolRef} {w w' : World} {res : Except Err Unit}
    (hrun : (intake s acct date r body).run w = (res, w')) :
    w'.created = w.created ∧ w'.closed = w.closed ∧ (w'.msg = w.msg ∨ w'.msg.body = body) ∧
      (res = .ok () → w'.msg.body = body) := by
  have hreceive := works_receive s acct date r body w
  rcases hrec : (receive s acct date r body).run w with ⟨e | u, w₁⟩
  · rw [hrec] at hreceive
    rw [intake, Comp.run_bind_of_error hrec] at hrun
    cases hrun
    exact ⟨hreceive.created, hreceive.closed, .inl hreceive.msg, fun h => by cases h⟩
  · rw [hrec] at hreceive
    have hrest : Keeps (Works body) (headerStage acct (s.snap.policyFor acct.username) body) := by
      unfold headerStage
      split_ifs
      · exact .pure Works.refl _
      refine .bind Works.trans (.attempt (works_onSpool _)) fun checked => ?_
      cases checked with
      | error e =>
        exact .bind Works.trans (works_of_watches (watches_emit _)) fun _ => .fail Works.refl _
      | ok u => exact .pure Works.refl _
    obtain ⟨es', hmetric⟩ : ∃ es', (Comp.when ((w₁.spools body).spooled = true)
        (emit (.messageSpooled acct.username))).run w₁ =
          (.ok (), { w₁ with trace := w₁.trace ++ es' }) := by
      unfold Comp.when
      split_ifs
      · exact ⟨_, rfl⟩
      · exact ⟨[], by rw [List.append_nil]; rfl⟩
    rw [intake, Comp.run_bind_of_ok hrec, Comp.run_bind_of_ok (Comp.run_get w₁),
      Comp.run_bind_of_ok hmetric, Comp.run_bind_of_ok (run_setMessage _ _)] at hrun
    have hworks := hrest { w₁ with trace := w₁.trace ++ es', msg := ⟨s.from_, s.to_, body, acct.username⟩ }
    rw [hrun] at hworks
    have hbody : w'.msg.body = body := by rw [hworks.msg]
    exact ⟨hworks.created.trans hreceive.created, hworks.closed.trans hreceive.closed, .inr hbody,
      fun _ => hbody⟩

/-- How a delivery ends: it is refused before the filters, with the spool it may have made closed, or it
closes that spool behind all that was done to the message, whose body was in it before the filters. -/
inductive Delivered (w w' : World) : Prop
  | refused {e : Err} {w₁ : World} (hopen : (opening peers s acct date r).run w = (.error e, w₁))
      (hclosed : ClosesAll w w') (hsettled : w'.Settled)
  | handled {body : SpoolRef} {w₀ : World} (hopen : (opening peers s acct date r).run w = (.ok body, w₀))
      (hbody : w₀.msg.body = w.created) (hcreated : w₀.created = w.created + 1)
      (hheld : Holding w.created [] ((process peers s acct).run w₀).2)
      (hend : w' = ((close w.created).run ((process peers s acct).run w₀).2).2)

/-- Every run of Data on a settled world ends in one of the ways that `Delivered` lists. -/
theorem deliver_ends {w : World} (hw : w.Settled) :
    Delivered peers s acct date r w ((deliver peers s acct date r).run w).2 := by
  obtain ⟨es, -, ⟨e, hopen, hrun⟩ | ⟨hopen, hrun⟩⟩ := deliver_starts peers s acct date r w
  · rw [hrun]
    exact .refused hopen (fun ref hle hlt => absurd hlt (Nat.not_lt.mpr hle)) ⟨hw.closed, hw.body⟩
  rw [transact_eq, Comp.run_deferred] at hrun
  rcases hintake : (intake s acct date r w.created).run
      (World.withSpool { w with trace := w.trace ++ es } s.snap.newSpool) with ⟨e | u, w₁⟩
  all_goals
    obtain ⟨hcreated, hclosed, hmsg, hbody⟩ := intake_ends s acct date r hintake
    have hcreated : w₁.created = w.created + 1 := hcreated
    have hclosed : w₁.closed = w.closed := hclosed
  · rw [Comp.run_bind_of_error hintake] at hopen hrun
    rw [hrun]
    refine .refused hopen (fun ref hle hlt => ?_) ⟨fun ref hmem => ?_, ?_⟩
    · have hlt : ref < w.created + 1 := hcreated ▸ hlt
      rw [Nat.le_antisymm (Nat.lt_succ_iff.mp hlt) hle]
      exact List.mem_append_right _ (List.mem_singleton_self _)
    · show ref < w₁.created
      rw [hcreated]
      rcases List.mem_append.mp hmem with hmem | hmem
      · exact Nat.lt_succ_of_lt (hw.closed ref (hclosed ▸ hmem))
      · rw [List.mem_singleton.mp hmem]
        exact Nat.lt_succ_self _
    · show w₁.msg.body ≤ w₁.created
      rw [hcreated]
      rcases hmsg with hmsg | hmsg
      · rw [hmsg]
        exact Nat.le_succ_of_le hw.body
      · rw [hmsg]
        exact Nat.le_succ _
  · rw [Comp.run_bind_of_ok hintake] at hopen hrun
    rw [hrun]
    have hbody : w₁.msg.body = w.created := hbody rfl
    refine .handled hopen hbody hcreated (keeper_process peers s acct _ ?_) rfl
    -- the message is built: its body is the only spool made so far
    refine ⟨fun ref hmem => ?_, by rw [hbody], ?_, List.not_mem_nil, nofun, fun ref hle hlt => ?_⟩
    · rw [hclosed] at hmem
      rw [hcreated]
      exact Nat.lt_succ_of_lt (hw.closed ref hmem)
    · rw [hbody, hcreated]
      exact Nat.lt_succ_self _
    · rw [hcreated] at hlt
      obtain rfl : ref = w.created := Nat.le_antisymm (Nat.lt_succ_iff.mp hlt) hle
      refine iff_of_true (fun hmem => ?_) (.inl hbody.symm)
      rw [hclosed] at hmem
      exact Nat.lt_irrefl _ (hw.closed _ hmem)

/-- The runs of Data that leave the message in a spool other than the one Data made. Before it gets
there the message is received, and its From field is checked. Then either one of the filters of the
account has another body put in its place, behind some that let it through; or all of them let it through
and it is signed, with a key the account may use. -/
inductive Installs (w : World) : Prop
  | rewritten {body : SpoolRef} {w₀ w₁ : World} {before after : List Milter} {f : Milter}
      (hopen : (opening peers s acct date r).run w = (.ok body, w₀))
      (hmilters : (s.snap.policyFor acct.username).milters = before ++ f :: after)
      (hpassed : Passed peers (sessionInfo s acct) before w₀ w₁)
      (hrewrites : Rewrites peers (sessionInfo s acct) f w₁)
  | signed {body : SpoolRef} {w₀ w₁ w₂ : World} {key : LoadedDKIMKey}
      (hopen : (opening peers s acct date r).run w = (.ok body, w₀))
      (hfilters : (filterStage peers (sessionInfo s acct) acct (s.snap.policyFor acct.username)).run w₀ =
        (.ok true, w₁))
      (hkey : (keyFor s.snap.dkim).run w₁ = (.ok (some key), w₂))
      (hpolicy : (s.snap.policyFor acct.username).senders.canSign key.domain = true)
      (hsigned : SignedWith peers key w₂)

/-- A delivery that is refused before the filters installs nothing. -/
theorem not_installs_of_refused {w w₁ : World} {e : Err}
    (hopen : (opening peers s acct date r).run w = (.error e, w₁)) :
    ¬ Installs peers s acct date r w := by
  rintro (⟨hopen', -, -, -⟩ | ⟨hopen', -, -, -, -⟩)
  all_goals cases hopen.symm.trans hopen'

/-- Behind the filters, the conditions of the stages are those of `Installs`. -/
theorem installs_iff {w w₀ : World} {body : SpoolRef}
    (hopen : (opening peers s acct date r).run w = (.ok body, w₀)) :
    Installs peers s acct date r w ↔
      RewrittenBy peers (sessionInfo s acct) (s.snap.policyFor acct.username).milters w₀ ∨
        ∃ w₁, (filterStage peers (sessionInfo s acct) acct (s.snap.policyFor acct.username)).run w₀ =
            (.ok true, w₁) ∧
          Signs peers s.snap.dkim (s.snap.policyFor acct.username).senders w₁ := by
  constructor
  · rintro (⟨hopen', hmilters, hpassed, hrewrites⟩ | ⟨hopen', hfilters, hkey, hpolicy, hsigned⟩)
    · cases hopen.symm.trans hopen'
      exact .inl ⟨_, _, _, _, hmilters, hpassed, hrewrites⟩
    · cases hopen.symm.trans hopen'
      exact .inr ⟨_, hfilters, _, _, hkey, hpolicy, hsigned⟩
  · rintro (⟨before, f, after, w₁, hmilters, hpassed, hrewrites⟩ |
      ⟨w₁, hfilters, key, w₂, hkey, hpolicy, hsigned⟩)
    · exact .rewritten hopen hmilters hpassed hrewrites
    · exact .signed hopen hfilters hkey hpolicy hsigned

end

/-- The end of a transaction: the spool Data made is closed, and so is the body the message ended with
if it is that one. -/
theorem Holding.closes_iff {w w₁ : World} (h : Holding w.created [] w₁) :
    ClosesAll w ((Tx.close w.created).run w₁).2 ↔ w₁.msg.body ≤ w.created := by
  have hlive : ∀ ref, w.created ≤ ref → ref < w₁.created →
      (ref ∉ w₁.closed ↔ ref = w₁.msg.body) := by
    intro ref hle hlt
    rw [h.live ref hle hlt]
    simp
  constructor
  · intro hall
    rcases List.mem_append.mp (hall _ h.since h.body) with hmem | hmem
    · exact absurd hmem ((hlive _ h.since h.body).mpr rfl)
    · exact Nat.le_of_eq (List.mem_singleton.mp hmem)
  · intro hle ref hfrom hlt
    have hbody : w₁.msg.body = w.created := Nat.le_antisymm hle h.since
    by_cases hmem : ref ∈ w₁.closed
    · exact List.mem_append_left _ hmem
    · rw [(hlive ref hfrom hlt).mp hmem, hbody]
      exact List.mem_append_right _ (List.mem_singleton_self _)

/-- Data leaves a world in which the next transaction may begin. -/
theorem data_settled (peers : Peers) (date : Bytes) (r : ClientData) {st : ServerState}
    (h : st.world.Settled) : ((Session.data peers date r).run st).2.world.Settled := by
  obtain ⟨e, closed, hrun⟩ | ⟨account, acct, -, -, -, hrun⟩ := Session.data_cases peers date r st
  · rw [hrun]
    exact h
  rw [hrun]
  obtain ⟨-, -, hsettled⟩ | ⟨-, -, -, hheld, hend⟩ := deliver_ends peers (Session.adopt st acct) acct date r h
  · exact hsettled
  · simp only [hend]
    refine ⟨fun ref hmem => ?_, Nat.le_of_lt hheld.body⟩
    rcases List.mem_append.mp hmem with hmem | hmem
    · exact hheld.bounded ref hmem
    · rw [List.mem_singleton.mp hmem]
      exact Nat.lt_of_le_of_lt hheld.since hheld.body

/-- A delivery closes every spool it made exactly if it installs no other body. -/
theorem deliver_closes_iff (peers : Peers) (s : Session) (acct : Account) (date : Bytes)
    (r : ClientData) {w : World} (hw : w.Settled) :
    ClosesAll w ((deliver peers s acct date r).run w).2 ↔ ¬ Installs peers s acct date r w := by
  obtain ⟨hopen, hclosed, -⟩ | @⟨body, w₀, hopen, hbody, hcreated, hheld, hend⟩ :=
    deliver_ends peers s acct date r hw
  · exact iff_of_true hclosed (not_installs_of_refused peers s acct date r hopen)
  · have hlt : w₀.msg.body < w₀.created := by rw [hbody, hcreated]; exact Nat.lt_succ_self _
    have hrun : (process peers s acct).run w₀ = (_, ((process peers s acct).run w₀).2) := rfl
    have hrenews := process_renews hlt hrun
    rw [hend, hheld.closes_iff, installs_iff peers s acct date r hopen]
    obtain ⟨hC, hlow, -⟩ | ⟨hC, hsame⟩ := hrenews.body
    · rw [hcreated] at hlow
      exact iff_of_false (Nat.not_le.mpr hlow) (not_not_intro hC)
    · exact iff_of_true (by rw [hsame, hbody]) hC

/-- **Spools and transactions.** For every behaviour of the parties and of the disk: when Data returns,
every spool it made is closed exactly if no filter had the message put together again and it was not
signed (`Installs`). -/
theorem data_closes_iff (peers : Peers) (date : Bytes) (r : ClientData) {st st' : ServerState}
    {res : Except Err Unit} (hw : st.world.Settled)
    (hrun : (Session.data peers date r).run st = (res, st')) :
    ClosesAll st.world st'.world ↔ ¬ ∃ acct, Session.standing st = .ok acct ∧
      Installs peers (Session.adopt st acct) acct date r st.world := by
  obtain ⟨e, closed, hstanding, hdata⟩ | ⟨acct, hstanding, hdata⟩ :=
    Session.data_standing peers date r st
  · rw [hdata] at hrun
    cases hrun
    refine iff_of_true (fun ref hle hlt => absurd hlt (Nat.not_lt.mpr hle)) ?_
    rintro ⟨acct, hstanding', -⟩
    cases hstanding.symm.trans hstanding'
  · rw [hdata] at hrun
    cases hrun
    rw [deliver_closes_iff peers (Session.adopt st acct) acct date r hw, not_iff_not]
    constructor
    · exact fun h => ⟨acct, hstanding, h⟩
    · rintro ⟨acct', hstanding', h⟩
      cases hstanding.symm.trans hstanding'
      exact h

/-- A world in which no spool was ever made is settled. -/
theorem settled_about (from_ : Bytes) (to_ : List Bytes) (b : Bytes) :
    (World.about from_ to_ b).Settled := ⟨nofun, Nat.zero_le _⟩

/-- A message that a filter accepts and nobody changes: its spool is the only one, and is closed. -/
theorem data_closes_guarded :
    ClosesAll guarded.world ((Session.data agreeable [] ⟨[], none⟩).run guarded).2.world ∧
    ¬ ∃ acct, Session.standing guarded = .ok acct ∧
      Installs agreeable (Session.adopt guarded acct) acct [] ⟨[], none⟩ guarded.world := by
  have hends : ((Session.data agreeable [] ⟨[], none⟩).run guarded).2.world.created = 2 ∧
      1 ∈ ((Session.data agreeable [] ⟨[], none⟩).run guarded).2.world.closed := by
    decide +kernel
  have hcloses : ClosesAll guarded.world
      ((Session.data agreeable [] ⟨[], none⟩).run guarded).2.world := by
    intro ref hle hlt
    rw [hends.1] at hlt
    obtain rfl : ref = 1 := Nat.le_antisymm (Nat.lt_succ_iff.mp hlt) hle
    exact hends.2
  exact ⟨hcloses, (data_closes_iff agreeable [] ⟨[], none⟩ (settled_about _ _ _) rfl).mp hcloses⟩

/-- An account, and a key for the domain of its address. -/
def signingConfig : Config :=
  Config.plain [⟨lit "app", lit "pw", false, [lit "a@x"], true⟩] [⟨lit "x", lit "mail", [], [], []⟩]

/-- That configuration is one that is loaded. -/
theorem signingConfig_loads : (newSnapshot .plain signingConfig).toOption.isSome := by
  decide +kernel

/-- A session of that account with an envelope, before DATA. -/
def signing : ServerState :=
  { guarded with current := (newSnapshot .plain signingConfig).toOption.get signingConfig_loads }

/-- A message that is signed: the spool with the signed copy is open when Data has returned. -/
theorem data_leaves_signed_open :
    ((Session.data agreeable [] ⟨[], none⟩).run signing).1 = .ok () ∧
    (Event.dkimResult (lit "x") .signed ∈ newEvents signing.world
      ((Session.data agreeable [] ⟨[], none⟩).run signing).2.world) ∧
    ¬ ClosesAll signing.world ((Session.data agreeable [] ⟨[], none⟩).run signing).2.world := by
  refine ⟨by decide +kernel, by decide +kernel, fun hall => ?_⟩
  have hclosed := hall 2 (by decide) (by decide +kernel)
  exact absurd hclosed (by decide +kernel)

end Mailout
