import Mailout.Rewriting

/-!
# A filter that fails open

With `FailOpen` the chain goes on behind a filter that failed, with the message as the filter left
it. Its body is then always the one it had. Its envelope is not: `applyModifications` changes sender
and recipients as it meets the actions, and a body chunk or the rewriting of the message may fail
behind them. `carriedOut` are the actions before the one that fails, and
`runOne_failed_untouched_iff` says when they leave the envelope as it was.
-/

namespace Mailout

open Go

/-- The actions before the first body chunk that cannot be written to the replacement; all of them if
there is none. -/
def carriedOut (st : SpoolState) : List ModifyAction → List ModifyAction
  | [] => []
  | .replaceBody body :: acts =>
    match (Spool.write body).run st with
    | (.ok (), st') => .replaceBody body :: carriedOut st' acts
    | (.error _, _) => []
  | act :: acts => act :: carriedOut st acts

/-- A change of the envelope or of a field needs no disk, and is carried out. -/
theorem carriedOut_edit {act : ModifyAction} (h : act.edits = true) (st : SpoolState)
    (acts : List ModifyAction) : carriedOut st (act :: acts) = act :: carriedOut st acts := by
  cases act with
  | replaceBody body => cases h
  | quarantine reason => cases h
  | _ => rfl

/-- The message is as it was: its sender, its recipients and its bytes. -/
structure World.Untouched (w w' : World) : Prop where
  from_ : w'.msg.from_ = w.msg.from_
  to_ : w'.msg.to_ = w.msg.to_
  bytes : w'.bytes = w.bytes

/-- What is left of a message when a modification fails: its body, and its envelope after the actions
that were carried out. -/
structure World.LeftBy (w : World) (acts : List ModifyAction) (w' : World) : Prop where
  msg : w'.msg = onMessage acts w.msg
  contents : (w'.spools w.msg.body).contents = (w.spools w.msg.body).contents

section
open Tx

/-- The spool a body chunk goes to: the replacement there is, or else a new one. -/
def replacementSpool (w : World) (replacement : Option SpoolRef) : Spool :=
  replacement.elim (w.spools w.msg.body).sibling w.spools

/-- The end of `applyModifications`, where it fails because the message could not be rewritten. -/
theorem finishModifications_failed (parsed : ParsedMessage) (headerLen : Nat) (changed : Bool)
    (replacement : Option SpoolRef) {w : World} (hbody : w.msg.body < w.created) :
    Comp.Ensures (finishModifications parsed headerLen changed replacement) w fun r w' =>
      ∀ what, r = .error (.other what) → w.LeftBy [] w' := by
  refine .bind (P := fun r w₁ => ∀ e, r = .error e → w.LeftBy [] w₁) ?_ (fun _ w₁ _ => ?_)
    fun e w₁ h what _ => h e rfl
  · unfold Comp.when
    split_ifs
    · rcases rewriteBody_cases parsed headerLen replacement w with
        ⟨w₁, hrun, -⟩ | ⟨e, w₁, hrun, hmsg, -, -, hspools⟩
      · exact Comp.ensures_of_run hrun fun e h => nomatch h
      · exact Comp.ensures_of_run hrun fun e _ => ⟨hmsg, (hspools _ hbody).contents⟩
    · exact fun e h => nomatch h
  · -- the refusal of a message without recipients is a verdict, not a failure
    intro what
    rw [Comp.run_bind_of_ok (run_message w₁)]
    split_ifs
    · exact fun h => nomatch h
    · exact fun h => nomatch h

/-- A body chunk, written to the spool of the replacement: it fails itself, or what comes behind it. -/
theorem chunk_failed {acts : List ModifyAction} {ref : SpoolRef} {rest : Tx Unit}
    (hrest : ∀ w : World, w.msg.body < w.created → ref ≠ w.msg.body → Comp.Ensures rest w fun r w' =>
      ∀ what, r = .error (.other what) → w.LeftBy (carriedOut ⟨w.disk, w.spools ref⟩ acts) w')
    (chunk : Bytes) {w : World} (hbody : w.msg.body < w.created) (hne : ref ≠ w.msg.body) :
    Comp.Ensures (do onSpool ref (Spool.write chunk); rest) w fun r w' =>
      ∀ what, r = .error (.other what) →
        w.LeftBy (carriedOut ⟨w.disk, w.spools ref⟩ (.replaceBody chunk :: acts)) w' := by
  have hsame := (works_onSpool (Spool.write chunk) w : Works ref w _).spools _ hne.symm
  have hrun := run_onSpool ref (Spool.write chunk) w
  cases hwrite : (Spool.write chunk).run ⟨w.disk, w.spools ref⟩ with
  | mk r st =>
    rw [hwrite] at hrun
    rw [hrun] at hsame
    cases r with
    | error e =>
      rw [Comp.Ensures, Comp.run_bind_of_error hrun, carriedOut, hwrite]
      exact fun what _ => ⟨rfl, hsame.contents⟩
    | ok u =>
      have hnext := hrest
        { w with disk := st.disk, spools := Function.update w.spools ref st.spool } hbody hne
      rw [Comp.Ensures, Comp.run_bind_of_ok hrun, carriedOut, hwrite]
      intro what hwhat
      obtain ⟨hmsg, hcontents⟩ := hnext what hwhat
      simp only [Function.update_self] at hmsg
      exact ⟨hmsg, hcontents.trans hsame.contents⟩

/-- A failed loop leaves the message with the actions carried out that came before the failure. -/
theorem applyModifications_failed (f : Milter) (headerLen : Nat) (acts : List ModifyAction) :
    ∀ (parsed : ParsedMessage) (changed : Bool) (replacement : Option SpoolRef) (w : World),
      w.msg.body < w.created → (∀ ref, replacement = some ref → ref ≠ w.msg.body) →
      Comp.Ensures (applyModifications f headerLen acts parsed changed replacement) w fun r w' =>
        ∀ what, r = .error (.other what) →
          w.LeftBy (carriedOut ⟨w.disk, replacementSpool w replacement⟩ acts) w' := by
  induction acts with
  | nil => exact fun parsed changed replacement w hbody _ => finishModifications_failed _ _ _ _ hbody
  | cons act acts ih =>
    intro parsed changed replacement w hbody href
    by_cases hedit : act.edits = true
    · have hnext := ih (act.onHeaders parsed) (act.changesHeaders || changed) replacement
        { w with msg := act.onMessage w.msg } (by simpa using hbody) (by simpa using href)
      rw [Comp.Ensures, applyModifications_edit _ _ _ _ _ _ hedit]
      intro what hwhat
      obtain ⟨hmsg, hcontents⟩ := hnext what hwhat
      rw [carriedOut_edit hedit]
      simp only [replacementSpool, ModifyAction.onMessage_body] at hmsg hcontents
      exact ⟨hmsg, hcontents⟩
    cases act with
    | quarantine reason =>
      intro what h
      cases h
    | replaceBody chunk =>
      have hrest : ∀ (ref : SpoolRef) (w : World), w.msg.body < w.created → ref ≠ w.msg.body →
          Comp.Ensures (applyModifications f headerLen acts parsed changed (some ref)) w fun r w' =>
            ∀ what, r = .error (.other what) →
              w.LeftBy (carriedOut ⟨w.disk, w.spools ref⟩ acts) w' :=
        fun ref w hbody hne => ih parsed changed (some ref) w hbody (by simpa using hne)
      cases replacement with
      | some ref => exact chunk_failed (hrest ref) chunk hbody (href ref rfl)
      | none =>
        -- the first chunk makes the spool, behind the pointers there are
        have hne : w.msg.body ≠ w.created := Nat.ne_of_lt hbody
        intro what hwhat
        obtain ⟨hmsg, hcontents⟩ := chunk_failed (hrest w.created) chunk (w := { w with
          spools := Function.update w.spools w.created (w.spools w.msg.body).sibling,
          created := w.created + 1 }) (Nat.lt_succ_of_lt hbody) hne.symm what hwhat
        simp only [Function.update_self, Function.update_of_ne hne] at hmsg hcontents
        refine ⟨hmsg, Eq.trans ?_ hcontents⟩
        have hclose : ∀ w₁ : World, ((close w.created).run w₁).2.spools w.msg.body =
            w₁.spools w.msg.body := fun w₁ => Function.update_of_ne hne _ _
        exact congrArg Spool.contents (hclose _)
    | _ => exact absurd rfl hedit

end

/-- No action changes whose message it is. -/
theorem onMessage_account (acts : List ModifyAction) :
    ∀ msg : Message, (onMessage acts msg).account = msg.account := by
  induction acts with
  | nil => exact fun _ => rfl
  | cons act acts ih =>
    intro msg
    rw [onMessage, List.foldl_cons, ← onMessage, ih]
    cases act <;> rfl

/-- A message that was left behind is untouched exactly if the actions change nothing of it. -/
theorem World.LeftBy.untouched_iff {w w' : World} {acts : List ModifyAction} (h : w.LeftBy acts w') :
    w.Untouched w' ↔ onMessage acts w.msg = w.msg := by
  have hbody : w'.msg.body = w.msg.body := by rw [h.msg, onMessage_body]
  constructor
  · intro hu
    have hfrom := hu.from_
    have hto := hu.to_
    rw [h.msg] at hfrom hto
    have haccount := onMessage_account acts w.msg
    have hbody' := onMessage_body acts w.msg
    generalize onMessage acts w.msg = msg at *
    cases msg
    cases hmsg : w.msg
    simp_all
  · intro hsame
    rw [← h.msg] at hsame
    refine ⟨by rw [hsame], by rw [hsame], ?_⟩
    rw [World.bytes, World.bytes, hbody]
    exact h.contents

section
variable (peers : Peers) (f : Milter) (info : SessionInfo)

open Tx

/-- **A filter that fails.** The message is untouched exactly if the filter failed before it asked for
anything, or if what it asked for up to the modification that failed leaves the envelope as it is; a
chain that lets the filter fail open goes on with the message as it then is. -/
theorem runOne_failed_untouched_iff {w w' : World} {what : Bytes} (hbody : w.msg.body < w.created)
    (hrun : (runOne peers f info).run w = (.error (.other what), w')) :
    (w.Untouched w' ↔ ∀ req w₁, (askFilter peers f info).run w = (.ok req, w₁) →
      onMessage (carriedOut ⟨w₁.disk, (w₁.spools w.msg.body).sibling⟩ req.acts) w.msg = w.msg) ∧
    (f.failOpen = true → ∀ filters, (runChain peers info (f :: filters)).run w =
      (runChain peers info filters).run
        { w' with trace := w'.trace ++ [.milterDecided f.name .unavailable] }) := by
  constructor
  · obtain ⟨es, hobs⟩ := watches_askFilter peers f info w
    rw [runOne_eq] at hrun
    cases hask : (askFilter peers f info).run w with
    | mk r w₁ =>
      rw [hask] at hobs
      cases r with
      | error e =>
        rw [Comp.run_bind_of_error hask] at hrun
        cases hrun
        refine iff_of_true ⟨by rw [hobs.msg], by rw [hobs.msg], ?_⟩ fun req w₁ h => nomatch h
        rw [World.bytes, World.bytes, hobs.msg]
        exact (hobs.spools _).contents
      | ok req =>
        rw [Comp.run_bind_of_ok hask] at hrun
        have hbody₁ : w₁.msg.body < w₁.created := by rwa [hobs.msg, hobs.created]
        have hleft := (applyModifications_failed f req.headerLen req.acts req.parsed false none w₁
          hbody₁ (fun ref h => nomatch h)).of_run hrun what rfl
        have hfrom : w.LeftBy (carriedOut ⟨w₁.disk, (w₁.spools w.msg.body).sibling⟩ req.acts) w' := by
          obtain ⟨hmsg, hcontents⟩ := hleft
          rw [replacementSpool, Option.elim_none, hobs.msg] at hmsg
          rw [hobs.msg] at hcontents
          exact ⟨hmsg, hcontents.trans (hobs.spools _).contents⟩
        rw [hfrom.untouched_iff]
        constructor
        · rintro h req' w₂ ⟨⟩
          exact h
        · exact fun h => h req w₁ rfl
  · intro hopen filters
    rw [runChain, Comp.run_bind_of_ok (by rw [Comp.run_attempt, hrun])]
    show (emit _ >>= fun _ => _).run w' = _
    rw [Comp.run_bind_of_ok (run_emit _ _), if_pos hopen]

end

/-- A filter that asks for another sender and for a body. -/
def rewriter : Peers :=
  { agreeable with
    milterEnd := fun _ => .ok ([.changeFrom (lit "<b@x>"), .replaceBody (lit "goodbye")], none) }

/-- A message on a disk that fails. -/
def onFailingDisk : World :=
  { World.about (lit "a@x") [lit "c@x"] (lit "\r\n\r\n") with disk := ⟨fun _ => some 0, 0⟩ }

/-- A filter that asks for the sender the message has, and for a body. -/
def restater : Peers :=
  { agreeable with
    milterEnd := fun _ => .ok ([.changeFrom (lit "<a@x>"), .replaceBody (lit "goodbye")], none) }

/-- What a filter asked for on that disk, as far as it is carried out, leaves the envelope as it is. -/
def leavesEnvelope (peers : Peers) : Bool :=
  match (askFilter peers ⟨lit "av", true⟩ ⟨[], [], 0, [], [], [], []⟩).run onFailingDisk with
  | (.ok req, w) =>
    onMessage (carriedOut ⟨w.disk, (w.spools onFailingDisk.msg.body).sibling⟩ req.acts) onFailingDisk.msg =
      onFailingDisk.msg
  | (.error _, _) => true

/-- A filter that cannot be reached leaves the message alone. So does one of which only the sender is carried
out that the message has; one that asks for another sender does not. -/
theorem runOne_unreachable_untouched :
    onFailingDisk.Untouched ((runOne { agreeable with milter := fun _ => .error (lit "refused") }
      ⟨lit "av", true⟩ ⟨[], [], 0, [], [], [], []⟩).run onFailingDisk).2 ∧
    onFailingDisk.Untouched
      ((runOne restater ⟨lit "av", true⟩ ⟨[], [], 0, [], [], [], []⟩).run onFailingDisk).2 ∧
    ¬ onFailingDisk.Untouched
      ((runOne rewriter ⟨lit "av", true⟩ ⟨[], [], 0, [], [], [], []⟩).run onFailingDisk).2 := by
  have hfail : ((runOne restater ⟨lit "av", true⟩ ⟨[], [], 0, [], [], [], []⟩).run onFailingDisk).1 =
        .error (.other (lit "spool to TMPDIR")) ∧
      ((runOne rewriter ⟨lit "av", true⟩ ⟨[], [], 0, [], [], [], []⟩).run onFailingDisk).1 =
        .error (.other (lit "spool to TMPDIR")) ∧
      leavesEnvelope restater = true ∧ leavesEnvelope rewriter = false ∧
      ((askFilter rewriter ⟨lit "av", true⟩ ⟨[], [], 0, [], [], [], []⟩).run onFailingDisk).1.isOk = true := by
    decide +kernel
  obtain ⟨hrestater, hrewriter, hleaves, hchanges, hasked⟩ := hfail
  refine ⟨?_, ?_, fun huntouched => ?_⟩
  · refine (@runOne_failed_untouched_iff { agreeable with milter := fun _ => .error (lit "refused") }
      ⟨lit "av", true⟩ ⟨[], [], 0, [], [], [], []⟩ onFailingDisk _
      (lit "open milter session: refused") (by decide) rfl).1.mpr fun req w₁ h => ?_
    exact nomatch congrArg (fun r : Except Err Request × World => r.1.isOk) h
  · refine (runOne_failed_untouched_iff restater ⟨lit "av", true⟩ ⟨[], [], 0, [], [], [], []⟩ (by decide)
      (Prod.ext hrestater rfl)).1.mpr fun req w₁ h => ?_
    rw [leavesEnvelope, h] at hleaves
    exact of_decide_eq_true hleaves
  · have hleft := (runOne_failed_untouched_iff rewriter ⟨lit "av", true⟩ ⟨[], [], 0, [], [], [], []⟩
      (by decide) (Prod.ext hrewriter rfl)).1.mp huntouched
    cases h : (askFilter rewriter ⟨lit "av", true⟩ ⟨[], [], 0, [], [], [], []⟩).run onFailingDisk with
    | mk r w₁ =>
      cases r with
      | error err => rw [h] at hasked; cases hasked
      | ok req =>
        rw [leavesEnvelope, h] at hchanges
        exact of_decide_eq_false hchanges (hleft req w₁ h)

/-- The disk fails while the replacement is written, and the message goes on with a sender it was not
submitted under. -/
theorem failOpen_half_modified :
    ((runOne rewriter ⟨lit "av", true⟩ ⟨[], [], 0, [], [], [], []⟩).run onFailingDisk).1 =
      .error (.other (lit "spool to TMPDIR")) ∧
    ((runChain rewriter ⟨[], [], 0, [], [], [], []⟩ [⟨lit "av", true⟩]).run onFailingDisk).1 =
      .ok () ∧
    onFailingDisk.msg.from_ = lit "a@x" ∧
    ((runChain rewriter ⟨[], [], 0, [], [], [], []⟩ [⟨lit "av", true⟩]).run
      onFailingDisk).2.msg.from_ = lit "b@x" := by
  decide +kernel

end Mailout
