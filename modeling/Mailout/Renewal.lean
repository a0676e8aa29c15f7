import Mailout.Chain

/-!
# Which runs give the message another body

A message is received into a spool of its own. `rewriteBody` and `sign` put it into another one, and
Data does not know: it closes the spool it made. `Renews w w' C` says that between two worlds the message
got another body exactly if `C`. It goes along a sequence (`Renews.trans`), so that the conditions of the
stages add up: a filter that asks for a change of the fields or for a new body and does not quarantine the
message (`Rewrites`), or a key that may be used and that the library has a signature for (`Signs`), on a
disk that lets it be written.

`process_renews` says so of all that Data does from the filters on.
-/

namespace Mailout

open Go Tx

/-- Between two worlds of a run the message gets a body that was made meanwhile exactly if `C`;
otherwise it keeps the one it had. -/
structure Renews (w w' : World) (C : Prop) : Prop where
  created : w.created ≤ w'.created
  body : C ∧ w.created ≤ w'.msg.body ∧ w'.msg.body < w'.created ∨ ¬ C ∧ w'.msg.body = w.msg.body

section
variable {w w' w₁ w₂ : World} {C D : Prop}

/-- What leaves the message its body, and unmakes no spool. -/
theorem Renews.same (hbody : w'.msg.body = w.msg.body) (hcreated : w.created ≤ w'.created)
    (hC : ¬ C) : Renews w w' C :=
  ⟨hcreated, .inr ⟨hC, hbody⟩⟩

/-- What says something and reads. -/
theorem Renews.of_watches (h : Watches w w') (hC : ¬ C) : Renews w w' C := by
  obtain ⟨es, hes⟩ := h
  exact .same (by rw [hes.msg]) (Nat.le_of_eq hes.created.symm) hC

/-- Another way to say when. -/
theorem Renews.congr (h : Renews w w' C) (hiff : C ↔ D) : Renews w w' D := by
  rwa [propext hiff] at h

/-- A body that was made is one of the spools there are. -/
theorem Renews.made (h : Renews w w' C) (hw : w.msg.body < w.created) : w'.msg.body < w'.created := by
  obtain ⟨hcreated, ⟨-, -, hlt⟩ | ⟨-, hsame⟩⟩ := h
  · exact hlt
  · rw [hsame]
    exact Nat.lt_of_lt_of_le hw hcreated

/-- A sequence gives the message another body if one of its parts does: what is made later is never the
body the message began with. -/
theorem Renews.trans (h : Renews w w₁ C) (h' : Renews w₁ w₂ D) : Renews w w₂ (C ∨ D) := by
  refine ⟨h.created.trans h'.created, ?_⟩
  obtain ⟨hD, hlow, hhigh⟩ | ⟨hD, hsame⟩ := h'.body
  · exact .inl ⟨.inr hD, h.created.trans hlow, hhigh⟩
  · obtain ⟨hC, hlow, hhigh⟩ | ⟨hC, hsame'⟩ := h.body
    · exact .inl ⟨.inl hC, hsame ▸ hlow, hsame ▸ Nat.lt_of_lt_of_le hhigh h'.created⟩
    · exact .inr ⟨not_or.mpr ⟨hC, hD⟩, hsame.trans hsame'⟩

/-- A stretch before in which nothing happens to the message's body. -/
theorem Renews.before (h : Renews w₁ w' C) (hbody : w₁.msg.body = w.msg.body)
    (hcreated : w.created ≤ w₁.created) : Renews w w' C :=
  ((Renews.same (C := False) hbody hcreated id).trans h).congr (by simp)

/-- And one behind. -/
theorem Renews.behind (h : Renews w w₁ C) (hbody : w'.msg.body = w₁.msg.body)
    (hcreated : w₁.created ≤ w'.created) : Renews w w' C :=
  (h.trans (Renews.same (C := False) hbody hcreated id)).congr (by simp)

end

/-! ## Filters -/

namespace ModifyAction

/-- An action that refuses the message. -/
def quarantines : ModifyAction → Bool
  | .quarantine _ => true
  | _ => false

end ModifyAction

/-- What a filter asks for needs the message to be put together again, and does not refuse it. -/
def Rewriting (acts : List ModifyAction) : Prop :=
  (∃ act ∈ acts, act.rewrites = true) ∧ ∀ act ∈ acts, act.quarantines = false

section
variable {w w' : World} {headerLen : Nat}

/-- The end of `applyModifications` puts the message together if there is something new. -/
theorem finishModifications_renews (parsed : ParsedMessage) (headerLen : Nat) (changed : Bool)
    {replacement : Option SpoolRef} (hbody : w.msg.body < w.created)
    (hmade : ∀ ref, replacement = some ref → ref < w.created) {r : Except Err Unit}
    (hrun : (finishModifications parsed headerLen changed replacement).run w = (r, w')) :
    Renews w w' ((changed = true ∨ replacement.isSome = true) ∧ ¬ w.disk.Failed w'.disk) := by
  have hend : ∀ w₁ : World, ((do
      if (← message).to_.length = 0 then
        Comp.fail (.smtp ⟨554, (5, 7, 1), lit "All recipients removed by filters"⟩) :
      Tx Unit).run w₁).2 = w₁ := by
    intro w₁
    rw [Comp.run_bind_of_ok (run_message w₁)]
    split_ifs <;> rfl
  by_cases hnew : changed = true ∨ replacement.isSome = true
  · have hne : replacement.getD w.msg.body ≠ w.created := by
      cases replacement with
      | none => exact Nat.ne_of_lt hbody
      | some ref => exact Nat.ne_of_lt (hmade ref rfl)
    have hwhen : Comp.when (changed = true ∨ replacement.isSome = true)
        (rewriteBody parsed headerLen replacement) = rewriteBody parsed headerLen replacement :=
      if_pos hnew
    rw [finishModifications, hwhen] at hrun
    rcases rewriteBody_cases parsed headerLen replacement w with
      ⟨w₁, hrewrite, hmsg, hcreated, -⟩ | ⟨e, w₁, hrewrite, hmsg, hcreated, -, -⟩
    · have hsound : ¬ w.disk.Failed w₁.disk :=
        (warns_rewriteBody parsed headerLen replacement).not_failed hrewrite (not_failsWith_ok _)
      rw [Comp.run_bind_of_ok hrewrite] at hrun
      obtain rfl : w₁ = w' := (hend w₁).symm.trans (congrArg Prod.snd hrun)
      refine ⟨by rw [hcreated]; exact Nat.le_succ _, .inl ⟨⟨hnew, hsound⟩, ?_⟩⟩
      rw [hmsg, hcreated]
      exact ⟨Nat.le_refl _, Nat.lt_succ_self _⟩
    · rw [Comp.run_bind_of_error hrewrite] at hrun
      cases hrun
      refine .same (by rw [hmsg]) (by rw [hcreated]; exact Nat.le_succ _) fun ⟨_, hsound⟩ => ?_
      obtain ⟨w₁', -, ⟨_, hok, -⟩ | ⟨hfailed, what, herr⟩⟩ := rewriteBody_carries parsed headerLen hne
      · rw [hrewrite] at hok
        cases hok
      · rw [hrewrite] at herr
        cases herr
        exact hsound hfailed
  · have hwhen : Comp.when (changed = true ∨ replacement.isSome = true)
        (rewriteBody parsed headerLen replacement) = pure () := if_neg hnew
    rw [finishModifications, hwhen, pure_bind] at hrun
    obtain rfl : w = w' := (hend w).symm.trans (congrArg Prod.snd hrun)
    exact .same rfl (Nat.le_refl _) fun h => hnew h.1

/-- What is new behind some actions: what was new before them, or what they bring. -/
def News (changed : Bool) (replacement : Option SpoolRef) (acts : List ModifyAction) : Prop :=
  (changed = true ∨ replacement.isSome = true ∨ ∃ act ∈ acts, act.rewrites = true) ∧
    ∀ act ∈ acts, act.quarantines = false

/-- A chunk is written to a spool, and then the rest is done: that gives the message another body exactly if
the rest does and the chunk could be written. -/
theorem Renews.after_write {C : Prop} {ref : SpoolRef} {chunk : Bytes} {rest : Tx Unit}
    (hrest : ∀ w₁, Works ref w w₁ → Renews w₁ (rest.run w₁).2 (C ∧ ¬ w₁.disk.Failed (rest.run w₁).2.disk))
    (hend : ((do onSpool ref (Spool.write chunk); rest : Tx Unit).run w).2 = w') :
    Renews w w' (C ∧ ¬ w.disk.Failed w'.disk) := by
  have hworks := @works_onSpool ref _ (Spool.write chunk) w
  obtain ⟨w₁, hlater, ⟨_, hwrite, -⟩ | ⟨hfailed, what, hwrite⟩⟩ := carries_write ref chunk w
  · rw [hwrite] at hworks
    have hsound : ¬ w.disk.Failed w₁.disk := (warns_write ref chunk).not_failed hwrite (not_failsWith_ok _)
    rw [Comp.run_bind_of_ok hwrite] at hend
    have h := hrest w₁ hworks
    rw [hend] at h
    refine (h.before (by rw [hworks.msg]) (Nat.le_of_eq hworks.created.symm)).congr ?_
    refine and_congr_right fun _ => not_congr ⟨fun hf => hf.before hlater, fun hf => ?_⟩
    exact (hf.split hlater).resolve_left hsound
  · rw [hwrite] at hworks
    rw [Comp.run_bind_of_error hwrite] at hend
    obtain rfl : w₁ = w' := hend
    exact .same (by rw [hworks.msg]) (Nat.le_of_eq hworks.created.symm) fun h => h.2 hfailed

/-- **Modifications.** The message gets another body exactly if something is new, none of the actions
refuses it, and the disk does not fail while they are carried out. The induction is on the actions: an
edit goes on with the rest, and a chunk of a new body does so if it could be written. -/
theorem applyModifications_renews (f : Milter) (headerLen : Nat) (acts : List ModifyAction) :
    ∀ (parsed : ParsedMessage) (changed : Bool) (replacement : Option SpoolRef) (w w' : World)
      (r : Except Err Unit), w.msg.body < w.created →
      (∀ ref, replacement = some ref → ref < w.created) →
      (applyModifications f headerLen acts parsed changed replacement).run w = (r, w') →
      Renews w w' (News changed replacement acts ∧ ¬ w.disk.Failed w'.disk) := by
  induction acts with
  | nil =>
    intro parsed changed replacement w w' r hbody hmade hrun
    refine (finishModifications_renews parsed headerLen changed hbody hmade hrun).congr ?_
    simp [News]
  | cons act acts ih =>
    intro parsed changed replacement w w' r hbody hmade hrun
    by_cases hedit : act.edits = true
    · rw [applyModifications_edit _ _ _ _ _ _ hedit] at hrun
      have h := ih _ _ _ { w with msg := act.onMessage w.msg } w' r (by simpa using hbody) hmade hrun
      refine (Renews.before (w := w) h (by simp) (Nat.le_refl _)).congr (and_congr_left fun _ => ?_)
      have hrewrites : act.rewrites = act.changesHeaders ∧ act.quarantines = false := by
        cases act with
        | replaceBody | quarantine => cases hedit
        | _ => exact ⟨rfl, rfl⟩
      simp only [News, List.exists_mem_cons_iff, List.forall_mem_cons, hrewrites.1, hrewrites.2,
        true_and, Bool.or_eq_true]
      tauto
    cases act with
    | quarantine reason =>
      cases hrun
      exact .same rfl (Nat.le_refl _) fun ⟨⟨_, hall⟩, _⟩ => nomatch hall _ List.mem_cons_self
    | replaceBody chunk =>
      -- behind the chunk there is a replacement, so that something is new
      have hnews : ∀ ref, News changed replacement (.replaceBody chunk :: acts) ↔
          News changed (some ref) acts := by
        intro ref
        simp [News, ModifyAction.rewrites, ModifyAction.chunk, ModifyAction.quarantines]
      have hloop : ∀ (ref : SpoolRef) (w₁ : World), w₁.msg.body < w₁.created → ref < w₁.created →
          ∀ w', ((do onSpool ref (Spool.write chunk)
                     applyModifications f headerLen acts parsed changed (some ref) :
            Tx Unit).run w₁).2 = w' →
          Renews w₁ w' (News changed (some ref) acts ∧ ¬ w₁.disk.Failed w'.disk) := by
        intro ref w₁ hbody₁ href w' hend
        refine Renews.after_write (fun w₂ hworks => ?_) hend
        exact ih parsed changed (some ref) w₂ _ _ (by rw [hworks.msg, hworks.created]; exact hbody₁)
          (by rintro _ ⟨⟩; rw [hworks.created]; exact href) rfl
      cases replacement with
      | some ref =>
        have h := hloop ref w hbody (hmade ref rfl) w' (congrArg Prod.snd hrun)
        exact h.congr (and_congr_left fun _ => (hnews ref).symm)
      | none =>
        -- the spool of the replacement is made first, and closed in the end
        have hstart : (applyModifications f headerLen (.replaceBody chunk :: acts) parsed changed
            none).run w = (Comp.deferred (close w.created) (do
              onSpool w.created (Spool.write chunk)
              applyModifications f headerLen acts parsed changed (some w.created) : Tx Unit)).run
                (w.withSpool (w.spools w.msg.body).sibling) := rfl
        rw [hstart, Comp.run_deferred] at hrun
        have h := hloop w.created (w.withSpool (w.spools w.msg.body).sibling)
          (Nat.lt_succ_of_lt hbody) (Nat.lt_succ_self _) _ rfl
        cases hrun
        have hmade := Renews.before (w := w) (h.congr (and_congr_left fun _ => (hnews w.created).symm))
          rfl (Nat.le_succ _)
        exact hmade.behind rfl (Nat.le_refl _)
    | _ => exact absurd rfl hedit

variable (peers : Peers) (info : SessionInfo)

/-- The filter gives the message another body: it asks for a change of the fields or for a new body,
and for no quarantine, and the disk does not fail while that is carried out. -/
def Rewrites (f : Milter) (w : World) : Prop :=
  ∃ req w₁, (askFilter peers f info).run w = (.ok req, w₁) ∧ Rewriting req.acts ∧
    ¬ w₁.disk.Failed ((applyModifications f req.headerLen req.acts req.parsed false none).run w₁).2.disk

/-- One of the filters gives the message another body, behind some that let it through. -/
def RewrittenBy (filters : List Milter) (w : World) : Prop :=
  ∃ before f after w₁, filters = before ++ f :: after ∧ Passed peers info before w w₁ ∧
    Rewrites peers info f w₁

variable {peers info} {f : Milter} {filters : List Milter} {r : Except Err Unit}

/-- A filter is asked, which changes nothing, and then what it asks for is carried out. -/
theorem runOne_renews (hbody : w.msg.body < w.created)
    (hrun : (runOne peers f info).run w = (r, w')) : Renews w w' (Rewrites peers info f w) := by
  have hwatch := watches_askFilter peers f info w
  rw [runOne_eq] at hrun
  rcases hask : (askFilter peers f info).run w with ⟨e | req, w₁⟩
  · rw [hask] at hwatch
    rw [Comp.run_bind_of_error hask] at hrun
    cases hrun
    refine .of_watches hwatch ?_
    rintro ⟨req, w₁', hask', -⟩
    rw [hask] at hask'
    cases hask'
  · rw [hask] at hwatch
    obtain ⟨es, hobs⟩ := hwatch
    rw [Comp.run_bind_of_ok hask] at hrun
    have h := applyModifications_renews f req.headerLen req.acts req.parsed false none w₁ w' r
      (by rw [hobs.msg, hobs.created]; exact hbody) (by rintro ref ⟨⟩) hrun
    refine (h.before (by rw [hobs.msg]) (Nat.le_of_eq hobs.created.symm)).congr ?_
    have hnews : News false none req.acts ↔ Rewriting req.acts := by simp [News, Rewriting]
    rw [hnews]
    constructor
    · exact fun ⟨hacts, hsound⟩ => ⟨req, w₁, hask, hacts, by rw [hrun]; exact hsound⟩
    · rintro ⟨req', w₁', hask', hacts, hsound⟩
      rw [hask] at hask'
      cases hask'
      rw [hrun] at hsound
      exact ⟨hacts, hsound⟩

/-- The chain goes on behind a filter that accepts the message. -/
theorem passed_of_accepted {w₁ : World} (hone : (runOne peers f info).run w = (.ok (), w₁)) :
    Passed peers info (f :: filters) w w' ↔ Passed peers info filters (w₁.decided f .accept) w' := by
  constructor
  · intro h
    cases h with
    | accepted hrun hrest =>
      cases hone.symm.trans hrun
      exact hrest
    | unavailable hrun _ _ => cases hone.symm.trans hrun
  · exact .accepted hone

/-- It does so behind one that is not there and may fail open. -/
theorem passed_of_unavailable {w₁ : World} {what : Bytes}
    (hone : (runOne peers f info).run w = (.error (.other what), w₁)) (hopen : f.failOpen = true) :
    Passed peers info (f :: filters) w w' ↔
      Passed peers info filters (w₁.decided f .unavailable) w' := by
  constructor
  · intro h
    cases h with
    | accepted hrun _ => cases hone.symm.trans hrun
    | unavailable hrun _ hrest =>
      cases hone.symm.trans hrun
      exact hrest
  · exact .unavailable hone hopen

/-- It does not behind any other failure. -/
theorem not_passed_of_error {w₁ : World} {e : Err}
    (hone : (runOne peers f info).run w = (.error e, w₁))
    (hstops : ¬ ((∃ what, e = .other what) ∧ f.failOpen = true)) :
    ¬ Passed peers info (f :: filters) w w' := by
  intro h
  cases h with
  | accepted hrun _ => cases hone.symm.trans hrun
  | unavailable hrun hopen _ =>
    cases hone.symm.trans hrun
    exact hstops ⟨⟨_, rfl⟩, hopen⟩

/-- A filter that lets the message through to the rest of the chain. -/
theorem rewrittenBy_passed (hpassed : ∀ before w', Passed peers info (f :: before) w w' ↔
    Passed peers info before w₁ w') : RewrittenBy peers info (f :: filters) w ↔
      Rewrites peers info f w ∨ RewrittenBy peers info filters w₁ := by
  constructor
  · rintro ⟨before, g, after, w₂, heq, hbefore, hrewrites⟩
    cases before with
    | nil =>
      cases heq
      cases hbefore
      exact .inl hrewrites
    | cons f' before =>
      cases heq
      exact .inr ⟨before, g, after, w₂, rfl, (hpassed _ _).mp hbefore, hrewrites⟩
  · rintro (hrewrites | ⟨before, g, after, w₂, rfl, hbefore, hrewrites⟩)
    · exact ⟨[], f, filters, w, rfl, .nil w, hrewrites⟩
    · exact ⟨f :: before, g, after, w₂, rfl, (hpassed _ _).mpr hbefore, hrewrites⟩

/-- A filter that stops the message. -/
theorem rewrittenBy_stopped (hstops : ∀ before w', ¬ Passed peers info (f :: before) w w') :
    RewrittenBy peers info (f :: filters) w ↔ Rewrites peers info f w := by
  constructor
  · rintro ⟨before, g, after, w₂, heq, hbefore, hrewrites⟩
    cases before with
    | nil =>
      cases heq
      cases hbefore
      exact hrewrites
    | cons f' before =>
      cases heq
      exact absurd hbefore (hstops _ _)
  · exact fun hrewrites => ⟨[], f, filters, w, rfl, .nil w, hrewrites⟩

/-- **The chain.** The message gets another body exactly if one of the filters gives it one. -/
theorem runChain_renews : ∀ {filters : List Milter} {w w' : World} {r : Except Err Unit},
    w.msg.body < w.created → (runChain peers info filters).run w = (r, w') →
      Renews w w' (RewrittenBy peers info filters w)
  | [], w, w', r, _, hrun => by
    cases hrun
    refine .same rfl (Nat.le_refl _) ?_
    rintro ⟨before, f, after, w₁, heq, -⟩
    cases before <;> cases heq
  | f :: filters, w, w', r, hbody, hrun => by
    have hattempt : (Comp.attempt (runOne peers f info)).run w = _ := Comp.run_attempt _ _
    rw [runChain, Comp.run_bind_of_ok hattempt] at hrun
    rcases hone : (runOne peers f info).run w with ⟨e | u, w₁⟩
    · have h₁ := runOne_renews hbody hone
      rw [hone] at hrun
      by_cases hopen : (∃ what, e = .other what) ∧ f.failOpen = true
      · -- an unavailable filter that may fail open
        obtain ⟨⟨what, rfl⟩, hopen⟩ := hopen
        have hrest : (runChain peers info filters).run (w₁.decided f .unavailable) = (r, w') := by
          simpa only [Comp.run_bind_of_ok (run_emit _ _), hopen, if_true, World.decided] using hrun
        have h₂ := runChain_renews (w := w₁.decided f .unavailable) (h₁.made hbody) hrest
        exact (h₁.trans (h₂.before rfl (Nat.le_refl _))).congr
          (rewrittenBy_passed fun _ _ => passed_of_unavailable hone hopen).symm
      · -- a verdict, or an unavailable filter that may not fail open
        have hend : w'.msg = w₁.msg ∧ w'.created = w₁.created := by
          cases e with
          | smtp e =>
            cases hrun
            exact ⟨rfl, rfl⟩
          | discard =>
            cases hrun
            exact ⟨rfl, rfl⟩
          | other what =>
            have hclosed : f.failOpen = false := by
              simpa using fun h => hopen ⟨⟨what, rfl⟩, h⟩
            simp only [Comp.run_bind_of_ok (run_emit _ _), hclosed] at hrun
            cases hrun
            exact ⟨rfl, rfl⟩
        exact (h₁.behind (by rw [hend.1]) (Nat.le_of_eq hend.2.symm)).congr
          (rewrittenBy_stopped fun _ _ => not_passed_of_error hone hopen).symm
    · have h₁ := runOne_renews hbody hone
      rw [hone] at hrun
      have hrest : (runChain peers info filters).run (w₁.decided f .accept) = (r, w') := hrun
      have h₂ := runChain_renews (w := w₁.decided f .accept) (h₁.made hbody) hrest
      exact (h₁.trans (h₂.before rfl (Nat.le_refl _))).congr
        (rewrittenBy_passed fun _ _ => passed_of_accepted hone).symm

/-- The stage of Data that runs the filters. -/
theorem filterStage_renews {acct : Account} {policy : AccountPolicy} {r : Except Err Bool}
    (hbody : w.msg.body < w.created) (hrun : (filterStage peers info acct policy).run w = (r, w')) :
    Renews w w' (RewrittenBy peers info policy.milters w) := by
  unfold filterStage at hrun
  split_ifs at hrun with hnone
  · cases hrun
    rw [hnone]
    exact runChain_renews (r := .ok ()) hbody rfl
  have hattempt : (Comp.attempt (runChain peers info policy.milters)).run w = _ := Comp.run_attempt _ _
  rw [Comp.run_bind_of_ok hattempt] at hrun
  rcases hchain : (runChain peers info policy.milters).run w with ⟨e | u, w₁⟩
  · rw [hchain] at hrun
    refine (runChain_renews hbody hchain).behind ?_ (Nat.le_of_eq ?_)
    all_goals cases e <;> cases hrun <;> rfl
  · rw [hchain] at hrun
    cases hrun
    exact runChain_renews hbody hchain

/-! ## The signature and the relay -/

variable (peers) in
/-- A key gives the message another body: the library has a signature for it, and the disk does not fail
while the signed message is written. -/
def SignedWith (key : LoadedDKIMKey) (w : World) : Prop :=
  (∃ signature, peers.dkim.field key w.bytes = .ok signature) ∧
    ¬ w.disk.Failed ((signWith peers key).run w).2.disk

variable (peers) in
/-- There is a key for the message that the policy may use, and it gives the message another body. -/
def Signs (signer : DKIMSigner) (policy : SenderPolicy) (w : World) : Prop :=
  ∃ key w₁, (keyFor signer).run w = (.ok (some key), w₁) ∧ policy.canSign key.domain = true ∧
    SignedWith peers key w₁

/-- A key that may be used: the signed message takes the place of the message if the library has a
signature and neither reading the message nor writing the signed one fails. -/
theorem signWith_renews {key : LoadedDKIMKey} (hbody : w.msg.body < w.created)
    (hrun : (signWith peers key).run w = (r, w')) : Renews w w' (SignedWith peers key w) := by
  have hattempt : (Comp.attempt (onSpool w.msg.body Spool.reader)).run w = _ := Comp.run_attempt _ _
  have hsigned : SignedWith peers key w ↔
      (∃ signature, peers.dkim.field key w.bytes = .ok signature) ∧ ¬ w.disk.Failed w'.disk := by
    rw [SignedWith, hrun]
  rw [hsigned]
  rw [signWith, Comp.run_bind_of_ok (run_message w), Comp.run_bind_of_ok hattempt] at hrun
  obtain ⟨w₁, hobs, ⟨source, hread, hfrom⟩ | ⟨hfailed, what, hread⟩⟩ :=
    onSpool_opens (Spool.reader_opens ⟨w.disk, w.spools w.msg.body⟩)
  · obtain ⟨w₂, hw₂⟩ : ∃ w₂, w₂ = w₁.withSpool (w₁.spools w.msg.body).sibling := ⟨_, rfl⟩
    have hne : w.msg.body ≠ w₁.created := by rw [hobs.created]; exact Nat.ne_of_lt hbody
    have hold : w₂.spools w.msg.body = w₁.spools w.msg.body := by
      rw [hw₂]
      exact withSpool_old (by rw [hobs.created]; exact hbody)
    have hbytes : (w₂.spools w.msg.body).contents = w.bytes := by
      rw [hold, (hobs.spools _).contents, World.bytes]
    have hdraft : Draft w₂ w₁.created [] := by
      rw [hw₂]
      exact draft_withSpool w₁ _
    have hsibling : (sibling w.msg.body).run w₁ = (.ok w₁.created, w₂) := by
      rw [hw₂]
      rfl
    have hmade : w₂.msg = w.msg ∧ w₂.created = w.created + 1 ∧ w₂.disk = w₁.disk := by
      rw [hw₂]
      exact ⟨hobs.msg, congrArg (· + 1) hobs.created, rfl⟩
    rw [← hold] at hfrom
    have hworks := works_dkim peers key w.msg.body source w₁.created w₂
    have hreports := peers.dkim.reports key w.msg.body source w₁.created
    have hreader : Warns IsOther (onSpool w.msg.body Spool.reader) := Spool.reports_reader.onSpool _
    have hsound : ¬ w.disk.Failed w₁.disk := hreader.not_failed hread (not_failsWith_ok _)
    have hattempt' : (Comp.attempt (peers.dkim.sign key w.msg.body source w₁.created)).run w₂ = _ :=
      Comp.run_attempt _ _
    simp only [hread] at hrun
    rw [Comp.run_bind_of_ok hsibling, Comp.run_bind_of_ok hattempt'] at hrun
    rcases hsign : (peers.dkim.sign key w.msg.body source w₁.created).run w₂ with ⟨e | u, w₃⟩
    · rw [hsign] at hrun hworks
      cases hrun
      refine .same (congrArg Message.body (hworks.msg.trans hmade.1))
        (by rw [show _ = w₂.created from hworks.created, hmade.2.1]; exact Nat.le_succ _) ?_
      rintro ⟨⟨signature, hfield⟩, hall⟩
      obtain hfailed | ⟨what, hfield', -⟩ := peers.dkim.refuses hfrom hsign
      · rw [hmade.2.2] at hfailed
        exact hall (hfailed.before hobs.disk)
      · rw [hbytes, hfield] at hfield'
        cases hfield'
    · obtain ⟨signature, hfield, -⟩ := peers.dkim.signs hne hfrom hdraft hsign
      have hsound' : ¬ w₂.disk.Failed w₃.disk := hreports.not_failed hsign (not_failsWith_ok _)
      rw [hsign] at hrun hworks
      cases hrun
      have hcreated : w₃.created = w.created + 1 := hworks.created.trans hmade.2.1
      refine ⟨by rw [show _ = w.created + 1 from hcreated]; exact Nat.le_succ _, .inl ⟨⟨⟨signature, hbytes ▸ hfield⟩, ?_⟩, ?_⟩⟩
      · intro hfailed
        rw [hmade.2.2] at hsound'
        exact (hfailed.split hobs.disk).elim hsound hsound'
      · show w.created ≤ w₁.created ∧ w₁.created < w₃.created
        rw [hobs.created, hcreated]
        exact ⟨Nat.le_refl _, Nat.lt_succ_self _⟩
  · simp only [hread] at hrun
    cases hrun
    exact .same (congrArg Message.body hobs.msg) (Nat.le_of_eq hobs.created.symm) fun h => h.2 hfailed

/-- `sign`: the key is looked for, which changes nothing, and used if the policy lets it be. -/
theorem sign_renews {signer : DKIMSigner} {policy : SenderPolicy} (hbody : w.msg.body < w.created)
    (hrun : (sign peers signer policy).run w = (r, w')) : Renews w w' (Signs peers signer policy w) := by
  obtain ⟨es, hobs⟩ := watches_keyFor signer w
  obtain ⟨key, w₁, hkey, -⟩ := keyFor_run signer w
  rw [hkey] at hobs
  rw [sign, Comp.run_bind_of_ok hkey] at hrun
  have hnone : ∀ {C : Prop}, Watches w₁ w' → ¬ C → Renews w w' C := fun hwatch hC =>
    .of_watches (Watches.trans _ _ _ ⟨es, hobs⟩ hwatch) hC
  cases key with
  | none =>
    cases hrun
    refine hnone (.refl _) ?_
    rintro ⟨key, w₂, hkey', -⟩
    rw [hkey] at hkey'
    cases hkey'
  | some key =>
    simp only at hrun
    split_ifs at hrun with hpolicy
    · have h := signWith_renews (by rw [hobs.msg, hobs.created]; exact hbody) hrun
      refine (h.before (by rw [hobs.msg]) (Nat.le_of_eq hobs.created.symm)).congr ?_
      refine ⟨fun h => ⟨key, w₁, hkey, hpolicy, h⟩, ?_⟩
      rintro ⟨key', w₂, hkey', -, h⟩
      rw [hkey] at hkey'
      cases hkey'
      exact h
    · cases hrun
      refine hnone (watches_emit _ w₁) ?_
      rintro ⟨key', w₂, hkey', hpolicy', -⟩
      rw [hkey] at hkey'
      cases hkey'
      exact hpolicy hpolicy'

/-- The stage of Data that signs. -/
theorem signStage_renews {signer : DKIMSigner} {acct : Account} {policy : AccountPolicy}
    (hbody : w.msg.body < w.created) (hrun : (signStage peers signer acct policy).run w = (r, w')) :
    Renews w w' (Signs peers signer policy.senders w) := by
  unfold signStage at hrun
  split_ifs at hrun with hempty
  · -- without keys there is none for the message
    cases hrun
    refine .same rfl (Nat.le_refl _) ?_
    rintro ⟨key, w₁, hkey, -⟩
    obtain ⟨key', w₁', hkey', hnone⟩ := keyFor_run signer w
    rw [hkey] at hkey'
    cases hkey'
    cases hnone (by simpa [DKIMSigner.empty] using hempty)
  have hattempt : (Comp.attempt (sign peers signer policy.senders)).run w = _ := Comp.run_attempt _ _
  rw [Comp.run_bind_of_ok hattempt] at hrun
  rcases hrun' : (sign peers signer policy.senders).run w with ⟨e | u, w₁⟩
  · rw [hrun'] at hrun
    cases hrun
    exact (sign_renews hbody hrun').behind rfl (Nat.le_refl _)
  · rw [hrun'] at hrun
    cases hrun
    exact sign_renews hbody hrun'

/-- The stage of Data that relays changes neither the message nor a body. -/
theorem watches_relayStage (relay : Relayer) (acct : Account) :
    Comp.Keeps Watches (relayStage peers relay acct) := by
  refine .bind Watches.trans (.attempt (watches_send peers relay)) fun sent => ?_
  cases sent with
  | error e => exact .bind Watches.trans (watches_emit _) fun _ => .fail Watches.refl _
  | ok u => exact .bind Watches.trans (.get Watches.refl) fun _ => watches_emit _

/-- **Data from the filters on.** The message gets another body exactly if one of the filters gives it
one or, when they let it through, it is signed. -/
theorem process_renews {s : Session} {acct : Account} (hbody : w.msg.body < w.created)
    (hrun : (process peers s acct).run w = (r, w')) : Renews w w'
      (RewrittenBy peers (sessionInfo s acct) (s.snap.policyFor acct.username).milters w ∨
        ∃ w₁, (filterStage peers (sessionInfo s acct) acct (s.snap.policyFor acct.username)).run w =
            (.ok true, w₁) ∧
          Signs peers s.snap.dkim (s.snap.policyFor acct.username).senders w₁) := by
  rcases hfilter : (filterStage peers (sessionInfo s acct) acct
      (s.snap.policyFor acct.username)).run w with ⟨e | there, w₁⟩
  · have h₁ := filterStage_renews hbody hfilter
    rw [process, Comp.run_bind_of_error hfilter] at hrun
    cases hrun
    exact h₁.congr ⟨.inl, fun h => h.resolve_right (by rintro ⟨w₁', h', -⟩; cases h')⟩
  have h₁ := filterStage_renews hbody hfilter
  rw [process, Comp.run_bind_of_ok hfilter] at hrun
  cases there with
  | false =>
    cases hrun
    exact h₁.congr ⟨.inl, fun h => h.resolve_right (by rintro ⟨w₁', h', -⟩; cases h')⟩
  | true =>
    have hfinish : (finish peers s acct).run w₁ = (r, w') := hrun
    have hsigns : (∃ w₁', (Except.ok (ε := Err) true, w₁) = (.ok true, w₁') ∧
        Signs peers s.snap.dkim (s.snap.policyFor acct.username).senders w₁') ↔
          Signs peers s.snap.dkim (s.snap.policyFor acct.username).senders w₁ := by
      constructor
      · rintro ⟨w₁', ⟨⟩, h⟩
        exact h
      · exact fun h => ⟨w₁, rfl, h⟩
    rw [hsigns]
    refine h₁.trans ?_
    rcases hsign : (signStage peers s.snap.dkim acct (s.snap.policyFor acct.username)).run w₁ with
      ⟨e | u, w₂⟩
    · rw [finish, Comp.run_bind_of_error hsign] at hfinish
      cases hfinish
      exact signStage_renews (h₁.made hbody) hsign
    · obtain ⟨es, hobs⟩ := watches_relayStage s.snap.relay acct w₂
      rw [finish, Comp.run_bind_of_ok hsign] at hfinish
      rw [hfinish] at hobs
      exact (signStage_renews (h₁.made hbody) hsign).behind (by rw [hobs.msg])
        (Nat.le_of_eq hobs.created.symm)

end

end Mailout
