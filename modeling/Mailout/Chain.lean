import Mailout.Rewriting
import Mailout.Session

/-!
# Filters are mandatory

Data between its two halves: `opening` is what it does before the filters, `process` the filters and
what follows them. `Passed` is the chain of the filters that let a message through, each run on what
the one before left; `Stops` is a filter that stops it. `runChain_cases` says that a chain passes as a
whole or stops at its first filter that does.

A verdict is what a filter answers to something it was told (`verdictOn`). `Honours` says that a
verdict ends a run: it is the result, and all that is said after it is to the metrics.
-/

namespace Mailout

open Go

/-! ## Data before and behind the filters -/

section
variable (peers : Peers)

open Tx

/-- Data from the body it made to the filters. -/
def intake (s : Session) (acct : Account) (date : Bytes) (r : ClientData) (body : SpoolRef) :
    Tx Unit := do
  receive s acct date r body
  let w ← Comp.get
  Comp.when ((w.spools body).spooled = true) (emit (.messageSpooled acct.username))
  setMessage ⟨s.from_, s.to_, body, acct.username⟩
  headerStage acct (s.snap.policyFor acct.username) body

/-- Data behind the filters. -/
def finish (s : Session) (acct : Account) : Tx Unit := do
  signStage peers s.snap.dkim acct (s.snap.policyFor acct.username)
  relayStage peers s.snap.relay acct

/-- Data from the filters on. -/
def process (s : Session) (acct : Account) : Tx Unit := do
  if ← filterStage peers (sessionInfo s acct) acct (s.snap.policyFor acct.username) then
    finish peers s acct

/-- Data up to the filters: the quota, the body and the From field. -/
def opening (s : Session) (acct : Account) (date : Bytes) (r : ClientData) : Tx SpoolRef := do
  match ← perform peers (Limiter.check s.snap.limiter acct.username s.to_.length) with
  | .error e =>
    emit (.messageHandled acct.username .deferred)
    Comp.fail e
  | .ok () =>
    let body ← create s.snap.newSpool
    intake s acct date r body
    return body

/-- What Data does with a spool is to fill and check it, and then to process what it holds. -/
theorem transact_eq (s : Session) (acct : Account) (date : Bytes) (r : ClientData) (body : SpoolRef) :
    transact peers s acct date r body = (do
      intake s acct date r body
      process peers s acct) := by
  simp only [transact, handle, intake, process, finish, bind_assoc]

/-- A program of the quota store says its calls and changes nothing. -/
theorem perform_run {α : Type} (p : StoreProg α) : ∀ w : World, ∃ a es,
    (perform peers p).run w = (.ok a, { w with trace := w.trace ++ es }) ∧
      ∀ e ∈ es, ∃ call, e = .quota call := by
  induction p with
  | ret a => exact fun w => ⟨a, [], by simp [perform], fun e he => nomatch he⟩
  | call op k ih =>
    intro w
    obtain ⟨a, es, hrun, hes⟩ := ih (peers.quota (w.trace ++ [.quota op]) op)
      { w with trace := w.trace ++ [.quota op] }
    refine ⟨a, .quota op :: es, ?_, ?_⟩
    · rw [perform, Comp.run_bind_of_ok (run_emit _ _), Comp.run_bind_of_ok (Comp.run_get _), hrun]
      simp
    · intro e he
      rcases List.mem_cons.mp he with rfl | he
      · exact ⟨op, rfl⟩
      · exact hes e he

/-- A delivery is refused by the quota, or makes a body, which is closed in the end. -/
theorem deliver_starts (s : Session) (acct : Account) (date : Bytes) (r : ClientData) (w : World) :
    ∃ es, (∀ e ∈ es, ∃ call, e = .quota call) ∧
      ((∃ e, (opening peers s acct date r).run w = (.error e, { w with
            trace := w.trace ++ es ++ [.messageHandled acct.username .deferred] }) ∧
          (deliver peers s acct date r).run w = (.error e, { w with
            trace := w.trace ++ es ++ [.messageHandled acct.username .deferred] })) ∨
        (opening peers s acct date r).run w = (do
            intake s acct date r w.created
            return w.created : Tx SpoolRef).run
              (World.withSpool { w with trace := w.trace ++ es } s.snap.newSpool) ∧
          (deliver peers s acct date r).run w =
            (Comp.deferred (close w.created) (transact peers s acct date r w.created)).run
              (World.withSpool { w with trace := w.trace ++ es } s.snap.newSpool)) := by
  obtain ⟨a, es, hrun, hes⟩ := perform_run peers
    (Limiter.check s.snap.limiter acct.username s.to_.length) w
  refine ⟨es, hes, ?_⟩
  rw [opening, deliver, Comp.run_bind_of_ok hrun, Comp.run_bind_of_ok hrun]
  cases a with
  | error e => exact .inl ⟨e, rfl, rfl⟩
  | ok u => exact .inr ⟨rfl, rfl⟩

/-- A delivery fails before the filters, with its body closed if it made one, or goes on with them. -/
theorem deliver_opening (s : Session) (acct : Account) (date : Bytes) (r : ClientData) (w : World) :
    (∃ e w₁, (opening peers s acct date r).run w = (.error e, w₁) ∧
      ((deliver peers s acct date r).run w = (.error e, w₁) ∨
        (deliver peers s acct date r).run w = (.error e, ((close w.created).run w₁).2))) ∨
    ∃ body w₀, (opening peers s acct date r).run w = (.ok body, w₀) ∧
      (deliver peers s acct date r).run w =
        (Comp.deferred (close body) (process peers s acct)).run w₀ := by
  obtain ⟨es, -, ⟨e, hopen, hdeliver⟩ | ⟨hopen, hdeliver⟩⟩ := deliver_starts peers s acct date r w
  · exact .inl ⟨e, _, hopen, .inl hdeliver⟩
  · rw [transact_eq, Comp.run_deferred] at hdeliver
    cases hintake : (intake s acct date r w.created).run
        (World.withSpool { w with trace := w.trace ++ es } s.snap.newSpool) with
    | mk res w₀ =>
      cases res with
      | error e =>
        rw [Comp.run_bind_of_error hintake] at hopen hdeliver
        exact .inl ⟨e, w₀, hopen, .inr hdeliver⟩
      | ok u =>
        rw [Comp.run_bind_of_ok hintake] at hopen hdeliver
        exact .inr ⟨w.created, w₀, hopen, hdeliver⟩

/-- A delivery fails before the filters, or goes on with them. -/
theorem deliver_cases (s : Session) (acct : Account) (date : Bytes) (r : ClientData) (w : World) :
    (∃ e w₁ w₂, (opening peers s acct date r).run w = (.error e, w₁) ∧
      (deliver peers s acct date r).run w = (.error e, w₂) ∧ w₂.trace = w₁.trace ∧
      w₂.disk = w₁.disk) ∨
    ∃ body w₀, (opening peers s acct date r).run w = (.ok body, w₀) ∧
      (deliver peers s acct date r).run w =
        (Comp.deferred (close body) (process peers s acct)).run w₀ := by
  obtain ⟨e, w₁, hopen, hdeliver | hdeliver⟩ | hprocess := deliver_opening peers s acct date r w
  · exact .inl ⟨e, w₁, w₁, hopen, hdeliver, rfl, rfl⟩
  · exact .inl ⟨e, w₁, _, hopen, hdeliver, rfl, rfl⟩
  · exact .inr hprocess

end

/-! ## The chain -/

/-- The world after a filter was counted. -/
def World.decided (w : World) (f : Milter) (decision : Decision) : World :=
  { w with trace := w.trace ++ [.milterDecided f.name decision] }

/-- The refusal of a message whose filter is not there. -/
def errFilterUnavailable (f : Milter) : Err :=
  .smtp ⟨451, (4, 7, 1), lit "Filter " ++ f.name ++ lit " unavailable, try again later"⟩

/-- The filters let the message through, one after the other: each accepts what the one before left,
or is unavailable and fails open. -/
inductive Passed (peers : Peers) (info : SessionInfo) : List Milter → World → World → Prop
  | nil (w : World) : Passed peers info [] w w
  | accepted {f : Milter} {filters : List Milter} {w w₁ w' : World}
      (hrun : (runOne peers f info).run w = (.ok (), w₁))
      (hrest : Passed peers info filters (w₁.decided f .accept) w') :
      Passed peers info (f :: filters) w w'
  | unavailable {f : Milter} {filters : List Milter} {w w₁ w' : World} {what : Bytes}
      (hrun : (runOne peers f info).run w = (.error (.other what), w₁)) (hopen : f.failOpen = true)
      (hrest : Passed peers info filters (w₁.decided f .unavailable) w') :
      Passed peers info (f :: filters) w w'

/-- The filter stops the message: by a verdict, whether it may fail open or not, or because it is
unavailable and may not. -/
inductive Stops (peers : Peers) (info : SessionInfo) (f : Milter) (w : World) : Err → World → Prop
  | refused {e : SMTPError} {w₁ : World} (hrun : (runOne peers f info).run w = (.error (.smtp e), w₁)) :
      Stops peers info f w (.smtp e) (w₁.decided f .reject)
  | discarded {w₁ : World} (hrun : (runOne peers f info).run w = (.error .discard, w₁)) :
      Stops peers info f w .discard (w₁.decided f .discard)
  | unavailable {what : Bytes} {w₁ : World}
      (hrun : (runOne peers f info).run w = (.error (.other what), w₁)) (hclosed : f.failOpen = false) :
      Stops peers info f w (errFilterUnavailable f) (w₁.decided f .unavailable)

section
variable (peers : Peers) (info : SessionInfo)

/-- What the chain does with one filter. -/
def consult (f : Milter) : Tx Unit := do
  match ← Comp.attempt (runOne peers f info) with
  | .ok () => Tx.emit (.milterDecided f.name .accept)
  | .error (.smtp e) =>
    Tx.emit (.milterDecided f.name .reject)
    Comp.fail (.smtp e)
  | .error .discard =>
    Tx.emit (.milterDecided f.name .discard)
    Comp.fail .discard
  | .error (.other _) =>
    Tx.emit (.milterDecided f.name .unavailable)
    if f.failOpen then pure () else Comp.fail (errFilterUnavailable f)

/-- The loop over the filters, one round at a time. -/
theorem runChain_consult (f : Milter) (filters : List Milter) :
    runChain peers info (f :: filters) = (do
      consult peers info f
      runChain peers info filters) := by
  rw [runChain, consult, bind_assoc]
  refine congrArg (Comp.attempt (runOne peers f info) >>= ·) (funext fun r => ?_)
  match r with
  | .ok () => rfl
  | .error (.smtp e) => rfl
  | .error .discard => rfl
  | .error (.other what) =>
    simp only [bind_assoc]
    refine congrArg (Tx.emit (.milterDecided f.name .unavailable) >>= ·) (funext fun _ => ?_)
    cases f.failOpen <;> rfl

/-- One filter of the chain: it stops the message, or the rest of the chain goes on. -/
theorem runChain_cons (f : Milter) (filters : List Milter) (w : World) :
    (∃ e w', Stops peers info f w e w' ∧ (runChain peers info (f :: filters)).run w = (.error e, w')) ∨
    ∃ w₁, (∀ before w', Passed peers info before w₁ w' → Passed peers info (f :: before) w w') ∧
      (runChain peers info (f :: filters)).run w = (runChain peers info filters).run w₁ := by
  have hattempt : (Comp.attempt (runOne peers f info)).run w = _ := Comp.run_attempt _ _
  rw [runChain, Comp.run_bind_of_ok hattempt]
  match hrun : (runOne peers f info).run w with
  | (.ok (), w₁) => exact .inr ⟨_, fun _ _ => .accepted hrun, rfl⟩
  | (.error (.smtp e), w₁) => exact .inl ⟨_, _, .refused hrun, rfl⟩
  | (.error .discard, w₁) => exact .inl ⟨_, _, .discarded hrun, rfl⟩
  | (.error (.other what), w₁) =>
    cases hopen : f.failOpen with
    | true => exact .inr ⟨_, fun _ _ => .unavailable hrun hopen, rfl⟩
    | false => exact .inl ⟨_, _, .unavailable hrun hopen, rfl⟩

/-- A chain lets the message through as a whole, or stops it at the first filter that does. -/
theorem runChain_cases (filters : List Milter) : ∀ w : World,
    (∃ w', Passed peers info filters w w' ∧ (runChain peers info filters).run w = (.ok (), w')) ∨
    ∃ before f after w₁ e w', filters = before ++ f :: after ∧ Passed peers info before w w₁ ∧
      Stops peers info f w₁ e w' ∧ (runChain peers info filters).run w = (.error e, w') := by
  induction filters with
  | nil => exact fun w => .inl ⟨w, .nil w, rfl⟩
  | cons f filters ih =>
    intro w
    obtain ⟨e, w', hstops, hrun⟩ | ⟨w₁, hcons, hrun⟩ := runChain_cons peers info f filters w
    · exact .inr ⟨[], f, filters, w, e, w', rfl, .nil w, hstops, hrun⟩
    rw [hrun]
    obtain ⟨w', hpassed, hrest⟩ | ⟨before, g, after, w₂, e, w', rfl, hpassed, hstops, hrest⟩ := ih w₁
    · exact .inl ⟨w', hcons _ _ hpassed, hrest⟩
    · exact .inr ⟨f :: before, g, after, w₂, e, w', rfl, hcons _ _ hpassed, hstops, hrest⟩

end

/-! ## Verdicts -/

/-- The verdict that an action is, unless it lets the message go on. -/
def verdictOf (act : Option Action) : Option Err :=
  match check act with
  | .error v => some v
  | .ok () => none

/-- The verdict a filter gives on the last thing it was told, if it gives one. Opening a session
returns no action, and the answer to a body that was cut short is not looked at. -/
def verdictOn (peers : Peers) (trace : List Event) : Option Err :=
  match trace.getLast? with
  | some (.milter _ (.session _)) | some (.milter _ (.body _ false)) => none
  | some (.milter _ (.body _ true)) =>
    match peers.milterEnd trace with
    | .ok (_, act) => verdictOf act
    | .error _ => none
  | some (.milter _ _) =>
    match peers.milter trace with
    | .ok act => verdictOf act
    | .error _ => none
  | _ => none

/-- The events that are said to the metrics about the outcome. -/
def Event.counts : Event → Bool
  | .milterDecided .. | .messageHandled .. => true
  | _ => false

/-- A verdict ends the run: its result is `out` of the verdict, and what is said after it is said to
the metrics. -/
def Honours {α : Type} (peers : Peers) (out : Err → Except Err α) (x : Tx α) : Prop :=
  ∀ w, ∃ es, (x.run w).2.trace = w.trace ++ es ∧ ∀ before e after v, es = before ++ e :: after →
    verdictOn peers (w.trace ++ before ++ [e]) = some v →
      (x.run w).1 = out v ∧ ∀ e' ∈ after, e'.counts = true

section
variable {peers : Peers} {α β : Type}

open Tx

/-- Behind an event that is not a filter's, no verdict is due. -/
theorem verdictOn_append (trace : List Event) (e : Event) (h : ∀ f call, e ≠ .milter f call) :
    verdictOn peers (trace ++ [e]) = none := by
  rw [verdictOn, List.getLast?_append_cons]
  cases e with
  | milter f call => exact absurd rfl (h f call)
  | _ => rfl

/-- Where an element stands in two lists put together. -/
theorem cut_append {es es' before after : List Event} {e : Event}
    (h : es ++ es' = before ++ e :: after) :
    (∃ before', before = es ++ before' ∧ es' = before' ++ e :: after) ∨
      ∃ after', es = before ++ e :: after' := by
  rcases List.append_eq_append_iff.mp h with ⟨before', hbefore, hes'⟩ | ⟨after', hes, heq⟩
  · exact .inl ⟨before', hbefore, hes'⟩
  · cases after' with
    | nil => exact .inl ⟨[], by rw [hes, List.append_nil, List.append_nil], heq.symm⟩
    | cons e' after' =>
      cases heq
      exact .inr ⟨after', hes⟩

/-- Where nothing is said to a filter, there is no verdict. -/
theorem honours_of_says {x : Tx α} (h : Comp.Keeps (Says fun e => ∀ f call, e ≠ .milter f call) x)
    (out : Err → Except Err α) : Honours peers out x := by
  intro w
  obtain ⟨es, hes, hall⟩ := h w
  refine ⟨es, hes, fun before e after v heq hv => ?_⟩
  rw [verdictOn_append _ e (hall e (heq ▸ by simp))] at hv
  cases hv

/-- What says nothing has no verdict to honour. -/
theorem honours_of_silent {x : Tx α} (h : Comp.Keeps Silent x) (out : Err → Except Err α) :
    Honours peers out x :=
  honours_of_says (says_of_silent h) out

/-- A sequence: a verdict on its first part is an error, and the second does not run. -/
theorem Honours.bind {x : Tx α} {k : α → Tx β} (hx : Honours peers .error x)
    (hk : ∀ a, Honours peers .error (k a)) : Honours peers .error (x >>= k) := by
  intro w
  obtain ⟨es, hes, hall⟩ := hx w
  cases hrun : x.run w with
  | mk r w₁ =>
    rw [hrun] at hes hall
    cases r with
    | error e =>
      rw [Comp.run_bind_of_error hrun]
      refine ⟨es, hes, fun before e' after v heq hv => ?_⟩
      obtain ⟨hv', hafter⟩ := hall before e' after v heq hv
      cases hv'
      exact ⟨rfl, hafter⟩
    | ok a =>
      rw [Comp.run_bind_of_ok hrun]
      obtain ⟨es', hes', hall'⟩ := hk a w₁
      refine ⟨es ++ es', by rw [hes', hes, List.append_assoc], fun before e after v heq hv => ?_⟩
      -- the verdict is on one of the two parts, and a first part that goes on had none
      rcases cut_append heq with ⟨before', rfl, hes''⟩ | ⟨after', hes''⟩
      · rw [hes] at hall'
        refine hall' before' e after v hes'' ?_
        rwa [← List.append_assoc] at hv
      · obtain ⟨hbad, -⟩ := hall before e after' v hes'' hv
        cases hbad

/-- Telling something, and looking at the answer. -/
theorem honours_tell {e : Event} {answer : List Event → Except Err α}
    (h : ∀ trace v, verdictOn peers (trace ++ [e]) = some v → answer (trace ++ [e]) = .error v) :
    Honours peers .error (do
      emit e
      Comp.ofExcept (answer (← Comp.get).trace)) := by
  intro w
  refine ⟨[e], rfl, fun before e' after v heq hv => ?_⟩
  cases before with
  | nil =>
    cases heq
    rw [List.append_nil] at hv
    exact ⟨h _ _ hv, fun e' he => nomatch he⟩
  | cons e₁ before => simp at heq

/-- An action that is a verdict is one that the check turns into an error. -/
theorem verdictOf_eq_some {act : Option Action} {v : Err} (h : verdictOf act = some v) :
    check act = .error v := by
  unfold verdictOf at h
  cases hcheck : check act with
  | error e =>
    rw [hcheck] at h
    cases h
    rfl
  | ok u =>
    rw [hcheck] at h
    cases h

/-- A verdict is a refusal or a discard. -/
theorem verdictOf_ne_other {act : Option Action} {v : Err} (h : verdictOf act = some v) (what : Bytes) :
    v ≠ .other what := by
  rintro rfl
  have hcheck := verdictOf_eq_some h
  unfold check at hcheck
  cases act with
  | none => cases hcheck
  | some act =>
    simp only at hcheck
    split_ifs at hcheck <;> cases hcheck

/-- A verdict on a call that has one is what the call returns. -/
theorem verdict_of_verdictOn {trace : List Event} {f : Bytes} {call : MilterCall} {v : Err}
    (hbody : ∀ data whole, call ≠ .body data whole)
    (h : verdictOn peers (trace ++ [.milter f call]) = some v) :
    verdict peers (trace ++ [.milter f call]) = .error v := by
  rw [verdictOn, List.getLast?_append_cons] at h
  cases call with
  | session macros => cases h
  | body data whole => exact absurd rfl (hbody data whole)
  | _ =>
    unfold verdict
    generalize peers.milter (trace ++ [.milter f _]) = answer at h ⊢
    cases answer with
    | error e => cases h
    | ok act => exact verdictOf_eq_some h

/-- A verdict is a reply or a discard, and never an error of the transport. -/
theorem verdictOn_ne_other {trace : List Event} {v : Err} (h : verdictOn peers trace = some v)
    (what : Bytes) : v ≠ .other what := by
  unfold verdictOn at h
  split at h
  · cases h
  · cases h
  · split at h
    · exact verdictOf_ne_other h what
    · cases h
  · split at h
    · exact verdictOf_ne_other h what
    · cases h
  · cases h

/-- A conversation with a filter stops at the first verdict. -/
theorem honours_sayAll (f : Milter) (calls : List MilterCall)
    (hcalls : ∀ call ∈ calls, ∀ data whole, call ≠ .body data whole) :
    Honours peers .error (sayAll peers f calls) := by
  induction calls with
  | nil => exact honours_of_silent (.pure Silent.refl _) _
  | cons call calls ih =>
    refine .bind (honours_tell fun trace v h => ?_) fun _ =>
      ih fun call' h => hcalls call' (List.mem_cons_of_mem _ h)
    exact verdict_of_verdictOn (hcalls call List.mem_cons_self) h

/-- Opening a session stops at a verdict. -/
theorem honours_openSession (f : Milter) (info : SessionInfo) (from_ : Bytes) :
    Honours peers .error (openSession peers f info from_) := by
  intro w
  refine ⟨_, (openSession_run peers f info from_ w).trace, fun before e after v heq hv => ?_⟩
  cases before with
  | nil =>
    cases heq
    rw [verdictOn, List.append_nil, List.getLast?_append_cons] at hv
    cases hv
  | cons e₁ before => simp at heq

/-- Asking a filter stops at the first verdict, that on the end of the message included. -/
theorem honours_askFilter (f : Milter) (info : SessionInfo) :
    Honours peers .error (askFilter peers f info) := by
  refine .bind (honours_of_silent silent_message _) fun msg => ?_
  refine .bind (honours_openSession f info _) fun _ => ?_
  refine .bind (honours_sayAll f _ ?_) fun _ => ?_
  · intro call hcall data whole
    simp only [List.mem_append, List.mem_cons, List.mem_map, List.not_mem_nil, or_false] at hcall
    rintro rfl
    simp at hcall
  refine .bind (honours_of_silent (silent_onSpool _ _) _) fun block => ?_
  refine .bind (honours_sayAll f _ ?_) fun _ => ?_
  · intro call hcall data whole
    simp only [List.mem_append, List.mem_map, List.mem_singleton] at hcall
    rintro rfl
    simp at hcall
  refine .bind (honours_of_silent (silent_onSpool _ _) _) fun r => ?_
  refine .bind (honours_of_silent (silent_onSpool _ _) _) fun got => ?_
  obtain ⟨data, err⟩ := got
  have htell : Honours peers .error (do
      emit (.milter f.name (.body data err.isNone))
      Comp.ofExcept (finalAnswer err (peers.milterEnd (← Comp.get).trace))) := by
    refine @honours_tell peers _ _ (fun trace => finalAnswer err (peers.milterEnd trace))
      fun trace v h => ?_
    rw [verdictOn, List.getLast?_append_cons] at h
    cases err with
    | some e => cases h
    | none =>
      simp only [List.getLast?_singleton, Option.isNone_none] at h
      cases hend : peers.milterEnd (trace ++ [.milter f.name (.body data true)]) with
      | error e =>
        rw [hend] at h
        cases h
      | ok end_ =>
        obtain ⟨acts, act⟩ := end_
        rw [hend] at h
        simp only [Option.isNone_none, hend, finalAnswer, verdictOf_eq_some h]
        rfl
  have hreturn : ∀ k : List ModifyAction → Request, Honours peers .error (do
      let acts ← (do
        emit (.milter f.name (.body data err.isNone))
        Comp.ofExcept (finalAnswer err (peers.milterEnd (← Comp.get).trace)))
      return k acts) := fun k =>
    htell.bind fun acts => honours_of_silent (.pure Silent.refl _) _
  simp only [bind_assoc] at hreturn
  exact hreturn _

/-- A filter's verdict is what `runOne` returns, and the last thing the filter says. -/
theorem honours_runOne (f : Milter) (info : SessionInfo) :
    Honours peers .error (runOne peers f info) := by
  rw [runOne_eq]
  exact (honours_askFilter f info).bind fun req =>
    honours_of_silent (silent_applyModifications _ _ _ _ _ _) _

/-- What is said to the metrics about an outcome changes nothing of it. -/
theorem Honours.counted {x : Tx α} (hx : Honours peers .error x) {w w₁ : World} {r : Except Err α}
    (hrun : x.run w = (r, w₁)) {out : Err → Except Err β} {r' : Except Err β} {e : Event}
    (he : e.counts = true) (hr : ∀ v, (∀ what, v ≠ .other what) → r = .error v → r' = out v) :
    ∃ es, w₁.trace ++ [e] = w.trace ++ es ∧ ∀ before e' after v, es = before ++ e' :: after →
      verdictOn peers (w.trace ++ before ++ [e']) = some v →
        r' = out v ∧ ∀ e'' ∈ after, e''.counts = true := by
  obtain ⟨es, hes, hall⟩ := hx w
  rw [hrun] at hes hall
  refine ⟨es ++ [e], by rw [hes, List.append_assoc], fun before e' after v heq hv => ?_⟩
  rcases List.eq_nil_or_concat after with rfl | ⟨after', e₁, rfl⟩
  · -- the event itself is not said to a filter
    obtain ⟨rfl, hlast⟩ := List.append_inj' heq rfl
    cases hlast
    rw [verdictOn_append _ e (by rintro f call rfl; cases he)] at hv
    cases hv
  · rw [List.concat_eq_append, ← List.cons_append, ← List.append_assoc] at heq
    obtain ⟨hes', hlast⟩ := List.append_inj' heq rfl
    cases hlast
    obtain ⟨hres, hafter⟩ := hall before e' after' v hes' hv
    refine ⟨hr v (verdictOn_ne_other hv) hres, fun e'' he'' => ?_⟩
    rw [List.concat_eq_append] at he''
    rcases List.mem_append.mp he'' with h | h
    · exact hafter e'' h
    · rw [List.mem_singleton.mp h]
      exact he

/-- One round of the chain returns the filter's verdict, which no setting overrides. -/
theorem honours_consult (info : SessionInfo) (f : Milter) :
    Honours peers .error (consult peers info f) := by
  intro w
  have hattempt : (Comp.attempt (runOne peers f info)).run w = _ := Comp.run_attempt _ _
  rw [consult, Comp.run_bind_of_ok hattempt]
  match hrun : (runOne peers f info).run w with
  | (.ok (), w₁) => exact (honours_runOne f info).counted hrun rfl fun v _ h => nomatch h
  | (.error (.smtp e), w₁) => exact (honours_runOne f info).counted hrun rfl fun v _ h => h
  | (.error .discard, w₁) => exact (honours_runOne f info).counted hrun rfl fun v _ h => h
  | (.error (.other what), w₁) =>
    cases hopen : f.failOpen with
    | true =>
      refine (honours_runOne f info).counted hrun (e := .milterDecided f.name .unavailable) rfl ?_
      rintro v hv ⟨⟩
      exact absurd rfl (hv what)
    | false =>
      refine (honours_runOne f info).counted hrun (e := .milterDecided f.name .unavailable) rfl ?_
      rintro v hv ⟨⟩
      exact absurd rfl (hv what)

/-- The chain stops at the first verdict, and asks no later filter. -/
theorem honours_runChain (info : SessionInfo) (filters : List Milter) :
    Honours peers .error (runChain peers info filters) := by
  induction filters with
  | nil => exact honours_of_silent (.pure Silent.refl _) _
  | cons f filters ih =>
    rw [runChain_consult]
    exact (honours_consult info f).bind fun _ => ih

/-- What Data returns on a verdict: a discarded message is accepted. -/
def outcome (v : Err) : Except Err Unit := if v = .discard then .ok () else .error v

/-- The stage of the filters says that there is no message any more, or fails with the verdict. -/
theorem honours_filterStage (info : SessionInfo) (acct : Account) (policy : AccountPolicy) :
    Honours peers (fun v => (outcome v).map fun _ => false)
      (filterStage peers info acct policy) := by
  unfold filterStage
  split_ifs
  · exact honours_of_silent (.pure Silent.refl _) _
  intro w
  have hattempt : (Comp.attempt (runChain peers info policy.milters)).run w = _ :=
    Comp.run_attempt _ _
  rw [Comp.run_bind_of_ok hattempt]
  match hrun : (runChain peers info policy.milters).run w with
  | (.ok (), w₁) =>
    obtain ⟨es, hes, hall⟩ := honours_runChain info policy.milters w
    rw [hrun] at hes hall
    refine ⟨es, hes, fun before e after v heq hv => ?_⟩
    obtain ⟨hbad, -⟩ := hall before e after v heq hv
    cases hbad
  | (.error .discard, w₁) =>
    refine (honours_runChain info policy.milters).counted hrun rfl ?_
    rintro v hv ⟨⟩
    rfl
  | (.error (.smtp e), w₁) =>
    refine (honours_runChain info policy.milters).counted hrun rfl ?_
    rintro v hv ⟨⟩
    rfl
  | (.error (.other what), w₁) =>
    refine (honours_runChain info policy.milters).counted hrun rfl ?_
    rintro v hv ⟨⟩
    exact absurd rfl (hv what)

end

/-! ## What is said before and behind the filters -/

/-- An event that is said to no filter. -/
def Event.notFilter (e : Event) : Prop := ∀ f call, e ≠ .milter f call

/-- An event that is said to no filter and not to the upstream server. -/
def Event.inside (e : Event) : Prop := e.notFilter ∧ ∀ call, e ≠ .upstream call

section
variable (peers : Peers)

open Tx Comp

/-- Nobody is told of a message before its From field was checked. -/
theorem says_intake (s : Session) (acct : Account) (date : Bytes) (r : ClientData) (body : SpoolRef) :
    Keeps (Says Event.inside) (intake s acct date r body) := by
  have hinside : ∀ {e : Event}, e.notFilter → (∀ call, e ≠ .upstream call) → e.inside := And.intro
  refine .bind Says.trans (says_of_silent (silent_receive _ _ _ _ _)) fun _ => ?_
  refine .bind Says.trans (.get Says.refl) fun w => ?_
  refine .bind Says.trans (.when Says.refl (says_emit (hinside nofun nofun))) fun _ => ?_
  refine .bind Says.trans (says_of_silent (silent_setMessage _)) fun _ => ?_
  exact says_headerStage (fun _ _ => hinside nofun nofun) _ _ _

/-- Receiving a message and checking its header tells no filter and no upstream server anything. -/
theorem says_opening (s : Session) (acct : Account) (date : Bytes) (r : ClientData) :
    Keeps (Says Event.inside) (opening peers s acct date r) := by
  refine .bind Says.trans (says_perform peers (fun _ => ⟨nofun, nofun⟩) _) fun checked => ?_
  cases checked with
  | error e =>
    exact .bind Says.trans (says_emit ⟨nofun, nofun⟩) fun _ => .fail Says.refl _
  | ok u =>
    have hcreate : Keeps Silent (create s.snap.newSpool) := fun _ => rfl
    refine .bind Says.trans (says_of_silent hcreate) fun body => ?_
    exact .bind Says.trans (says_intake s acct date r body) fun _ => .pure Says.refl _

/-- No filter is told anything behind the filters. -/
theorem says_finish (s : Session) (acct : Account) :
    Keeps (Says Event.notFilter) (finish peers s acct) := by
  refine .bind Says.trans (says_signStage peers (fun _ _ => nofun) _ _ _ (fun _ => nofun)
    (fun _ => nofun) fun _ _ => nofun) fun _ => ?_
  exact says_relayStage peers (fun _ _ => nofun) _ _ (fun _ => nofun) (fun _ => nofun)
    fun _ _ => nofun

/-- What the first part of a sequence says is said by the sequence. -/
theorem heard_bind {α β : Type} {x : Tx α} {k : α → Tx β} {w : World} {e : Event}
    (hx : ∃ es, (x.run w).2.trace = w.trace ++ e :: es)
    (hk : ∀ a, Keeps (Says fun _ => True) (k a)) :
    ∃ es, ((x >>= k).run w).2.trace = w.trace ++ e :: es := by
  obtain ⟨es, hes⟩ := hx
  cases hrun : x.run w with
  | mk r w₁ =>
    rw [hrun] at hes
    cases r with
    | error err =>
      rw [Comp.run_bind_of_error hrun]
      exact ⟨es, hes⟩
    | ok a =>
      rw [Comp.run_bind_of_ok hrun]
      obtain ⟨es', hes', -⟩ := hk a w₁
      exact ⟨es ++ es', by rw [hes', hes, List.append_assoc, List.cons_append]⟩

/-- The first thing a relay does with a message is to dial. -/
theorem send_dials (relay : Relayer) (w : World) :
    ∃ es, ((send peers relay).run w).2.trace = w.trace ++ .upstream .dial :: es := by
  have hcommand := says_command (P := fun _ => True) peers (fun _ => trivial) fun _ => trivial
  have hdial : ∃ es, ((dial peers relay).run w).2.trace = w.trace ++ .upstream .dial :: es := by
    refine heard_bind ?_ fun r => ?_
    · rcases callUpstream_cases peers .dial w with ⟨-, hrun⟩ | ⟨e, -, hrun⟩
      · rw [hrun]
        exact ⟨_, rfl⟩
      · rw [hrun]
        exact ⟨_, rfl⟩
    · cases r with
      | some e => exact .fail Says.refl _
      | none => exact .when Says.refl (hcommand _ _)
  refine heard_bind (heard_bind hdial fun _ => ?_) fun _ => ?_
  · refine .bind Says.trans (hcommand _ _) fun _ => ?_
    refine .bind Says.trans (.when Says.refl (hcommand _ _)) fun _ => ?_
    refine .bind Says.trans (says_of_silent silent_message) fun msg => ?_
    refine .bind Says.trans (hcommand _ _) fun _ => ?_
    exact .bind Says.trans (says_sendRecipients peers (fun _ => trivial) (fun _ => trivial) _)
      fun _ => hcommand _ _
  · exact says_sendData peers (fun _ => trivial) fun _ => trivial

/-- A verdict ends the filter stage, and what `Data` returns for it is the reply, or nothing for a discard.
-/
theorem outcome_of_map {v : Err} {r : Except Err Bool} (h : r = (outcome v).map fun _ => false) :
    r ≠ .ok true ∧ r.map (fun _ => ()) = outcome v := by
  subst h
  cases outcome v with
  | ok u => exact ⟨nofun, rfl⟩
  | error e => exact ⟨nofun, rfl⟩

/-- With a verdict, nothing of the stages behind the filters runs. -/
theorem honours_process (s : Session) (acct : Account) :
    Honours peers outcome (process peers s acct) := by
  intro w
  have hfilter : Honours peers _ (filterStage peers (sessionInfo s acct) acct
      (s.snap.policyFor acct.username)) := honours_filterStage _ _ _
  obtain ⟨es, hes, hall⟩ := hfilter w
  cases hrun : (filterStage peers (sessionInfo s acct) acct
      (s.snap.policyFor acct.username)).run w with
  | mk res w₁ =>
    rw [hrun] at hes hall
    match res with
    | .error e =>
      rw [process, Comp.run_bind_of_error hrun]
      refine ⟨es, hes, fun before e' after v heq hv => ?_⟩
      obtain ⟨hres, hafter⟩ := hall before e' after v heq hv
      exact ⟨(outcome_of_map hres).2, hafter⟩
    | .ok false =>
      rw [process, Comp.run_bind_of_ok hrun]
      refine ⟨es, hes, fun before e' after v heq hv => ?_⟩
      obtain ⟨hres, hafter⟩ := hall before e' after v heq hv
      exact ⟨(outcome_of_map hres).2, hafter⟩
    | .ok true =>
      -- there is still a message, so there was no verdict
      rw [process, Comp.run_bind_of_ok hrun]
      obtain ⟨es', hes', hsaid⟩ := says_finish peers s acct w₁
      refine ⟨es ++ es', by rw [← List.append_assoc, ← hes]; exact hes', ?_⟩
      intro before e' after v heq hv
      rcases cut_append heq with ⟨before', rfl, hes''⟩ | ⟨after', hes''⟩
      · rw [verdictOn_append _ e' (hsaid e' (hes'' ▸ by simp))] at hv
        cases hv
      · obtain ⟨hres, -⟩ := hall before e' after' v hes'' hv
        exact absurd rfl (outcome_of_map hres).1

/-- Data honours a verdict: nobody is told of the message before the filters are. -/
theorem honours_deliver (s : Session) (acct : Account) (date : Bytes) (r : ClientData) :
    Honours peers outcome (deliver peers s acct date r) := by
  intro w
  obtain ⟨es, hes, hsaid⟩ := says_opening peers s acct date r w
  rcases deliver_cases peers s acct date r w with
    ⟨e, w₁, w₂, hopen, hrun, htrace, -⟩ | ⟨body, w₀, hopen, hrun⟩
  · rw [hopen] at hes
    rw [hrun]
    refine ⟨es, htrace.trans hes, fun before e' after v heq hv => ?_⟩
    rw [verdictOn_append _ e' (hsaid e' (heq ▸ by simp)).1] at hv
    cases hv
  · rw [hopen] at hes
    rw [hrun, Comp.run_deferred]
    obtain ⟨es', hes', hall⟩ := honours_process peers s acct w₀
    refine ⟨es ++ es', ?_, fun before e' after v heq hv => ?_⟩
    · rw [← List.append_assoc, ← hes]
      exact hes'
    · rcases cut_append heq with ⟨before', rfl, hes''⟩ | ⟨after', hes''⟩
      · rw [← List.append_assoc, ← hes] at hv
        exact hall before' e' after v hes'' hv
      · rw [verdictOn_append _ e' (hsaid e' (hes'' ▸ by simp)).1] at hv
        cases hv

/-- What Data does behind the filters, if it succeeds, is to relay. -/
theorem finish_relays {s : Session} {acct : Account} {w w' : World}
    (h : (finish peers s acct).run w = (.ok (), w')) :
    ∃ es, w'.trace = w.trace ++ es ∧ .upstream .dial ∈ es := by
  obtain ⟨_, w₁, hsign, hrelay⟩ := Comp.run_bind_ok h
  obtain ⟨es, hes, -⟩ := says_signStage (P := fun _ => True) peers (fun _ _ => trivial) s.snap.dkim acct
    (s.snap.policyFor acct.username) (fun _ => trivial) (fun _ => trivial) (fun _ _ => trivial) w
  obtain ⟨es', hes'⟩ : ∃ es', ((relayStage peers s.snap.relay acct).run w₁).2.trace =
      w₁.trace ++ .upstream .dial :: es' := by
    refine heard_bind (send_dials peers s.snap.relay w₁) fun sent => ?_
    cases sent with
    | error e => exact .bind Says.trans (says_emit trivial) fun _ => .fail Says.refl _
    | ok u => exact .bind Says.trans (.get Says.refl) fun _ => says_emit trivial
  rw [hsign] at hes
  rw [hrelay] at hes'
  refine ⟨es ++ .upstream .dial :: es', ?_, by simp⟩
  rw [hes', hes, List.append_assoc]

/-! ## Data and its filters -/

/-- How a stopped message is counted. -/
def stopResult (e : Err) : MessageResult := if e = .discard then .discarded else filterResult e

/-- The filters let the message through to the rest of Data, or the first one that stops it ends
Data. -/
theorem process_cases (s : Session) (acct : Account) (w : World) :
    (∃ w₁, Passed peers (sessionInfo s acct) (s.snap.policyFor acct.username).milters w w₁ ∧
      Says (fun e => ∀ call, e ≠ .upstream call) w w₁ ∧
      (process peers s acct).run w = (finish peers s acct).run w₁) ∨
    ∃ before f after w₁ e w₂, (s.snap.policyFor acct.username).milters = before ++ f :: after ∧
      Passed peers (sessionInfo s acct) before w w₁ ∧ Stops peers (sessionInfo s acct) f w₁ e w₂ ∧
      Says (fun e => ∀ call, e ≠ .upstream call) w w₂ ∧
      (process peers s acct).run w = (outcome e,
        { w₂ with trace := w₂.trace ++ [.messageHandled acct.username (stopResult e)] }) := by
  by_cases hnone : (s.snap.policyFor acct.username).milters = []
  · refine .inl ⟨w, by rw [hnone]; exact .nil w, .refl w, ?_⟩
    rw [process, filterStage, if_pos hnone]
    rfl
  have hattempt : (Comp.attempt (runChain peers (sessionInfo s acct)
      (s.snap.policyFor acct.username).milters)).run w = _ := Comp.run_attempt _ _
  have hsaid := says_runChain (P := fun e => ∀ call, e ≠ .upstream call) peers (sessionInfo s acct)
    (fun _ _ => nofun) (fun _ _ => nofun) (s.snap.policyFor acct.username).milters w
  rw [process, filterStage, if_neg hnone, bind_assoc, Comp.run_bind_of_ok hattempt]
  obtain ⟨w₁, hpassed, hrun⟩ | ⟨before, f, after, w₁, e, w₂, hsplit, hpassed, hstops, hrun⟩ :=
    runChain_cases peers (sessionInfo s acct) (s.snap.policyFor acct.username).milters w
  · rw [hrun] at hsaid
    refine .inl ⟨w₁, hpassed, hsaid, ?_⟩
    rw [hrun]
    rfl
  · rw [hrun] at hsaid
    refine .inr ⟨before, f, after, w₁, e, w₂, hsplit, hpassed, hstops, hsaid, ?_⟩
    rw [hrun]
    cases hstops <;> rfl

end

/-- Data gets as far as its filters: the account of the session is in service, and the quota, the body
and the From field let the message through. -/
structure Opens (peers : Peers) (date : Bytes) (r : ClientData) (st : ServerState) (acct : Account)
    (body : SpoolRef) (w : World) : Prop where
  account : ∃ account, st.session.account = some account ∧ Session.InService st.current account acct
  recipients : st.session.to_ ≠ []
  opening : (opening peers (Session.adopt st acct) acct date r).run st.world = (.ok body, w)

/-- What was said between two worlds, the second of which says more than the first. -/
theorem newEvents_eq {w w' : World} {es : List Event} (h : w'.trace = w.trace ++ es) :
    newEvents w w' = es := by
  rw [newEvents, h, List.drop_left]

section
variable (peers : Peers) (date : Bytes) (r : ClientData)

/-- Data that gets as far as its filters goes on with them. -/
theorem data_of_opens {st : ServerState} {acct : Account} {body : SpoolRef} {w : World}
    (h : Opens peers date r st acct body w) : (Session.data peers date r).run st =
      (((process peers (Session.adopt st acct) acct).run w).1,
        { st with session := Session.adopt st acct,
                  world := ((Tx.close body).run
                    ((process peers (Session.adopt st acct) acct).run w).2).2 }) := by
  obtain ⟨⟨account, haccount, hin⟩, hto, hopen⟩ := h
  have hdeliver : (deliver peers (Session.adopt st acct) acct date r).run st.world =
      (Comp.deferred (Tx.close body) (process peers (Session.adopt st acct) acct)).run w := by
    rcases deliver_cases peers (Session.adopt st acct) acct date r st.world with
      ⟨e, w₁, w₂, hopen', -⟩ | ⟨body', w', hopen', hdeliver⟩
    · rw [hopen] at hopen'
      cases hopen'
    · rw [hopen] at hopen'
      cases hopen'
      exact hdeliver
  have hstanding := Session.standing_of_inService haccount hto hin
  obtain ⟨e, closed, hrefused, -⟩ | ⟨acct', hstanding', hrun⟩ := Session.data_standing peers date r st
  · rw [hstanding] at hrefused
    cases hrefused
  · rw [hstanding] at hstanding'
    cases hstanding'
    rw [hrun, hdeliver]
    rfl

/-- Data fails before its filters, which are told nothing then, or gets as far as them. -/
theorem data_opens (st : ServerState) :
    (∃ e st', (Session.data peers date r).run st = (.error e, st') ∧
      ∀ e ∈ newEvents st.world st'.world, e.inside) ∨
    ∃ acct body w, Opens peers date r st acct body w := by
  obtain ⟨e, closed, hrun⟩ | ⟨account, acct, haccount, hto, hin, hrun⟩ :=
    Session.data_cases peers date r st
  · refine .inl ⟨e, _, hrun, fun e he => ?_⟩
    rw [newEvents, List.drop_length] at he
    cases he
  obtain ⟨es, hes, hsaid⟩ := says_opening peers (Session.adopt st acct) acct date r st.world
  rcases deliver_cases peers (Session.adopt st acct) acct date r st.world with
    ⟨e, w₁, w₂, hopen, hdeliver, htrace, -⟩ | ⟨body, w₀, hopen, -⟩
  · rw [hdeliver] at hrun
    rw [hopen] at hes
    refine .inl ⟨e, _, hrun, ?_⟩
    rw [newEvents_eq (htrace.trans hes)]
    exact hsaid
  · exact .inr ⟨acct, body, w₀, ⟨account, haccount, hin⟩, hto, hopen⟩

end

/-- The only verdict that the client is told is well is a discard. -/
theorem outcome_eq_ok {e : Err} (h : outcome e = .ok ()) : e = .discard := by
  unfold outcome at h
  split_ifs at h with hdiscard
  exact hdiscard

/-- Behind the filters that let the message through the rest of the chain runs. -/
theorem runChain_of_passed {peers : Peers} {info : SessionInfo} {before : List Milter} {w w₁ : World}
    (h : Passed peers info before w w₁) (rest : List Milter) :
    (runChain peers info (before ++ rest)).run w = (runChain peers info rest).run w₁ := by
  induction h with
  | nil w => rfl
  | @accepted f filters w w₁ w' hrun _ ih =>
    rw [← ih, List.cons_append, runChain, Comp.run_bind_of_ok (by rw [Comp.run_attempt, hrun])]
    rfl
  | @unavailable f filters w w₁ w' what hrun hopen _ ih =>
    rw [← ih, List.cons_append, runChain, Comp.run_bind_of_ok (by rw [Comp.run_attempt, hrun])]
    show (Tx.emit _ >>= fun _ => _).run w₁ = _
    rw [Comp.run_bind_of_ok (Tx.run_emit _ _), if_pos hopen]
    rfl

/-- A filter that stops the message ends the chain. -/
theorem runChain_of_stops {peers : Peers} {info : SessionInfo} {f : Milter} {w w' : World} {e : Err}
    (h : Stops peers info f w e w') (rest : List Milter) :
    (runChain peers info (f :: rest)).run w = (.error e, w') := by
  cases h with
  | refused hrun =>
    rw [runChain, Comp.run_bind_of_ok (by rw [Comp.run_attempt, hrun])]
    rfl
  | discarded hrun =>
    rw [runChain, Comp.run_bind_of_ok (by rw [Comp.run_attempt, hrun])]
    rfl
  | @unavailable what w₁ hrun hclosed =>
    rw [runChain, Comp.run_bind_of_ok (by rw [Comp.run_attempt, hrun])]
    show (Tx.emit _ >>= fun _ => _).run w₁ = _
    rw [Comp.run_bind_of_ok (Tx.run_emit _ _), hclosed]
    rfl

/-- A message does not both pass a chain and stop at one of its filters, and it stops at one only. -/
theorem stops_unique {peers : Peers} {info : SessionInfo} {before : List Milter} {f : Milter}
    {w w₁ w₂ : World} {e : Err} (hpassed : Passed peers info before w w₁)
    (hstops : Stops peers info f w₁ e w₂) (after : List Milter) :
    (runChain peers info (before ++ f :: after)).run w = (.error e, w₂) := by
  rw [runChain_of_passed hpassed]
  exact runChain_of_stops hstops after

/-- Data that gets as far as its filters passes all of them, or ends with the first that stops it. -/
theorem data_process {peers : Peers} {date : Bytes} {r : ClientData} {host : Host} {cfg : Config}
    {st st' : ServerState} {res : Except Err Unit} {acct : Account} {body : SpoolRef} {w : World}
    (hsnap : newSnapshot host cfg = .ok st.current) (hopens : Opens peers date r st acct body w)
    (hrun : (Session.data peers date r).run st = (res, st')) :
    (∃ w₁, Passed peers (sessionInfo (Session.adopt st acct) acct) st.current.milters w w₁ ∧
      Tx.Says (fun e => ∀ call, e ≠ .upstream call) st.world w₁ ∧
      (res, st'.world) = (Comp.deferred (Tx.close body)
        (finish peers (Session.adopt st acct) acct)).run w₁) ∨
    ∃ before f after w₁ e w₂, st.current.milters = before ++ f :: after ∧
      Passed peers (sessionInfo (Session.adopt st acct) acct) before w w₁ ∧
      Stops peers (sessionInfo (Session.adopt st acct) acct) f w₁ e w₂ ∧
      Tx.Says (fun e => ∀ call, e ≠ .upstream call) st.world w₂ ∧ res = outcome e ∧
      st'.world.trace = w₂.trace ++ [.messageHandled acct.username (stopResult e)] := by
  have hmilters : ((Session.adopt st acct).snap.policyFor acct.username).milters =
      st.current.milters := policyFor_milters hsnap acct.username
  obtain ⟨es, hes, hinside⟩ := says_opening peers (Session.adopt st acct) acct date r st.world
  rw [hopens.opening] at hes
  have hsaid : Tx.Says (fun e => ∀ call, e ≠ .upstream call) st.world w :=
    ⟨es, hes, fun e he => (hinside e he).2⟩
  rw [data_of_opens peers date r hopens] at hrun
  obtain ⟨w₁, hpassed, hsays, hprocess⟩ |
    ⟨before, f, after, w₁, e, w₂, hsplit, hpassed, hstops, hsays, hprocess⟩ :=
    process_cases peers (Session.adopt st acct) acct w
  · rw [hmilters] at hpassed
    rw [hprocess] at hrun
    cases hrun
    exact .inl ⟨w₁, hpassed, hsaid.trans _ _ _ hsays, rfl⟩
  · rw [hmilters] at hsplit
    rw [hprocess] at hrun
    cases hrun
    exact .inr ⟨before, f, after, w₁, e, w₂, hsplit, hpassed, hstops, hsaid.trans _ _ _ hsays, rfl, rfl⟩

section
variable {peers : Peers} {date : Bytes} {r : ClientData} {host : Host} {cfg : Config}
  {st st' : ServerState} {res : Except Err Unit} (hsnap : newSnapshot host cfg = .ok st.current)
  (hrun : (Session.data peers date r).run st = (res, st'))
include hsnap hrun

/-- What is said to the upstream server is said behind all filters. -/
theorem data_relays_passed {call : UpstreamCall} (hcall : .upstream call ∈ newEvents st.world st'.world) :
    ∃ acct body w w₁, Opens peers date r st acct body w ∧
      Passed peers (sessionInfo (Session.adopt st acct) acct) st.current.milters w w₁ ∧
      (res, st'.world) = (Comp.deferred (Tx.close body)
        (finish peers (Session.adopt st acct) acct)).run w₁ := by
  obtain ⟨e, st₁, hdata, hinside⟩ | ⟨acct, body, w, hopens⟩ := data_opens peers date r st
  · rw [hdata] at hrun
    cases hrun
    exact absurd rfl ((hinside _ hcall).2 call)
  obtain ⟨w₁, hpassed, -, hend⟩ | ⟨-, -, -, -, e, w₂, -, -, -, ⟨es, hes, hsaid⟩, -, htrace⟩ :=
    data_process hsnap hopens hrun
  · exact ⟨acct, body, w, w₁, hopens, hpassed, hend⟩
  · rw [hes, List.append_assoc] at htrace
    rw [newEvents_eq htrace] at hcall
    rcases List.mem_append.mp hcall with hmem | hmem
    · exact absurd rfl (hsaid _ hmem call)
    · cases List.mem_singleton.mp hmem

/-- A filter that stops the message decides what Data returns. -/
theorem data_stopped {acct : Account} {body : SpoolRef} {w w₁ w₂ : World} {before after : List Milter}
    {f : Milter} {e : Err} (hopens : Opens peers date r st acct body w)
    (hsplit : st.current.milters = before ++ f :: after)
    (hpassed : Passed peers (sessionInfo (Session.adopt st acct) acct) before w w₁)
    (hstops : Stops peers (sessionInfo (Session.adopt st acct) acct) f w₁ e w₂) :
    res = outcome e ∧
      st'.world.trace = w₂.trace ++ [.messageHandled acct.username (stopResult e)] := by
  have hchain := stops_unique hpassed hstops after
  rw [← hsplit] at hchain
  obtain ⟨w₃, hall, -, -⟩ |
    ⟨before', f', after', w₃, e', w₄, hsplit', hpassed', hstops', -, hres, htrace⟩ :=
    data_process hsnap hopens hrun
  · have hok := runChain_of_passed hall []
    rw [List.append_nil, hchain] at hok
    cases hok
  · have hchain' := stops_unique hpassed' hstops' after'
    rw [← hsplit', hchain] at hchain'
    cases hchain'
    exact ⟨hres, htrace⟩

/-- Success without a word to the upstream server is a discard. -/
theorem data_quiet_discarded (hok : res = .ok ())
    (hquiet : ∀ call, .upstream call ∉ newEvents st.world st'.world) :
    ∃ acct body w before f after w₁ w₂, Opens peers date r st acct body w ∧
      st.current.milters = before ++ f :: after ∧
      Passed peers (sessionInfo (Session.adopt st acct) acct) before w w₁ ∧
      Stops peers (sessionInfo (Session.adopt st acct) acct) f w₁ .discard w₂ := by
  obtain ⟨e, st₁, hdata, -⟩ | ⟨acct, body, w, hopens⟩ := data_opens peers date r st
  · rw [hdata] at hrun
    cases hrun
    cases hok
  obtain ⟨w₁, -, ⟨es, hes, -⟩, hend⟩ | ⟨before, f, after, w₁, e, w₂, hsplit, hpassed, hstops, -, hres, -⟩ :=
    data_process hsnap hopens hrun
  · -- what passes all filters is relayed
    subst hok
    rw [Comp.run_deferred] at hend
    obtain ⟨hfinish, hworld⟩ := Prod.mk.inj hend
    obtain ⟨es', hes', hdial⟩ := finish_relays peers (Prod.ext hfinish.symm rfl :
      (finish peers (Session.adopt st acct) acct).run w₁ = (.ok (), _))
    have htrace : st'.world.trace = st.world.trace ++ (es ++ es') := by
      rw [hworld, ← List.append_assoc, ← hes]
      exact hes'
    refine absurd ?_ (hquiet .dial)
    rw [newEvents_eq htrace]
    exact List.mem_append_right _ hdial
  · rw [hok] at hres
    cases outcome_eq_ok hres.symm
    exact ⟨acct, body, w, before, f, after, w₁, w₂, hopens, hsplit, hpassed, hstops⟩

omit hsnap

/-- A verdict ends Data. -/
theorem data_honours {before after : List Event} {e : Event} {v : Err}
    (heq : newEvents st.world st'.world = before ++ e :: after)
    (hv : verdictOn peers (st.world.trace ++ before ++ [e]) = some v) :
    res = outcome v ∧ ∀ e' ∈ after, e'.counts = true := by
  obtain ⟨e', closed, hdata⟩ | ⟨account, acct, -, -, -, hdata⟩ := Session.data_cases peers date r st
  · rw [hdata] at hrun
    cases hrun
    rw [newEvents, List.drop_length] at heq
    simp at heq
  · rw [hdata] at hrun
    cases hrun
    obtain ⟨es, hes, hall⟩ := honours_deliver peers (Session.adopt st acct) acct date r st.world
    rw [newEvents_eq hes] at heq
    exact hall before e after v heq hv

end

/-- An account, and a filter that may fail open. -/
def guardedConfig : Config :=
  { Config.plain [⟨lit "app", lit "pw", false, [lit "a@x"], true⟩] [] with
    milters := [⟨lit "av", true⟩] }

/-- That configuration is one that is loaded. -/
theorem guardedConfig_loads : (newSnapshot .plain guardedConfig).toOption.isSome := by
  decide +kernel

/-- A session of that account with an envelope, before DATA. -/
def guarded : ServerState :=
  let snap := (newSnapshot .plain guardedConfig).toOption.get guardedConfig_loads
  ⟨snap, { Session.connect ⟨[], [], [], 0, [], []⟩ snap with
      account := some ⟨lit "app", lit "pw", false, [lit "a@x"], true⟩
      from_ := lit "a@x"
      to_ := [lit "b@y"] }, World.about [] [] []⟩

/-- The server has loaded it. -/
theorem guarded_loaded : newSnapshot .plain guardedConfig = .ok guarded.current :=
  newSnapshot_of_isSome guardedConfig_loads

/-- A filter that discards every message when it hears of its connection. -/
def discarding : Peers := { agreeable with milter := fun _ => .ok (some ⟨.discard, 0, [], false⟩) }

end Mailout
