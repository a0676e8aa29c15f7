import Mailout.Stages

/-!
# Data does not depend on where bodies are kept

`matches_deliver`: on a disk that does not fail, a delivery is the delivery of a byte sequence, of which
`Letter` says what comes of it without a word about storage. So two snapshots that differ in their spool
settings alone make no difference to the client or to the upstream server, in whichever chunks the
message comes (`data_storage_independent`).
-/

namespace Mailout

open Go Tx

/-! ## Data -/

section
variable (peers : Peers)

/-- Data between the check of the From field and the relay; whether there is a message to relay. -/
def treat (s : Session) (acct : Account) : Tx Bool := do
  if ← filterStage peers (sessionInfo s acct) acct (s.snap.policyFor acct.username) then
    signStage peers s.snap.dkim acct (s.snap.policyFor acct.username)
    return true
  else return false

/-- A message is treated, and then relayed unless it was discarded. -/
theorem process_treat (s : Session) (acct : Account) :
    process peers s acct = (do
      if ← treat peers s acct then relayStage peers s.snap.relay acct) := by
  rw [process, treat, bind_assoc]
  refine congrArg (filterStage peers _ acct _ >>= ·) (funext fun pass => ?_)
  cases pass with
  | true =>
    simp only [if_true, finish, bind_assoc, pure_bind]
  | false => rfl

/-- What Data hands to `relayer.send`: the message as it is when the relay begins. -/
def Hands (date : Bytes) (r : ClientData) (st : ServerState) (from_ : Bytes) (to_ : List Bytes)
    (b : Bytes) : Prop :=
  ∃ acct body w w', Opens peers date r st acct body w ∧
    (treat peers (Session.adopt st acct) acct).run w = (.ok true, w') ∧
    w'.msg.from_ = from_ ∧ w'.msg.to_ = to_ ∧ w'.bytes = b

/-- An empty desk, at which `es` was heard. -/
def Desk.blank (es : List Event) : Desk := ⟨[], [], [], es⟩

/-- What is handed to the upstream server at the desk. -/
def Post.Hands (date : Bytes) (r : ClientData) (s : Session) (acct : Account) (es : List Event)
    (from_ : Bytes) (to_ : List Bytes) (b : Bytes) : Prop :=
  ∃ d d', (Post.opening peers s acct date r).run (Desk.blank es) = (.ok (), d) ∧
    (Post.treat peers s acct).run d = (.ok true, d') ∧
    d'.from_ = from_ ∧ d'.to_ = to_ ∧ d'.bytes = b

/-- A transaction gets from `w` to `w'` by its steps, and in every world that its steps lead to, a body
of it that is in memory is within the threshold. -/
def WithinThreshold (snap : Snapshot) (w w' : World) : Prop :=
  Reaches snap.newSpool w.created w w' ∧ ∀ v, Reaches snap.newSpool w.created w v →
    ∀ ref, w.created ≤ ref → ref < v.created → (v.spools ref).file = none →
      ((v.spools ref).buf.length : Int) ≤ max snap.spoolThreshold 0

variable {snap : Snapshot} {w₀ w : World} {d : Desk} {apart : List SpoolRef}

/-- The spools that a transaction made are within their threshold. -/
theorem withinThreshold_of_reaches (h : Reaches snap.newSpool w₀.created w₀ w) :
    WithinThreshold snap w₀ w := by
  refine ⟨h, fun v hv ref hlow hhigh => ?_⟩
  have hkept := hv.kept (newSpool_kept snap)
    ⟨Nat.le_refl _, fun _ hlow hhigh => absurd hhigh (Nat.not_lt.mpr hlow)⟩
  exact (hkept.2 ref hlow hhigh).bounded

open Go.Comp (Refines Matches)

/-- Filters and signing are the same at the desk as on spools. -/
theorem refines_treat (s : Session) (acct : Account) :
    Refines (Stands snap w₀ apart) (treat peers.deaf s acct) (Post.treat peers s acct) := by
  refine (refines_filterStage peers _ acct _).bind fun pass => ?_
  cases pass with
  | true => exact (refines_signStage peers _ acct _).bind fun _ => Comp.refines_pure true
  | false => exact Comp.refines_pure false

/-- So is all that comes behind the header check. -/
theorem refines_process (s : Session) (acct : Account) :
    Refines (Stands snap w₀ apart) (process peers.deaf s acct) (do
      if ← Post.treat peers s acct then Post.relayStage peers s.snap.relay acct) := by
  rw [process_treat]
  refine (refines_treat peers s acct).bind fun pass => ?_
  cases pass with
  | true => exact refines_relayStage peers _ acct
  | false => exact Comp.refines_pure ()

/-- **Refinement.** On a disk that does not fail, a delivery is the delivery of a byte sequence. -/
theorem matches_deliver {s : Session} (h : Near s.snap w₀ w d) (acct : Account) (date : Bytes)
    (r : ClientData) :
    Matches (Near s.snap w₀) (deliver peers.deaf s acct date r) (Post.deliver peers s acct date r)
      w d := by
  rcases opening_endsAlike peers h acct date r with
    ⟨e, w', d', hopen, hdesk, h'⟩ | ⟨body, w', d', hopen, hdesk, h'⟩
  · have hfailed : (Post.deliver peers s acct date r).run d = (.error e, d') :=
      Comp.run_bind_of_error hdesk
    obtain ⟨e₁, w₁, hopen₁, hdeliver | hdeliver⟩ | ⟨body, w₁, hopen₁, -⟩ :=
      deliver_opening peers.deaf s acct date r w
    all_goals
      rw [hopen] at hopen₁
      cases hopen₁
    · exact .of_run hdeliver hfailed h'
    · exact .of_run hdeliver hfailed (h'.close _)
  · obtain ⟨e₁, w₁, hopen₁, -⟩ | ⟨body₁, w₁, hopen₁, hdeliver⟩ :=
      deliver_opening peers.deaf s acct date r w
    all_goals
      rw [hopen] at hopen₁
      cases hopen₁
    have hprocess : Matches (Near s.snap w₀)
        (Comp.deferred (close body) (process peers.deaf s acct)) (do
          if ← Post.treat peers s acct then Post.relayStage peers s.snap.relay acct) w' d' :=
      .deferred (refines_process peers s acct w' d' h')
        fun _ _ (h'' : Stands s.snap w₀ [] _ _) => h''.toNear.close body
    rw [Matches, hdeliver, Post.deliver, Comp.run_bind_of_ok hdesk]
    exact hprocess

/-- What Data hands over is what is handed over at the desk. -/
theorem hands_iff {date : Bytes} {r : ClientData} {st : ServerState} {from_ : Bytes}
    {to_ : List Bytes} {b : Bytes} (hdisk : st.world.disk.Healthy) :
    Hands peers.deaf date r st from_ to_ b ↔ ∃ acct, Session.standing st = .ok acct ∧
      Post.Hands peers date r (Session.adopt st acct) acct (heard st.world.trace) from_ to_ b := by
  have hstart : Near st.current st.world st.world (.blank (heard st.world.trace)) :=
    .start st.current hdisk rfl
  constructor
  · rintro ⟨acct, body, w, w', ⟨⟨account, haccount, hin⟩, hto, hopen⟩, htreat, rfl, rfl, rfl⟩
    refine ⟨acct, Session.standing_of_inService haccount hto hin, ?_⟩
    rcases opening_endsAlike (s := Session.adopt st acct) peers hstart acct date r with
      ⟨e, w₁, d₁, hopen₁, -⟩ | ⟨body₁, w₁, d₁, hopen₁, hdesk, h₁⟩
    all_goals
      rw [hopen] at hopen₁
      cases hopen₁
    obtain ⟨res, w₂, d₂, htreat₂, htreat', h₂⟩ :=
      (refines_treat peers (Session.adopt st acct) acct w d₁ h₁).elim
    rw [htreat] at htreat₂
    cases htreat₂
    exact ⟨d₁, d₂, hdesk, htreat', h₂.from_.symm, h₂.to_.symm, h₂.bytes.symm⟩
  · rintro ⟨acct, hstanding, d₁, d₂, hdesk, htreat, rfl, rfl, rfl⟩
    obtain ⟨hto, haccount⟩ := Session.inService_of_standing hstanding
    rcases opening_endsAlike (s := Session.adopt st acct) peers hstart acct date r with
      ⟨e, w₁, d₃, -, hdesk₁, -⟩ | ⟨body, w₁, d₃, hopen, hdesk₁, h₁⟩
    all_goals
      rw [hdesk] at hdesk₁
      cases hdesk₁
    obtain ⟨res, w₂, d₄, htreat', htreat₂, h₂⟩ :=
      (refines_treat peers (Session.adopt st acct) acct w₁ d₁ h₁).elim
    rw [htreat] at htreat₂
    cases htreat₂
    exact ⟨acct, body, w₁, w₂, ⟨haccount, hto, hopen⟩, htreat', h₂.from_, h₂.to_, h₂.bytes⟩

/-- The result of Data and what is heard of it, at the desk. -/
def Post.data (date : Bytes) (r : ClientData) (st : ServerState) : Except Err Unit × List Event :=
  match Session.standing st with
  | .error e => (.error e, heard st.world.trace)
  | .ok acct =>
    let run := (Post.deliver peers (Session.adopt st acct) acct date r).run
      (.blank (heard st.world.trace))
    (run.1, run.2.heard)

/-- What Data returns and what is heard of it does not depend on the spools: it is what happens at the desk,
where there are none. -/
theorem data_alike (date : Bytes) (r : ClientData) {st : ServerState}
    (hdisk : st.world.disk.Healthy) :
    (((Session.data peers.deaf date r).run st).1,
      heard ((Session.data peers.deaf date r).run st).2.world.trace) = Post.data peers date r st ∧
    WithinThreshold st.current st.world ((Session.data peers.deaf date r).run st).2.world := by
  rw [Post.data]
  obtain ⟨e, closed, hstanding, hrun⟩ | ⟨acct, hstanding, hrun⟩ :=
    Session.data_standing peers.deaf date r st
  · rw [hstanding, hrun]
    exact ⟨rfl, withinThreshold_of_reaches .refl⟩
  · rw [hstanding, hrun]
    have h : Near st.current st.world st.world (.blank (heard st.world.trace)) :=
      .start st.current hdisk rfl
    obtain ⟨hres, hnear⟩ :=
      matches_deliver (s := Session.adopt st acct) peers h acct date r
    exact ⟨Prod.ext hres hnear.said, withinThreshold_of_reaches hnear.path⟩

end

/-- A state of the server that differs from another one in where its bodies go: in the spool settings
of the snapshot in service, and in the disk and the spools of its world. -/
structure Elsewhere (dir : Bytes) (threshold : Int) (st st' : ServerState) : Prop where
  current : st'.current = { st.current with spoolDir := dir, spoolThreshold := threshold }
  session : st'.session = st.session
  heard : heard st'.world.trace = heard st.world.trace

section
variable {dir : Bytes} {threshold : Int} {st st' : ServerState} {r r' : ClientData}

/-- The account's standing does not depend on where messages are spooled. -/
theorem Elsewhere.standing (h : Elsewhere dir threshold st st') :
    Session.standing st' = Session.standing st := by
  rw [Session.standing, Session.standing, h.session, h.current]

/-- The session differs in the two settings only. -/
theorem Elsewhere.adopt (h : Elsewhere dir threshold st st') (acct : Account) :
    Session.adopt st' acct = { Session.adopt st acct with
      snap := { st.current with spoolDir := dir, spoolThreshold := threshold } } := by
  rw [Session.adopt, h.session, h.current]
  rfl

/-- At the desk, neither the spool settings nor the chunks of the message are there to be seen. -/
theorem Elsewhere.opening (h : Elsewhere dir threshold st st') (hbytes : r'.bytes = r.bytes)
    (herr : r'.err = r.err) (peers : Peers) (date : Bytes) (acct : Account) :
    Post.opening peers (Session.adopt st' acct) acct date r' =
      Post.opening peers (Session.adopt st acct) acct date r := by
  unfold Post.opening Post.receive
  rw [hbytes, herr, h.adopt]
  rfl

/-- At the desk the two settings are not read. -/
theorem Elsewhere.treat (h : Elsewhere dir threshold st st') (peers : Peers) (acct : Account) :
    Post.treat peers (Session.adopt st' acct) acct = Post.treat peers (Session.adopt st acct) acct := by
  rw [h.adopt]
  rfl

/-- So Data does the same at the desk, whatever the settings, and in whatever pieces the client's bytes
arrive. -/
theorem Elsewhere.data (h : Elsewhere dir threshold st st') (hbytes : r'.bytes = r.bytes)
    (herr : r'.err = r.err) (peers : Peers) (date : Bytes) :
    Post.data peers date r' st' = Post.data peers date r st := by
  rw [Post.data, Post.data, h.standing, h.heard]
  cases Session.standing st with
  | error e => rfl
  | ok acct =>
    have hrelay : (Session.adopt st' acct).snap.relay = (Session.adopt st acct).snap.relay := by
      rw [h.adopt]
      rfl
    simp only [Post.deliver, h.opening hbytes herr, h.treat, hrelay]

/-- The same message is handed to the same party. -/
theorem Elsewhere.hands (h : Elsewhere dir threshold st st') (hbytes : r'.bytes = r.bytes)
    (herr : r'.err = r.err) (peers : Peers) (date : Bytes) (acct : Account) (es : List Event)
    (from_ : Bytes) (to_ : List Bytes) (b : Bytes) :
    Post.Hands peers date r' (Session.adopt st' acct) acct es from_ to_ b ↔
      Post.Hands peers date r (Session.adopt st acct) acct es from_ to_ b := by
  rw [Post.Hands, Post.Hands, h.opening hbytes herr, h.treat]

/-- **Storage.** On disks that do not fail, and with parties that do not ask where a body is kept, Data
gives the same reply, hands the same message to the relay and is heard to say the same under two
snapshots that differ in their spool settings, in whichever chunks the message comes. At every point
of it, a body in memory is within the threshold. -/
theorem data_storage_independent (peers : Peers) (date : Bytes)
    (h : Elsewhere dir threshold st st') (hbytes : r'.bytes = r.bytes) (herr : r'.err = r.err)
    (hdisk : st.world.disk.Healthy) (hdisk' : st'.world.disk.Healthy) :
    ((Session.data peers.deaf date r').run st').1 = ((Session.data peers.deaf date r).run st).1 ∧
    (∀ from_ to_ b, Hands peers.deaf date r' st' from_ to_ b ↔ Hands peers.deaf date r st from_ to_ b) ∧
    heard ((Session.data peers.deaf date r').run st').2.world.trace =
      heard ((Session.data peers.deaf date r).run st).2.world.trace ∧
    WithinThreshold st.current st.world ((Session.data peers.deaf date r).run st).2.world ∧
    WithinThreshold st'.current st'.world ((Session.data peers.deaf date r').run st').2.world := by
  obtain ⟨hdata, hwithin⟩ := data_alike peers date r hdisk
  obtain ⟨hdata', hwithin'⟩ := data_alike peers date r' hdisk'
  rw [h.data hbytes herr, ← hdata] at hdata'
  obtain ⟨hreply, hheard⟩ := Prod.ext_iff.mp hdata'
  refine ⟨hreply, fun from_ to_ b => ?_, hheard, hwithin, hwithin'⟩
  rw [hands_iff peers hdisk, hands_iff peers hdisk', h.standing, h.heard]
  refine exists_congr fun acct => and_congr_right fun _ => ?_
  exact h.hands hbytes herr peers date acct _ from_ to_ b

end

/-- The server of `guarded` with every body on disk. -/
def guardedOnDisk : ServerState :=
  { guarded with current := { guarded.current with spoolDir := lit "/spool", spoolThreshold := -1 } }

/-- A message that comes in two chunks and is kept on disk is accepted as in memory. -/
theorem data_storage_independent_disk :
    ((Session.data agreeable.deaf [] ⟨[lit "h", lit "i"], none⟩).run guardedOnDisk).1 = .ok () ∧
      .messageSpooled (lit "app") ∈
        ((Session.data agreeable.deaf [] ⟨[lit "h", lit "i"], none⟩).run guardedOnDisk).2.world.trace := by
  have hmemory : ((Session.data agreeable.deaf [] ⟨[lit "hi"], none⟩).run guarded).1 = .ok () := by
    decide +kernel
  have h : Elsewhere (lit "/spool") (-1) guarded guardedOnDisk := ⟨rfl, rfl, rfl⟩
  have hbytes : (⟨[lit "h", lit "i"], none⟩ : ClientData).bytes =
      (⟨[lit "hi"], none⟩ : ClientData).bytes := rfl
  have hsame := (data_storage_independent agreeable [] h hbytes rfl (fun _ _ => rfl) fun _ _ => rfl).1
  exact ⟨hsame.trans hmemory, by decide +kernel⟩

end Mailout
