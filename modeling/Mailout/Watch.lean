import Mailout.Go.Observe
import Mailout.Restart
import Mailout.Source

/-!
# Watching the configuration

The loop of `File.Watch`, with the `Reload` it calls in `runGateway`. The files may change at any moment,
one directory at a time: between the load of the configuration, the watches that are added for it and the
files that are read for it one by one. An event that is under way or a timer that runs makes the loop start
over, and the kernel drops an event only where others are waiting.

`watch_converges` says that this is enough: once the files stop changing the loop comes to rest, and then
the last thing the server did was to load what is on disk. It needs the watches in place before the first
change; one that comes between the first load and the watches is not seen (`startup_misses_change`).

The model assumes that a directory that is watched is not removed itself, as the mounts of a pod are not while
it runs. The kernel ends the watch of a directory that is, fsnotify forgets it, and the `watched` map of
`File.Watch`, which still has it, keeps it from being added again when the directory is back.
-/

namespace Mailout

open Go

/-! ## The loop -/

/-- Where the loop is: in its `select`, adding watches for a configuration, or in `Reload`, with what is
read of its files so far. -/
inductive Activity where
  | idle
  | syncing (cfg : DataplaneConfig) (dirs : List Bytes)
  | loading (cfg : DataplaneConfig) (todo : List Bytes) (seen : List (Bytes × Except Bytes Bytes))

/-- A gateway with its files. -/
structure Watcher where
  files : Files
  watched : List Bytes
  /-- the events the loop has not received -/
  pending : Nat
  /-- the timer that `fire` waits for -/
  armed : Bool
  activity : Activity
  server : Server

namespace Watcher

inductive Label where
  /-- Files of a directory are replaced; the event is lost if too many are waiting. -/
  | change (dir : Bytes) (contents : List (Bytes × Except Bytes Bytes)) (lost : Bool)
  | event
  | fire
  /-- `watcher.Add` of the next directory, and whether it works. -/
  | add (ok : Bool)
  | onChange
  | read
  | reload

/-- The files after some of a directory were replaced. -/
def replaced (files : Files) (dir : Bytes) (contents : List (Bytes × Except Bytes Bytes)) : Files :=
  fun p => if Filepath.dir p = dir then (contents.lookup p).getD (files p) else files p

/-- What was read, as files. -/
def asFiles (seen : List (Bytes × Except Bytes Bytes)) : Files :=
  fun p => (seen.lookup p).getD (.error [])

section
variable (tools : Tools) (yaml : Yaml) (path : Bytes)

/-- One step of the loop or of the files. A watch that was added stays: files are replaced in a directory, and
none is removed. -/
def step (w : Watcher) : Label → Option Watcher
  | .change dir contents lost =>
    if lost ∧ w.pending = 0 then none
    else some { w with
      files := replaced w.files dir contents
      pending := if dir ∈ w.watched ∧ ¬ lost then w.pending + 1 else w.pending }
  | .event =>
    match w.activity, w.pending with
    | .idle, n + 1 => some { w with pending := n, armed := true }
    | _, _ => none
  | .fire =>
    match w.activity, w.armed with
    | .idle, true =>
      match Load yaml w.files path with
      -- a partially written file: the next event brings the complete one
      | .error _ => some { w with armed := false }
      | .ok cfg => some { w with armed := false, activity := .syncing cfg (referencedDirs path cfg) }
    | _, _ => none
  | .add ok =>
    match w.activity with
    | .syncing cfg (d :: ds) =>
      some { w with
        watched := if d ∈ w.watched ∨ ¬ ok then w.watched else d :: w.watched
        activity := .syncing cfg ds }
    | _ => none
  | .onChange =>
    match w.activity with
    | .syncing cfg [] => some { w with activity := .loading cfg cfg.files [] }
    | _ => none
  | .read =>
    match w.activity with
    | .loading cfg (p :: todo) seen =>
      some { w with activity := .loading cfg todo ((p, w.files.readFile p) :: seen) }
    | _ => none
  | .reload =>
    match w.activity with
    | .loading cfg [] seen =>
      some { w with activity := .idle, server := tools.attempt (asFiles seen) cfg w.server }
    | _ => none

/-- `runGateway` up to the loop: `NewServer` with what the first load found, and `Watch` with what the
second one did, where every directory can be watched. -/
def start (files files' : Files) : Option Watcher :=
  match Load yaml files path with
  | .error _ => none
  | .ok cfg =>
    match (Server.reload (tools.machine files) cfg).run Server.fresh with
    | (.error _, _) => none
    | (.ok (), server) => some {
        files := files'
        watched := match Load yaml files' path with
          | .error _ => [Filepath.dir path]
          | .ok current => referencedDirs path current
        pending := 0
        armed := false
        activity := .idle
        server := server }

end

/-- The steps of the loop itself. -/
def Label.own : Label → Bool
  | .change .. => false
  | _ => true

/-! ## What the server has loaded -/

/-- An event or the timer makes the loop start over. -/
def Signal (w : Watcher) : Prop := 0 < w.pending ∨ w.armed = true

/-- The files of which a change is noticed. -/
def Noticed (w : Watcher) (p : Bytes) : Prop := Filepath.dir p ∈ w.watched

section
variable (tools : Tools) (yaml : Yaml) (path : Bytes)

/-- The last thing the server did was to load what is on disk, if that can be read and is watched. -/
def UpToDate (w : Watcher) : Prop :=
  ∀ cfg, Load yaml w.files path = .ok cfg → (∀ p ∈ cfg.files, w.Noticed p) →
    ∃ s, w.server = tools.attempt w.files cfg s

/-- What the loop knows about the configuration it works on. -/
def Informed (w : Watcher) : Activity → Prop
  | .idle => w.Signal ∨ w.UpToDate tools yaml path
  | .syncing cfg _ => w.Signal ∨ Load yaml w.files path = .ok cfg
  | .loading cfg todo seen =>
    (w.Signal ∨ Load yaml w.files path = .ok cfg) ∧
      Tracks w.Signal w.files.readFile w.Noticed seen ∧
      ∀ p ∈ cfg.files, p ∈ todo ∨ p ∈ seen.map Prod.fst

/-- The invariant of the loop. -/
structure Sound (w : Watcher) : Prop where
  home : w.Noticed path
  informed : w.Informed tools yaml path w.activity

variable {tools yaml path} {w w' : Watcher}

/-- What was read stands for the files, if all that is looked at was read and is current. -/
theorem readFile_asFiles {files : Files} {watched : Bytes → Prop}
    {seen : List (Bytes × Except Bytes Bytes)} (h : Current files.readFile watched seen) {p : Bytes}
    (hp : p ∈ seen.map Prod.fst) (hw : watched p) : (asFiles seen).readFile p = files.readFile p := by
  by_cases hnil : p = []
  · rw [hnil]
    rfl
  · obtain ⟨v, hv⟩ : ∃ v, seen.lookup p = some v := by
      rw [← Option.isSome_iff_exists, List.lookup_isSome_iff]
      obtain ⟨q, hq, rfl⟩ := List.mem_map.mp hp
      exact ⟨q, hq, beq_self_eq_true _⟩
    have hmem : (p, v) ∈ seen := by
      obtain ⟨l, r, rfl, -⟩ := List.lookup_eq_some_iff.mp hv
      simp
    have hvalue := h (p, v) hmem hw
    simp only [Files.readFile, if_neg hnil, asFiles, hv, Option.getD_some] at hvalue ⊢
    exact hvalue

/-- A change in a directory that is not watched does not touch a file whose changes are noticed. -/
theorem readFile_replaced {dir : Bytes} {contents : List (Bytes × Except Bytes Bytes)} {p : Bytes}
    (hdir : dir ∉ w.watched) (hp : w.Noticed p) :
    (replaced w.files dir contents).readFile p = w.files.readFile p := by
  have hne : Filepath.dir p ≠ dir := fun h => hdir (h ▸ hp)
  simp only [Files.readFile, replaced, if_neg hne]

/-- A change raises the signal or leaves what is noticed as it is. -/
theorem change_cases {dir : Bytes} {contents : List (Bytes × Except Bytes Bytes)} {lost : Bool}
    (h : step tools yaml path w (.change dir contents lost) = some w') :
    w'.watched = w.watched ∧ w'.activity = w.activity ∧ w'.server = w.server ∧
      (w.Signal → w'.Signal) ∧
      (w'.Signal ∨ ∀ p, w.Noticed p → w'.files.readFile p = w.files.readFile p) := by
  rw [step] at h
  split_ifs at h with hlost hcounted
  · cases h
    exact ⟨rfl, rfl, rfl, fun _ => .inl (Nat.succ_pos _), .inl (.inl (Nat.succ_pos _))⟩
  · cases h
    refine ⟨rfl, rfl, rfl, id, ?_⟩
    by_cases hdir : dir ∈ w.watched
    · -- the event was lost, so that others are waiting
      have hpending : w.pending ≠ 0 := fun h0 =>
        hlost ⟨by_contra fun hl => hcounted ⟨hdir, hl⟩, h0⟩
      exact .inl (.inl (Nat.pos_of_ne_zero hpending))
    · exact .inr fun p hp => readFile_replaced hdir hp

/-- The server stays up to date while nothing changes that is noticed. -/
theorem UpToDate.change (h : w.UpToDate tools yaml path) (hhome : w.Noticed path)
    (hsame : ∀ p, w.Noticed p → w'.files.readFile p = w.files.readFile p)
    (hwatched : w'.watched = w.watched) (hserver : w'.server = w.server) :
    w'.UpToDate tools yaml path := by
  intro cfg hload hnoticed
  rw [load_congr (hsame path hhome)] at hload
  have hnoticed' : ∀ p ∈ cfg.files, w.Noticed p := by
    intro p hp
    have := hnoticed p hp
    rwa [Noticed, hwatched] at this
  obtain ⟨s, hs⟩ := h cfg hload hnoticed'
  exact ⟨s, by rw [hserver, hs, Tools.attempt_congr fun p hp => hsame p (hnoticed' p hp)]⟩

/-- The files change. -/
theorem Sound.change (h : w.Sound tools yaml path) {dir : Bytes}
    {contents : List (Bytes × Except Bytes Bytes)} {lost : Bool}
    (hstep : step tools yaml path w (.change dir contents lost) = some w') :
    w'.Sound tools yaml path := by
  obtain ⟨hwatched, hactivity, hserver, hkeep, hsame⟩ := change_cases hstep
  have hnoticed : w'.Noticed = w.Noticed := by
    funext p
    rw [Noticed, Noticed, hwatched]
  refine ⟨by rw [hnoticed]; exact h.home, ?_⟩
  have hload : ∀ cfg, w.Signal ∨ Load yaml w.files path = .ok cfg →
      w'.Signal ∨ Load yaml w'.files path = .ok cfg := by
    rintro cfg (hsignal | hcfg)
    · exact .inl (hkeep hsignal)
    · exact hsame.imp_right fun hs => by rw [load_congr (hs path h.home), hcfg]
  have hinformed := h.informed
  rw [hactivity]
  cases hact : w.activity with
  | idle =>
    rw [hact] at hinformed
    rcases hinformed with hsignal | hdate
    · exact .inl (hkeep hsignal)
    · exact hsame.imp_right fun hs => hdate.change h.home hs hwatched hserver
  | syncing cfg ds =>
    rw [hact] at hinformed
    exact hload cfg hinformed
  | loading cfg todo seen =>
    rw [hact] at hinformed
    obtain ⟨hcfg, htracks, hall⟩ := hinformed
    refine ⟨hload cfg hcfg, ?_, hall⟩
    rw [hnoticed]
    exact htracks.change hkeep fun p hp => hsame.imp_right fun hs => ⟨hp, hs p hp⟩

/-- An event arms the timer, so that the signal stays. -/
theorem Sound.event (h : w.Sound tools yaml path)
    (hstep : step tools yaml path w .event = some w') : w'.Sound tools yaml path := by
  rw [step] at hstep
  split at hstep
  · cases hstep
    rename_i hact _
    refine ⟨h.home, ?_⟩
    show Informed tools yaml path _ w.activity
    rw [hact]
    exact .inl (.inr rfl)
  · cases hstep

/-- The timer fires: the configuration is loaded as it is on disk now, or, if it cannot be, there is nothing
to be up to date with. -/
theorem Sound.fire (h : w.Sound tools yaml path)
    (hstep : step tools yaml path w .fire = some w') : w'.Sound tools yaml path := by
  rw [step] at hstep
  split at hstep
  · rename_i hact _
    cases hload : Load yaml w.files path with
    | error err =>
      rw [hload] at hstep
      cases hstep
      refine ⟨h.home, ?_⟩
      show Informed tools yaml path _ w.activity
      rw [hact]
      refine .inr fun cfg hcfg => ?_
      have : Load yaml w.files path = .ok cfg := hcfg
      rw [hload] at this
      cases this
    | ok cfg =>
      rw [hload] at hstep
      cases hstep
      exact ⟨h.home, .inr hload⟩
  · cases hstep

/-- Nothing was read yet when a watch is added. -/
theorem Sound.add {ok : Bool} (h : w.Sound tools yaml path)
    (hstep : step tools yaml path w (.add ok) = some w') : w'.Sound tools yaml path := by
  rw [step] at hstep
  split at hstep
  · rename_i cfg d ds hact
    have hinformed := h.informed
    rw [hact] at hinformed
    cases hstep
    refine ⟨?_, hinformed⟩
    show Filepath.dir path ∈ if d ∈ w.watched ∨ ¬ ok then w.watched else d :: w.watched
    split_ifs
    · exact h.home
    · exact List.mem_cons_of_mem _ h.home
  · cases hstep

/-- The watches are in place, and the files of the configuration are read from here on. -/
theorem Sound.onChange (h : w.Sound tools yaml path)
    (hstep : step tools yaml path w .onChange = some w') : w'.Sound tools yaml path := by
  rw [step] at hstep
  split at hstep
  · rename_i cfg hact
    have hinformed := h.informed
    rw [hact] at hinformed
    cases hstep
    exact ⟨h.home, hinformed, .start, fun p hp => .inl hp⟩
  · cases hstep

/-- One more file is read, as it is on disk. -/
theorem Sound.read (h : w.Sound tools yaml path)
    (hstep : step tools yaml path w .read = some w') : w'.Sound tools yaml path := by
  rw [step] at hstep
  split at hstep
  · rename_i cfg p todo seen hact
    have hinformed := h.informed
    rw [hact] at hinformed
    obtain ⟨hcfg, htracks, hall⟩ := hinformed
    cases hstep
    refine ⟨h.home, hcfg, htracks.read p, fun q hq => ?_⟩
    rcases hall q hq with htodo | hseen
    · rcases List.mem_cons.mp htodo with rfl | htodo
      · exact .inr List.mem_cons_self
      · exact .inl htodo
    · exact .inr (List.mem_cons_of_mem _ hseen)
  · cases hstep

/-- What was read one by one is what is on disk at the end, or the loop starts over. -/
theorem Sound.reload (h : w.Sound tools yaml path)
    (hstep : step tools yaml path w .reload = some w') : w'.Sound tools yaml path := by
  rw [step] at hstep
  split at hstep
  · rename_i cfg seen hact
    have hinformed := h.informed
    rw [hact] at hinformed
    obtain ⟨hcfg, htracks, hall⟩ := hinformed
    cases hstep
    refine ⟨h.home, ?_⟩
    rcases hcfg with hsignal | hcfg
    · exact .inl hsignal
    · refine htracks.imp id fun hcurrent => ?_
      intro cfg' hcfg' hnoticed
      obtain rfl : cfg = cfg' := Except.ok.inj (hcfg.symm.trans hcfg')
      refine ⟨w.server, congrFun (Tools.attempt_congr fun p hp => ?_) w.server⟩
      have hseen : p ∈ seen.map Prod.fst := (hall p hp).resolve_left List.not_mem_nil
      exact readFile_asFiles hcurrent hseen (hnoticed p hp)
  · cases hstep

/-- Every step keeps the invariant. -/
theorem Sound.step {l : Label} (h : w.Sound tools yaml path)
    (hstep : Watcher.step tools yaml path w l = some w') : w'.Sound tools yaml path := by
  cases l with
  | change => exact h.change hstep
  | event => exact h.event hstep
  | fire => exact h.fire hstep
  | add => exact h.add hstep
  | onChange => exact h.onChange hstep
  | read => exact h.read hstep
  | reload => exact h.reload hstep

/-- A gateway that was started on files that did not change meanwhile. -/
theorem Sound.start {files : Files} (h : Watcher.start tools yaml path files files = some w) :
    w.Sound tools yaml path := by
  unfold Watcher.start at h
  cases hload : Load yaml files path with
  | error err => rw [hload] at h; cases h
  | ok cfg =>
    simp only [hload] at h
    cases hreload : (Server.reload (tools.machine files) cfg).run Server.fresh with
    | mk res server =>
      rw [hreload] at h
      cases res with
      | error err => cases h
      | ok u =>
        cases h
        refine ⟨mem_referencedDirs.mpr (.inl rfl), .inr fun cfg' hcfg' _ => ⟨Server.fresh, ?_⟩⟩
        obtain rfl : cfg = cfg' := Except.ok.inj (hload.symm.trans hcfg')
        exact (congrArg Prod.snd hreload).symm

end

/-! ## Coming to rest -/

section
variable (yaml : Yaml) (path : Bytes)

/-- The steps the loop has left before it is in its `select` again. -/
def work : Activity → Nat
  | .idle => 0
  | .syncing cfg dirs => dirs.length + cfg.files.length + 2
  | .loading _ todo _ => todo.length + 1

/-- The steps of one reload with the files as they are. -/
def round (w : Watcher) : Nat :=
  match Load yaml w.files path with
  | .error _ => 0
  | .ok cfg => (referencedDirs path cfg).length + cfg.files.length + 2

/-- How many steps of its own the loop can take while the files stay as they are. -/
def bound (w : Watcher) : Nat :=
  (2 * w.pending + w.armed.toNat) * (w.round yaml path + 1) + work w.activity

variable {yaml path} {tools : Tools} {w w' : Watcher}

/-- A step of the loop takes one from the bound and leaves the files as they are. -/
theorem bound_step {l : Label} (hown : l.own = true) (h : step tools yaml path w l = some w') :
    w'.bound yaml path + 1 ≤ w.bound yaml path := by
  cases l with
  | change => cases hown
  | event =>
    rw [step] at h
    split at h
    · rename_i n hact hpending
      cases h
      have hround : ({ w with pending := n, armed := true } : Watcher).round yaml path =
          w.round yaml path := rfl
      have hle : (2 * n + 1 + 1) * (w.round yaml path + 1) ≤
          (2 * w.pending + w.armed.toNat) * (w.round yaml path + 1) :=
        Nat.mul_le_mul_right _ (by omega)
      have hcount : (2 * n + 1 + 1) * (w.round yaml path + 1) =
          (2 * n + 1) * (w.round yaml path + 1) + (w.round yaml path + 1) := by ring
      rw [bound, bound, hround]
      dsimp only [Bool.toNat_true]
      omega
    · cases h
  | fire =>
    rw [step] at h
    split at h
    · rename_i hact harmed
      have hcount : (2 * w.pending + 1) * (w.round yaml path + 1) =
          (2 * w.pending + 0) * (w.round yaml path + 1) + (w.round yaml path + 1) := by ring
      cases hload : Load yaml w.files path with
      | error err =>
        rw [hload] at h
        cases h
        have hsame : ({ w with armed := false } : Watcher).round yaml path = w.round yaml path := rfl
        rw [bound, bound, hsame, harmed, Bool.toNat_true, hcount]
        dsimp only [Bool.toNat_false]
        omega
      | ok cfg =>
        rw [hload] at h
        cases h
        have hround : w.round yaml path = (referencedDirs path cfg).length + cfg.files.length + 2 := by
          rw [round, hload]
        have hsame : ({ w with armed := false
                               activity := .syncing cfg (referencedDirs path cfg) } : Watcher).round
            yaml path = w.round yaml path := rfl
        rw [bound, bound, hsame, harmed, Bool.toNat_true, hact, hcount]
        dsimp only [Bool.toNat_false, work]
        omega
    · cases h
  | add ok =>
    rw [step] at h
    split at h
    · rename_i cfg d ds hact
      cases h
      rw [bound, bound, hact]
      dsimp only [work, round, List.length_cons]
      omega
    · cases h
  | onChange =>
    rw [step] at h
    split at h
    · rename_i cfg hact
      cases h
      rw [bound, bound, hact]
      dsimp only [work, round, List.length_nil]
      omega
    · cases h
  | read =>
    rw [step] at h
    split at h
    · rename_i cfg p todo seen hact
      cases h
      rw [bound, bound, hact]
      dsimp only [work, round, List.length_cons]
      omega
    · cases h
  | reload =>
    rw [step] at h
    split at h
    · rename_i cfg seen hact
      cases h
      rw [bound, bound, hact]
      dsimp only [work, round, List.length_nil]
      omega
    · cases h

/-- Without changes the loop takes no more steps than the bound says, which every step makes smaller. -/
theorem length_le_bound : ∀ {ls : List Label} {w : Watcher}, (∀ l ∈ ls, l.own = true) →
    runs (step tools yaml path) w ls = some w' → ls.length ≤ w.bound yaml path
  | [], _, _, _ => Nat.zero_le _
  | l :: ls, w, hown, h => by
    obtain ⟨t, hl, hls⟩ := runs_cons h
    have hstep := bound_step (hown l List.mem_cons_self) hl
    have hrest := length_le_bound (fun k hk => hown k (List.mem_cons_of_mem l hk)) hls
    rw [List.length_cons]
    omega

/-- The loop has nothing left to do. -/
def AtRest (tools : Tools) (yaml : Yaml) (path : Bytes) (w : Watcher) : Prop :=
  ∀ l : Label, l.own = true → step tools yaml path w l = none

/-- In its `select`, with no event and no timer, the loop has nothing to do. -/
theorem atRest_of_idle (hactivity : w.activity = .idle) (hpending : w.pending = 0)
    (harmed : w.armed = false) : w.AtRest tools yaml path := by
  intro l hl
  cases l with
  | change => cases hl
  | _ => simp [step, hactivity, hpending, harmed]

/-- The loop is at rest in its `select` only, without an event or the timer. -/
theorem AtRest.idle (h : w.AtRest tools yaml path) : w.activity = .idle ∧ ¬ w.Signal := by
  cases hact : w.activity with
  | idle =>
    refine ⟨rfl, ?_⟩
    rintro (hpending | harmed)
    · obtain ⟨n, hn⟩ := Nat.exists_eq_succ_of_ne_zero hpending.ne'
      have := h .event rfl
      simp [step, hact, hn] at this
    · have := h .fire rfl
      cases hload : Load yaml w.files path <;> simp [step, hact, harmed, hload] at this
  | syncing cfg dirs =>
    cases dirs with
    | nil =>
      have := h .onChange rfl
      simp [step, hact] at this
    | cons d ds =>
      have := h (.add true) rfl
      simp [step, hact] at this
  | loading cfg todo seen =>
    cases todo with
    | nil =>
      have := h .reload rfl
      simp [step, hact] at this
    | cons p todo =>
      have := h .read rfl
      simp [step, hact] at this

end

end Watcher

/-- The configuration is in service, or the last thing the server did was to refuse it. -/
def ServesOrRefused (m : Machine) (cfg : DataplaneConfig) (server : Server) : Prop :=
  (∃ snap, server.current = some snap ∧ SnapshotOf m cfg snap) ∨
    ∃ s err clients, (Server.reload m cfg).run s = (.error err, ⟨s.current, clients⟩) ∧
      server.current = s.current

/-- After an attempt the server serves the configuration or has refused it. -/
theorem servesOrRefused_attempt (tools : Tools) (files : Files) (cfg : DataplaneConfig) (s : Server) :
    ServesOrRefused (tools.machine files) cfg (tools.attempt files cfg s) := by
  cases hrun : (LiveSnapshot.newSnapshot (tools.machine files) s.current cfg).run s.clients with
  | mk res clients =>
    cases res with
    | ok snap =>
      left
      have hreload := Server.reload_of_ok hrun
      rw [Tools.attempt, hreload]
      exact reload_snapshotOf hreload
    | error err =>
      right
      have hreload := Server.reload_of_error hrun
      refine ⟨s, err, clients, hreload, ?_⟩
      rw [Tools.attempt, hreload]

open Watcher in
/-- A loop that is at rest serves what is on disk, or has refused it. -/
theorem Watcher.AtRest.serves {tools : Tools} {yaml : Yaml} {path : Bytes} {files : Files}
    {w₀ w : Watcher} {ls : List Label} {cfg : DataplaneConfig} (hrest : w.AtRest tools yaml path)
    (hstart : start tools yaml path files files = some w₀)
    (hrun : runs (step tools yaml path) w₀ ls = some w) (hload : Load yaml w.files path = .ok cfg)
    (hdirs : ∀ d ∈ referencedDirs path cfg, d ∈ w.watched) :
    ServesOrRefused (tools.machine w.files) cfg w.server := by
  have hstep : ∀ (_ : List Label) (t : Watcher) (l : Label) (u : Watcher),
      Watcher.Sound tools yaml path t → step tools yaml path t l = some u →
      Watcher.Sound tools yaml path u :=
    fun _ _ _ _ hsound hl => hsound.step hl
  have hsound : Watcher.Sound tools yaml path w :=
    runs_invariant (I := fun _ => Watcher.Sound tools yaml path) (.start hstart) hstep hrun
  obtain ⟨hidle, hquiet⟩ := hrest.idle
  have hinformed := hsound.informed
  rw [hidle] at hinformed
  have hnoticed : ∀ p ∈ cfg.files, w.Noticed p := fun p hp =>
    hdirs _ (mem_referencedDirs.mpr (.inr ⟨p, hp, rfl⟩))
  obtain ⟨s, hs⟩ := hinformed.resolve_left hquiet cfg hload hnoticed
  rw [hs]
  exact servesOrRefused_attempt tools w.files cfg s

open Watcher in
/-- **The gateway comes to serve what is on disk.** Whatever happens to the files after it was started,
and in whatever order the loop gets to notice it: once they stop changing, the loop takes a bounded number
of steps. When it can take no more, the configuration on disk with the files it refers to is in service, or
the last thing the server did was to refuse it; provided that it can be parsed, and that the directories it
refers to could be watched. -/
theorem watch_converges {tools : Tools} {yaml : Yaml} {path : Bytes} {files : Files}
    {w₀ w w' : Watcher} {ls ls' : List Label} (hstart : start tools yaml path files files = some w₀)
    (hrun : runs (step tools yaml path) w₀ ls = some w) (hown : ∀ l ∈ ls', l.own = true)
    (hrun' : runs (step tools yaml path) w ls' = some w') :
    ls'.length ≤ w.bound yaml path ∧
      (w'.AtRest tools yaml path → ∀ cfg, Load yaml w'.files path = .ok cfg →
        (∀ d ∈ referencedDirs path cfg, d ∈ w'.watched) →
        ServesOrRefused (tools.machine w'.files) cfg w'.server) := by
  refine ⟨length_le_bound hown hrun', fun hrest cfg hload hdirs => ?_⟩
  exact hrest.serves hstart (runs_append hrun hrun') hload hdirs

/-! ## A renewal -/

/-- Tools that take the first file of every key pair for a certificate. -/
def Tools.plain : Tools where
  bcrypt := Host.plain.bcrypt
  quote := id
  x509KeyPair cert _ := .ok cert
  parsePrivateKey _ := .ok 0
  parseCertificate der := .ok ⟨der, [], []⟩
  hasCertificate _ := true
  probeSpool _ := .ok ()

def plainPath : Bytes := lit "gateway.yaml"

/-- The files of a gateway with this certificate. -/
noncomputable def plainFiles (cert : Bytes) : Files := fun p =>
  if p = plainPath then .ok (Yaml.numbered.marshal (configCodec.enc DataplaneConfig.plain)) else .ok cert

/-- The numbers of that configuration fit their types. -/
theorem fits_plain : DataplaneConfig.plain.Fits := by
  constructor
  all_goals simp [DataplaneConfig.plain, FitsInt64]

/-- It is loaded from these files. -/
theorem load_plain {files : Files} (h : files plainPath = plainFiles [] plainPath) :
    Load Yaml.numbered files plainPath = .ok DataplaneConfig.plain := by
  have hreceived : DataplaneConfig.plain.received = DataplaneConfig.plain := by decide
  have hread : files.readFile plainPath =
      .ok (Yaml.numbered.marshal (configCodec.enc DataplaneConfig.plain)) := h.trans (if_pos rfl)
  rw [load_marshal fits_plain hread, hreceived]

/-- It refers to one certificate with its key. -/
theorem files_plain : DataplaneConfig.plain.files = [lit "tls.crt", lit "tls.key"] := by decide

/-- All of its files are in one directory. -/
theorem referencedDirs_plain : referencedDirs plainPath DataplaneConfig.plain = [lit "."] := by
  decide +kernel

/-- That gateway is started, and its files change meanwhile or not. -/
theorem start_plain (cert : Bytes) : ∃ server,
    (Server.reload (Tools.plain.machine (plainFiles [1])) DataplaneConfig.plain).run Server.fresh =
        (.ok (), server) ∧
      Watcher.start Tools.plain Yaml.numbered plainPath (plainFiles [1]) (plainFiles cert) =
        some ⟨plainFiles cert, [lit "."], 0, false, .idle, server⟩ := by
  have hload : Load Yaml.numbered (plainFiles [1]) plainPath = _ := load_plain rfl
  have hload' : Load Yaml.numbered (plainFiles cert) plainPath = _ := load_plain rfl
  have hok : ((Server.reload (Tools.plain.machine (plainFiles [1])) DataplaneConfig.plain).run
      Server.fresh).1 = .ok () := by decide
  cases hrun : (Server.reload (Tools.plain.machine (plainFiles [1])) DataplaneConfig.plain).run
      Server.fresh with
  | mk res server =>
    rw [hrun] at hok
    obtain rfl : res = .ok () := hok
    exact ⟨server, rfl, by simp only [Watcher.start, hload, hrun, hload', referencedDirs_plain]⟩

/-- The files once the certificate is renewed. -/
noncomputable def renewedFiles : Files :=
  Watcher.replaced (plainFiles [1]) (lit ".") [(lit "tls.crt", .ok [2])]

/-- The configuration is the same after the certificate was renewed. -/
theorem load_renewed : Load Yaml.numbered renewedFiles plainPath = .ok DataplaneConfig.plain := by
  have hlookup : ([(lit "tls.crt", Except.ok [2])] : List (Bytes × Except Bytes Bytes)).lookup plainPath =
      none := by decide
  exact load_plain (by simp only [renewedFiles, Watcher.replaced, hlookup, Option.getD_none, ite_self]; rfl)

open Watcher in
/-- A certificate is renewed under a running gateway, and the loop loads it. -/
theorem watch_converges_renewal : ∃ w₀ w w',
    start Tools.plain Yaml.numbered plainPath (plainFiles [1]) (plainFiles [1]) = some w₀ ∧
    runs (step Tools.plain Yaml.numbered plainPath) w₀
      [.change (lit ".") [(lit "tls.crt", .ok [2])] false] = some w ∧
    runs (step Tools.plain Yaml.numbered plainPath) w
      [.event, .fire, .add true, .onChange, .read, .read, .reload] = some w' ∧
    w'.files = renewedFiles ∧
    ServesOrRefused (Tools.plain.machine w'.files) DataplaneConfig.plain w'.server := by
  obtain ⟨server, -, hstart⟩ := start_plain [1]
  have hchange : runs (step Tools.plain Yaml.numbered plainPath)
      ⟨plainFiles [1], [lit "."], 0, false, .idle, server⟩
      [.change (lit ".") [(lit "tls.crt", .ok [2])] false] =
        some ⟨renewedFiles, [lit "."], 1, false, .idle, server⟩ := by
    simp [runs, step, renewedFiles]
  have hloop : runs (step Tools.plain Yaml.numbered plainPath)
      ⟨renewedFiles, [lit "."], 1, false, .idle, server⟩
      [.event, .fire, .add true, .onChange, .read, .read, .reload] =
        some ⟨renewedFiles, [lit "."], 0, false, .idle, Tools.plain.attempt
          (asFiles [(lit "tls.key", renewedFiles.readFile (lit "tls.key")),
            (lit "tls.crt", renewedFiles.readFile (lit "tls.crt"))]) DataplaneConfig.plain server⟩ := by
    simp [runs, step, load_renewed, referencedDirs_plain, files_plain]
  refine ⟨_, _, _, hstart, hchange, hloop, rfl, ?_⟩
  refine (watch_converges hstart hchange (by decide) hloop).2 (atRest_of_idle rfl rfl rfl) _
    load_renewed fun d hd => ?_
  rwa [referencedDirs_plain] at hd

/-- **A change while the gateway starts is missed.** The certificate is renewed after the first load and
before the watches: the loop is at rest, and the old certificate stays in service. -/
theorem startup_misses_change : ∃ w,
    Watcher.start Tools.plain Yaml.numbered plainPath (plainFiles [1]) (plainFiles [2]) = some w ∧
      w.AtRest Tools.plain Yaml.numbered plainPath ∧
      ∃ snap, w.server.current = some snap ∧
        ¬ SnapshotOf (Tools.plain.machine w.files) DataplaneConfig.plain snap := by
  obtain ⟨server, hreload, hstart⟩ := start_plain [2]
  obtain ⟨snap, hcurrent, hsnap⟩ := reload_snapshotOf hreload
  refine ⟨_, hstart, Watcher.atRest_of_idle rfl rfl rfl, snap, hcurrent, fun hnew => ?_⟩
  have hsame := hsnap.2.1.trans hnew.2.1.symm
  have hdiffer : newCertStore (Tools.plain.machine (plainFiles [1])) DataplaneConfig.plain.tls ≠
      newCertStore (Tools.plain.machine (plainFiles [2])) DataplaneConfig.plain.tls := by
    decide
  exact hdiffer hsame

end Mailout
