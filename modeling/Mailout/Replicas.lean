import Mailout.Quota

/-!
# The quota across replicas

Any number of checks, of any replicas, against one store. A check is a process; a step is one of its
calls being answered, or the clock, the expiry of a counter or a lost command moving the store
(`Move`). The store is atomic in each command and keeps a counter at least as long as it was told to;
what a command that was given up does is up to it.

A charge belongs to the window its counter is named after. `total` sums the charges of the checks
that returned no error. `Sound` is the invariant: as long as a counter of a window can be charged at
all, it has not expired and is at least the sum of all charges to it. That needs the timeout of a
call to be no longer than a window: the counter lives two windows from the first time it could be
named, and a call can charge it up to one timeout behind the end of its own.
-/

namespace Mailout

open Go

/-- A counter of the store. -/
structure Counter where
  value : Int
  expires : Option Nat
  deriving DecidableEq, Repr

structure Store where
  clock : Nat
  counters : Bytes → Option Counter

/-- What happens to the store without an answer: time passes, a counter expires, or a command whose
client no longer listens is carried out, in which case it was sent after its counter was named. -/
inductive Move where
  | tick (t : Nat)
  | expire (name : Bytes)
  | lateIncrBy (key : Key) (by_ : Int)
  | lateExpireNX (key : Key)
  deriving DecidableEq, Repr

namespace Store

/-- The value of a counter, zero for one that is not there. -/
def value (s : Store) (name : Bytes) : Int := (s.counters name).elim 0 Counter.value

/-- `INCRBY`. -/
def incrBy (s : Store) (name : Bytes) (by_ : Int) : Store :=
  { s with
    counters := Function.update s.counters name
      (some ⟨s.value name + by_, (s.counters name).bind Counter.expires⟩) }

/-- `EXPIRE ... NX`: a counter that has a time to live keeps it. -/
def expireNX (s : Store) (name : Bytes) (ttl : Nat) : Store :=
  { s with
    counters := Function.update s.counters name
      ((s.counters name).map fun c => ⟨c.value, some (c.expires.getD (s.clock + ttl))⟩) }

/-- The answers a call may get, and what they mean. -/
def serve (s : Store) : (op : StoreCall) → op.Answer → Option Store
  | .now, (t : Nat) => if t = s.clock then some s else none
  | .incrBy key by_ deadline, Except.ok count =>
    if s.clock ≤ deadline ∧ count = s.value key.name + by_ then some (s.incrBy key.name by_)
    else none
  | .incrBy .., Except.error _ => some s
  | .expireNX key ttl deadline, Except.ok () =>
    if s.clock ≤ deadline then some (s.expireNX key.name ttl) else none
  | .expireNX .., Except.error _ => some s

/-- What the store does on its own. -/
def move (s : Store) : Move → Option Store
  | .tick t => if s.clock ≤ t then some { s with clock := t } else none
  | .expire name =>
    match (s.counters name).bind Counter.expires with
    | some deadline =>
      if deadline ≤ s.clock then some { s with counters := Function.update s.counters name none }
      else none
    | none => none
  | .lateIncrBy key by_ =>
    if key.at_ ≤ s.clock ∧ 0 ≤ by_ then some (s.incrBy key.name by_) else none
  | .lateExpireNX key =>
    if key.at_ ≤ s.clock then some (s.expireNX key.name (rateLimitWindow * 2)) else none

end Store

/-- The store as a service of the checks. -/
def quotaStore : Service StoreCall StoreCall.Answer Store Move := ⟨Store.serve, Store.move⟩

section
variable {ι : Type}

/-- The checks of all the replicas, and their store. -/
abbrev Replicas (ι : Type) := Processes ι StoreCall StoreCall.Answer (Except Err Unit) Store

abbrev ReplicaAct (ι : Type) := Act ι StoreCall StoreCall.Answer Move

/-- What a sequence of steps leads to, if they can happen. -/
abbrev Replicas.run [DecidableEq ι] (c : Replicas ι) (acts : List (ReplicaAct ι)) :
    Option (Replicas ι) :=
  runs (Processes.step quotaStore) c acts

/-- Checks that have not started, each for an account and a number of recipients, and an empty
store. -/
def Replicas.start (l : Limiter) (request : ι → Bytes × Nat) (clock : Nat) : Replicas ι where
  service := ⟨clock, fun _ => none⟩
  procs i := Limiter.check (some l) (request i).1 (request i).2

/-- A check has returned no error. -/
def Replicas.accepted (c : Replicas ι) (i : ι) : Bool :=
  match (c.procs i).result with
  | some (.ok ()) => true
  | _ => false

/-- The charges of a run, with the check that made each. -/
def charges : List (ReplicaAct ι) → List (ι × Charge)
  | [] => []
  | .moved _ :: acts => charges acts
  | .answered i op answer :: acts =>
    match chargeOf op answer with
    | some c => (i, c) :: charges acts
    | none => charges acts

/-- The sum of the charges that satisfy a condition. -/
def totalBy (p : ι × Charge → Bool) (acts : List (ReplicaAct ι)) : Int :=
  (((charges acts).filter p).map fun x => x.2.by_).sum

/-- What the accepted checks have charged to a dimension of an account in a window. -/
def Replicas.total (c : Replicas ι) (acts : List (ReplicaAct ι)) (account dimension : Bytes)
    (window : Nat) : Int :=
  totalBy (fun x => c.accepted x.1 && x.2.key.account == account &&
    x.2.key.dimension == dimension && x.2.key.window == window) acts

/-- What the accepted checks have charged between two readings of the clock. -/
def Replicas.totalIn (c : Replicas ι) (acts : List (ReplicaAct ι)) (account dimension : Bytes)
    (first last : Nat) : Int :=
  totalBy (fun x => c.accepted x.1 && x.2.key.account == account &&
    x.2.key.dimension == dimension && decide (first ≤ x.2.key.at_ ∧ x.2.key.at_ ≤ last)) acts

/-- The charges one check made to a dimension. -/
def chargesOf [DecidableEq ι] (i : ι) (dimension : Bytes) (acts : List (ReplicaAct ι)) :
    List Charge :=
  (chargesIn (answersTo i acts)).filter fun c => c.key.dimension == dimension

/-! ## Sums of charges -/

/-- What is charged in two stretches is charged in one after the other. -/
theorem charges_append (acts acts' : List (ReplicaAct ι)) :
    charges (acts ++ acts') = charges acts ++ charges acts' := by
  induction acts with
  | nil => rfl
  | cons act acts ih =>
    cases act with
    | moved m => exact ih
    | answered i op answer =>
      rw [List.cons_append, charges, charges, ih]
      split <;> rfl

/-- Sums over charges add up. -/
theorem totalBy_append (p : ι × Charge → Bool) (acts acts' : List (ReplicaAct ι)) :
    totalBy p (acts ++ acts') = totalBy p acts + totalBy p acts' := by
  rw [totalBy, charges_append, List.filter_append, List.map_append, List.sum_append]
  rfl

/-- What one step charges. -/
theorem totalBy_answered (p : ι × Charge → Bool) (i : ι) (op : StoreCall) (answer : op.Answer) :
    totalBy p [Act.answered i op answer] =
      (chargeOf op answer).elim 0 fun c => if p (i, c) then c.by_ else 0 := by
  unfold totalBy charges charges
  cases chargeOf op answer with
  | none => rfl
  | some c =>
    simp only [List.filter_cons, List.filter_nil, Option.elim_some]
    split_ifs <;> simp

/-- A stronger condition has a smaller sum, as nothing is charged back. -/
theorem totalBy_mono {p q : ι × Charge → Bool} {acts : List (ReplicaAct ι)}
    (hpos : ∀ x ∈ charges acts, 0 ≤ x.2.by_)
    (hpq : ∀ x ∈ charges acts, p x = true → q x = true) : totalBy p acts ≤ totalBy q acts := by
  unfold totalBy
  generalize charges acts = cs at hpos hpq
  induction cs with
  | nil => exact le_refl _
  | cons x cs ih =>
    have ih' := ih (fun y hy => hpos y (List.mem_cons_of_mem _ hy))
      fun y hy => hpq y (List.mem_cons_of_mem _ hy)
    have hx := hpos x (List.mem_cons_self ..)
    have hpqx := hpq x (List.mem_cons_self ..)
    rw [List.filter_cons, List.filter_cons]
    by_cases hp : p x = true
    · rw [if_pos hp, if_pos (hpqx hp)]
      simp only [List.map_cons, List.sum_cons]
      omega
    · rw [if_neg hp]
      split_ifs
      · simp only [List.map_cons, List.sum_cons]
        omega
      · exact ih'

/-- All that was charged to a counter. -/
def chargedTo (name : Bytes) (acts : List (ReplicaAct ι)) : Int :=
  totalBy (fun x => x.2.key.name == name) acts

/-- What was charged to a counter while it was within a limit. -/
def chargedWithin (name : Bytes) (limit : Int) (acts : List (ReplicaAct ι)) : Int :=
  totalBy (fun x => x.2.key.name == name && x.2.count ≤ limit) acts

end

/-! ## Windows -/

/-- The end of the window behind a window: no counter of the window expires before. -/
def closes (window : Nat) : Nat := (window + 2) * rateLimitWindow

/-- A clock reading lies in its window. -/
theorem windowOf_bounds (t : Nat) :
    windowOf t * rateLimitWindow ≤ t ∧ t < (windowOf t + 1) * rateLimitWindow := by
  unfold windowOf rateLimitWindow second
  omega

/-! ## The store -/

namespace Store

variable {s s' : Store} {name name' : Bytes} {by_ : Int} {ttl : Nat}

/-- A counter is increased without time passing. -/
@[simp] theorem incrBy_clock : (s.incrBy name by_).clock = s.clock := rfl

/-- A deadline is set without time passing. -/
@[simp] theorem expireNX_clock : (s.expireNX name ttl).clock = s.clock := rfl

/-- The counter that is increased has the sum, and the others are as they were. -/
theorem value_incrBy : (s.incrBy name by_).value name' =
    if name' = name then s.value name + by_ else s.value name' := by
  by_cases h : name' = name
  · subst h
    simp [value, incrBy]
  · simp [value, incrBy, h]

/-- A deadline does not change a value. -/
theorem value_expireNX : (s.expireNX name ttl).value name' = s.value name' := by
  unfold value expireNX
  by_cases h : name' = name
  · subst h
    cases s.counters name' <;> simp
  · simp [h]

/-- When a counter expires, if it does. -/
def expiry (s : Store) (name : Bytes) : Option Nat := (s.counters name).bind Counter.expires

/-- An increment does not change a deadline; a counter that is new has none. -/
theorem expiry_incrBy : (s.incrBy name by_).expiry name' = s.expiry name' := by
  unfold expiry incrBy
  by_cases h : name' = name
  · subst h
    simp
  · simp [h]

/-- A time to live is set only where there was none. -/
theorem expiry_expireNX {d : Nat} (h : (s.expireNX name ttl).expiry name' = some d) :
    s.expiry name' = some d ∨ name' = name ∧ d = s.clock + ttl := by
  unfold expiry expireNX at h
  by_cases hn : name' = name
  · subst hn
    cases hc : s.counters name' with
    | none => simp [hc] at h
    | some c =>
      cases he : c.expires with
      | none =>
        refine .inr ⟨rfl, ?_⟩
        simpa [hc, he, eq_comm] using h
      | some d' =>
        refine .inl ?_
        simpa [expiry, hc, he] using h
  · refine .inl ?_
    simpa [expiry, hn] using h

/-- The time a replica is told is the store's. -/
theorem serve_now {t : Nat} (h : s.serve .now t = some s') : t = s.clock ∧ s' = s := by
  simp only [serve] at h
  split_ifs at h with ht
  cases h
  exact ⟨ht, rfl⟩

/-- An increment fails and is not done, or it is done before its deadline and answered with the new value.
-/
theorem serve_incrBy {key : Key} {deadline : Int} {answer : Except Bytes Int}
    (h : s.serve (.incrBy key by_ deadline) answer = some s') :
    (∃ e, answer = .error e ∧ s' = s) ∨
      answer = .ok (s.value key.name + by_) ∧ s.clock ≤ deadline ∧ s' = s.incrBy key.name by_ := by
  cases answer with
  | error e =>
    cases h
    exact .inl ⟨e, rfl, rfl⟩
  | ok count =>
    simp only [serve] at h
    split_ifs at h with hc
    cases h
    exact .inr ⟨congrArg _ hc.2, hc.1, rfl⟩

/-- A deadline is set or it is not, whatever the answer. -/
theorem serve_expireNX {key : Key} {deadline : Int} {answer : Except Bytes Unit}
    (h : s.serve (.expireNX key ttl deadline) answer = some s') :
    s' = s ∨ s' = s.expireNX key.name ttl := by
  cases answer with
  | error e =>
    cases h
    exact .inl rfl
  | ok u =>
    simp only [serve] at h
    split_ifs at h with hc
    cases h
    exact .inr rfl

/-- The store changes in four ways on its own. -/
theorem move_cases {m : Move} (h : s.move m = some s') :
    (∃ t, s.clock ≤ t ∧ s' = { s with clock := t }) ∨
    (∃ name d, s.expiry name = some d ∧ d ≤ s.clock ∧
      s' = { s with counters := Function.update s.counters name none }) ∨
    (∃ (key : Key) (by_ : Int), key.at_ ≤ s.clock ∧ 0 ≤ by_ ∧ s' = s.incrBy key.name by_) ∨
    ∃ key : Key, key.at_ ≤ s.clock ∧ s' = s.expireNX key.name (rateLimitWindow * 2) := by
  cases m with
  | tick t =>
    simp only [move] at h
    split_ifs at h with ht
    cases h
    exact .inl ⟨t, ht, rfl⟩
  | expire name =>
    simp only [move] at h
    split at h
    · rename_i d hd
      split_ifs at h with hle
      cases h
      exact .inr (.inl ⟨name, d, hd, hle, rfl⟩)
    · cases h
  | lateIncrBy key by_ =>
    simp only [move] at h
    split_ifs at h with hc
    cases h
    exact .inr (.inr (.inl ⟨key, by_, hc.1, hc.2, rfl⟩))
  | lateExpireNX key =>
    simp only [move] at h
    split_ifs at h with hc
    cases h
    exact .inr (.inr (.inr ⟨key, hc, rfl⟩))

/-- Time does not run backwards. -/
theorem clock_serve {op : StoreCall} {answer : op.Answer} (h : s.serve op answer = some s') :
    s'.clock = s.clock := by
  cases op with
  | now => rw [(serve_now h).2]
  | incrBy key by_ deadline =>
    obtain ⟨e, -, rfl⟩ | ⟨-, -, rfl⟩ := serve_incrBy h <;> rfl
  | expireNX key ttl deadline =>
    obtain rfl | rfl := serve_expireNX h <;> rfl

/-- Time does not go back. -/
theorem clock_move {m : Move} (h : s.move m = some s') : s.clock ≤ s'.clock := by
  obtain ⟨t, ht, rfl⟩ | ⟨name, d, -, -, rfl⟩ | ⟨key, by_, -, -, rfl⟩ | ⟨key, -, rfl⟩ := move_cases h
  · exact ht
  all_goals exact le_refl _

end Store

/-! ## What a check asks for -/

section
variable (l : Limiter) (account : Bytes)

/-- What a check has left to do. The clock readings it goes by are in the past, in the order it made
them. -/
inductive Stage (clock : Nat) : StoreProg (Except Err Unit) → Prop
  | loop (ds : List Dimension) : Stage clock (l.checkDimensions account ds)
  | started (d : Dimension) (ds : List Dimension) (hd : d.Counted) (start : Nat)
      (hstart : start ≤ clock) :
      Stage clock (.call .now fun at_ =>
        .call (.incrBy ⟨l.gateway, account, d.name, at_⟩ d.by_ (start + l.timeout)) fun incr =>
          .call (.expireNX ⟨l.gateway, account, d.name, at_⟩ (rateLimitWindow * 2)
            (start + l.timeout)) fun expire => l.judge account d ds incr expire)
  | named (d : Dimension) (ds : List Dimension) (hd : d.Counted) (start at_ : Nat)
      (hstart : start ≤ at_) (hat : at_ ≤ clock) :
      Stage clock
        (.call (.incrBy ⟨l.gateway, account, d.name, at_⟩ d.by_ (start + l.timeout)) fun incr =>
          .call (.expireNX ⟨l.gateway, account, d.name, at_⟩ (rateLimitWindow * 2)
            (start + l.timeout)) fun expire => l.judge account d ds incr expire)
  | counted (d : Dimension) (ds : List Dimension) (start at_ : Nat) (hat : at_ ≤ clock)
      (incr : Except Bytes Int) :
      Stage clock (.call (.expireNX ⟨l.gateway, account, d.name, at_⟩ (rateLimitWindow * 2)
        (start + l.timeout)) fun expire => l.judge account d ds incr expire)
  | done (r : Except Err Unit) : Stage clock (.ret r)

/-- What a check asks of the store: a counter that was named before, for a positive amount, and not
later than one timeout after it was named. -/
def Asks (clock : Nat) : StoreCall → Prop
  | .now => True
  | .incrBy key by_ deadline => key.at_ ≤ clock ∧ 0 < by_ ∧ deadline ≤ key.at_ + l.timeout
  | .expireNX key ttl _ => key.at_ ≤ clock ∧ ttl = rateLimitWindow * 2

end

section
variable {l : Limiter} {account : Bytes}

/-- Behind the judgement of a quantity comes the next one, the refusal or the end. -/
theorem Stage.judge (clock : Nat) (d : Dimension) (ds : List Dimension) (incr : Except Bytes Int)
    (expire : Except Bytes Unit) : Stage l account clock (l.judge account d ds incr expire) := by
  unfold Limiter.judge
  split
  · split_ifs
    · exact .done _
    · exact .loop ds
  · exact .done _

/-- A check that is at some stage stays there while time passes. -/
theorem Stage.mono {clock clock' : Nat} (h : clock ≤ clock') {p : StoreProg (Except Err Unit)}
    (hp : Stage l account clock p) : Stage l account clock' p := by
  cases hp with
  | loop ds => exact .loop ds
  | started d ds hd start hstart => exact .started d ds hd start (hstart.trans h)
  | named d ds hd start at_ hstart hat => exact .named d ds hd start at_ hstart (hat.trans h)
  | counted d ds start at_ hat incr => exact .counted d ds start at_ (hat.trans h) incr
  | done r => exact .done r

/-- The loop of a check goes to its next dimension that is counted, or ends. -/
theorem checkDimensions_cases (ds : List Dimension) :
    l.checkDimensions account ds = .ret (.ok ()) ∨ ∃ d ds', d.Counted ∧
      l.checkDimensions account ds = l.checkDimensions account (d :: ds') := by
  induction ds with
  | nil => exact .inl rfl
  | cons d ds ih =>
    by_cases hd : d.Counted
    · exact .inr ⟨d, ds, hd, rfl⟩
    · rwa [Limiter.checkDimensions_skipped hd]

/-- **One call of a check.** It asks for what it may, and whatever the answer, it has something left
to do that it may do. -/
theorem Stage.answered {s s' : Store} {op : StoreCall} {k : op.Answer → StoreProg (Except Err Unit)}
    {answer : op.Answer} {p : StoreProg (Except Err Unit)} (hp : Stage l account s.clock p)
    (hcall : p = .call op k) (h : s.serve op answer = some s') :
    Asks l s.clock op ∧ Stage l account s'.clock (k answer) := by
  rw [Store.clock_serve h]
  cases hp with
  | loop ds =>
    obtain hret | ⟨d, ds', hd, hnext⟩ := @checkDimensions_cases l account ds
    · rw [hret] at hcall
      cases hcall
    · rw [hnext, Limiter.checkDimensions_counted hd] at hcall
      cases hcall
      exact ⟨trivial, .started d ds' hd answer (le_of_eq (Store.serve_now h).1)⟩
  | started d ds hd start hstart =>
    cases hcall
    obtain ⟨rfl, -⟩ := Store.serve_now h
    exact ⟨trivial, .named d ds hd start _ hstart (le_refl _)⟩
  | named d ds hd start at_ hstart hat =>
    cases hcall
    refine ⟨⟨hat, hd.2, ?_⟩, .counted d ds start at_ hat answer⟩
    show (start : Int) + l.timeout ≤ at_ + l.timeout
    omega
  | counted d ds start at_ hat incr =>
    cases hcall
    exact ⟨⟨hat, rfl⟩, .judge s.clock d ds incr answer⟩
  | done r => cases hcall

end

/-! ## The invariant -/

section
variable {ι : Type}

/-- What holds of the charges of a run and the store they leave. -/
structure Sound (acts : List (ReplicaAct ι)) (s : Store) : Prop where
  /-- Nothing is charged back. -/
  positive : ∀ x ∈ charges acts, 0 ≤ x.2.by_
  /-- A counter that can still be charged is at least the sum of its charges. -/
  counted : ∀ key : Key, s.clock < closes key.window → chargedTo key.name acts ≤ s.value key.name
  /-- A counter does not expire while it can be charged. -/
  lives : ∀ (key : Key) d, s.expiry key.name = some d → closes key.window ≤ d
  /-- What was charged within a limit is within it in sum. -/
  bounded : ∀ (key : Key) limit, 0 ≤ limit → chargedWithin key.name limit acts ≤ limit

/-- An empty store is sound. -/
theorem Sound.init (clock : Nat) : Sound ([] : List (ReplicaAct ι)) ⟨clock, fun _ => none⟩ where
  positive _ hx := nomatch hx
  counted _ _ := le_refl _
  lives _ _ h := nomatch h
  bounded _ _ h := h

/-- A step that charges nothing, lowers no counter that can be charged and lets none expire early. -/
theorem Sound.quiet {acts : List (ReplicaAct ι)} {s s' : Store} {act : ReplicaAct ι}
    (h : Sound acts s) (hact : charges [act] = [])
    (hvalue : ∀ key : Key, s'.clock < closes key.window →
      s.clock < closes key.window ∧ s.value key.name ≤ s'.value key.name)
    (hlives : ∀ (key : Key) d, s'.expiry key.name = some d → closes key.window ≤ d) :
    Sound (acts ++ [act]) s' := by
  have hcharges : charges (acts ++ [act]) = charges acts := by
    rw [charges_append, hact, List.append_nil]
  have htotal : ∀ p, totalBy p (acts ++ [act]) = totalBy p acts := fun p => by
    rw [totalBy, hcharges]
    rfl
  refine ⟨?_, fun key hclock => ?_, hlives, fun key limit hl => ?_⟩
  · rw [hcharges]
    exact h.positive
  · obtain ⟨hbefore, hle⟩ := hvalue key hclock
    rw [chargedTo, htotal]
    exact (h.counted key hbefore).trans hle
  · rw [chargedWithin, htotal]
    exact h.bounded key limit hl

/-- A time to live that is set after the counter was named ends behind the next window. -/
theorem closes_le {key : Key} {clock : Nat} (h : key.at_ ≤ clock) :
    closes key.window ≤ clock + rateLimitWindow * 2 := by
  have hwin : key.window * rateLimitWindow ≤ key.at_ := (windowOf_bounds key.at_).1
  unfold closes
  rw [Nat.add_mul, Nat.mul_comm 2]
  omega

/-- A call that is not given up charges a counter that has not expired, if the timeout is no longer
than a window. -/
theorem lt_closes {l : Limiter} (htimeout : l.timeout ≤ rateLimitWindow) {key : Key} {clock : Nat}
    {deadline : Int} (hclock : (clock : Int) ≤ deadline) (hdeadline : deadline ≤ key.at_ + l.timeout) :
    clock < closes key.window := by
  have hwin : key.at_ < (key.window + 1) * rateLimitWindow := (windowOf_bounds key.at_).2
  have hcloses : closes key.window = (key.window + 1) * rateLimitWindow + rateLimitWindow := by
    unfold closes
    ring
  omega

/-- A counter does not go away before its window closes: the deadline is two windows from a time in its
window. -/
theorem Sound.expiry_expireNX {acts : List (ReplicaAct ι)} {s : Store} (h : Sound acts s) {key : Key}
    (hat : key.at_ ≤ s.clock) (key' : Key) (d : Nat)
    (hd : (s.expireNX key.name (rateLimitWindow * 2)).expiry key'.name = some d) :
    closes key'.window ≤ d := by
  obtain hold | ⟨hname, rfl⟩ := Store.expiry_expireNX hd
  · exact h.lives key' d hold
  · rw [Key.window_of_name hname]
    exact closes_le hat

/-- The store on its own keeps the invariant. -/
theorem Sound.move {acts : List (ReplicaAct ι)} {s s' : Store} {m : Move} (h : Sound acts s)
    (hmove : s.move m = some s') : Sound (acts ++ [.moved m]) s' := by
  obtain ⟨t, ht, rfl⟩ | ⟨name, d, hd, hle, rfl⟩ | ⟨key, by_, hat, hby, rfl⟩ | ⟨key, hat, rfl⟩ :=
    Store.move_cases hmove
  · exact h.quiet rfl (fun key hclock => ⟨ht.trans_lt hclock, le_refl _⟩) h.lives
  · -- a counter that expires is one that cannot be charged any more
    refine h.quiet rfl (fun key hclock => ⟨hclock, ?_⟩) fun key d' hd' => ?_
    · have hname : key.name ≠ name := by
        rintro rfl
        exact absurd (h.lives key d hd) (not_le.mpr (hle.trans_lt hclock))
      simp [Store.value, hname]
    · by_cases hname : key.name = name
      · simp [Store.expiry, hname] at hd'
      · refine h.lives key d' ?_
        simpa [Store.expiry, hname] using hd'
  · refine h.quiet rfl (fun key' hclock => ⟨hclock, ?_⟩) fun key' d' hd' => ?_
    · rw [Store.value_incrBy]
      split_ifs with hname
      · rw [hname]
        omega
      · exact le_refl _
    · rw [Store.expiry_incrBy] at hd'
      exact h.lives key' d' hd'
  · refine h.quiet rfl (fun key' hclock => ⟨hclock, ?_⟩) (h.expiry_expireNX hat)
    rw [Store.value_expireNX]

/-- A charge keeps the invariant: the counter grows with the sum of its charges, and the value that
is returned is not below that sum. -/
theorem Sound.charge {acts : List (ReplicaAct ι)} {s : Store} (h : Sound acts s) (i : ι) {key : Key}
    {by_ : Int} {op : StoreCall} {answer : op.Answer}
    (hcharge : chargeOf op answer = some ⟨key, by_, s.value key.name + by_⟩)
    (hclock : s.clock < closes key.window) (hby : 0 < by_) :
    Sound (acts ++ [.answered i op answer]) (s.incrBy key.name by_) := by
  have htotal : ∀ p : ι × Charge → Bool, totalBy p (acts ++ [.answered i op answer]) =
      totalBy p acts + if p (i, ⟨key, by_, s.value key.name + by_⟩) then by_ else 0 := fun p => by
    rw [totalBy_append, totalBy_answered, hcharge]
    rfl
  refine ⟨fun x hx => ?_, fun key' hclock' => ?_, fun key' d hd => ?_, fun key' limit hl => ?_⟩
  · have hone : charges [Act.answered i op answer] = [(i, ⟨key, by_, s.value key.name + by_⟩)] := by
      rw [charges, hcharge]
      rfl
    rw [charges_append, hone, List.mem_append] at hx
    rcases hx with hx | hx
    · exact h.positive x hx
    · obtain rfl := List.mem_singleton.mp hx
      exact hby.le
  · have hold := h.counted key' hclock'
    rw [chargedTo, htotal, Store.value_incrBy]
    by_cases hname : key'.name = key.name
    · rw [hname] at hold
      simpa [hname, chargedTo] using hold
    · have hname' : ¬ key.name = key'.name := fun heq => hname heq.symm
      simpa [hname, hname', chargedTo] using hold
  · rw [Store.expiry_incrBy] at hd
    exact h.lives key' d hd
  · have hold := h.bounded key' limit hl
    rw [chargedWithin, htotal]
    by_cases hwithin : key.name = key'.name ∧ s.value key.name + by_ ≤ limit
    · have hall : chargedWithin key'.name limit acts ≤ chargedTo key'.name acts :=
        totalBy_mono h.positive fun x _ hx => by
          simp only [Bool.and_eq_true] at hx
          exact hx.1
      have hcounted := h.counted key hclock
      have hle := hwithin.2
      rw [hwithin.1] at hcounted hle
      simp only [hwithin.1, BEq.rfl, Bool.true_and, decide_eq_true_eq, if_pos hle]
      rw [chargedWithin] at hall
      omega
    · have hnot : ¬ ((key.name == key'.name && decide (s.value key.name + by_ ≤ limit)) = true) := by
        simpa using hwithin
      simp only [if_neg hnot, add_zero]
      exact hold

/-- An answer to what a check may ask for keeps the invariant. -/
theorem Sound.serve {l : Limiter} (htimeout : l.timeout ≤ rateLimitWindow)
    {acts : List (ReplicaAct ι)} {s s' : Store} (h : Sound acts s) (i : ι) {op : StoreCall}
    {answer : op.Answer} (hasks : Asks l s.clock op) (hserve : s.serve op answer = some s') :
    Sound (acts ++ [.answered i op answer]) s' := by
  cases op with
  | now =>
    rw [(Store.serve_now hserve).2]
    exact h.quiet rfl (fun _ hclock => ⟨hclock, le_refl _⟩) h.lives
  | incrBy key by_ deadline =>
    obtain ⟨e, rfl, rfl⟩ | ⟨rfl, hclock, rfl⟩ := Store.serve_incrBy hserve
    · exact h.quiet rfl (fun _ hclock => ⟨hclock, le_refl _⟩) h.lives
    · exact h.charge i rfl (lt_closes htimeout hclock hasks.2.2) hasks.2.1
  | expireNX key ttl deadline =>
    obtain ⟨hat, rfl⟩ := hasks
    obtain rfl | rfl := Store.serve_expireNX hserve
    · exact h.quiet rfl (fun _ hclock => ⟨hclock, le_refl _⟩) h.lives
    · refine h.quiet rfl (fun key' hclock => ⟨hclock, ?_⟩) (h.expiry_expireNX hat)
      rw [Store.value_expireNX]

/-- The invariant of the whole system. -/
theorem replicas_sound [DecidableEq ι] {l : Limiter} (htimeout : l.timeout ≤ rateLimitWindow)
    {request : ι → Bytes × Nat} {clock : Nat} {acts : List (ReplicaAct ι)} {c : Replicas ι}
    (hrun : (Replicas.start l request clock).run acts = some c) :
    Sound acts c.service ∧ ∀ i, Stage l (request i).1 c.service.clock (c.procs i) := by
  refine runs_invariant (I := fun acts (c : Replicas ι) => Sound acts c.service ∧
    ∀ i, Stage l (request i).1 c.service.clock (c.procs i)) ⟨.init clock, fun i => .loop _⟩ ?_ hrun
  rintro past t act u ⟨hsound, hstage⟩ hstep
  cases act with
  | moved m =>
    obtain ⟨s, hmove, rfl⟩ := step_moved hstep
    exact ⟨hsound.move hmove, fun i => (hstage i).mono (Store.clock_move hmove)⟩
  | answered i op answer =>
    obtain ⟨k, s, hcall, hserve, rfl⟩ := step_answered hstep
    obtain ⟨hasks, hnext⟩ := (hstage i).answered hcall hserve
    refine ⟨hsound.serve htimeout i hasks hserve, fun j => ?_⟩
    show Stage l (request j).1 s.clock (Function.update t.procs i (k answer) j)
    by_cases hij : j = i
    · subst hij
      rw [Function.update_self]
      exact hnext
    · rw [Function.update_of_ne hij, Store.clock_serve hserve]
      exact hstage j

/-! ## What the accepted checks add up to -/

/-- The two dimensions a quota has. -/
inductive Quantity where
  | messages | recipients
  deriving DecidableEq, Repr

def Quantity.name : Quantity → Bytes
  | messages => lit "messages"
  | recipients => lit "recipients"

/-- What one message of some recipients counts for. -/
def Quantity.amount (recipients : Nat) : Quantity → Int
  | messages => 1
  | .recipients => recipients

def Limiter.limitOn (l : Limiter) : Quantity → Int
  | .messages => l.limits.messagesPerMinute
  | .recipients => l.limits.recipientsPerMinute

/-- The row of a dimension in the table of `check`. -/
def Limiter.row (l : Limiter) (recipients : Nat) (q : Quantity) : Dimension :=
  ⟨q.name, q.name, l.limitOn q, q.amount recipients⟩

/-- Two quantities are charged for a message. -/
theorem Limiter.dimensions_eq (l : Limiter) (n : Nat) :
    l.dimensions n = [l.row n .messages, l.row n .recipients] := rfl

/-- The two quantities have keys of their own. -/
theorem Quantity.name_inj {q q' : Quantity} (h : q.name = q'.name) : q = q' := by
  cases q <;> cases q' <;> first | rfl | exact absurd h (by decide +kernel)

section
variable [DecidableEq ι] {l : Limiter} {request : ι → Bytes × Nat} {clock : Nat}
  {acts : List (ReplicaAct ι)} {c : Replicas ι}

/-- The charges of a check are in its own answers. -/
theorem mem_charges_answersTo {acts : List (ReplicaAct ι)} {x : ι × Charge}
    (h : x ∈ charges acts) : x.2 ∈ chargesIn (answersTo x.1 acts) := by
  induction acts with
  | nil => cases h
  | cons act acts ih =>
    cases act with
    | moved m => exact ih h
    | answered i op answer =>
      rw [charges] at h
      rw [answersTo]
      cases hc : chargeOf op answer with
      | none =>
        rw [hc] at h
        split_ifs
        · rw [chargesIn, List.filterMap_cons, hc]
          exact ih h
        · exact ih h
      | some charge =>
        rw [hc] at h
        rcases List.mem_cons.mp h with rfl | h
        · rw [if_pos rfl, chargesIn, List.filterMap_cons, hc]
          exact List.mem_cons_self ..
        · split_ifs
          · rw [chargesIn, List.filterMap_cons, hc]
            exact List.mem_cons_of_mem _ (ih h)
          · exact ih h

/-- An accepted check has charged every dimension it counts. -/
theorem accepted_settles
    (hrun : (Replicas.start l request clock).run acts = some c) {i : ι}
    (hi : c.accepted i = true) :
    List.Forall₂ (l.Settles (request i).1)
      ((l.dimensions (request i).2).filter (·.Counted)) (chargesIn (answersTo i acts)) := by
  refine Limiter.check_accepts ?_
  have hafter := history_follows hrun i
  have hret : c.procs i = .ret (.ok ()) := by
    unfold Replicas.accepted at hi
    cases hp : c.procs i with
    | call op k => rw [hp] at hi; cases hi
    | ret r =>
      rw [hp] at hi
      cases r with
      | error e => cases hi
      | ok u => rfl
  rw [hret] at hafter
  exact hafter

/-- A charge of an accepted check is named after the gateway, the account and its dimension, and was
within the limit. -/
theorem accepted_charge
    (hrun : (Replicas.start l request clock).run acts = some c)
    {x : ι × Charge} (hx : x ∈ charges acts) (hi : c.accepted x.1 = true) :
    ∃ q : Quantity, x.2.key.gateway = l.gateway ∧ x.2.key.dimension = q.name ∧
      x.2.count ≤ l.limitOn q := by
  have hsettles := accepted_settles hrun hi
  obtain ⟨d, hd, hset⟩ : ∃ d ∈ (l.dimensions (request x.1).2).filter (·.Counted),
      l.Settles (request x.1).1 d x.2 := by
    have hmem := mem_charges_answersTo hx
    generalize (l.dimensions (request x.1).2).filter (·.Counted) = ds at hsettles
    generalize chargesIn (answersTo x.1 acts) = cs at hsettles hmem
    induction hsettles with
    | nil => cases hmem
    | cons hdc _ ih =>
      rcases List.mem_cons.mp hmem with heq | hmem
      · exact ⟨_, List.mem_cons_self .., heq ▸ hdc⟩
      · obtain ⟨d, hd, hset⟩ := ih hmem
        exact ⟨d, List.mem_cons_of_mem _ hd, hset⟩
  obtain ⟨hgateway, -, hdim, -, hcount⟩ := hset
  have hrow : d = l.row (request x.1).2 .messages ∨ d = l.row (request x.1).2 .recipients := by
    simpa [Limiter.dimensions_eq] using List.mem_of_mem_filter hd
  rcases hrow with rfl | rfl
  · exact ⟨.messages, hgateway, hdim, hcount⟩
  · exact ⟨.recipients, hgateway, hdim, hcount⟩

/-- The accepted checks of one window are within the limit. -/
theorem total_le_limit (htimeout : l.timeout ≤ rateLimitWindow)
    (hrun : (Replicas.start l request clock).run acts = some c)
    {q : Quantity} (hlimit : 0 < l.limitOn q) (account : Bytes) (w : Nat) :
    c.total acts account q.name w ≤ l.limitOn q := by
  have hsound := (replicas_sound htimeout hrun).1
  -- a name all the charges of the window have
  let key : Key := ⟨l.gateway, account, q.name, w * rateLimitWindow⟩
  have hwindow : key.window = w := by
    show w * (60 * 1000000000) / 1000000000 / (60 * 1000000000 / 1000000000) = w
    omega
  refine le_trans (totalBy_mono hsound.positive fun x hx hp => ?_)
    (hsound.bounded key (l.limitOn q) hlimit.le)
  simp only [Bool.and_eq_true, beq_iff_eq] at hp
  obtain ⟨⟨⟨hi, haccount⟩, hdim⟩, hw⟩ := hp
  obtain ⟨q', hgateway, hdim', hcount⟩ := accepted_charge hrun hx hi
  obtain rfl := Quantity.name_inj (hdim.symm.trans hdim')
  have hname : x.2.key.name = key.name := by
    unfold Key.name
    rw [hwindow, hgateway, haccount, hdim, hw]
  simpa [hname] using hcount

omit [DecidableEq ι] in
/-- A sum over the charges of two kinds. -/
theorem totalBy_le_add {p q r : ι × Charge → Bool} (hpos : ∀ x ∈ charges acts, 0 ≤ x.2.by_)
    (h : ∀ x ∈ charges acts, p x = true → q x = true ∨ r x = true) :
    totalBy p acts ≤ totalBy q acts + totalBy r acts := by
  unfold totalBy
  generalize charges acts = cs at hpos h
  induction cs with
  | nil => exact le_refl _
  | cons x cs ih =>
    have ih' := ih (fun y hy => hpos y (List.mem_cons_of_mem _ hy))
      fun y hy => h y (List.mem_cons_of_mem _ hy)
    have hx := hpos x (List.mem_cons_self ..)
    have hor := h x (List.mem_cons_self ..)
    simp only [List.filter_cons]
    cases hp : p x <;> cases hq : q x <;> cases hr : r x <;> simp_all <;> omega

/-- A span of one window's length touches two windows. -/
theorem windowOf_span {t t' : Nat} (h : t ≤ t') (h' : t' ≤ t + rateLimitWindow) :
    windowOf t' = windowOf t ∨ windowOf t' = windowOf t + 1 := by
  unfold windowOf
  unfold rateLimitWindow second at *
  omega

/-- The accepted checks of a span of one window's length are within twice the limit. -/
theorem totalIn_le_limit (htimeout : l.timeout ≤ rateLimitWindow)
    (hrun : (Replicas.start l request clock).run acts = some c)
    {q : Quantity} (hlimit : 0 < l.limitOn q) (account : Bytes) (t : Nat) :
    c.totalIn acts account q.name t (t + rateLimitWindow) ≤ 2 * l.limitOn q := by
  have hsplit : c.totalIn acts account q.name t (t + rateLimitWindow) ≤
      c.total acts account q.name (windowOf t) + c.total acts account q.name (windowOf t + 1) := by
    refine totalBy_le_add (replicas_sound htimeout hrun).1.positive fun x _ hp => ?_
    simp only [Bool.and_eq_true, beq_iff_eq, decide_eq_true_eq] at hp ⊢
    obtain ⟨⟨⟨hi, haccount⟩, hdim⟩, hfirst, hlast⟩ := hp
    rcases windowOf_span hfirst hlast with hw | hw
    · exact .inl ⟨⟨⟨hi, haccount⟩, hdim⟩, hw⟩
    · exact .inr ⟨⟨⟨hi, haccount⟩, hdim⟩, hw⟩
  have hw := total_le_limit htimeout hrun hlimit account (windowOf t)
  have hw' := total_le_limit htimeout hrun hlimit account (windowOf t + 1)
  omega

/-- The charges of one dimension settle its rows. -/
theorem settles_filter {account : Bytes} {ds : List Dimension} {cs : List Charge}
    (h : List.Forall₂ (l.Settles account) ds cs) (name : Bytes) :
    List.Forall₂ (l.Settles account) (ds.filter (·.name == name))
      (cs.filter (·.key.dimension == name)) := by
  induction h with
  | nil => exact .nil
  | @cons d charge ds cs hset _ ih =>
    rw [List.filter_cons, List.filter_cons, hset.2.2.1]
    split_ifs
    · exact .cons hset ih
    · exact ih

/-- A dimension that has a limit has one row that is counted. -/
theorem rows_counted {q : Quantity} (hlimit : 0 < l.limitOn q) {n : Nat} (hn : 0 < n) :
    ((l.dimensions n).filter (·.Counted)).filter (·.name == q.name) = [l.row n q] := by
  have hcounted : (l.row n q).Counted := by
    refine ⟨hlimit, ?_⟩
    cases q with
    | messages => exact Int.one_pos
    | recipients => exact Int.natCast_pos.mpr hn
  have hname : ∀ q' : Quantity, ((l.row n q').name == q.name) = decide (q' = q) := fun q' => by
    rw [Bool.eq_iff_iff, beq_iff_eq, decide_eq_true_eq]
    exact ⟨Quantity.name_inj, fun h => h ▸ rfl⟩
  rw [Limiter.dimensions_eq, List.filter_comm]
  cases q <;> simp [hname, hcounted]

/-- An accepted check has charged a dimension that has a limit once. -/
theorem accepted_chargesOf
    (hrun : (Replicas.start l request clock).run acts = some c)
    {q : Quantity} (hlimit : 0 < l.limitOn q) {i : ι} (hn : 0 < (request i).2)
    (hi : c.accepted i = true) : ∃ charge, chargesOf i q.name acts = [charge] ∧
      l.Settles (request i).1 (l.row (request i).2 q) charge := by
  have hsettles := settles_filter (accepted_settles hrun hi) q.name
  rw [rows_counted hlimit hn] at hsettles
  unfold chargesOf
  generalize (chargesIn (answersTo i acts)).filter (·.key.dimension == q.name) = cs at hsettles ⊢
  cases hsettles with
  | cons hset hrest =>
    cases hrest
    exact ⟨_, rfl, hset⟩

/-- **The quota across replicas.** With a timeout no longer than a window, in every run of any number
of checks: what the accepted checks charge to a window is within its limit; what they charge within a
span of a window's length is within twice the limit; and an accepted check has charged its amount to
every dimension that has a limit, once. -/
theorem quota_holds (l : Limiter) (htimeout : l.timeout ≤ rateLimitWindow)
    (request : ι → Bytes × Nat) (hrecipients : ∀ i, 0 < (request i).2) (clock : Nat)
    (acts : List (ReplicaAct ι)) (c : Replicas ι)
    (hrun : (Replicas.start l request clock).run acts = some c)
    (q : Quantity) (hlimit : 0 < l.limitOn q) :
    (∀ account w, c.total acts account q.name w ≤ l.limitOn q) ∧
    (∀ account t, c.totalIn acts account q.name t (t + rateLimitWindow) ≤ 2 * l.limitOn q) ∧
    ∀ i, c.accepted i = true → ∃ charge, chargesOf i q.name acts = [charge] ∧
      charge.key.account = (request i).1 ∧ charge.by_ = q.amount (request i).2 ∧
        charge.count ≤ l.limitOn q := by
  refine ⟨total_le_limit htimeout hrun hlimit, totalIn_le_limit htimeout hrun hlimit, ?_⟩
  intro i hi
  obtain ⟨charge, hcharges, -, haccount, -, hby, hcount⟩ :=
    accepted_chargesOf hrun hlimit (hrecipients i) hi
  exact ⟨charge, hcharges, haccount, hby, hcount⟩

end

end

/-! ## Two checks -/

/-- A limiter of one message a minute. -/
def oneMessage (timeout : Int) : Limiter := ⟨lit "mx", ⟨1, 0, timeout⟩⟩

/-- Two checks of one account, of one recipient each. -/
def twoChecks (timeout : Int) (clock : Nat) : Replicas Bool :=
  .start (oneMessage timeout) (fun _ => (lit "app", 1)) clock

/-- The messages counter of a clock reading. -/
def messagesKey (at_ : Nat) : Key := ⟨lit "mx", lit "app", lit "messages", at_⟩

/-- A check reads the clock and counts its message. -/
def counts (i : Bool) (at_ deadline : Nat) (count : Int) : List (ReplicaAct Bool) :=
  [.answered i .now at_, .answered i .now at_,
    .answered i (.incrBy (messagesKey at_) 1 deadline) (Except.ok count)]

/-- The store has set the time to live of the counter, and the check returns. -/
def returns (i : Bool) (at_ deadline : Nat) : ReplicaAct Bool :=
  .answered i (.expireNX (messagesKey at_) (rateLimitWindow * 2) deadline) (Except.ok ())

/-- A check in the first window, from its start to its return. -/
def firstCheck : List (ReplicaAct Bool) := counts false 0 (2 * second) 1 ++ [returns false 0 (2 * second)]

/-- The run is one that the store and the replicas can take. -/
theorem firstCheck_runs : ((twoChecks 0 0).run firstCheck).isSome := by
  decide +kernel

/-- The system behind the first check. -/
def firstChecked : Replicas Bool := ((twoChecks 0 0).run firstCheck).get firstCheck_runs

/-- The bounds hold where one message a window is allowed and one of the two replicas has checked one. -/
theorem quota_holds_firstCheck :
    (∀ account w, firstChecked.total firstCheck account Quantity.messages.name w ≤ 1) ∧
    (∀ account t, firstChecked.totalIn firstCheck account Quantity.messages.name t
      (t + rateLimitWindow) ≤ 2 * 1) ∧
    ∀ i, firstChecked.accepted i = true →
      ∃ charge, chargesOf i Quantity.messages.name firstCheck = [charge] ∧
        charge.key.account = lit "app" ∧ charge.by_ = 1 ∧ charge.count ≤ 1 :=
  quota_holds (oneMessage 0) (by decide) (fun _ => (lit "app", 1)) (fun _ => Nat.one_pos) 0
    firstCheck firstChecked (Option.some_get firstCheck_runs).symm .messages (by decide)

/-- A check at the end of a window, up to the first moment of the next. -/
def lateCheck : List (ReplicaAct Bool) :=
  counts false (59 * second) (61 * second) 1 ++ [.moved (.tick (60 * second))]

/-- It returns, and so does a check that starts then. -/
def nextCheck : List (ReplicaAct Bool) :=
  returns false (59 * second) (61 * second) ::
    (counts true (60 * second) (62 * second) 1 ++ [returns true (60 * second) (62 * second)])

/-- A check at the start of a window, and one that names its counter at the end of the window but
counts only after the counter has expired. -/
def slowCheck : List (ReplicaAct Bool) :=
  counts false 0 (180 * second) 1 ++ [returns false 0 (180 * second), .moved (.tick (59 * second)),
    .answered true .now (59 * second), .answered true .now (59 * second),
    .moved (.tick (121 * second)), .moved (.expire (messagesKey 0).name),
    .answered true (.incrBy (messagesKey (59 * second)) 1 (239 * second)) (Except.ok 1),
    returns true (59 * second) (239 * second)]

/-- The run with a late check is one that can be taken. -/
theorem lateCheck_runs : ((twoChecks 0 (59 * second)).run lateCheck).isSome := by
  decide +kernel

/-- So is the one behind it. -/
theorem nextCheck_runs :
    (Replicas.run (((twoChecks 0 (59 * second)).run lateCheck).get lateCheck_runs)
      nextCheck).isSome := by
  decide +kernel

/-- So is the one with a slow replica. -/
theorem slowCheck_runs : ((twoChecks (180 * second) 0).run slowCheck).isSome := by
  decide +kernel

/-- Two checks return without an error in one window, though the limit is one. And with a timeout of
three minutes two checks are charged to one window. -/
theorem quota_exceeded :
    (∃ c₁ c₂ : Replicas Bool, (twoChecks 0 (59 * second)).run lateCheck = some c₁ ∧
      c₁.run nextCheck = some c₂ ∧
      windowOf c₁.service.clock = 1 ∧ windowOf c₂.service.clock = 1 ∧
      (∀ i, c₁.accepted i = false) ∧ (∀ i, c₂.accepted i = true)) ∧
    ∃ c : Replicas Bool, (twoChecks (180 * second) 0).run slowCheck = some c ∧
      c.total slowCheck (lit "app") Quantity.messages.name 0 = 2 := by
  refine ⟨⟨_, _, (Option.some_get lateCheck_runs).symm, (Option.some_get nextCheck_runs).symm, ?_⟩,
    _, (Option.some_get slowCheck_runs).symm, ?_⟩
  all_goals decide +kernel

end Mailout
