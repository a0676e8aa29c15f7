import Mailout.Account
import Mailout.Replicas

/-!
# What a counter counts

The counters of one account. `counterName_inj`: no two accounts, hosts, dimensions or minutes have a
counter in common, as a name can be read from its right end, whatever the host is called.

The rest follows the checks of one account through one minute, one after the other, at a store that
answers (`openStore`). A check adds to its counters before it compares them, so they hold what was
submitted, and not what was accepted: `check_refuses_iff`.
-/

namespace Mailout

open Go

/-- The dimensions of `limiter.check`. -/
def quotaDimensions : List Bytes := [lit "messages", lit "recipients"]

/-! ## Names -/

/-- A valid username has no colon. -/
theorem colon_not_mem_username {u : Bytes} (h : ValidUsername u = true) : colon ∉ u := by
  intro hmem
  unfold ValidUsername at h
  split_ifs at h
  have hbyte := List.all_eq_true.mp h colon hmem
  exact absurd hbyte (by decide)

/-- The names of the quantities have none either, so that the colons of a counter's name are where it is put
together. -/
theorem colon_not_mem_dimension {d : Bytes} (h : d ∈ quotaDimensions) : colon ∉ d := by
  revert d
  decide +kernel

/-- **Counters are not shared.** A host may have any name. -/
theorem counterName_inj {g g' u u' d d' : Bytes} {w w' : Int} (hu : ValidUsername u = true)
    (hu' : ValidUsername u' = true) (hd : d ∈ quotaDimensions) (hd' : d' ∈ quotaDimensions)
    (h : counterName g u d w = counterName g' u' d' w') :
    g = g' ∧ u = u' ∧ d = d' ∧ w = w' := by
  -- The last colon is in front of the window, the one before it in front of the dimension, and the
  -- one before that in front of the username: the host keeps whatever colons are left.
  obtain ⟨hthree, hw⟩ := counterName_window h
  rw [List.append_assoc _ [colon] d, List.append_assoc _ [colon] d'] at hthree
  obtain ⟨htwo, hdim⟩ :=
    append_cons_inj_last (colon_not_mem_dimension hd) (colon_not_mem_dimension hd') hthree
  rw [List.append_assoc _ [colon] u, List.append_assoc _ [colon] u'] at htwo
  obtain ⟨hone, husername⟩ :=
    append_cons_inj_last (colon_not_mem_username hu) (colon_not_mem_username hu') htwo
  exact ⟨List.append_cancel_left hone, husername, hdim, hw⟩

/-- The name of a counter of a gateway whose own name has a colon. -/
theorem counterName_inj_app :
    counterName (lit "mx:25") (lit "app") (lit "messages") 7 =
        counterName (lit "mx:25") (lit "app") (lit "messages") 7 ∧
      lit "mx:25" = lit "mx:25" ∧ lit "app" = lit "app" ∧ lit "messages" = lit "messages" ∧
        (7 : Int) = 7 :=
  ⟨rfl, counterName_inj (by decide +kernel) (by decide +kernel) (by decide +kernel)
    (by decide +kernel) rfl⟩

/-- The counters of one account in one window differ in their dimension. -/
theorem counterName_dimension {g u d d' : Bytes} {w : Int}
    (h : counterName g u d w = counterName g u d' w) : d = d' :=
  List.append_cancel_left (List.append_cancel_right (List.append_cancel_right h))

/-! ## One account in one window -/

/-- The counter of an account. -/
def Limiter.counter (l : Limiter) (account : Bytes) (window : Nat) (dimension : Bytes) : Bytes :=
  counterName l.gateway account dimension window

/-- A charge in a window goes to the counter of that window. -/
theorem Limiter.name_eq_counter {l : Limiter} {account dimension : Bytes} {at_ window : Nat}
    (h : windowOf at_ = window) :
    (⟨l.gateway, account, dimension, at_⟩ : Key).name = l.counter account window dimension := by
  rw [Key.name_eq, Limiter.counter, ← h]
  rfl

/-- A call that got an answer from the store. -/
def reached : (op : StoreCall) → op.Answer → Bool
  | .now, _ => true
  | .incrBy .., Except.ok _ => true
  | .incrBy .., Except.error _ => false
  | .expireNX .., Except.ok _ => true
  | .expireNX .., Except.error _ => false

/-- A move that counts under a name. -/
def Move.countsAs (name : Bytes) : Move → Bool
  | .tick _ => false
  | .expire _ => false
  | .lateIncrBy key _ => key.name == name
  | .lateExpireNX key => key.name == name

/-- The store as the checks of one account find it in one window. It answers, and the clock stays in
the window. Counters expire and other accounts are counted meanwhile. -/
def openStore (l : Limiter) (account : Bytes) (window : Nat) :
    Service StoreCall StoreCall.Answer Store Move where
  serve s op ans := if reached op ans then s.serve op ans else none
  move s m :=
    if quotaDimensions.any fun d => m.countsAs (l.counter account window d) then none
    else (s.move m).filter fun s' => windowOf s'.clock = window

/-- The checks of an account in a window, one after the other: the recipients of each and what it
returned. At first the account has no counter. -/
inductive Checked (l : Limiter) (account : Bytes) (window : Nat) :
    List (Nat × Except Err Unit) → Store → Prop
  | start {s : Store} : windowOf s.clock = window →
      (∀ d ∈ quotaDimensions, s.counters (l.counter account window d) = none) →
      Checked l account window [] s
  | check {past : List (Nat × Except Err Unit)} {s s' : Store} {recipients : Nat}
      {r : Except Err Unit} : Checked l account window past s →
      (Limiter.check (some l) account recipients).Completes (openStore l account window) s s' r →
      Checked l account window (past ++ [(recipients, r)]) s'

/-- The account's counters hold a tally and do not expire within the window. -/
structure Tallies (l : Limiter) (account : Bytes) (window : Nat) (tally : Bytes → Int)
    (s : Store) : Prop where
  here : windowOf s.clock = window
  lasts : ∀ d ∈ quotaDimensions, ∀ t, s.expiry (l.counter account window d) = some t →
    (window + 1) * rateLimitWindow ≤ t
  value : ∀ d ∈ quotaDimensions, s.value (l.counter account window d) = tally d

section
variable {l : Limiter} {account : Bytes} {window : Nat} {tally : Bytes → Int} {s s' : Store}

namespace Tallies

/-- Whatever the store does on its own within the window. -/
theorem moved {m : Move} (h : Tallies l account window tally s)
    (hm : (openStore l account window).move s m = some s') : Tallies l account window tally s' := by
  simp only [openStore] at hm
  split_ifs at hm with hown
  obtain ⟨hmove, hhere⟩ := Option.filter_eq_some_iff.mp hm
  have hother : ∀ d ∈ quotaDimensions, m.countsAs (l.counter account window d) = false := by
    intro d hd
    by_contra hne
    exact hown (List.any_eq_true.mpr ⟨d, hd, Bool.of_not_eq_false hne⟩)
  have hclock := of_decide_eq_true hhere
  cases m with
  | tick t =>
    simp only [Store.move] at hmove
    split_ifs at hmove
    cases hmove
    exact ⟨hclock, h.lasts, h.value⟩
  | expire name =>
    simp only [Store.move] at hmove
    split at hmove
    · rename_i deadline hdeadline
      split_ifs at hmove with hle
      cases hmove
      -- A counter of the account lives on to the end of the window.
      have hne : ∀ d ∈ quotaDimensions, l.counter account window d ≠ name := by
        rintro d hd rfl
        have hlasts := h.lasts d hd deadline hdeadline
        have hbound := (windowOf_bounds s.clock).2
        rw [h.here] at hbound
        omega
      refine ⟨h.here, fun d hd t ht => h.lasts d hd t ?_, fun d hd => ?_⟩
      · simpa [Store.expiry, Function.update_of_ne (hne d hd)] using ht
      · rw [← h.value d hd]
        simp [Store.value, Function.update_of_ne (hne d hd)]
    · cases hmove
  | lateIncrBy key by_ =>
    simp only [Store.move] at hmove
    split_ifs at hmove
    cases hmove
    refine ⟨hclock, fun d hd t ht => h.lasts d hd t (Store.expiry_incrBy ▸ ht), fun d hd => ?_⟩
    have hne : l.counter account window d ≠ key.name := fun heq =>
      beq_eq_false_iff_ne.mp (hother d hd) heq.symm
    rw [Store.value_incrBy, if_neg hne, h.value d hd]
  | lateExpireNX key =>
    simp only [Store.move] at hmove
    split_ifs at hmove
    cases hmove
    refine ⟨hclock, fun d hd t ht => ?_, fun d hd => ?_⟩
    · have hne : l.counter account window d ≠ key.name := fun heq =>
        beq_eq_false_iff_ne.mp (hother d hd) heq.symm
      rcases Store.expiry_expireNX ht with hold | ⟨heq, -⟩
      · exact h.lasts d hd t hold
      · exact absurd heq hne
    · rw [Store.value_expireNX, h.value d hd]

/-- `INCRBY` of a counter of the account. -/
theorem incrBy {d : Bytes} {by_ : Int} (h : Tallies l account window tally s) :
    Tallies l account window (Function.update tally d (tally d + by_))
      (s.incrBy (l.counter account window d) by_) := by
  refine ⟨h.here, fun d' hd' t ht => h.lasts d' hd' t (Store.expiry_incrBy ▸ ht), fun d' hd' => ?_⟩
  rw [Store.value_incrBy]
  by_cases hdd : d' = d
  · subst hdd
    rw [if_pos rfl, Function.update_self, h.value d' hd']
  · have hne : l.counter account window d' ≠ l.counter account window d := fun heq =>
      hdd (counterName_dimension heq)
    rw [if_neg hne, Function.update_of_ne hdd, h.value d' hd']

/-- `EXPIRE ... NX` of any counter. -/
theorem expireNX {name : Bytes} (h : Tallies l account window tally s) :
    Tallies l account window tally (s.expireNX name (rateLimitWindow * 2)) := by
  refine ⟨h.here, fun d hd t ht => ?_, fun d hd => ?_⟩
  · rcases Store.expiry_expireNX ht with hold | ⟨-, rfl⟩
    · exact h.lasts d hd t hold
    · have hbound := (windowOf_bounds s.clock).1
      rw [h.here] at hbound
      have hpos : (window + 1) * rateLimitWindow = window * rateLimitWindow + rateLimitWindow :=
        Nat.succ_mul ..
      omega
  · rw [Store.value_expireNX, h.value d hd]

end Tallies

/-- What a store that answers says. -/
theorem openStore_incrBy {key : Key} {by_ deadline : Int} {ans : Except Bytes Int}
    (h : (openStore l account window).serve s (.incrBy key by_ deadline) ans = some s') :
    ans = .ok (s.value key.name + by_) ∧ s' = s.incrBy key.name by_ := by
  cases ans with
  | error e => cases h
  | ok count =>
    have hserve : s.serve (.incrBy key by_ deadline) (.ok count) = some s' := h
    rcases Store.serve_incrBy hserve with ⟨e, he, -⟩ | ⟨hans, -, hs'⟩
    · cases he
    · exact ⟨hans, hs'⟩

/-- A store that is open sets the deadline and says so. -/
theorem openStore_expireNX {key : Key} {ttl : Nat} {deadline : Int} {ans : Except Bytes Unit}
    (h : (openStore l account window).serve s (.expireNX key ttl deadline) ans = some s') :
    ans = .ok () ∧ s' = s.expireNX key.name ttl := by
  cases ans with
  | error e => cases h
  | ok u =>
    have hserve : s.serve (.expireNX key ttl deadline) (.ok u) = some s' := h
    simp only [Store.serve] at hserve
    split_ifs at hserve
    cases hserve
    exact ⟨rfl, rfl⟩

/-- A turn of the loop of `limiter.check`: the dimension is added to its counter, and the sum is
compared. -/
theorem checkDimensions_completes {d : Dimension} {ds : List Dimension} {r : Except Err Unit}
    (hT : Tallies l account window tally s) (hname : d.name ∈ quotaDimensions) (hd : d.Counted)
    (h : (l.checkDimensions account (d :: ds)).Completes (openStore l account window) s s' r) :
    ∃ s₁, Tallies l account window (Function.update tally d.name (tally d.name + d.by_)) s₁ ∧
      ((if tally d.name + d.by_ > d.limit then .ret (.error (errOverQuota d.what))
        else l.checkDimensions account ds).Completes (openStore l account window) s₁ s' r) := by
  have hmoves : ∀ tally s m s', Tallies l account window tally s →
      (openStore l account window).move s m = some s' → Tallies l account window tally s' :=
    fun _ _ _ _ h => h.moved
  rw [Limiter.checkDimensions_counted hd] at h
  obtain ⟨s₁, start, s₂, hT₁, hserve₁, h₁⟩ := h.of_call (hmoves tally) hT
  obtain ⟨-, rfl⟩ := Store.serve_now hserve₁
  obtain ⟨s₃, at_, s₄, hT₂, hserve₂, h₂⟩ := h₁.of_call (hmoves tally) hT₁
  obtain ⟨rfl, rfl⟩ := Store.serve_now hserve₂
  -- The counter is named here; the clock may go on before it is incremented.
  have hkey : (⟨l.gateway, account, d.name, s₄.clock⟩ : Key).name = l.counter account window d.name :=
    Limiter.name_eq_counter hT₂.here
  obtain ⟨s₅, incr, s₆, hT₃, hserve₃, h₃⟩ := h₂.of_call (hmoves tally) hT₂
  obtain ⟨rfl, rfl⟩ := openStore_incrBy hserve₃
  rw [hkey, hT₃.value d.name hname] at h₃
  obtain ⟨s₇, expire, s₈, hT₄, hserve₄, h₄⟩ := h₃.of_call (hmoves _) hT₃.incrBy
  obtain ⟨rfl, rfl⟩ := openStore_expireNX hserve₄
  exact ⟨_, hT₄.expireNX, h₄⟩

/-! ## What was submitted -/

/-- The recipients of a sequence of checks. -/
def recipientsOf (checks : List (Nat × Except Err Unit)) : Nat := (checks.map Prod.fst).sum

/-- One more message is over a limit, behind those given. -/
def OverQuota (limits : RateLimit) (checks : List (Nat × Except Err Unit)) (recipients : Nat) :
    Prop :=
  0 < limits.messagesPerMinute ∧ limits.messagesPerMinute < checks.length + 1 ∨
    0 < limits.recipientsPerMinute ∧ 0 < recipients ∧
      limits.recipientsPerMinute < recipientsOf checks + recipients

instance (limits : RateLimit) (checks : List (Nat × Except Err Unit)) (recipients : Nat) :
    Decidable (OverQuota limits checks recipients) := inferInstanceAs (Decidable (_ ∨ _))

/-- A check returned a reply with code 452. -/
def RefusedForQuota (r : Except Err Unit) : Prop := ∃ e, r = .error (.smtp e) ∧ e.code = 452

/-- The reply for a quota that is used up is a refusal for quota. -/
theorem refusedForQuota_errOverQuota (what : Bytes) :
    RefusedForQuota (.error (errOverQuota what)) := ⟨_, rfl, rfl⟩

/-- A check that ends well refuses nothing. -/
theorem not_refusedForQuota_ok : ¬ RefusedForQuota (.ok ()) := by
  rintro ⟨e, he, -⟩
  cases he

/-- What the counters hold behind a sequence of checks. A check over the message limit does not get
to count its recipients. -/
structure Standing (l : Limiter) (account : Bytes) (window : Nat)
    (past : List (Nat × Except Err Unit)) (tally : Bytes → Int) (s : Store) : Prop where
  tallies : Tallies l account window tally s
  messages : 0 < l.limits.messagesPerMinute → tally (lit "messages") = past.length
  recipients : 0 < l.limits.recipientsPerMinute →
    (l.limits.messagesPerMinute ≤ 0 ∨ past.length ≤ l.limits.messagesPerMinute) →
    tally (lit "recipients") = recipientsOf past

variable {past : List (Nat × Except Err Unit)} {recipients : Nat} {r : Except Err Unit}

/-- Recipients add up. -/
theorem recipientsOf_append : recipientsOf (past ++ [(recipients, r)]) =
    recipientsOf past + recipients := by
  simp [recipientsOf]

/-- The two quantities are counted apart. -/
theorem messages_ne_recipients : lit "messages" ≠ lit "recipients" := by decide +kernel

/-- The last turn of `limiter.check`. -/
theorem check_recipients (hT : Tallies l account window tally s)
    (h : (l.checkDimensions account [⟨lit "recipients", lit "recipients",
      l.limits.recipientsPerMinute, recipients⟩]).Completes (openStore l account window) s s' r) :
    ∃ tally', Tallies l account window tally' s' ∧ tally' (lit "messages") = tally (lit "messages") ∧
      (0 < l.limits.recipientsPerMinute →
        tally' (lit "recipients") = tally (lit "recipients") + recipients) ∧
      r = if 0 < l.limits.recipientsPerMinute ∧ 0 < recipients ∧
          l.limits.recipientsPerMinute < tally (lit "recipients") + recipients
        then .error (errOverQuota (lit "recipients")) else .ok () := by
  by_cases hcounted : (⟨lit "recipients", lit "recipients", l.limits.recipientsPerMinute,
      recipients⟩ : Dimension).Counted
  · obtain ⟨hlimit, hby⟩ := id hcounted
    obtain ⟨s₁, hT₁, hrest⟩ := checkDimensions_completes hT (.tail _ (.head _)) hcounted h
    dsimp only at hlimit hby hT₁ hrest
    refine ⟨Function.update tally (lit "recipients") (tally (lit "recipients") + recipients), ?_,
      Function.update_of_ne messages_ne_recipients _ _, fun _ => Function.update_self _ _ _, ?_⟩
    · split_ifs at hrest with hover
      · exact (hrest.of_ret (fun _ _ _ h => h.moved) hT₁).1
      · exact (hrest.of_ret (fun _ _ _ h => h.moved) hT₁).1
    · split_ifs at hrest with hover
      · rw [if_pos ⟨hlimit, by omega, hover⟩]
        exact (hrest.of_ret (fun _ _ _ h => h.moved) hT₁).2
      · rw [if_neg fun hc => hover hc.2.2]
        exact (hrest.of_ret (fun _ _ _ h => h.moved) hT₁).2
  · rw [Limiter.checkDimensions_skipped hcounted] at h
    obtain ⟨hT', rfl⟩ := h.of_ret (fun _ _ _ h => h.moved) hT
    unfold Dimension.Counted at hcounted
    dsimp only at hcounted
    refine ⟨tally, hT', rfl, fun hlimit => ?_, (if_neg fun hc => ?_).symm⟩
    · omega
    · omega

/-- A check that is within the message limit. -/
theorem check_within (hT : Tallies l account window tally s)
    (hwithin : l.limits.messagesPerMinute ≤ 0 ∨ past.length + 1 ≤ l.limits.messagesPerMinute)
    (hmessages : 0 < l.limits.messagesPerMinute → tally (lit "messages") = past.length + 1)
    (hrecipients : 0 < l.limits.recipientsPerMinute → tally (lit "recipients") = recipientsOf past)
    (h : (l.checkDimensions account [⟨lit "recipients", lit "recipients",
      l.limits.recipientsPerMinute, recipients⟩]).Completes (openStore l account window) s s' r) :
    (∃ tally', Standing l account window (past ++ [(recipients, r)]) tally' s') ∧
      (OverQuota l.limits past recipients → RefusedForQuota r) ∧
      (¬ OverQuota l.limits past recipients → r = .ok ()) := by
  obtain ⟨tally', hT', hmessages', hrecipients', hr⟩ := check_recipients hT h
  refine ⟨⟨tally', hT', fun hpos => ?_, fun hpos _ => ?_⟩, fun hover => ?_, fun hover => ?_⟩
  · rw [hmessages', hmessages hpos]
    simp
  · rw [hrecipients' hpos, hrecipients hpos, recipientsOf_append]
    push_cast
    rfl
  · have hsecond : 0 < l.limits.recipientsPerMinute ∧ 0 < recipients ∧
        l.limits.recipientsPerMinute < recipientsOf past + recipients := by
      rcases hover with hfirst | hsecond
      · omega
      · exact hsecond
    rw [hr, if_pos ⟨hsecond.1, hsecond.2.1, hrecipients hsecond.1 ▸ hsecond.2.2⟩]
    exact refusedForQuota_errOverQuota _
  · rw [hr, if_neg]
    rintro ⟨hpos, hsome, hlt⟩
    rw [hrecipients hpos] at hlt
    exact hover (.inr ⟨hpos, hsome, hlt⟩)

/-- **One more check.** It is over quota together with what was submitted before it, or it returns no
error. -/
theorem Standing.check (hS : Standing l account window past tally s)
    (h : (Limiter.check (some l) account recipients).Completes (openStore l account window) s s' r) :
    (∃ tally', Standing l account window (past ++ [(recipients, r)]) tally' s') ∧
      (OverQuota l.limits past recipients → RefusedForQuota r) ∧
      (¬ OverQuota l.limits past recipients → r = .ok ()) := by
  have h : (l.checkDimensions account (l.dimensions recipients)).Completes
    (openStore l account window) s s' r := h
  unfold Limiter.dimensions at h
  by_cases hcounted : (⟨lit "messages", lit "messages", l.limits.messagesPerMinute, 1⟩ :
      Dimension).Counted
  · have hlimit : 0 < l.limits.messagesPerMinute := hcounted.1
    have hcount := hS.messages hlimit
    obtain ⟨s₁, hT₁, hrest⟩ := checkDimensions_completes hS.tallies (.head _) hcounted h
    dsimp only at hT₁ hrest
    split_ifs at hrest with hover
    · obtain ⟨hT', rfl⟩ := hrest.of_ret (fun _ _ _ h => h.moved) hT₁
      refine ⟨⟨_, hT', fun _ => ?_, fun _ hle => ?_⟩,
        fun _ => refusedForQuota_errOverQuota _, fun hnot => ?_⟩
      · rw [Function.update_self, hcount]
        simp
      · -- From here on the recipients are no longer counted.
        rw [List.length_append, List.length_singleton] at hle
        omega
      · exact absurd (Or.inl ⟨hlimit, by omega⟩) hnot
    · refine check_within hT₁ (.inr (by omega)) (fun _ => ?_) (fun hpos => ?_) hrest
      · rw [Function.update_self, hcount]
      · rw [Function.update_of_ne messages_ne_recipients.symm]
        exact hS.recipients hpos (.inr (by omega))
  · rw [Limiter.checkDimensions_skipped hcounted] at h
    have hlimit : l.limits.messagesPerMinute ≤ 0 := by
      unfold Dimension.Counted at hcounted
      dsimp only at hcounted
      omega
    refine check_within hS.tallies (.inl hlimit) (fun hpos => ?_) (fun hpos => ?_) h
    · omega
    · exact hS.recipients hpos (.inl hlimit)

/-- After checks of an account, its counters have what was charged. -/
theorem Checked.standing (h : Checked l account window past s) :
    ∃ tally, Standing l account window past tally s := by
  induction h with
  | @start s hhere hnone =>
    refine ⟨fun _ => 0, ⟨hhere, fun d hd t ht => ?_, fun d hd => ?_⟩, fun _ => rfl, fun _ _ => rfl⟩
    · rw [Store.expiry, hnone d hd] at ht
      cases ht
    · rw [Store.value, hnone d hd]
      rfl
  | check hpast hrun ih =>
    obtain ⟨tally, hS⟩ := ih
    exact (hS.check hrun).1

/-- **Refused for what was submitted.** A check of an account is refused with 452 if and only if the
messages submitted in the window, accepted or not, are over a limit with it, or their recipients are.
Every other one returns no error. -/
theorem check_refuses_iff (hpast : Checked l account window past s)
    (h : (Limiter.check (some l) account recipients).Completes (openStore l account window) s s' r) :
    (RefusedForQuota r ↔ OverQuota l.limits past recipients) ∧ (¬ RefusedForQuota r → r = .ok ()) := by
  obtain ⟨tally, hS⟩ := hpast.standing
  obtain ⟨-, hover, hwithin⟩ := hS.check h
  have hiff : RefusedForQuota r ↔ OverQuota l.limits past recipients := by
    refine ⟨fun hr => ?_, hover⟩
    by_contra hnot
    rw [hwithin hnot] at hr
    exact not_refusedForQuota_ok hr
  exact ⟨hiff, fun hr => hwithin fun ho => hr (hover ho)⟩

/-- A turn of the loop of `limiter.check` that is answered at once. -/
theorem checkDimensions_served {d : Dimension} {ds : List Dimension} (hd : d.Counted)
    (hhere : windowOf s.clock = window) (htimeout : 0 ≤ l.timeout)
    (h : (l.judge account d ds (.ok (s.value (l.counter account window d.name) + d.by_))
      (.ok ())).Completes (openStore l account window)
      ((s.incrBy (l.counter account window d.name) d.by_).expireNX (l.counter account window d.name)
        (rateLimitWindow * 2)) s' r) :
    (l.checkDimensions account (d :: ds)).Completes (openStore l account window) s s' r := by
  have hkey : (⟨l.gateway, account, d.name, s.clock⟩ : Key).name = l.counter account window d.name :=
    Limiter.name_eq_counter hhere
  have hintime : (s.clock : Int) ≤ s.clock + l.timeout := by omega
  rw [← hkey] at h
  rw [Limiter.checkDimensions_counted hd]
  have hnow : (openStore l account window).serve s .now s.clock = some s := if_pos rfl
  have hincr : (openStore l account window).serve s
      (.incrBy ⟨l.gateway, account, d.name, s.clock⟩ d.by_ (s.clock + l.timeout))
      (.ok (s.value (Key.name ⟨l.gateway, account, d.name, s.clock⟩) + d.by_)) = some _ :=
    if_pos ⟨hintime, rfl⟩
  have hexpire : ∀ s₁ : Store, s₁.clock = s.clock → (openStore l account window).serve s₁
      (.expireNX ⟨l.gateway, account, d.name, s.clock⟩ (rateLimitWindow * 2) (s.clock + l.timeout))
      (.ok ()) = some _ := fun s₁ hclock => if_pos (hclock ▸ hintime)
  exact .call hnow (.call hnow (.call hincr (.call (hexpire _ rfl) h)))

end

/-- The checks that returned no error. -/
def acceptedOf (checks : List (Nat × Except Err Unit)) : List (Nat × Except Err Unit) :=
  checks.filter fun c => match c.2 with
    | .ok _ => true
    | .error _ => false

/-- Two recipients a minute. -/
def twoRecipients : Limiter := ⟨lit "mx", ⟨0, 2, 0⟩⟩

/-- A message over the limit, in the first minute. -/
theorem twoRecipients_refuses {account : Bytes} {s : Store} {n : Nat} (hhere : windowOf s.clock = 0)
    (hn : 0 < n)
    (hover : 2 < s.value (twoRecipients.counter account 0 (lit "recipients")) + n) :
    (Limiter.check (some twoRecipients) account n).Completes (openStore twoRecipients account 0) s
      ((s.incrBy (twoRecipients.counter account 0 (lit "recipients")) n).expireNX
        (twoRecipients.counter account 0 (lit "recipients")) (rateLimitWindow * 2))
      (.error (errOverQuota (lit "recipients"))) := by
  show (twoRecipients.checkDimensions account (_ :: _)).Completes _ _ _ _
  rw [Limiter.checkDimensions_skipped (by decide)]
  have hcounted : (0 : Int) < 2 ∧ (0 : Int) < n := ⟨by decide, Int.natCast_pos.mpr hn⟩
  refine checkDimensions_served hcounted hhere (by decide) ?_
  rw [Limiter.judge, if_pos (by exact hover)]
  exact .ret _ _

/-- A store without counters, in the first minute. -/
theorem checked_empty (l : Limiter) (account : Bytes) :
    Checked l account 0 [] ⟨0, fun _ => none⟩ := .start rfl fun _ _ => rfl

/-- **A refusal is paid for.** A message to three is refused and leaves the counter at three, so that
a message to one is refused behind it, though nothing was accepted. -/
theorem refused_message_counts :
    ∃ past s s' r, Checked twoRecipients (lit "app") 0 past s ∧
      (Limiter.check (some twoRecipients) (lit "app") 1).Completes
        (openStore twoRecipients (lit "app") 0) s s' r ∧
      RefusedForQuota r ∧ acceptedOf past = [] ∧
      ¬ OverQuota twoRecipients.limits (acceptedOf past) 1 := by
  have hthree := @twoRecipients_refuses (lit "app") ⟨0, fun _ => none⟩ 3 rfl (by decide) (by decide)
  refine ⟨_, _, _, _, .check (checked_empty _ _) hthree,
    twoRecipients_refuses rfl (by decide) ?_, refusedForQuota_errOverQuota _, rfl, by decide⟩
  rw [Store.value_expireNX, Store.value_incrBy, if_pos rfl]
  decide

/-- Three recipients where two a minute are allowed. -/
theorem check_refuses_iff_three :
    ∃ s' r, (Limiter.check (some twoRecipients) (lit "app") 3).Completes
        (openStore twoRecipients (lit "app") 0) ⟨0, fun _ => none⟩ s' r ∧
      (RefusedForQuota r ↔ OverQuota twoRecipients.limits [] 3) ∧
      (¬ RefusedForQuota r → r = .ok ()) := by
  have hthree := @twoRecipients_refuses (lit "app") ⟨0, fun _ => none⟩ 3 rfl (by decide) (by decide)
  exact ⟨_, _, hthree, check_refuses_iff (checked_empty _ _) hthree⟩

end Mailout
