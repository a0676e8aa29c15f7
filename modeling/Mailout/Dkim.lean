import Mailout.Policy
import Mailout.Peers

/-!
# Signing

`internal/gateway/dkim.go`: the key is looked up by the domain of the envelope sender or, without one
for it, by that of the first From field, and used if the sender policy may sign for its domain. The
signed message is a new spool that takes the place of the old one.

`says_sign` says that a signature is counted under a domain only if the policy may sign for it.
-/

namespace Mailout

open Go

/-- `DKIMKey`. -/
structure DKIMKey where
  domain : Bytes
  selector : Bytes
  privateKeyPEM : Bytes
  privateKeyFile : Bytes
  headerKeys : List Bytes
  deriving DecidableEq, Repr

/-- `dkimSigner`, the values of its map. No two have one domain. -/
abbrev DKIMSigner := List LoadedDKIMKey

namespace DKIMSigner

/-- `s.byDomain[domain]`. -/
def byDomain (s : DKIMSigner) (domain : Bytes) : Option LoadedDKIMKey :=
  s.find? fun key => key.domain == domain

/-- `dkimSigner.empty`. -/
def empty (s : DKIMSigner) : Bool := s.length == 0

end DKIMSigner

/-- The loop of `newDKIMSigner`, from the `i`-th key on; `load` is `loadDKIMPrivateKey`. -/
def newDKIMSignerFrom (load : DKIMKey → Except Bytes Nat) :
    Nat → List DKIMKey → DKIMSigner → Except Bytes DKIMSigner
  | _, [], s => .ok s
  | i, k :: ks, s =>
    if k.domain = [] ∨ k.selector = [] then
      .error (lit "dkim[" ++ formatNat i ++ lit "]: domain and selector are required")
    else
      match load k with
      | .error err => .error (lit "dkim " ++ k.selector ++ lit "/" ++ k.domain ++ lit ": " ++ err)
      | .ok signer =>
        let domain := toLower k.domain
        if (s.byDomain domain).isSome then .error (lit "dkim: two keys for domain " ++ domain)
        else newDKIMSignerFrom load (i + 1) ks (s ++ [⟨domain, k.selector, signer, k.headerKeys⟩])

/-- `newDKIMSigner`. -/
def newDKIMSigner (load : DKIMKey → Except Bytes Nat) (keys : List DKIMKey) :
    Except Bytes DKIMSigner :=
  newDKIMSignerFrom load 0 keys []

/-- `domainOf`. -/
def domainOf (address : Bytes) : Bytes :=
  match cut atSign (insideAngles address) with
  | none => []
  | some (_, domain) => toLower (trimSpace domain)

/-- `fmt.Errorf("sign for %s: %w", ...)`. -/
def signError (domain : Bytes) : Err → Err
  | .other message => .other (lit "sign for " ++ domain ++ lit ": " ++ message)
  | e => e

section
variable (peers : Peers)

open Tx

/-- The first field of that name, ignoring case. -/
def firstFrom (fields : List HeaderField) : Option HeaderField :=
  fields.find? fun field => equalFold field.name (lit "From")

/-- `dkimSigner.keyFor`. -/
def keyFor (s : DKIMSigner) : Tx (Option LoadedDKIMKey) := do
  let msg ← message
  match s.byDomain (domainOf msg.from_) with
  | some key => return some key
  | none =>
    match ← Comp.attempt (onSpool msg.body Spool.headerBlock) with
    | .error _ => return none
    | .ok (header, _) =>
      return (firstFrom (parseMessage header).headers).bind fun field => s.byDomain (domainOf field.value)

/-- `dkimSigner.sign`, once there is a key that may be used. -/
def signWith (key : LoadedDKIMKey) : Tx Unit := do
  let msg ← message
  match ← Comp.attempt (onSpool msg.body Spool.reader) with
  | .error e =>
    emit (.dkimResult key.domain .failed)
    Comp.fail e
  | .ok source =>
    let signed ← sibling msg.body
    match ← Comp.attempt (peers.dkim.sign key msg.body source signed) with
    | .error e =>
      close signed
      emit (.dkimResult key.domain .failed)
      Comp.fail (signError key.domain e)
    | .ok () =>
      close msg.body
      setMessage { msg with body := signed }
      emit (.dkimResult key.domain .signed)

/-- `dkimSigner.sign`. -/
def sign (s : DKIMSigner) (policy : SenderPolicy) : Tx Unit := do
  match ← keyFor s with
  | none => return
  | some key =>
    if policy.canSign key.domain then signWith peers key
    else emit (.dkimResult key.domain .refused)

end

/-! ## What signing says -/

section
variable (peers : Peers)

open Tx Comp

/-- Looking for the key reads the header block at most. -/
theorem silent_keyFor (s : DKIMSigner) : Keeps Silent (keyFor s) := by
  refine .bind Silent.trans silent_message fun msg => ?_
  cases s.byDomain (domainOf msg.from_) with
  | some key => exact .pure Silent.refl _
  | none =>
    refine .bind Silent.trans (.attempt (silent_onSpool _ _)) fun r => ?_
    cases r with
    | error e => exact .pure Silent.refl _
    | ok block => exact .pure Silent.refl _

/-- It changes neither the message nor a body. -/
theorem watches_keyFor (signer : DKIMSigner) : Keeps Watches (keyFor signer) := by
  refine .bind Watches.trans watches_message fun msg => ?_
  cases signer.byDomain (domainOf msg.from_) with
  | some key => exact .pure Watches.refl _
  | none =>
    refine .bind Watches.trans
      (.attempt (watches_onSpool fun st => (Spool.headerBlock_yields st).1)) fun r => ?_
    cases r with
    | error e => exact .pure Watches.refl _
    | ok block => exact .pure Watches.refl _

/-- It does not fail: a header block that cannot be read names no domain. Without keys it finds none. -/
theorem keyFor_run (s : DKIMSigner) (w : World) :
    ∃ key w', (keyFor s).run w = (.ok key, w') ∧ (s = [] → key = none) := by
  rw [keyFor, Comp.run_bind_of_ok (run_message w)]
  cases hkey : s.byDomain (domainOf w.msg.from_) with
  | some key =>
    refine ⟨some key, w, rfl, ?_⟩
    rintro rfl
    cases hkey
  | none =>
    have hattempt : (Comp.attempt (onSpool w.msg.body Spool.headerBlock)).run w = _ :=
      Comp.run_attempt _ _
    show ∃ key w', (Comp.attempt (onSpool w.msg.body Spool.headerBlock) >>= fun _ => _ :
      Tx (Option LoadedDKIMKey)).run w = (.ok key, w') ∧ _
    rw [Comp.run_bind_of_ok hattempt]
    rcases ((onSpool w.msg.body Spool.headerBlock).run w).1 with e | ⟨header, terminated⟩
    · exact ⟨none, _, rfl, fun _ => rfl⟩
    · refine ⟨_, _, rfl, ?_⟩
      rintro rfl
      cases firstFrom (parseMessage header).headers <;> rfl

/-- The library says nothing: it reads one spool and writes another. -/
theorem silent_dkim (key : LoadedDKIMKey) (body : SpoolRef) (source : Reader) (signed : SpoolRef) :
    Keeps Silent (peers.dkim.sign key body source signed) :=
  peers.dkim.through key body source signed Silent.refl Silent.trans (fun _ => silent_onSpool _ _)
    fun _ => silent_onSpool _ _

/-- It works on the spool it writes, and reads the other one. -/
theorem works_dkim (key : LoadedDKIMKey) (body : SpoolRef) (source : Reader) (signed : SpoolRef) :
    Keeps (Works signed) (peers.dkim.sign key body source signed) :=
  peers.dkim.through key body source signed Works.refl Works.trans
    (fun limit => works_of_watches (watches_onSpool (Spool.deliver_reading source limit)))
    fun _ => works_onSpool _

/-- A use of a key is counted once, under its domain. -/
theorem says_signWith {P : Event → Prop} (key : LoadedDKIMKey)
    (hfailed : P (.dkimResult key.domain .failed)) (hsigned : P (.dkimResult key.domain .signed)) :
    Keeps (Says P) (signWith peers key) := by
  refine .bind Says.trans (says_of_silent silent_message) fun msg => ?_
  refine .bind Says.trans (.attempt (says_of_silent (silent_onSpool _ _))) fun source => ?_
  cases source with
  | error e => exact .bind Says.trans (says_emit hfailed) fun _ => .fail Says.refl _
  | ok source =>
    refine .bind Says.trans (says_of_silent (silent_sibling _)) fun signed => ?_
    refine .bind Says.trans (.attempt (says_of_silent (silent_dkim peers _ _ _ _))) fun r => ?_
    cases r with
    | error e =>
      refine .bind Says.trans (says_of_silent (silent_close _)) fun _ => ?_
      exact .bind Says.trans (says_emit hfailed) fun _ => .fail Says.refl _
    | ok u =>
      refine .bind Says.trans (says_of_silent (silent_close _)) fun _ => ?_
      refine .bind Says.trans (says_of_silent (silent_setMessage _)) fun _ => ?_
      exact says_emit hsigned

/-- **Signing.** A signature is counted under a domain only if the policy may sign for it. -/
theorem says_sign {P : Event → Prop} (s : DKIMSigner) (policy : SenderPolicy)
    (hrefused : ∀ d, P (.dkimResult d .refused)) (hfailed : ∀ d, P (.dkimResult d .failed))
    (hsigned : ∀ d, policy.canSign d = true → P (.dkimResult d .signed)) :
    Keeps (Says P) (sign peers s policy) := by
  refine .bind Says.trans (says_of_silent (silent_keyFor s)) fun key => ?_
  cases key with
  | none => exact .pure Says.refl _
  | some key =>
    show Keeps (Says P) (if policy.canSign key.domain = true then _ else _)
    split_ifs with hsign
    · exact says_signWith peers key (hfailed _) (hsigned _ hsign)
    · exact says_emit (hrefused _)

end

end Mailout
