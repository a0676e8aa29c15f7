import Mailout.Go.Duration
import Mathlib.Data.List.Sort

/-!
# Values in a file

`encoding/json` at the level of its values, as `sigs.k8s.io/yaml` uses it: what is written goes through a
map, which sorts the keys of every object, and what is read is decoded strictly into the zero value of its
type. A `Codec` has both directions for one type; `Codec.Reads` says what a value is read back as.

A struct is put together from its `Fields`. The keys of an object are matched exactly or else by folding
their case. No two fields of a struct have one name, so each is given what was written for it, wherever
the sorting put it (`decodeField_written`), and a struct is read back field by field
(`Fields.Reads.struct`).
-/

namespace Go

/-- A JSON value; a number keeps its text. -/
inductive Json where
  | null
  | bool (b : Bool)
  | num (text : Bytes)
  | str (text : Bytes)
  | arr (items : List Json)
  | obj (members : List (Bytes × Json))
  deriving Repr

/-- The members of an object in the order a map is printed in. -/
def sortKeys (members : List (Bytes × Json)) : List (Bytes × Json) :=
  members.insertionSort fun a b => a.1 ≤ b.1

mutual

/-- A value that went through a map: the keys of every object are sorted. -/
def Json.sorted : Json → Json
  | .arr items => .arr (Json.sortedItems items)
  | .obj members => .obj (sortKeys (Json.sortedMembers members))
  | v => v

def Json.sortedItems : List Json → List Json
  | [] => []
  | v :: vs => v.sorted :: Json.sortedItems vs

def Json.sortedMembers : List (Bytes × Json) → List (Bytes × Json)
  | [] => []
  | (key, v) :: ms => (key, v.sorted) :: Json.sortedMembers ms

end

/-- The members are sorted in place, each value by itself. -/
theorem Json.sortedMembers_eq : ∀ ms : List (Bytes × Json),
    Json.sortedMembers ms = ms.map fun m => (m.1, m.2.sorted)
  | [] => rfl
  | (key, v) :: ms => congrArg ((key, v.sorted) :: ·) (Json.sortedMembers_eq ms)

/-- The items of an array are sorted each by itself. -/
theorem Json.sortedItems_eq : ∀ vs : List Json, Json.sortedItems vs = vs.map Json.sorted
  | [] => rfl
  | v :: vs => congrArg (v.sorted :: ·) (Json.sortedItems_eq vs)

/-- The members of a sorted object are those it had, sorted themselves. -/
theorem sortKeys_perm (ms : List (Bytes × Json)) :
    (sortKeys (Json.sortedMembers ms)).Perm (ms.map fun m => (m.1, m.2.sorted)) := by
  rw [Json.sortedMembers_eq]
  exact List.perm_insertionSort _ _

/-! ## Decoding -/

/-- Why a value was not decoded. -/
inductive DecodeError where
  | unknownField (key : Bytes)
  | mismatch
  | duration (text : Bytes) (why : DurationError)
  deriving DecidableEq, Repr

/-- Both directions of one type. A value is decoded into another, which keeps what the JSON is silent
about. -/
structure Codec (α : Type) where
  zero : α
  enc : α → Json
  dec : Json → α → Except DecodeError α

/-- What a value that was written is read back as. -/
def Codec.Reads {α : Type} (c : Codec α) (a a' : α) : Prop := c.dec (c.enc a).sorted c.zero = .ok a'

/-- What `json.Marshal` makes of a string: bytes that are not UTF-8 become `U+FFFD`. -/
def coerce (s : Bytes) : Bytes := encodeRunes ((runes s).map RuneAt.rune)

/-- A `string`. For one, `sigs.k8s.io/yaml` turns any scalar into its text. -/
def stringCodec : Codec Bytes where
  zero := []
  enc s := .str (coerce s)
  dec
    | .str s, _ => .ok s
    | .num s, _ => .ok s
    | .bool b, _ => .ok (if b then lit "true" else lit "false")
    | .null, cur => .ok cur
    | _, _ => .error .mismatch

/-- A `bool`. -/
def boolCodec : Codec Bool where
  zero := false
  enc b := .bool b
  dec
    | .bool b, _ => .ok b
    | .null, cur => .ok cur
    | _, _ => .error .mismatch

/-- An `int` of 64 bits. -/
def intCodec : Codec Int where
  zero := 0
  enc n := .num (formatInt n)
  dec
    | .num s, _ =>
      match atoi s with
      | some n => .ok n
      | none => .error .mismatch
    | .null, cur => .ok cur
    | _, _ => .error .mismatch

/-- The elements of an array, decoded into those that are there. -/
def decodeItems {α : Type} (c : Codec α) : List Json → List α → Except DecodeError (List α)
  | [], _ => .ok []
  | v :: vs, cur => do
    let a ← c.dec v (cur.head?.getD c.zero)
    let as ← decodeItems c vs cur.tail
    return a :: as

/-- A slice; one without elements is written as the `nil` it is. -/
def listCodec {α : Type} (c : Codec α) : Codec (List α) where
  zero := []
  enc
    | [] => .null
    | a :: as => .arr ((a :: as).map c.enc)
  dec
    | .arr items, cur => decodeItems c items cur
    | .null, _ => .ok []
    | _, _ => .error .mismatch

/-- A pointer. -/
def pointerCodec {α : Type} (c : Codec α) : Codec (Option α) where
  zero := none
  enc
    | none => .null
    | some a => c.enc a
  dec
    | .null, _ => .ok none
    | v, cur => (c.dec v (cur.getD c.zero)).map some

/-! ### Structs -/

/-- The field a key is for: the one of that name, or else the first whose name differs in case only. -/
def matchName (names : List Bytes) (key : Bytes) : Option Bytes :=
  if key ∈ names then some key else names.find? (equalFold key)

/-- The fields of a struct that are written; `none` is one that `omitempty` leaves out. -/
def present (fields : List (Bytes × Option Json)) : List (Bytes × Json) :=
  fields.filterMap fun f => f.2.map fun v => (f.1, v)

/-- The object of a struct's fields. -/
def Json.object (fields : List (Bytes × Option Json)) : Json := .obj (present fields)

/-- One field of a struct with those names: the members that match it are decoded into it. -/
def decodeField {α : Type} (names : List Bytes) (c : Codec α) (name : Bytes)
    (members : List (Bytes × Json)) (cur : α) : Except DecodeError α :=
  (members.filter fun m => matchName names m.1 = some name).foldlM (fun cur m => c.dec m.2 cur) cur

/-- A struct with those names, and `dec` for its fields. A key that is for none of them is refused. -/
def decodeStruct {α : Type} (names : List Bytes)
    (dec : List (Bytes × Json) → α → Except DecodeError α) : Json → α → Except DecodeError α
  | .obj members, cur =>
    match members.find? fun m => (matchName names m.1).isNone with
    | some m => .error (.unknownField m.1)
    | none => dec members cur
  | .null, cur => .ok cur
  | _, _ => .error .mismatch

/-- The fields of a struct, as a tuple: their names, what is written for them, and how they are read
from the members of an object. -/
structure Fields (α : Type) where
  zero : α
  names : List Bytes
  write : α → List (Bytes × Option Json)
  read : List Bytes → List (Bytes × Json) → α → Except DecodeError α
  write_names : ∀ a, (write a).map Prod.fst = names

namespace Fields

variable {α β : Type}

def nil : Fields Unit where
  zero := ()
  names := []
  write _ := []
  read _ _ _ := .ok ()
  write_names _ := rfl

/-- One more field, with what is written for it. -/
def cons (name : Bytes) (c : Codec α) (value : α → Option Json) (rest : Fields β) : Fields (α × β) where
  zero := (c.zero, rest.zero)
  names := name :: rest.names
  write p := (name, value p.1) :: rest.write p.2
  read names members cur := do
    let a ← decodeField names c name members cur.1
    let b ← rest.read names members cur.2
    return (a, b)
  write_names p := congrArg (name :: ·) (rest.write_names p.2)

/-- A field that is always written. -/
def always (name : Bytes) (c : Codec α) (rest : Fields β) : Fields (α × β) :=
  cons name c (fun a => some (c.enc a)) rest

/-- A field with `omitempty`. -/
def omitEmpty [DecidableEq α] (name : Bytes) (c : Codec α) (rest : Fields β) : Fields (α × β) :=
  cons name c (fun a => if a = c.zero then none else some (c.enc a)) rest

/-- A struct with those fields. -/
def struct {σ : Type} (fs : Fields α) (get : σ → α) (make : α → σ) : Codec σ where
  zero := make fs.zero
  enc s := .object (fs.write (get s))
  dec := decodeStruct fs.names fun members cur => (fs.read fs.names members (get cur)).map make

end Fields

/-! ## What is written is read -/

/-- A string of UTF-8. -/
def Utf8 (s : Bytes) : Prop := coerce s = s

instance decidableUtf8 (s : Bytes) : Decidable (Utf8 s) := inferInstanceAs (Decidable (coerce s = s))

/-- A string that is not empty is not empty as UTF-8: every byte leaves a rune. -/
theorem coerce_eq_nil {s : Bytes} : coerce s = [] ↔ s = [] := by
  constructor
  · intro h
    by_contra hs
    obtain ⟨c, cs, hcs⟩ : ∃ c cs, runes s = c :: cs := by
      rw [runes_of_ne_nil hs]
      exact ⟨_, _, rfl⟩
    rw [coerce, hcs] at h
    exact encodeRune_ne_nil _ (List.append_eq_nil_iff.mp h).1
  · rintro rfl
    rfl

/-- ASCII is UTF-8. -/
theorem utf8_of_ascii : ∀ {s : Bytes}, (∀ c ∈ s, c.toNat < runeSelf) → Utf8 s
  | [], _ => rfl
  | c :: s, h => by
    have hc := h c List.mem_cons_self
    have ih : coerce s = s := utf8_of_ascii fun d hd => h d (List.mem_cons_of_mem c hd)
    have hcons : coerce (c :: s) = encodeRune c.toNat ++ coerce s := by
      rw [coerce, runes_ascii_cons hc]
      rfl
    rw [Utf8, hcons, encodeRune_ascii hc, ih]
    rfl

/-- A string that is not UTF-8 is not made ASCII. -/
theorem utf8_of_coerce_ascii {s : Bytes} : (∀ c ∈ coerce s, c.toNat < runeSelf) → Utf8 s := by
  induction s using runes_induction with
  | nil => exact fun _ => rfl
  | step s hs ih =>
    intro h
    have hcons : coerce s = encodeRune (decodeRune s).1 ++ coerce (s.drop (decodeRune s).2) := by
      rw [coerce, runes_of_ne_nil hs]
      rfl
    rw [hcons] at h
    obtain ⟨b, bs, hb⟩ := List.exists_cons_of_ne_nil (encodeRune_ne_nil (decodeRune s).1)
    have hmem : b ∈ encodeRune (decodeRune s).1 := hb ▸ List.mem_cons_self
    have hascii := h b (List.mem_append_left _ hmem)
    obtain ⟨t, rfl⟩ := eq_cons_of_decodeRune hs hascii (eq_of_mem_encodeRune hmem hascii).symm
    have hrune : decodeRune (b :: t) = (b.toNat, 1) := if_pos hascii
    have htail : coerce t = t := by
      rw [hrune] at ih h
      exact ih fun c hc => h c (List.mem_append_right _ hc)
    rw [Utf8, hcons, hrune, encodeRune_ascii hascii]
    exact congrArg (b :: ·) htail

/-- A string is read back as UTF-8. -/
theorem stringCodec_reads (s : Bytes) : stringCodec.Reads s (coerce s) := rfl

/-- A Boolean is read back as it was written. -/
theorem boolCodec_reads (b : Bool) : boolCodec.Reads b b := rfl

/-- The numbers of an `int64`. -/
def FitsInt64 (n : Int) : Prop := -2 ^ 63 ≤ n ∧ n < 2 ^ 63

/-- An integer is read back if it is an `int64`. -/
theorem intCodec_reads {n : Int} (h : FitsInt64 n) : intCodec.Reads n n := by
  have hread := atoi_formatInt h.1 h.2
  show intCodec.dec (.num (formatInt n)) 0 = .ok n
  simp only [intCodec, hread]

/-- The items are read back one by one, in their order. -/
theorem decodeItems_reads {α : Type} {c : Codec α} {f : α → α} : ∀ {as : List α},
    (∀ a ∈ as, c.Reads a (f a)) →
    decodeItems c ((as.map c.enc).map Json.sorted) [] = .ok (as.map f)
  | [], _ => rfl
  | a :: as, h => by
    have hhead : c.dec (c.enc a).sorted c.zero = .ok (f a) := h a List.mem_cons_self
    have htail := decodeItems_reads fun b hb => h b (List.mem_cons_of_mem a hb)
    simp only [List.map_cons, decodeItems, List.head?_nil, Option.getD_none, List.tail_nil, hhead, htail]
    rfl

/-- A list is read back item by item. An empty one is written as `null`, and that is read as the empty
list. -/
theorem listCodec_reads {α : Type} {c : Codec α} {f : α → α} {as : List α}
    (h : ∀ a ∈ as, c.Reads a (f a)) : (listCodec c).Reads as (as.map f) := by
  cases as with
  | nil => rfl
  | cons a as =>
    have hsorted : (Json.arr ((a :: as).map c.enc)).sorted =
        .arr (((a :: as).map c.enc).map Json.sorted) := by
      rw [Json.sorted, Json.sortedItems_eq]
    show (listCodec c).dec (Json.arr ((a :: as).map c.enc)).sorted [] = _
    rw [hsorted]
    exact decodeItems_reads h

/-- A pointer that is nil stays nil. -/
theorem pointerCodec_reads_none {α : Type} (c : Codec α) : (pointerCodec c).Reads none none := rfl

/-- What a pointer to a struct points to. -/
theorem pointerCodec_reads_some {α : Type} {c : Codec α} {a b : α} {fields : List (Bytes × Option Json)}
    (hobj : c.enc a = .object fields) (h : c.Reads a b) : (pointerCodec c).Reads (some a) (some b) := by
  have h' : c.dec (Json.object fields).sorted c.zero = .ok b := hobj ▸ h
  show (pointerCodec c).dec (c.enc a).sorted none = .ok (some b)
  rw [hobj]
  show (c.dec (Json.object fields).sorted c.zero).map some = .ok (some b)
  rw [h']
  rfl

/-- A key that is the name of a field is matched to it exactly, before the match without case is tried. -/
theorem matchName_of_mem {names : List Bytes} {key : Bytes} (h : key ∈ names) :
    matchName names key = some key := if_pos h

section
variable {fields : List (Bytes × Option Json)}

/-- The members of an object are the fields that are not left out. -/
theorem mem_present {m : Bytes × Json} :
    m ∈ present fields ↔ (m.1, some m.2) ∈ fields := by
  rw [present, List.mem_filterMap]
  constructor
  · rintro ⟨⟨name, value⟩, hf, heq⟩
    obtain ⟨v, rfl, rfl⟩ := Option.map_eq_some_iff.mp heq
    exact hf
  · exact fun h => ⟨_, h, rfl⟩

/-- A field is a member before the later ones, unless it is left out. -/
theorem present_cons (f : Bytes × Option Json) :
    present (f :: fields) = (f.2.map fun v => (f.1, v)).toList ++ present fields := by
  rw [present, List.filterMap_cons]
  cases f.2 <;> rfl

/-- What was written for a field is all that an object has under its name. -/
theorem filter_present (hnodup : (fields.map Prod.fst).Nodup) {name : Bytes} {value : Option Json}
    (hmem : (name, value) ∈ fields) :
    (present fields).filter (fun m => m.1 = name) = value.toList.map fun v => (name, v) := by
  induction fields with
  | nil => cases hmem
  | cons f fields ih =>
    rw [List.map_cons, List.nodup_cons] at hnodup
    rw [present_cons, List.filter_append]
    rcases List.mem_cons.mp hmem with rfl | hmem
    · have hother : (present fields).filter (fun m => m.1 = name) = [] := by
        rw [List.filter_eq_nil_iff]
        intro m hm heq
        exact hnodup.1 (List.mem_map.mpr ⟨_, mem_present.mp hm, of_decide_eq_true heq⟩)
      rw [hother, List.append_nil]
      cases value <;> simp
    · have hne : f.1 ≠ name := fun heq => hnodup.1 (List.mem_map.mpr ⟨_, hmem, heq.symm⟩)
      have hhead : (f.2.map fun v => (f.1, v)).toList.filter (fun m => m.1 = name) = [] := by
        cases f.2 <;> simp [hne]
      rw [hhead, List.nil_append, ih hnodup.2 hmem]

/-- The members of an object that was written and sorted. -/
def Written (fields : List (Bytes × Option Json)) (members : List (Bytes × Json)) : Prop :=
  members.Perm ((present fields).map fun m => (m.1, m.2.sorted))

/-- A key that was written is the name of a field. -/
theorem Written.key_mem {members : List (Bytes × Json)} (h : Written fields members) {m : Bytes × Json}
    (hm : m ∈ members) : m.1 ∈ fields.map Prod.fst := by
  obtain ⟨m', hm', rfl⟩ := List.mem_map.mp (h.mem_iff.mp hm)
  exact List.mem_map.mpr ⟨_, mem_present.mp hm', rfl⟩

/-- A field of a written object is decoded from what was written for it. -/
theorem decodeField_written {α : Type} {c : Codec α} {name : Bytes} {value : Option Json}
    {members : List (Bytes × Json)} (hnodup : (fields.map Prod.fst).Nodup)
    (hmem : (name, value) ∈ fields) (h : Written fields members) :
    decodeField (fields.map Prod.fst) c name members c.zero =
      value.elim (.ok c.zero) fun v => c.dec v.sorted c.zero := by
  have hexact : members.filter (fun m => matchName (fields.map Prod.fst) m.1 = some name) =
      members.filter fun m => m.1 = name := by
    refine List.filter_congr fun m hm => ?_
    rw [matchName_of_mem (h.key_mem hm)]
    simp
  have hperm := h.filter fun m => m.1 = name
  rw [List.filter_map] at hperm
  have hcomp : ((fun m : Bytes × Json => decide (m.1 = name)) ∘
      fun m : Bytes × Json => (m.1, m.2.sorted)) = fun m => decide (m.1 = name) := rfl
  rw [hcomp, filter_present hnodup hmem] at hperm
  rw [decodeField, hexact]
  cases value with
  | none => rw [List.perm_nil.mp hperm]; rfl
  | some v =>
    rw [List.perm_singleton.mp hperm, List.foldlM_cons]
    exact bind_pure (c.dec v.sorted c.zero)

/-- A struct that was written is decoded by its fields. -/
theorem decodeStruct_written {α : Type} {dec : List (Bytes × Json) → α → Except DecodeError α}
    {cur a : α} (h : ∀ members, Written fields members → dec members cur = .ok a) :
    decodeStruct (fields.map Prod.fst) dec (Json.object fields).sorted cur = .ok a := by
  have hwritten : Written fields (sortKeys (Json.sortedMembers (present fields))) := sortKeys_perm _
  have hfind : (sortKeys (Json.sortedMembers (present fields))).find?
      (fun m => (matchName (fields.map Prod.fst) m.1).isNone) = none := by
    rw [List.find?_eq_none]
    intro m hm
    rw [matchName_of_mem (hwritten.key_mem hm)]
    simp
  show (match (sortKeys (Json.sortedMembers (present fields))).find?
      (fun m => (matchName (fields.map Prod.fst) m.1).isNone) with
    | some m => Except.error (DecodeError.unknownField m.1)
    | none => dec (sortKeys (Json.sortedMembers (present fields))) cur) = .ok a
  rw [hfind]
  exact h _ hwritten

end

namespace Fields

variable {α β σ : Type}

/-- What the fields that were written are read back as, from the members of an object that has them. -/
def Reads (fs : Fields α) (a a' : α) : Prop :=
  ∀ fields members, (∀ f ∈ fs.write a, f ∈ fields) → (fields.map Prod.fst).Nodup →
    Written fields members → fs.read (fields.map Prod.fst) members fs.zero = .ok a'

/-- A structure without fields. -/
theorem Reads.nil : Fields.nil.Reads () () := fun _ _ _ _ _ => rfl

/-- One more field: it is read back from the member under its name, or as zero if it was left out. -/
theorem Reads.cons {name : Bytes} {c : Codec α} {value : α → Option Json} {rest : Fields β} {a a' : α}
    {b b' : β} (hread : (value a).elim (.ok c.zero) (fun v => c.dec v.sorted c.zero) = .ok a')
    (hrest : rest.Reads b b') : (Fields.cons name c value rest).Reads (a, b) (a', b') := by
  intro fields members hsub hnodup h
  have hhead : decodeField (fields.map Prod.fst) c name members c.zero = .ok a' := by
    rw [decodeField_written hnodup (hsub _ List.mem_cons_self) h, hread]
  have htail := hrest fields members (fun f hf => hsub f (List.mem_cons_of_mem _ hf)) hnodup h
  show (do
    let a ← decodeField (fields.map Prod.fst) c name members c.zero
    let b ← rest.read (fields.map Prod.fst) members rest.zero
    return (a, b)) = .ok (a', b')
  rw [hhead, htail]
  rfl

/-- A field that is always written. -/
theorem Reads.always {name : Bytes} {c : Codec α} {rest : Fields β} {a a' : α} {b b' : β}
    (hread : c.Reads a a') (hrest : rest.Reads b b') :
    (Fields.always name c rest).Reads (a, b) (a', b') :=
  Reads.cons hread hrest

/-- A field that is left out where it is zero, and that is zero where it is missing. -/
theorem Reads.omitEmpty [DecidableEq α] {name : Bytes} {c : Codec α} {rest : Fields β} {a a' : α}
    {b b' : β} (hread : c.Reads a a') (hzero : a = c.zero → a' = c.zero) (hrest : rest.Reads b b') :
    (Fields.omitEmpty name c rest).Reads (a, b) (a', b') := by
  refine Reads.cons ?_ hrest
  by_cases ha : a = c.zero
  · rw [if_pos ha, hzero ha]
    rfl
  · rw [if_neg ha]
    exact hread

/-- A string that is left out where it is empty. -/
theorem Reads.omitString {name : Bytes} {rest : Fields β} {s : Bytes} {b b' : β}
    (hrest : rest.Reads b b') :
    (Fields.omitEmpty name stringCodec rest).Reads (s, b) (coerce s, b') :=
  Reads.omitEmpty (stringCodec_reads s) coerce_eq_nil.mpr hrest

/-- A list that is left out where it is empty. -/
theorem Reads.omitList [DecidableEq α] {name : Bytes} {c : Codec α} {f : α → α} {rest : Fields β}
    {as : List α} {b b' : β} (h : ∀ a ∈ as, c.Reads a (f a)) (hrest : rest.Reads b b') :
    (Fields.omitEmpty name (listCodec c) rest).Reads (as, b) (as.map f, b') :=
  Reads.omitEmpty (listCodec_reads h) List.map_eq_nil_iff.mpr hrest

/-- A struct is read back as its fields are. -/
theorem Reads.struct {fs : Fields α} {get : σ → α} {make : α → σ} {s s' : σ} {a' : α}
    (hnodup : fs.names.Nodup) (hzero : get (make fs.zero) = fs.zero) (h : fs.Reads (get s) a')
    (hmake : make a' = s') : (fs.struct get make).Reads s s' := by
  subst hmake
  have hnames := fs.write_names (get s)
  show decodeStruct fs.names (fun members cur => (fs.read fs.names members (get cur)).map make)
    (Json.object (fs.write (get s))).sorted (make fs.zero) = .ok (make a')
  rw [← hnames] at hnodup ⊢
  refine decodeStruct_written fun members hwritten => ?_
  rw [hzero, h _ _ (fun _ hf => hf) hnodup hwritten]
  rfl

end Fields

end Go
