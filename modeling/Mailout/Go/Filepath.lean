import Mailout.Go.Utf8

/-!
# Paths

`strings.Join`, and `filepath.Clean`, `filepath.Join` and `filepath.Dir` on slash-separated paths. A path
from the root is the list of its elements (`abs_inj`), and joining an element to it appends it
(`join_abs`), as long as the elements are file names (`Plain`).
-/

namespace Go

/-- `strings.Join`. -/
def join (sep : Bytes) (elems : List Bytes) : Bytes := List.intercalate sep elems

namespace Filepath

def slash : UInt8 := 0x2F

/-- The elements of a path that are left when `.` and `..` are resolved; `out` is what was kept, the
last element first. -/
def cleanElems (rooted : Bool) : List Bytes → List Bytes → List Bytes
  | out, [] => out.reverse
  | out, e :: es =>
    if e = [] ∨ e = lit "." then cleanElems rooted out es
    else if e = lit ".." then
      match out with
      | [] => if rooted then cleanElems rooted [] es else cleanElems rooted [e] es
      | top :: rest =>
        if top = lit ".." then cleanElems rooted (e :: out) es else cleanElems rooted rest es
    else cleanElems rooted (e :: out) es

/-- `filepath.Clean`. -/
def clean (path : Bytes) : Bytes :=
  let rooted := path.head? == some slash
  let body := Go.join [slash] (cleanElems rooted [] (path.splitOn slash))
  if rooted then slash :: body else if body = [] then lit "." else body

/-- `filepath.Join`. -/
def join (elems : List Bytes) : Bytes :=
  match elems.dropWhile (· == []) with
  | [] => []
  | elems => clean (Go.join [slash] elems)

/-- `filepath.Dir`. -/
def dir (path : Bytes) : Bytes := clean (path.rdropWhile (· ≠ slash))

/-- A path is never cleaned to nothing: the empty one is the dot. -/
theorem clean_ne_nil (path : Bytes) : clean path ≠ [] := by
  unfold clean
  simp only
  split_ifs with hrooted hempty
  · exact List.cons_ne_nil _ _
  · decide
  · exact hempty

/-- A path made of something is not empty. -/
theorem join_ne_nil {elems : List Bytes} (h : ∃ e ∈ elems, e ≠ []) : join elems ≠ [] := by
  unfold join
  cases hdrop : elems.dropWhile (· == []) with
  | nil =>
    obtain ⟨e, he, hne⟩ := h
    have hall := List.dropWhile_eq_nil_iff.mp hdrop e he
    exact absurd (beq_iff_eq.mp hall) hne
  | cons e es => exact clean_ne_nil _

example : join [lit "/etc/mailout/tls", lit "../a"] = lit "/etc/mailout/a" := by decide +kernel

/-- A name that can stand for a file: not empty, without a slash, and neither `.` nor `..`. -/
def Plain (e : Bytes) : Prop := e ≠ [] ∧ e ≠ lit "." ∧ e ≠ lit ".." ∧ slash ∉ e

instance (e : Bytes) : Decidable (Plain e) := inferInstanceAs (Decidable (_ ∧ _))

/-- The path of these elements from the root. -/
def abs (elems : List Bytes) : Bytes := slash :: Go.join [slash] elems

/-- The file `file` is in the directory `dir`, and not in a directory below. -/
def DirectlyIn (dir file : Bytes) : Prop := ∃ base, Plain base ∧ file = dir ++ slash :: base

/-- Plain elements are kept as they are. -/
theorem cleanElems_plain (rooted : Bool) {es : List Bytes} (h : ∀ e ∈ es, Plain e) (out : List Bytes) :
    cleanElems rooted out es = out.reverse ++ es := by
  induction es generalizing out with
  | nil => rw [cleanElems, List.append_nil]
  | cons e es ih =>
    rw [List.forall_mem_cons] at h
    obtain ⟨⟨hnil, hdot, hdots, -⟩, hes⟩ := h
    have hstep : cleanElems rooted out (e :: es) = cleanElems rooted (e :: out) es := by
      rw [cleanElems.eq_def]
      simp only [if_neg (not_or.mpr ⟨hnil, hdot⟩), if_neg hdots]
    rw [hstep, ih hes, List.reverse_cons, List.append_assoc]
    rfl

/-- A path that is put together from plain elements is split into them, behind the empty one before its
first slash. -/
theorem splitOn_abs {es : List Bytes} (hne : es ≠ []) (h : ∀ e ∈ es, Plain e) :
    (abs es).splitOn slash = [] :: es := by
  have hsplit : (Go.join [slash] es).splitOn slash = es :=
    List.splitOn_intercalate slash (fun e he => (h e he).2.2.2) hne
  have hcons : (abs es).splitOn slash = [] :: (Go.join [slash] es).splitOn slash := by
    rw [abs, List.splitOn, List.splitOnP_cons_eq_if_modifyHead, if_pos (beq_self_eq_true _)]
    rfl
  rw [hcons, hsplit]

/-- A path of file names from the root is clean. -/
theorem clean_abs {es : List Bytes} (hne : es ≠ []) (h : ∀ e ∈ es, Plain e) :
    clean (abs es) = abs es := by
  have hrooted : ((abs es).head? == some slash) = true := by
    rw [abs, List.head?_cons, beq_self_eq_true]
  have hskip : cleanElems true [] ([] :: es) = es := by
    rw [cleanElems, if_pos (.inl rfl), cleanElems_plain true h]
    rfl
  rw [clean]
  simp only [hrooted, splitOn_abs hne h, hskip, if_true]
  rfl

/-- One more element comes behind a slash. -/
theorem abs_concat {es : List Bytes} (hne : es ≠ []) (e : Bytes) :
    abs (es ++ [e]) = abs es ++ slash :: e := by
  cases es with
  | nil => exact absurd rfl hne
  | cons e₁ es =>
    rw [abs, abs, List.cons_append, List.cons_append]
    congr 1
    rw [Go.join, Go.join]
    induction es generalizing e₁ with
    | nil => simp [List.intercalate]
    | cons e₂ es ih =>
      have := ih e₂ (List.cons_ne_nil _ _)
      simp only [List.intercalate, List.cons_append, List.intersperse_cons_cons, List.flatten_cons,
        List.append_assoc] at this ⊢
      rw [this]

/-- **Joining a name to a path appends it.** -/
theorem join_abs {es : List Bytes} (hne : es ≠ []) (h : ∀ e ∈ es, Plain e) {e : Bytes} (he : Plain e) :
    join [abs es, e] = abs (es ++ [e]) := by
  have hdrop : [abs es, e].dropWhile (· == []) = [abs es, e] := rfl
  have hjoin : Go.join [slash] [abs es, e] = abs (es ++ [e]) := by
    rw [abs_concat hne]
    simp [Go.join, List.intercalate]
  rw [join, hdrop]
  simp only [hjoin]
  refine clean_abs (by simp) fun x hx => ?_
  rcases List.mem_append.mp hx with hx | hx
  · exact h x hx
  · rwa [List.mem_singleton.mp hx]

/-- Paths that are put together from plain elements are the same only if the elements are. -/
theorem abs_inj {es es' : List Bytes} (hne : es ≠ []) (hne' : es' ≠ []) (h : ∀ e ∈ es, Plain e)
    (h' : ∀ e ∈ es', Plain e) (heq : abs es = abs es') : es = es' := by
  have hsplit := congrArg (List.splitOn slash) heq
  rw [splitOn_abs hne h, splitOn_abs hne' h'] at hsplit
  exact List.tail_eq_of_cons_eq hsplit

/-- A file of a directory of a directory, joined one name after the other. -/
theorem join_join_abs {es : List Bytes} (hne : es ≠ []) (h : ∀ e ∈ es, Plain e) {dir file : Bytes}
    (hdir : Plain dir) (hfile : Plain file) :
    join [join [abs es, dir], file] = join [abs es, dir] ++ slash :: file := by
  have hes : ∀ e ∈ es ++ [dir], Plain e := by
    intro e he
    rcases List.mem_append.mp he with he | he
    · exact h e he
    · rwa [List.mem_singleton.mp he]
  rw [join_abs hne h hdir, join_abs (by simp) hes hfile, abs_concat (by simp)]

end Filepath

end Go
