import Mathlib.Data.List.Basic

/-!
# `os.path.join` and `pathlib` names on POSIX

Object-store keys are `/`-separated strings built with `os.path.join`, and a
preservation request is named after `Path(name).name`.  This module models both
as CPython's `posixpath.join` and `PurePosixPath` compute them, and proves the
facts about key layout everything above rests on.

## Main results

* `slash_not_mem_name` — a `pathlib` name is a single component: it has no `/`.
* `OsPath.join₂_eq` — joining a component onto a non-empty path that does not end
  in `/` inserts exactly one `/`.
* `eq_of_append_cons_eq` — a text ending in `sep :: leaf`, with no `sep` in `leaf`,
  determines the text before the last separator and the leaf.  Applied to `/`
  this reads a directory and a file name back from a key; applied to `_` it reads a
  backup name and a timestamp back from a request name.
-/

namespace Pghoard

/-! ## Separators -/

/-- A list ending in `sep :: leaf` with no `sep` in `leaf` splits at its last `sep` in
one way only. -/
theorem eq_of_append_cons_eq {α : Type*} {sep : α} {a b x y : List α}
    (h : a ++ sep :: x = b ++ sep :: y) (hx : sep ∉ x) (hy : sep ∉ y) : a = b ∧ x = y := by
  have key : ∀ {u u' v v' : List α}, u ++ sep :: v = u' ++ sep :: v' → sep ∉ u → sep ∉ u' →
      u = u' ∧ v = v' := by
    intro u
    induction u with
    | nil =>
      rintro (_ | ⟨d, u'⟩) v v' h - hu'
      · simpa using h
      · simp only [List.nil_append, List.cons_append, List.cons.injEq] at h
        exact absurd (h.1 ▸ List.mem_cons_self d u') hu'
    | cons d u ih =>
      rintro (_ | ⟨d', u'⟩) v v' h hu hu'
      · simp only [List.cons_append, List.nil_append, List.cons.injEq] at h
        exact absurd (h.1 ▸ List.mem_cons_self d u) hu
      · simp only [List.cons_append, List.cons.injEq] at h
        obtain ⟨rfl, h⟩ := h
        obtain ⟨rfl, rfl⟩ := ih h (fun m => hu (List.mem_cons_of_mem _ m))
          (fun m => hu' (List.mem_cons_of_mem _ m))
        exact ⟨rfl, rfl⟩
  have hrev := congrArg List.reverse h
  simp only [List.reverse_append, List.reverse_cons, List.append_assoc, List.singleton_append]
    at hrev
  obtain ⟨h1, h2⟩ := key hrev (by simpa using hx) (by simpa using hy)
  exact ⟨List.reverse_injective h2, List.reverse_injective h1⟩

/-- No piece of a split contains the separator it was split at. -/
theorem not_mem_of_mem_splitOn {sep : Char} :
    ∀ {l part : List Char}, part ∈ l.splitOn sep → sep ∉ part
  | [], part, h => by simp [List.splitOn, List.splitOnP_nil] at h; simp [h]
  | c :: l, part, h => by
    simp only [List.splitOn, List.splitOnP_cons] at h
    split_ifs at h with hc
    · rcases List.mem_cons.1 h with rfl | h
      · simp
      · exact not_mem_of_mem_splitOn h
    · obtain ⟨r, rs, hr⟩ := List.exists_cons_of_ne_nil (List.splitOnP_ne_nil (· == sep) l)
      have hmem : r ∈ l.splitOn sep := by simp only [List.splitOn, hr, List.mem_cons_self]
      rw [hr, List.modifyHead_cons] at h
      rcases List.mem_cons.1 h with rfl | h
      · rintro (_ | ⟨_, hm⟩)
        · simp at hc
        · exact not_mem_of_mem_splitOn hmem hm
      · have hmem' : part ∈ l.splitOn sep := by
          simp only [List.splitOn, hr, List.mem_cons, h, or_true]
        exact not_mem_of_mem_splitOn hmem'

/-- Splitting at `sep` a list whose last `sep` is followed by `b` ends with the piece `b`. -/
theorem splitOn_append_cons {sep : Char} {b : List Char} (hb : sep ∉ b) :
    ∀ a : List Char, (a ++ sep :: b).splitOn sep = a.splitOn sep ++ [b]
  | [] => by
    have hsingle : b.splitOnP (· == sep) = [b] :=
      List.splitOnP_eq_single _ _ fun x hx he => hb (eq_of_beq he ▸ hx)
    simp only [List.nil_append, List.splitOn, List.splitOnP_cons, beq_self_eq_true, if_true,
      hsingle]
    rfl
  | c :: a => by
    have ih := splitOn_append_cons hb a
    simp only [List.splitOn] at ih ⊢
    rw [List.cons_append, List.splitOnP_cons, List.splitOnP_cons, ih]
    split_ifs
    · rfl
    · obtain ⟨r, rs, hr⟩ := List.exists_cons_of_ne_nil (List.splitOnP_ne_nil (· == sep) a)
      rw [hr]; rfl

/-- A single path component: no `/`, and neither `.` nor `..`. -/
def IsPathComponent (r : String) : Prop := '/' ∉ r.data ∧ r ≠ "." ∧ r ≠ ".."

instance (r : String) : Decidable (IsPathComponent r) :=
  inferInstanceAs (Decidable ('/' ∉ r.data ∧ r ≠ "." ∧ r ≠ ".."))

/-! ## `os.path.join` -/

namespace OsPath

/-- One step of `posixpath.join`: a component starting with `/` restarts the path;
otherwise `/` is inserted unless the path so far is empty or ends with `/`. -/
def join₂ (path b : String) : String :=
  if b.data.head? = some '/' then b
  else if path.data = [] ∨ path.data.getLast? = some '/' then path ++ b
  else path ++ "/" ++ b

/-- `os.path.join(a, *p)`. -/
def join (a : String) (p : List String) : String := p.foldl join₂ a

theorem join_append_singleton (a : String) (p : List String) (b : String) :
    join a (p ++ [b]) = join₂ (join a p) b := by
  simp [join, List.foldl_append]

/-- Joining a component that does not start with `/` onto a path that is non-empty
and does not end with `/` inserts exactly one `/`. -/
theorem join₂_eq {path b : String} (hb : b.data.head? ≠ some '/') (hne : path.data ≠ [])
    (hlast : path.data.getLast? ≠ some '/') : join₂ path b = path ++ "/" ++ b := by
  simp [join₂, hb, hne, hlast]

/-- What `join₂` produces ends with `b`; its last character is `b`'s when `b` is
non-empty. -/
theorem getLast?_join₂ (path b : String) (hb : b.data ≠ []) :
    (join₂ path b).data.getLast? = b.data.getLast? := by
  unfold join₂
  split_ifs <;> simp only [String.data_append] <;> rw [List.getLast?_append_of_ne_nil _ hb]

end OsPath

/-! ## `pathlib` names -/

namespace PurePosixPath

/-- The parts of a POSIX path below its root (`PurePosixPath._tail`): the path split
at `/`, without empty and `.` components; `..` is kept. -/
def parts (s : String) : List (List Char) :=
  (s.data.splitOn '/').filter fun part => !part.isEmpty && part != ['.']

/-- `PurePosixPath(s).name`: the last part, `""` when there is none. -/
def name (s : String) : String :=
  match (parts s).getLast? with
  | some part => ⟨part⟩
  | none => ""

/-- **A `pathlib` name is a single component**: it contains no `/`. -/
theorem slash_not_mem_name (s : String) : '/' ∉ (name s).data := by
  unfold name
  split
  · rename_i part h
    exact not_mem_of_mem_splitOn (List.mem_filter.1 (List.mem_of_getLast?_eq_some h)).1
  · simp

/-- **The name of a file in a directory is the file's own name**: for a non-empty
`leaf` without `/` other than `.`, `PurePosixPath(dir + "/" + leaf).name == leaf`,
whatever `dir` is. -/
theorem name_append {dir leaf : String} (hne : leaf.data ≠ []) (hleaf : '/' ∉ leaf.data)
    (hdot : leaf ≠ ".") : name (dir ++ "/" ++ leaf) = leaf := by
  have hsplit : (dir ++ "/" ++ leaf).data.splitOn '/' = dir.data.splitOn '/' ++ [leaf.data] := by
    simpa only [String.data_append, show ("/" : String).data = ['/'] from rfl,
      List.append_assoc, List.singleton_append] using splitOn_append_cons hleaf dir.data
  have hkeep : (!leaf.data.isEmpty && leaf.data != ['.']) = true := by
    simpa [List.isEmpty_iff] using And.intro hne fun h => hdot (String.ext h)
  simp only [name, parts, hsplit, List.filter_append, List.filter_cons, hkeep, if_true,
    List.filter_nil, List.getLast?_append, List.getLast?_singleton, Option.or_some]

end PurePosixPath

end Pghoard
