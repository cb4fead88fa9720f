import Mathlib.Data.List.Basic

/-! # Paths as texts

  A path is a text of names between separators. It is resolved piece by piece,
  from the root or from the current directory: an empty piece and the dot stay,
  two dots go one up, and any other piece goes down by its name. At the root two
  dots stay as well. Links are not followed.

  A file name that is put behind a directory may itself hold separators. Where
  the path leads is then decided by what stands in front of the last of them.
-/

namespace PathText

universe u

variable {α : Type u}

/-! ### The pieces of a path -/

/-- The pieces of a path between its separators. -/
def pieces (isSep : α → Bool) (path : List α) : List (List α) := path.splitOnP isSep

/-- An extension changes the last piece only. -/
theorem pieces_append {isSep : α → Bool} {ext : List α} (hext : ∀ x ∈ ext, isSep x = false)
    (rel : List α) :
    ∃ last, pieces isSep (rel ++ ext) = (pieces isSep rel).dropLast ++ [last ++ ext] := by
  induction rel with
  | nil =>
    refine ⟨[], ?_⟩
    show List.splitOnP isSep ext = _
    rw [List.splitOnP_eq_singleton hext]
    rfl
  | cons x rel ih =>
    obtain ⟨last, hlast⟩ := ih
    obtain ⟨first, more, hcons⟩ := List.exists_cons_of_ne_nil (List.splitOnP_ne_nil isSep rel)
    unfold pieces at hlast ⊢
    rw [List.cons_append, List.splitOnP_cons_eq_if_modifyHead, List.splitOnP_cons_eq_if_modifyHead,
      hlast, hcons]
    by_cases hx : isSep x = true
    · exact ⟨last, by rw [if_pos hx, if_pos hx]; rfl⟩
    · rw [if_neg hx, if_neg hx]
      cases more with
      | nil =>
        -- the first piece is the last one as well
        exact ⟨x :: last, rfl⟩
      | cons second more => exact ⟨last, rfl⟩

variable [DecidableEq α]

/-! ### Resolving -/

section resolving
variable (isSep : α → Bool) (dot : α)

/-- One piece of a path, taken at a place. A place is the names that lead to it
    from the root. -/
def step (place : List (List α)) (piece : List α) : List (List α) :=
  if piece = [] ∨ piece = [dot] then place
  else if piece = [dot, dot] then place.dropLast
  else place ++ [piece]

/-- The place some pieces lead to. -/
def walk (place : List (List α)) (ps : List (List α)) : List (List α) := ps.foldl (step dot) place

/-- Where a path starts: at the root if a separator is in front of it. -/
def start (cwd : List (List α)) (path : List α) : List (List α) :=
  if path.head?.any isSep then [] else cwd

/-- The place a path leads to. -/
def resolve (cwd : List (List α)) (path : List α) : List (List α) :=
  walk dot (start isSep cwd path) (pieces isSep path)

/-- What the path names lies directly in the directory. -/
def DirectChild (cwd : List (List α)) (dir path : List α) : Prop :=
  ∃ name, resolve isSep dot cwd path = resolve isSep dot cwd dir ++ [name]

/-- From the directory, the pieces in front of the last separator of `rel` lead
    back to it. -/
def LeadsBack (cwd : List (List α)) (dir rel : List α) : Prop :=
  walk dot (resolve isSep dot cwd dir) (pieces isSep rel).dropLast = resolve isSep dot cwd dir

instance (cwd : List (List α)) (dir rel : List α) :
    Decidable (LeadsBack isSep dot cwd dir rel) :=
  inferInstanceAs (Decidable (_ = _))

end resolving

/-! ### Walking -/

section walking
variable {isSep : α → Bool} {dot : α}

theorem walk_append (place : List (List α)) (ps qs : List (List α)) :
    walk dot place (ps ++ qs) = walk dot (walk dot place ps) qs :=
  List.foldl_append

/-- A piece of three symbols or more is a name. -/
theorem step_of_length {piece : List α} (h : 2 < piece.length) (place : List (List α)) :
    step dot place piece = place ++ [piece] := by
  have hlen : ∀ other : List α, other.length ≤ 2 → piece ≠ other := by
    intro other hother heq
    rw [heq] at h
    omega
  unfold step
  rw [if_neg, if_neg]
  · exact hlen _ (Nat.le_refl 2)
  · intro hstay
    rcases hstay with hnil | hdot
    · exact hlen [] (by simp) hnil
    · exact hlen [dot] (by simp) hdot

/-! ### A name behind a directory -/

/-- What stands behind a directory and a separator is walked from there. -/
theorem resolve_join {dir : List α} (hdir : dir ≠ []) {c : α} (hc : isSep c = true)
    (cwd : List (List α)) (rel : List α) :
    resolve isSep dot cwd (dir ++ c :: rel)
      = walk dot (resolve isSep dot cwd dir) (pieces isSep rel) := by
  have hstart : start isSep cwd (dir ++ c :: rel) = start isSep cwd dir := by
    unfold start
    rw [List.head?_append_of_ne_nil _ hdir]
  have hpieces : pieces isSep (dir ++ c :: rel) = pieces isSep dir ++ pieces isSep rel :=
    List.splitOnP_append_cons dir rel hc
  unfold resolve
  rw [hstart, hpieces, walk_append]

/-- **A file named inside a directory lies in it exactly if the name leads
    back**: if the pieces in front of its last separator do not leave the
    directory for good. -/
theorem directChild_join_iff {dir : List α} (hdir : dir ≠ []) {c : α} (hc : isSep c = true)
    {ext : List α} (hext : ∀ x ∈ ext, isSep x = false) (hlen : 2 < ext.length)
    (cwd : List (List α)) (rel : List α) :
    DirectChild isSep dot cwd dir (dir ++ c :: (rel ++ ext)) ↔ LeadsBack isSep dot cwd dir rel := by
  obtain ⟨last, hpieces⟩ := pieces_append hext rel
  have hname : 2 < (last ++ ext).length := by
    rw [List.length_append]
    omega
  have hpath : resolve isSep dot cwd (dir ++ c :: (rel ++ ext))
      = walk dot (resolve isSep dot cwd dir) (pieces isSep rel).dropLast ++ [last ++ ext] := by
    rw [resolve_join hdir hc, hpieces, walk_append]
    exact step_of_length hname _
  unfold DirectChild LeadsBack
  rw [hpath]
  constructor
  · intro h
    obtain ⟨name, heq⟩ := h
    exact (List.append_inj' heq rfl).1
  · intro h
    exact ⟨last ++ ext, by rw [h]⟩

end walking

end PathText
