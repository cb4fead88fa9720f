import Mathlib.Data.List.DropRight
import Mathlib.Data.List.TakeWhile

/-! # Texts as lists: trimming, cutting, replacing, joining

  The string operations a scripting language offers, over lists of any symbol
  type. `trim` takes the class of symbols to strip as a parameter, and the
  searching operations take the separator as a list.

  All of them are structurally recursive, so that they compute in the kernel.
-/

namespace Text

universe u

variable {α : Type u}

/-! ### Trimming -/

/-- `s` without the symbols of class `p` at its two ends. -/
def trim (p : α → Bool) (s : List α) : List α :=
  (s.dropWhile p).rdropWhile p

@[simp] theorem trim_nil (p : α → Bool) : trim p [] = [] := by
  simp [trim]

/-- What trimming leaves is a piece of the text. -/
theorem isInfix_trim (p : α → Bool) (s : List α) : trim p s <:+: s :=
  (List.rdropWhile_prefix p (s.dropWhile p)).isInfix.trans (List.dropWhile_suffix p).isInfix

theorem mem_of_mem_trim {p : α → Bool} {s : List α} {x : α} (h : x ∈ trim p s) : x ∈ s :=
  (isInfix_trim p s).subset h

/-- A text trims to nothing exactly when all its symbols are of the class. -/
theorem trim_eq_nil_iff {p : α → Bool} {s : List α} : trim p s = [] ↔ ∀ x ∈ s, p x := by
  rw [trim, List.rdropWhile_eq_nil_iff]
  constructor
  · intro h
    -- the first symbol that survives `dropWhile` is not of the class
    cases hd : s.dropWhile p with
    | nil => exact List.dropWhile_eq_nil_iff.mp hd
    | cons x xs =>
      have hx : p x = true := h x (by simp [hd])
      have hhead := List.head_dropWhile_not p (by simp [hd] : s.dropWhile p ≠ [])
      simp [hd, hx] at hhead
  · intro h x hx
    exact h x ((List.dropWhile_suffix p).subset hx)

/-- The first symbol of a trimmed text is not of the class. -/
theorem head_trim_not {p : α → Bool} {s : List α} {x : α} {xs : List α}
    (h : trim p s = x :: xs) : p x = false := by
  have hpre : x :: xs <+: s.dropWhile p := h ▸ List.rdropWhile_prefix p (s.dropWhile p)
  obtain ⟨t, ht⟩ := hpre
  have hhead := List.head_dropWhile_not p (by simp [← ht] : s.dropWhile p ≠ [])
  simpa [← ht] using hhead

/-- Trimming twice is trimming once. -/
@[simp] theorem trim_trim (p : α → Bool) (s : List α) : trim p (trim p s) = trim p s := by
  have hfront : (trim p s).dropWhile p = trim p s := by
    cases h : trim p s with
    | nil => rfl
    | cons x xs => simp [head_trim_not h]
  conv_lhs => rw [trim, hfront]
  exact List.rdropWhile_idempotent p _

/-! ### Searching for a separator -/

section search
variable [DecidableEq α]

/-- The texts before and after the first occurrence of `sep`. -/
def cut (sep : List α) : List α → Option (List α × List α)
  | [] => none
  | x :: xs =>
    if sep.isPrefixOf (x :: xs) then some ([], (x :: xs).drop sep.length)
    else (cut sep xs).map fun (before, after) => (x :: before, after)

/-- A cut takes the text apart at the separator. -/
theorem cut_eq_some {sep s before after : List α} (h : cut sep s = some (before, after)) :
    s = before ++ sep ++ after := by
  induction s generalizing before with
  | nil => simp [cut] at h
  | cons x xs ih =>
    rw [cut] at h
    split at h
    · next hpre =>
      obtain ⟨t, ht⟩ := List.isPrefixOf_iff_prefix.mp hpre
      simp only [Option.some.injEq, Prod.mk.injEq] at h
      obtain ⟨rfl, rfl⟩ := h
      rw [← ht]; simp
    · cases hc : cut sep xs with
      | none => simp [hc] at h
      | some p =>
        obtain ⟨b, a⟩ := p
        simp only [hc, Option.map_some, Option.some.injEq, Prod.mk.injEq] at h
        obtain ⟨rfl, rfl⟩ := h
        simp [ih hc]

/-- A cut fails exactly where the separator does not occur. -/
theorem cut_eq_none_iff {sep : List α} (hsep : sep ≠ []) {s : List α} :
    cut sep s = none ↔ ¬ sep <:+: s := by
  induction s with
  | nil => simp [cut, hsep]
  | cons x xs ih =>
    rw [cut, List.infix_cons_iff, ← List.isPrefixOf_iff_prefix]
    by_cases hpre : sep.isPrefixOf (x :: xs) = true
    · simp [hpre]
    · simp [hpre, ih]

/-- The text after a cut is shorter when the separator is not empty. -/
theorem length_after_cut {sep s before after : List α} (hsep : sep ≠ [])
    (h : cut sep s = some (before, after)) : after.length < s.length := by
  have hlen := congrArg List.length (cut_eq_some h)
  have hpos : 0 < sep.length := List.length_pos_iff.mpr hsep
  simp only [List.length_append] at hlen
  omega

/-- `split` with a bound on the number of cuts. -/
def splitUpTo (sep : List α) : Nat → List α → List (List α)
  | 0, s => [s]
  | n + 1, s =>
    match cut sep s with
    | none => [s]
    | some (before, after) => before :: splitUpTo sep n after

/-- The pieces of `s` between the occurrences of `sep`, from left to right. -/
def split (sep s : List α) : List (List α) :=
  splitUpTo sep s.length s

theorem splitUpTo_of_length_le {sep : List α} (hsep : sep ≠ []) {n m : Nat} {s : List α}
    (hn : s.length ≤ n) (hm : s.length ≤ m) : splitUpTo sep n s = splitUpTo sep m s := by
  induction n generalizing m s with
  | zero =>
    have hs : s = [] := List.eq_nil_of_length_eq_zero (by omega)
    subst hs
    cases m <;> simp [splitUpTo, cut]
  | succ n ih =>
    cases m with
    | zero =>
      have hs : s = [] := List.eq_nil_of_length_eq_zero (by omega)
      subst hs
      simp [splitUpTo, cut]
    | succ m =>
      simp only [splitUpTo]
      cases hc : cut sep s with
      | none => rfl
      | some p =>
        obtain ⟨b, a⟩ := p
        have hlt := length_after_cut hsep hc
        simp only
        rw [ih (by omega) (by omega : a.length ≤ m)]

/-- **Splitting is repeated cutting.** -/
theorem split_eq {sep : List α} (hsep : sep ≠ []) (s : List α) :
    split sep s = match cut sep s with
      | none => [s]
      | some (before, after) => before :: split sep after := by
  cases s with
  | nil => rfl
  | cons x xs =>
    simp only [split, List.length_cons, splitUpTo]
    cases hc : cut sep (x :: xs) with
    | none => rfl
    | some p =>
      obtain ⟨b, a⟩ := p
      have hlt := length_after_cut hsep hc
      rw [List.length_cons] at hlt
      simp only
      rw [splitUpTo_of_length_le hsep (by omega : a.length ≤ xs.length) (Nat.le_refl _)]

/-- `replace` in the middle of a match: `skip` symbols of it are left. -/
def replaceFrom (old new : List α) : Nat → List α → List α
  | _, [] => []
  | skip + 1, _ :: xs => replaceFrom old new skip xs
  | 0, x :: xs =>
    if old.isPrefixOf (x :: xs) then new ++ replaceFrom old new (old.length - 1) xs
    else x :: replaceFrom old new 0 xs

/-- Every occurrence of `old`, taken from left to right without overlap,
    replaced by `new`. -/
def replace (old new s : List α) : List α :=
  replaceFrom old new 0 s

/-- Replacing one symbol by another is a map. -/
theorem replace_singleton (a b : α) (s : List α) :
    replace [a] [b] s = s.map fun c => if a = c then b else c := by
  unfold replace
  induction s with
  | nil => rfl
  | cons c cs ih =>
    rw [replaceFrom, List.map_cons, ← ih]
    by_cases hc : a = c
    · simp [hc]
    · simp [List.isPrefixOf, hc]

end search

/-! ### Joining -/

/-- The non-empty texts among `parts`, joined by `sep`. -/
def joinNonEmpty (sep : List α) (parts : List (List α)) : List α :=
  sep.intercalate (parts.filter fun part => !part.isEmpty)

@[simp] theorem joinNonEmpty_nil (sep : List α) : joinNonEmpty sep [] = [] := rfl

/-- Joining takes the parts one by one. -/
theorem joinNonEmpty_cons (sep part : List α) (parts : List (List α)) :
    joinNonEmpty sep (part :: parts) =
      if part = [] then joinNonEmpty sep parts
      else if joinNonEmpty sep parts = [] then part
      else part ++ sep ++ joinNonEmpty sep parts := by
  unfold joinNonEmpty
  cases part with
  | nil => simp
  | cons x xs =>
    rw [List.filter_cons_of_pos (by simp), if_neg (by simp)]
    cases hrest : parts.filter fun part => !part.isEmpty with
    | nil => simp
    | cons q qs =>
      have hq : q ≠ [] := by
        have hmem : q ∈ parts.filter fun part => !part.isEmpty := by simp [hrest]
        simpa using (List.mem_filter.mp hmem).2
      have hne : sep.intercalate (q :: qs) ≠ [] := by
        cases qs with
        | nil => simpa using hq
        | cons q' qs => simp [List.intercalate_cons_cons, hq]
      rw [List.intercalate_cons_cons, if_neg hne]

/-- A joined text consists of the separator and the parts. -/
theorem mem_joinNonEmpty {sep : List α} {parts : List (List α)} {x : α}
    (h : x ∈ joinNonEmpty sep parts) : x ∈ sep ∨ ∃ part ∈ parts, x ∈ part := by
  induction parts with
  | nil => simp at h
  | cons part parts ih =>
    have hrest : x ∈ joinNonEmpty sep parts → x ∈ sep ∨ ∃ q ∈ part :: parts, x ∈ q := by
      intro hx
      rcases ih hx with hsep | ⟨q, hq, hxq⟩
      · exact .inl hsep
      · exact .inr ⟨q, by simp [hq], hxq⟩
    rw [joinNonEmpty_cons] at h
    split at h
    · exact hrest h
    · split at h
      · exact .inr ⟨part, by simp, h⟩
      · simp only [List.mem_append] at h
        rcases h with (hx | hx) | hx
        · exact .inr ⟨part, by simp, hx⟩
        · exact .inl hx
        · exact hrest hx

theorem mem_joinNonEmpty_of_mem (sep : List α) {parts : List (List α)} {part : List α} {x : α}
    (hpart : part ∈ parts) (hx : x ∈ part) : x ∈ joinNonEmpty sep parts := by
  induction parts with
  | nil => simp at hpart
  | cons q parts ih =>
    rw [joinNonEmpty_cons]
    rcases List.mem_cons.mp hpart with rfl | hmem
    · rw [if_neg (List.ne_nil_of_mem hx)]
      split
      · exact hx
      · simp [hx]
    · have hrest := ih hmem
      split
      · exact hrest
      · rw [if_neg (List.ne_nil_of_mem hrest)]
        simp [hrest]

end Text
