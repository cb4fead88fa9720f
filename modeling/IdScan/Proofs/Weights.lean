import IdScan.Framework.Pieces
import IdScan.Model.Parse

/-! # The text of a text

  What of a name or an address is text: all but the `#` that separate its parts
  and white space. Trimming and splitting keep it, and so do the two ways the
  source takes a `#` out.
-/

namespace IdScan

/-- A character that counts as text. -/
def isText (c : Char) : Bool := decide (c ≠ '#') && !isspace c

/-- The text without `#` and white space. -/
def content (s : Str) : Str := s.filter isText

/-- The text without white space. -/
def withoutSpace (s : Str) : Str := s.filter fun c => !isspace c

theorem isText_of_isspace (c : Char) (h : isspace c = true) : isText c = false := by
  simp [isText, h]

@[simp] theorem content_nil : content [] = [] := rfl

@[simp] theorem content_strip (s : Str) : content (strip s) = content s :=
  Text.filter_trim isText_of_isspace s

/-- Nothing but `#` and white space. -/
def OnlySpacing (s : Str) : Prop := ∀ c ∈ s, c = '#' ∨ isspace c = true

-- the characters of `s` are tried, not all there are
instance (s : Str) : Decidable (OnlySpacing s) := List.decidableBAll _ s

theorem content_eq_nil_iff {s : Str} : content s = [] ↔ OnlySpacing s := by
  unfold content OnlySpacing
  rw [List.filter_eq_nil_iff]
  refine forall₂_congr fun c _ => ?_
  simp only [isText, Bool.and_eq_true, decide_eq_true_eq, Bool.not_eq_true', not_and,
    Bool.not_eq_false]
  tauto

theorem content_split {sep : Str} (hsep : sep ≠ []) (hkeep : content sep = []) (s : Str) :
    (Text.split sep s).flatMap content = content s :=
  Text.filter_split hsep hkeep s

theorem withoutSpace_strip (s : Str) : withoutSpace (strip s) = withoutSpace s :=
  Text.filter_trim (by simp) s

/-- Without `#` there is only white space to leave out. -/
theorem withoutSpace_eq_content_iff {s : Str} : withoutSpace s = content s ↔ '#' ∉ s := by
  constructor
  · intro h hmem
    have hkept : '#' ∈ withoutSpace s := by
      rw [withoutSpace, List.mem_filter]
      exact ⟨hmem, by decide⟩
    rw [h, content, List.mem_filter] at hkept
    exact absurd hkept.2 (by decide)
  · intro h
    refine List.filter_congr fun c hc => ?_
    have hne : c ≠ '#' := fun heq => h (heq ▸ hc)
    simp [isText, hne]

theorem withoutSpace_dropHashes (field : Str) : withoutSpace (dropHashes field) = content field := by
  have hstrip : withoutSpace (dropHashes field) = withoutSpace (Text.replace ['#'] [] field) :=
    Text.filter_trim (by simp) _
  rw [hstrip, Text.replace_singleton_nil, withoutSpace, List.filter_filter]
  refine List.filter_congr fun c _ => ?_
  simp [isText, Bool.and_comm]

theorem withoutSpace_hashToSpace (s : Str) : withoutSpace (hashToSpace s) = content s := by
  rw [hashToSpace, Text.replace_singleton]
  induction s with
  | nil => rfl
  | cons c s ih =>
    by_cases hc : c = '#'
    · have hspace : isspace ' ' = true := by decide
      subst hc
      simpa [withoutSpace, content, isText, hspace] using ih
    · simp only [withoutSpace, content] at ih
      simp [withoutSpace, content, isText, Ne.symm hc, hc, List.filter_cons, ih]

end IdScan
