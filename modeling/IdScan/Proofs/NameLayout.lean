import IdScan.Proofs.AddressLayout

/-! # Names put together

  A name in the layout of the card: title, first name and last name between a
  `#` and a `##`. `parse_name` gives the three parts back, whatever white space
  stands around them.
-/

namespace IdScan

/-- Only white space. -/
def Padding (pad : Str) : Prop := ∀ c ∈ pad, isspace c = true

instance (pad : Str) : Decidable (Padding pad) := List.decidableBAll _ pad

/-- Title `#` first name `##` last name. -/
def nameLayout (title firstname lastname : Str) : Str :=
  title ++ '#' :: (firstname ++ '#' :: '#' :: lastname)

/-- Padding holds no separator. -/
theorem Padding.hash_not_mem {pad : Str} (h : Padding pad) : '#' ∉ pad := by
  intro hmem
  exact absurd (h '#' hmem) (by decide)

/-- A part with padding around it is trimmed back to the part. -/
theorem CleanPart.strip_padded {part u v : Str} (h : CleanPart part) (hu : Padding u)
    (hv : Padding v) : strip (u ++ part ++ v) = part := by
  unfold strip
  rw [Text.trim_append_right hv, Text.trim_append_left hu]
  exact h.2

theorem CleanPart.hash_not_mem_padded {part u v : Str} (h : CleanPart part) (hu : Padding u)
    (hv : Padding v) : '#' ∉ u ++ part ++ v := by
  rw [List.mem_append, List.mem_append]
  intro hmem
  rcases hmem with (hmem | hmem) | hmem
  · exact hu.hash_not_mem hmem
  · exact h.1 hmem
  · exact hv.hash_not_mem hmem

/-- What `parse_name` makes of three texts without `#`. -/
theorem parse_name_nameLayout {t f l : Str} (ht : '#' ∉ t) (hf : '#' ∉ f) (hl : '#' ∉ l)
    (hne : f ≠ []) :
    parse_name (nameLayout t f l)
      = { title := strip t, firstname := strip f, lastname := strip l,
          fullname := strip t ++ ' ' :: (strip f ++ ' ' :: strip l) } := by
  have hdouble : Text.split ['#', '#'] (nameLayout t f l) = [t ++ '#' :: f, l] :=
    Text.split_double ht hf hl hne
  have hsingle : Text.split ['#'] (t ++ '#' :: f) = [t, f] := by
    rw [Text.split_singleton_append_cons ht, Text.split_singleton_of_not_mem hf]
  unfold parse_name
  rw [hdouble]
  dsimp only
  rw [hsingle]

/-- **`parse_name` inverts the documented layout.** -/
theorem name_layout_inverted (t f l : Str) (hclean : ∀ part ∈ [t, f, l], CleanPart part)
    (hf : f ≠ []) (t₁ t₂ f₁ f₂ l₁ l₂ : Str)
    (hpad : ∀ pad ∈ [t₁, t₂, f₁, f₂, l₁, l₂], Padding pad) :
    parse_name (nameLayout (t₁ ++ t ++ t₂) (f₁ ++ f ++ f₂) (l₁ ++ l ++ l₂))
      = { title := t, firstname := f, lastname := l,
          fullname := t ++ ' ' :: (f ++ ' ' :: l) } := by
  have ht := hclean t (by simp)
  have hfirst := hclean f (by simp)
  have hl := hclean l (by simp)
  have ht₁ := hpad t₁ (by simp)
  have ht₂ := hpad t₂ (by simp)
  have hf₁ := hpad f₁ (by simp)
  have hf₂ := hpad f₂ (by simp)
  have hl₁ := hpad l₁ (by simp)
  have hl₂ := hpad l₂ (by simp)
  have hne : f₁ ++ f ++ f₂ ≠ [] := by simp [hf]
  rw [parse_name_nameLayout (ht.hash_not_mem_padded ht₁ ht₂)
    (hfirst.hash_not_mem_padded hf₁ hf₂) (hl.hash_not_mem_padded hl₁ hl₂) hne,
    ht.strip_padded ht₁ ht₂, hfirst.strip_padded hf₁ hf₂, hl.strip_padded hl₁ hl₂]

/-- An empty title, and padding around every part. -/
theorem name_layout_inverted_sample :
    parse_name " # สมชาย ## ใจดี ".toList
      = { title := [], firstname := "สมชาย".toList, lastname := "ใจดี".toList,
          fullname := " สมชาย ใจดี".toList } := by
  have hparse := name_layout_inverted [] "สมชาย".toList "ใจดี".toList (by decide +kernel)
    (by decide) [' '] [] [' '] [' '] [' '] [' '] (by decide)
  have htext : nameLayout ([' '] ++ [] ++ []) ([' '] ++ "สมชาย".toList ++ [' '])
      ([' '] ++ "ใจดี".toList ++ [' ']) = " # สมชาย ## ใจดี ".toList := by decide +kernel
  have hfullname : [] ++ ' ' :: ("สมชาย".toList ++ ' ' :: "ใจดี".toList) = " สมชาย ใจดี".toList := by
    decide +kernel
  rw [← htext, hparse, hfullname]

end IdScan
