import IdScan.Proofs.Weights

/-! # What a name loses

  `parse_name` takes a name apart only if it has the layout of the card, and
  keeps the whole text otherwise. Of a name with the layout it takes two pieces
  in front of the `##`, however many there are, and the text behind as it is.
-/

namespace IdScan

/-- Where the name has the layout, nothing but `#` and white space stands behind
    its second piece, and there is no `#` behind the `##`. -/
def NameTextKept (fullname : Str) : Prop :=
  ∀ name_part last_part title_part first_part more,
    Text.split ['#', '#'] fullname = [name_part, last_part] →
    Text.split ['#'] name_part = title_part :: first_part :: more →
    (∀ piece ∈ more, OnlySpacing piece) ∧ '#' ∉ last_part

/-- The full name of a name with the layout. -/
theorem withoutSpace_fullname (title firstname lastname : Str) :
    withoutSpace (strip title ++ ' ' :: (strip firstname ++ ' ' :: strip lastname))
      = withoutSpace title ++ withoutSpace firstname ++ withoutSpace lastname := by
  have hspace : isspace ' ' = true := by decide
  have hcons : ∀ s, withoutSpace (' ' :: s) = withoutSpace s := by
    intro s
    simp [withoutSpace, hspace]
  have happend : ∀ s s', withoutSpace (s ++ s') = withoutSpace s ++ withoutSpace s' :=
    fun s s' => List.filter_append s s'
  rw [happend, hcons, happend, hcons, withoutSpace_strip, withoutSpace_strip, withoutSpace_strip,
    List.append_assoc]

/-- A name with the layout: its pieces come through but for those behind the
    second. -/
theorem layout_text_kept_iff {name_part last_part title_part first_part : Str} {more : List Str}
    (hname : Text.split ['#'] name_part = title_part :: first_part :: more) :
    withoutSpace title_part ++ withoutSpace first_part ++ withoutSpace last_part
        = content name_part ++ content last_part ↔
      (∀ piece ∈ more, OnlySpacing piece) ∧ '#' ∉ last_part := by
  have hpieces := content_split (by simp) (by decide : content ['#'] = []) name_part
  rw [hname, List.flatMap_cons, List.flatMap_cons] at hpieces
  -- the pieces themselves hold no separator
  have hpiece : ∀ piece ∈ title_part :: first_part :: more, withoutSpace piece = content piece := by
    intro piece hpiece
    exact withoutSpace_eq_content_iff.mpr (Text.not_mem_of_mem_split_singleton (hname ▸ hpiece))
  have hmore : more.flatMap content = [] ↔ ∀ piece ∈ more, OnlySpacing piece := by
    rw [List.flatMap_eq_nil_iff]
    exact forall₂_congr fun piece _ => content_eq_nil_iff
  rw [hpiece title_part (by simp), hpiece first_part (by simp), ← hpieces, ← hmore,
    ← withoutSpace_eq_content_iff, List.append_assoc, List.append_assoc, List.append_assoc,
    List.append_cancel_left_eq, List.append_cancel_left_eq]
  constructor
  · intro heq
    have hlast : withoutSpace last_part = content last_part := by
      rw [withoutSpace_eq_content_iff]
      intro hmem
      -- a `#` behind the `##` would have to be text
      have hkept : '#' ∈ withoutSpace last_part := by
        rw [withoutSpace, List.mem_filter]
        exact ⟨hmem, by decide⟩
      rw [heq, List.mem_append, List.mem_flatMap] at hkept
      rcases hkept with ⟨piece, _, h⟩ | h
      · exact absurd (List.mem_filter.mp h).2 (by decide)
      · exact absurd (List.mem_filter.mp h).2 (by decide)
    rw [hlast] at heq
    exact ⟨List.append_left_eq_self.mp heq.symm, hlast⟩
  · intro h
    rw [h.1, h.2]
    rfl

/-- **When `parse_name` loses no text.** -/
theorem name_text_kept_iff (fullname : Str) :
    withoutSpace (parse_name fullname).fullname = content fullname ↔ NameTextKept fullname := by
  unfold parse_name NameTextKept
  split
  · next name_part last_part hsplit =>
    have hwhole : content fullname = content name_part ++ content last_part := by
      have h := content_split (by simp) (by decide : content ['#', '#'] = []) fullname
      rw [hsplit] at h
      simpa using h.symm
    split
    · next title_part first_part more hname =>
      rw [withoutSpace_fullname, hwhole, layout_text_kept_iff hname]
      constructor
      · intro h name_part' last_part' title_part' first_part' more' hsplit' hname'
        rw [hsplit] at hsplit'
        simp only [List.cons.injEq, and_true] at hsplit'
        obtain ⟨rfl, rfl⟩ := hsplit'
        rw [hname] at hname'
        simp only [List.cons.injEq] at hname'
        obtain ⟨rfl, rfl, rfl⟩ := hname'
        exact h
      · intro h
        exact h _ _ _ _ _ hsplit hname
    · next hname =>
      apply iff_of_true (withoutSpace_hashToSpace fullname)
      intro name_part' last_part' title_part' first_part' more' hsplit' hname'
      rw [hsplit] at hsplit'
      simp only [List.cons.injEq, and_true] at hsplit'
      exact absurd (hsplit'.1 ▸ hname') (hname _ _ _)
  · next hsplit =>
    -- the whole text is kept where the layout is not met
    apply iff_of_true (withoutSpace_hashToSpace fullname)
    intro name_part last_part title_part first_part more hsplit'
    exact absurd hsplit' (hsplit _ _)

/-- A name with a second first name loses it. -/
theorem middleName_lost :
    (parse_name "นาย#ก#ข##ค".toList).fullname = "นาย ก ค".toList ∧
      withoutSpace (parse_name "นาย#ก#ข##ค".toList).fullname ≠ content "นาย#ก#ข##ค".toList := by
  decide +kernel

end IdScan
