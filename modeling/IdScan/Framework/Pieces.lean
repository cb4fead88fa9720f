import IdScan.Framework.Text

/-! # The pieces of a text between separators

  Where a cut falls in a text that is put together, what the pieces of a split
  at one symbol are, and how much of a text its pieces keep. A piece counts once
  it is trimmed, and only if something is left of it then.

  A text is weighed by the symbols of a class `keep` that holds neither the
  separator nor what trimming takes away: cutting, trimming, splitting and
  joining lose none of them.
-/

namespace Text

universe u

variable {α : Type u}

/-! ### Trimmed texts -/

/-- The last symbol of a trimmed text is not of the class. -/
theorem last_trim_not {p : α → Bool} {s xs : List α} {x : α} (h : trim p s = xs ++ [x]) :
    p x = false := by
  have hne : (s.dropWhile p).rdropWhile p ≠ [] := by
    intro hnil
    rw [trim, hnil] at h
    simp at h
  have hlast := List.rdropWhile_last_not p (s.dropWhile p) hne
  have hx : ((s.dropWhile p).rdropWhile p).getLast hne = x := by
    simp only [show (s.dropWhile p).rdropWhile p = xs ++ [x] from h, List.getLast_append_singleton]
  rw [hx] at hlast
  simpa using hlast

/-- A text is trimmed where neither of its ends is of the class. -/
theorem trim_eq_self_iff {p : α → Bool} {s : List α} :
    trim p s = s ↔ (∀ x ∈ s.head?, p x = false) ∧ ∀ x ∈ s.getLast?, p x = false := by
  constructor
  · intro h
    refine ⟨?_, ?_⟩
    · intro x hx
      obtain ⟨xs, rfl⟩ := List.head?_eq_some_iff.mp hx
      exact head_trim_not h
    · intro x hx
      obtain ⟨xs, rfl⟩ := List.getLast?_eq_some_iff.mp hx
      exact last_trim_not h
  · intro h
    obtain ⟨hhead, hlast⟩ := h
    have hfront : s.dropWhile p = s := by
      cases s with
      | nil => rfl
      | cons x xs => simp [hhead x (by simp)]
    rw [trim, hfront, List.rdropWhile_eq_self_iff]
    intro hne
    simp [hlast (s.getLast hne) (by simp [List.getLast?_eq_some_getLast hne])]

/-- Blank symbols in front are trimmed away. -/
theorem trim_append_left {p : α → Bool} {u : List α} (hu : ∀ x ∈ u, p x = true) (s : List α) :
    trim p (u ++ s) = trim p s := by
  rw [trim, trim, List.dropWhile_append_of_pos hu]

/-- And so are those behind. -/
theorem trim_append_right {p : α → Bool} {v : List α} (hv : ∀ x ∈ v, p x = true) (s : List α) :
    trim p (s ++ v) = trim p s := by
  have hback : (v.reverse ++ (s.dropWhile p).reverse).dropWhile p
      = (s.dropWhile p).reverse.dropWhile p := by
    apply List.dropWhile_append_of_pos
    intro x hx
    exact hv x (List.mem_reverse.mp hx)
  rw [trim, trim, List.dropWhile_append]
  split
  · next hnil =>
    rw [List.isEmpty_iff] at hnil
    rw [hnil, List.dropWhile_eq_nil_iff.mpr hv]
  · unfold List.rdropWhile
    rw [List.reverse_append, hback]

/-- What is trimmed away stands on the two sides. -/
theorem eq_append_trim_append (p : α → Bool) (s : List α) :
    ∃ u v, (∀ x ∈ u, p x = true) ∧ (∀ x ∈ v, p x = true) ∧ s = u ++ (trim p s ++ v) := by
  refine ⟨s.takeWhile p, (s.dropWhile p).rtakeWhile p, fun x hx => List.mem_takeWhile_imp hx,
    fun x hx => List.mem_rtakeWhile_imp hx, ?_⟩
  rw [trim, List.rdropWhile_append_rtakeWhile, List.takeWhile_append_dropWhile]

theorem trim_dropWhile (p : α → Bool) (s : List α) : trim p (s.dropWhile p) = trim p s := by
  rw [trim, trim, List.dropWhile_idempotent p s]

theorem trim_rdropWhile (p : α → Bool) (s : List α) : trim p (s.rdropWhile p) = trim p s := by
  have hsides : s.rdropWhile p ++ s.rtakeWhile p = s := List.rdropWhile_append_rtakeWhile
  rw [← trim_append_right (fun x hx => List.mem_rtakeWhile_imp hx) (s.rdropWhile p), hsides]

/-- What is trimmed away before a filter is trimmed away behind it. -/
theorem trim_filter_trim (p keep : α → Bool) (s : List α) :
    trim p ((trim p s).filter keep) = trim p (s.filter keep) := by
  obtain ⟨u, v, hu, hv, hs⟩ := eq_append_trim_append p s
  conv_rhs => rw [hs]
  rw [List.filter_append, List.filter_append,
    trim_append_left fun x hx => hu x (List.mem_of_mem_filter hx),
    trim_append_right fun x hx => hv x (List.mem_of_mem_filter hx)]

/-- What begins with one symbol and ends with a trimmed text is trimmed. -/
theorem trim_cons_append {p : α → Bool} {x : α} {t : List α} (hx : p x = false)
    (ht : trim p t = t) (hne : t ≠ []) (s : List α) :
    trim p (x :: (s ++ t)) = x :: (s ++ t) := by
  have hlast := (trim_eq_self_iff.mp ht).2
  rw [trim_eq_self_iff]
  refine ⟨by simp [hx], ?_⟩
  intro y hy
  rw [← List.cons_append, List.getLast?_append_of_ne_nil _ hne] at hy
  exact hlast y hy

/-- A symbol that is not of the class ends the search for blanks. -/
theorem dropWhile_append_cons {p : α → Bool} {x : α} (hx : p x = false) (u v : List α) :
    (u ++ x :: v).dropWhile p = u.dropWhile p ++ x :: v := by
  rw [List.dropWhile_append]
  split
  · next hnil =>
    rw [List.isEmpty_iff] at hnil
    simp [hnil, hx]
  · rfl

/-- Trimming works on either side of such a symbol. -/
theorem trim_append_cons {p : α → Bool} {x : α} (hx : p x = false) (u v : List α) :
    trim p (u ++ x :: v) = u.dropWhile p ++ x :: v.rdropWhile p := by
  have hreverse : (u.dropWhile p ++ x :: v).reverse = v.reverse ++ x :: (u.dropWhile p).reverse := by
    simp
  rw [trim, dropWhile_append_cons hx, List.rdropWhile, hreverse, dropWhile_append_cons hx]
  simp [List.rdropWhile]

/-! ### Occurrences across a foreign symbol -/

/-- A prefix does not reach over a symbol it does not hold. -/
theorem prefix_append_cons_iff {w s v : List α} {x : α} (hx : x ∉ w) :
    w <+: s ++ x :: v ↔ w <+: s := by
  induction s generalizing w with
  | nil =>
    cases w with
    | nil => simp
    | cons y w =>
      have hne : y ≠ x := fun h => hx (by simp [h])
      simp [List.cons_prefix_cons, hne]
  | cons y s ih =>
    cases w with
    | nil => simp
    | cons z w =>
      have hw : x ∉ w := fun h => hx (by simp [h])
      simp [List.cons_prefix_cons, ih hw]

/-- Nor does an occurrence. -/
theorem infix_append_cons_iff {w s v : List α} {x : α} (hx : x ∉ w) :
    w <:+: s ++ x :: v ↔ w <:+: s ∨ w <:+: v := by
  induction s with
  | nil =>
    have hnil : w <+: ([] : List α) ++ x :: v ↔ w <+: [] := prefix_append_cons_iff hx
    simp only [List.nil_append] at hnil ⊢
    rw [List.infix_cons_iff, hnil, List.prefix_nil, List.infix_nil]
  | cons y s ih =>
    have hpre : w <+: y :: s ++ x :: v ↔ w <+: y :: s := prefix_append_cons_iff hx
    rw [List.cons_append] at hpre ⊢
    rw [List.infix_cons_iff, hpre, ih, List.infix_cons_iff, or_assoc]

section weighing
variable {p keep : α → Bool}

/-! ### What a text weighs -/

theorem filter_dropWhile (hp : ∀ x, p x = true → keep x = false) (s : List α) :
    (s.dropWhile p).filter keep = s.filter keep := by
  induction s with
  | nil => rfl
  | cons x s ih =>
    by_cases hx : p x = true
    · rw [List.dropWhile_cons_of_pos hx, ih, List.filter_cons_of_neg (by simp [hp x hx])]
    · rw [List.dropWhile_cons_of_neg hx]

theorem filter_rdropWhile (hp : ∀ x, p x = true → keep x = false) (s : List α) :
    (s.rdropWhile p).filter keep = s.filter keep := by
  rw [List.rdropWhile, List.filter_reverse, filter_dropWhile hp, List.filter_reverse,
    List.reverse_reverse]

theorem filter_trim (hp : ∀ x, p x = true → keep x = false) (s : List α) :
    (trim p s).filter keep = s.filter keep := by
  rw [trim, filter_rdropWhile hp, filter_dropWhile hp]

theorem filter_joinNonEmpty {sep : List α} (hsep : sep.filter keep = [])
    (parts : List (List α)) :
    (joinNonEmpty sep parts).filter keep = parts.flatMap (List.filter keep) := by
  induction parts with
  | nil => rfl
  | cons part parts ih =>
    rw [joinNonEmpty_cons, List.flatMap_cons, ← ih]
    by_cases hpart : part = []
    · simp [hpart]
    · by_cases hrest : joinNonEmpty sep parts = []
      · simp [hpart, hrest]
      · simp [hpart, hrest, hsep]

end weighing

section cutting
variable [DecidableEq α]

/-! ### Where a cut falls -/

/-- A cut passes over a text without the first symbol of the separator. -/
theorem cut_append_of_not_mem {c : α} {u : List α} (hc : c ∉ u) (sep s : List α) :
    cut (c :: sep) (u ++ s)
      = (cut (c :: sep) s).map fun (before, after) => (u ++ before, after) := by
  induction u with
  | nil => simp
  | cons x u ih =>
    have hne : c ≠ x := fun h => hc (by simp [h])
    have hpre : (c :: sep).isPrefixOf (x :: (u ++ s)) = false := by
      simp [List.isPrefixOf, hne]
    have hu : c ∉ u := fun h => hc (by simp [h])
    rw [List.cons_append, cut, hpre, ih hu]
    simp [Function.comp_def]

/-- The first separator behind a text without its first symbol. -/
theorem cut_append_sep {c : α} {sep before : List α} (hc : c ∉ before) (after : List α) :
    cut (c :: sep) (before ++ c :: (sep ++ after)) = some (before, after) := by
  have hpre : (c :: sep).isPrefixOf (c :: (sep ++ after)) = true := by
    rw [List.isPrefixOf_iff_prefix]
    exact ⟨after, by simp⟩
  rw [cut_append_of_not_mem hc, cut, if_pos hpre]
  simp

/-- A single symbol does not look like two of it, if something stands between
    them. -/
theorem cut_double {c : α} {u v : List α} (hu : c ∉ u) (hv : c ∉ v) (hne : v ≠ [])
    (w : List α) : cut [c, c] (u ++ c :: (v ++ c :: c :: w)) = some (u ++ c :: v, w) := by
  obtain ⟨x, v, rfl⟩ := List.exists_cons_of_ne_nil hne
  have hx : c ≠ x := fun h => hv (by simp [h])
  have hpre : [c, c].isPrefixOf (c :: (x :: v ++ c :: c :: w)) = false := by
    simp [List.isPrefixOf, hx]
  have hdouble : cut [c, c] (x :: v ++ c :: c :: w) = some (x :: v, w) :=
    cut_append_sep hv w
  rw [cut_append_of_not_mem hu, cut, hpre, hdouble]
  simp

/-- A cut does not see what stands behind a foreign symbol, if it falls before. -/
theorem cut_append_cons {sep u v : List α} {x : α} (hx : x ∉ sep) :
    cut sep (u ++ x :: v) = match cut sep u with
      | some (before, after) => some (before, after ++ x :: v)
      | none => (cut sep (x :: v)).map fun (before, after) => (u ++ before, after) := by
  induction u with
  | nil => simp [cut]
  | cons y u ih =>
    have hpre : sep.isPrefixOf (y :: (u ++ x :: v)) = sep.isPrefixOf (y :: u) := by
      rw [Bool.eq_iff_iff, List.isPrefixOf_iff_prefix, List.isPrefixOf_iff_prefix,
        ← List.cons_append]
      exact prefix_append_cons_iff hx
    rw [List.cons_append, cut, hpre, cut, ih]
    by_cases h : sep.isPrefixOf (y :: u) = true
    · have hlen : sep.length ≤ (y :: u).length := (List.isPrefixOf_iff_prefix.mp h).length_le
      rw [if_pos h, if_pos h, ← List.cons_append, List.drop_append_of_le_length hlen]
    · rw [if_neg h, if_neg h]
      cases cut sep u with
      | none => simp [Function.comp_def]
      | some p => rfl

/-- A text without the first symbol of the separator is not cut. -/
theorem cut_eq_none_of_not_mem {c : α} {sep s : List α} (hc : c ∉ s) :
    cut (c :: sep) s = none := by
  rw [cut_eq_none_iff (by simp)]
  intro h
  exact hc (h.subset (by simp))

/-! ### Splitting at one symbol -/

theorem split_singleton_cons_self (c : α) (s : List α) :
    split [c] (c :: s) = [] :: split [c] s := by
  have hcut : cut [c] (c :: s) = some ([], s) := by simp [cut, List.isPrefixOf]
  rw [split_eq (by simp), hcut]

theorem split_singleton_ne_nil (c : α) (s : List α) : split [c] s ≠ [] := by
  rw [split_eq (by simp)]
  cases cut [c] s <;> simp

theorem split_singleton_cons_ne {c x : α} (hx : x ≠ c) (s : List α) :
    split [c] (x :: s) = (split [c] s).modifyHead (x :: ·) := by
  have hcut : cut [c] (x :: s) = (cut [c] s).map fun (before, after) => (x :: before, after) := by
    simp [cut, List.isPrefixOf, hx.symm]
  rw [split_eq (by simp) (x :: s), hcut, split_eq (by simp) s]
  cases cut [c] s <;> rfl

/-- A split takes the first piece off at the first separator. -/
theorem split_singleton_append_cons {c : α} {before : List α} (hc : c ∉ before)
    (after : List α) : split [c] (before ++ c :: after) = before :: split [c] after := by
  have hcut : cut [c] (before ++ c :: after) = some (before, after) := cut_append_sep hc after
  rw [split_eq (by simp), hcut]

theorem split_singleton_of_not_mem {c : α} {s : List α} (hc : c ∉ s) : split [c] s = [s] := by
  rw [split_eq (by simp), cut_eq_none_of_not_mem hc]

/-- Of a text with one single symbol and one double, in this order, the split at
    the double gives two pieces. -/
theorem split_double {c : α} {u v w : List α} (hu : c ∉ u) (hv : c ∉ v) (hw : c ∉ w)
    (hne : v ≠ []) : split [c, c] (u ++ c :: (v ++ c :: c :: w)) = [u ++ c :: v, w] := by
  rw [split_eq (by simp), cut_double hu hv hne]
  show (u ++ c :: v) :: split [c, c] w = _
  rw [split_eq (by simp), cut_eq_none_of_not_mem hw]

/-- The pieces do not hold the separator. -/
theorem not_mem_of_mem_split_singleton {c : α} {s piece : List α} (h : piece ∈ split [c] s) :
    c ∉ piece := by
  induction s generalizing piece with
  | nil =>
    have hnil : split [c] ([] : List α) = [[]] := split_singleton_of_not_mem (by simp)
    simp only [hnil, List.mem_singleton] at h
    simp [h]
  | cons x s ih =>
    by_cases hx : x = c
    · subst hx
      rw [split_singleton_cons_self, List.mem_cons] at h
      rcases h with rfl | h
      · simp
      · exact ih h
    · rw [split_singleton_cons_ne hx] at h
      cases hs : split [c] s with
      | nil => exact absurd hs (split_singleton_ne_nil c s)
      | cons first rest =>
        rw [hs] at h ih
        simp only [List.modifyHead_cons, List.mem_cons] at h
        rcases h with rfl | h
        · have hfirst : c ∉ first := ih (by simp)
          simp [hfirst, Ne.symm hx]
        · exact ih (by simp [h])

/-! ### The pieces that are not blank -/

/-- The pieces between the separators, trimmed, without the blank ones. -/
def nonBlankPieces (p : α → Bool) (c : α) (s : List α) : List (List α) :=
  ((split [c] s).map (trim p)).filter fun piece => !piece.isEmpty

variable {p : α → Bool} {c : α}

/-- One piece, as it counts. -/
theorem nonBlankPieces_append_cons {before : List α} (hc : c ∉ before) (after : List α) :
    nonBlankPieces p c (before ++ c :: after)
      = (if trim p before = [] then [] else [trim p before]) ++ nonBlankPieces p c after := by
  unfold nonBlankPieces
  rw [split_singleton_append_cons hc, List.map_cons, List.filter_cons]
  by_cases h : trim p before = []
  · simp [h]
  · simp [h]

theorem nonBlankPieces_of_not_mem {s : List α} (hc : c ∉ s) :
    nonBlankPieces p c s = if trim p s = [] then [] else [trim p s] := by
  unfold nonBlankPieces
  rw [split_singleton_of_not_mem hc]
  by_cases h : trim p s = []
  · simp [h]
  · simp [h]

/-- A separator or a blank symbol in front changes no piece. -/
theorem nonBlankPieces_cons_blank {x : α} (hx : x = c ∨ p x = true) (s : List α) :
    nonBlankPieces p c (x :: s) = nonBlankPieces p c s := by
  unfold nonBlankPieces
  by_cases hxc : x = c
  · subst hxc
    rw [split_singleton_cons_self]
    simp
  · have hp : p x = true := hx.resolve_left hxc
    rw [split_singleton_cons_ne hxc]
    cases hs : split [c] s with
    | nil => rfl
    | cons first rest =>
      have htrim : trim p (x :: first) = trim p first := by simp [trim, hp]
      simp [htrim]

theorem nonBlankPieces_blank_append {u : List α} (hu : ∀ x ∈ u, x = c ∨ p x = true)
    (s : List α) : nonBlankPieces p c (u ++ s) = nonBlankPieces p c s := by
  induction u with
  | nil => rfl
  | cons x u ih =>
    rw [List.cons_append, nonBlankPieces_cons_blank (hu x (by simp))]
    exact ih fun y hy => hu y (by simp [hy])

/-- There is no piece exactly if there is nothing but blanks and separators. -/
theorem nonBlankPieces_eq_nil_iff {s : List α} :
    nonBlankPieces p c s = [] ↔ ∀ x ∈ s, x = c ∨ p x = true := by
  induction s with
  | nil =>
    have hnil : nonBlankPieces p c [] = [] := by
      rw [nonBlankPieces_of_not_mem (by simp), trim_nil, if_pos rfl]
    simp [hnil]
  | cons x s ih =>
    rw [List.forall_mem_cons]
    by_cases hx : x = c ∨ p x = true
    · rw [nonBlankPieces_cons_blank hx, ih]
      exact ⟨fun h => ⟨hx, h⟩, And.right⟩
    · refine iff_of_false ?_ fun h => hx h.1
      rw [not_or, Bool.not_eq_true] at hx
      unfold nonBlankPieces
      rw [split_singleton_cons_ne hx.1]
      cases hs : split [c] s with
      | nil => exact absurd hs (split_singleton_ne_nil c s)
      | cons first rest =>
        -- the piece that begins at `x` is not blank
        have htrim : trim p (x :: first) ≠ [] := by
          rw [Ne, trim_eq_nil_iff]
          intro hall
          simp [hx.2] at hall
        simp [htrim]

/-- The pieces are trimmed, not empty, and hold no separator. -/
theorem mem_nonBlankPieces {s piece : List α} (h : piece ∈ nonBlankPieces p c s) :
    piece ≠ [] ∧ trim p piece = piece ∧ c ∉ piece := by
  simp only [nonBlankPieces, List.mem_filter, List.mem_map] at h
  obtain ⟨⟨raw, hraw, rfl⟩, hne⟩ := h
  refine ⟨by simpa using hne, trim_trim p raw, ?_⟩
  intro hmem
  exact not_mem_of_mem_split_singleton hraw (mem_of_mem_trim hmem)

/-- What squeezing doubled separators makes of a text with one symbol in front. -/
theorem squeeze_cons (c x : α) (s : List α) :
    replace [c, c] [c] (x :: s) = x :: replace [c, c] [c] s ∨
      ∃ t, x = c ∧ s = c :: t ∧ replace [c, c] [c] (x :: s) = c :: replace [c, c] [c] t := by
  by_cases hpre : [c, c].isPrefixOf (x :: s) = true
  · obtain ⟨t, ht⟩ := List.isPrefixOf_iff_prefix.mp hpre
    simp only [List.cons_append, List.nil_append, List.cons.injEq] at ht
    obtain ⟨rfl, rfl⟩ := ht
    exact .inr ⟨t, rfl, rfl, by simp [replace, replaceFrom]⟩
  · left
    rw [replace, replaceFrom, if_neg hpre]
    rfl

/-- **Doubled separators make no difference** to the pieces, whatever has been
    read of the first one. -/
theorem nonBlankPieces_squeeze {before : List α} (hc : c ∉ before) (s : List α) :
    nonBlankPieces p c (before ++ replace [c, c] [c] s) = nonBlankPieces p c (before ++ s) := by
  -- the replacement goes on by one symbol or by two separators
  induction hn : s.length using Nat.strong_induction_on generalizing before s with
  | _ n ih =>
  cases s with
  | nil => rfl
  | cons x s =>
    have hempty : ∀ t : List α, t.length < n →
        nonBlankPieces p c (replace [c, c] [c] t) = nonBlankPieces p c t := by
      intro t ht
      have hnil : c ∉ ([] : List α) := by simp
      simpa using ih t.length ht hnil t rfl
    have hlen : s.length < n := by simp only [List.length_cons] at hn; omega
    rcases squeeze_cons c x s with hone | ⟨t, rfl, rfl, htwo⟩
    · rw [hone]
      by_cases hx : x = c
      · subst hx
        rw [nonBlankPieces_append_cons hc, nonBlankPieces_append_cons hc, hempty s hlen]
      · have hbefore : c ∉ before ++ [x] := by simp [hc, Ne.symm hx]
        have h := ih s.length hlen hbefore s rfl
        simpa using h
    · have ht : t.length < n := by simp only [List.length_cons] at hlen; omega
      rw [htwo, nonBlankPieces_append_cons hc, nonBlankPieces_append_cons hc, hempty t ht,
        nonBlankPieces_cons_blank (.inl rfl)]

/-- The first piece of a text put together: it can be `t` only if nothing but
    blanks and separators stands before `t`, or `t` occurs there already. -/
theorem head_nonBlankPieces {u t : List α} (ht : trim p t = t) (hne : t ≠ []) (hc : c ∉ t)
    (v : List α) (h : (nonBlankPieces p c (u ++ (t ++ c :: v))).head? = some t) :
    (∀ x ∈ u, x = c ∨ p x = true) ∨ t <:+: u := by
  induction u with
  | nil => exact .inl (by simp)
  | cons x u ih =>
    by_cases hx : x = c ∨ p x = true
    · rw [List.cons_append, nonBlankPieces_cons_blank hx] at h
      rcases ih h with hblank | hsub
      · exact .inl fun y hy => (List.mem_cons.mp hy).elim (fun heq => heq ▸ hx) (hblank y)
      · exact .inr (List.infix_cons hsub)
    · -- a piece begins at `x`: it ends inside `u`, or it is longer than `t`
      right
      rw [not_or, Bool.not_eq_true] at hx
      obtain ⟨hxc, hpx⟩ := hx
      by_cases hcu : c ∈ u
      · obtain ⟨first, rest, rfl, hfirst⟩ := List.eq_append_cons_of_mem hcu
        have hcfirst : c ∉ x :: first := by simp [hfirst, Ne.symm hxc]
        have htrim : trim p (x :: first) ≠ [] := by
          rw [Ne, trim_eq_nil_iff]
          intro hall
          simp [hpx] at hall
        have hassoc : x :: (first ++ c :: rest) ++ (t ++ c :: v)
            = x :: first ++ c :: (rest ++ (t ++ c :: v)) := by simp
        rw [hassoc, nonBlankPieces_append_cons hcfirst, if_neg htrim] at h
        simp only [List.singleton_append, List.head?_cons, Option.some.injEq] at h
        have hsub : t <:+: x :: first := h ▸ isInfix_trim p (x :: first)
        exact hsub.trans ⟨[], c :: rest, by simp⟩
      · have hcpiece : c ∉ x :: (u ++ t) := by simp [hcu, hc, Ne.symm hxc]
        have hself : trim p (x :: (u ++ t)) = x :: (u ++ t) := trim_cons_append hpx ht hne u
        have hassoc : x :: u ++ (t ++ c :: v) = x :: (u ++ t) ++ c :: v := by simp
        rw [hassoc, nonBlankPieces_append_cons hcpiece, hself] at h
        simp only [List.cons_ne_nil, if_false, List.singleton_append, List.head?_cons,
          Option.some.injEq] at h
        have hlen := congrArg List.length h
        simp only [List.length_cons, List.length_append] at hlen
        omega

/-! ### What the pieces weigh -/

section weighing
variable {keep : α → Bool}

theorem filter_of_cut {sep s before after : List α} (hsep : sep.filter keep = [])
    (h : cut sep s = some (before, after)) :
    s.filter keep = before.filter keep ++ after.filter keep := by
  rw [cut_eq_some h, List.filter_append, List.filter_append, hsep, List.append_nil]

/-- Splitting drops separators only. -/
theorem filter_split {sep : List α} (hsep : sep ≠ []) (hkeep : sep.filter keep = [])
    (s : List α) : (split sep s).flatMap (List.filter keep) = s.filter keep := by
  induction hn : s.length using Nat.strong_induction_on generalizing s with
  | _ n ih =>
  rw [split_eq hsep]
  cases hcut : cut sep s with
  | none => simp
  | some q =>
    obtain ⟨before, after⟩ := q
    have hlt := length_after_cut hsep hcut
    dsimp only
    rw [List.flatMap_cons, ih after.length (hn ▸ hlt) after rfl, filter_of_cut hkeep hcut]

/-- **The pieces weigh what the text weighs.** -/
theorem filter_nonBlankPieces (hp : ∀ x, p x = true → keep x = false) (hc : keep c = false)
    (s : List α) : (nonBlankPieces p c s).flatMap (List.filter keep) = s.filter keep := by
  have hsplit : (split [c] s).flatMap (List.filter keep) = s.filter keep :=
    filter_split (by simp) (by simp [hc]) s
  rw [← hsplit]
  unfold nonBlankPieces
  induction split [c] s with
  | nil => rfl
  | cons piece pieces ih =>
    have hpiece := filter_trim hp piece
    rw [List.map_cons, List.filter_cons, List.flatMap_cons, ← hpiece, ← ih]
    by_cases h : trim p piece = []
    · simp [h]
    · simp [h]

/-- Replacing a symbol by nothing. -/
theorem replace_singleton_nil (a : α) (s : List α) :
    replace [a] [] s = s.filter fun x => decide (x ≠ a) := by
  unfold replace
  induction s with
  | nil => rfl
  | cons x s ih =>
    by_cases hx : x = a
    · simp [replaceFrom, hx, ih]
    · have hpre : [a].isPrefixOf (x :: s) = false := by simp [List.isPrefixOf, Ne.symm hx]
      rw [replaceFrom, hpre, List.filter_cons_of_pos (by simp [hx]), ← ih]
      rfl

end weighing

end cutting

end Text
