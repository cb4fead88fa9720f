import IdScan.Proofs.Address

/-! # Addresses put together

  What `parse_address` reads out of an address whose end is known: subdistrict,
  district and province between single `#`. In the two documented layouts all
  five parts come back. Behind any other beginning the three parts are told
  exactly where the separators before them are right.
-/

namespace IdScan

/-! ### The year in front -/

/-- The text begins with four digits and white space. -/
def StartsWithYear (s : Str) : Prop :=
  ∃ year c behind, s = year ++ c :: behind ∧ year.length = 4 ∧ year.all isdecimal = true ∧
    isspace c = true

theorem dropYear_of_not_startsWithYear {s : Str} (h : ¬ StartsWithYear s) : dropYear s = s := by
  unfold dropYear
  split
  · next a b c d tail =>
    split
    · next hyear =>
      exfalso
      rw [Bool.and_eq_true] at hyear
      obtain ⟨hdigits, hspace⟩ := hyear
      cases tail with
      | nil => simp at hspace
      | cons e tail => exact h ⟨[a, b, c, d], e, tail, rfl, rfl, hdigits, by simpa using hspace⟩
    · rfl
  · rfl

/-- A symbol that is neither a digit nor white space ends every search for a
    year. -/
theorem dropYear_append_cons {x : Char} (hdigit : isdecimal x = false)
    (hspace : isspace x = false) (u v : Str) : dropYear (u ++ x :: v) = dropYear u ++ x :: v := by
  match u with
  | [] =>
    rcases v with _ | ⟨b, _ | ⟨c, _ | ⟨d, v⟩⟩⟩ <;> simp [dropYear, hdigit]
  | [a] =>
    rcases v with _ | ⟨c, _ | ⟨d, v⟩⟩ <;> simp [dropYear, hdigit]
  | [a, b] =>
    rcases v with _ | ⟨d, v⟩ <;> simp [dropYear, hdigit]
  | [a, b, c] => simp [dropYear, hdigit]
  | a :: b :: c :: d :: tail =>
    -- the four symbols are there already, so that only the white space is read
    have hhead : (tail ++ x :: v).head?.any isspace = tail.head?.any isspace := by
      cases tail with
      | nil => simp [hspace]
      | cons e tail => rfl
    have hdrop := Text.dropWhile_append_cons hspace tail v
    simp only [List.cons_append, dropYear, hhead, hdrop]
    split <;> rfl

/-! ### The administrative part -/

/-- Subdistrict, district and province between single `#`. -/
def adminText (t a p : Str) : Str := t ++ '#' :: (a ++ '#' :: p)

/-- A part of an address: trimmed, and without `#`. -/
def CleanPart (part : Str) : Prop := '#' ∉ part ∧ strip part = part

instance (part : Str) : Decidable (CleanPart part) :=
  inferInstanceAs (Decidable ('#' ∉ part ∧ strip part = part))

theorem CleanPart.dropHashes_eq {part : Str} (h : CleanPart part) : dropHashes part = part :=
  dropHashes_of_not_mem h.1 h.2

theorem addressParts_adminText {t a p : Str} (ht : CleanPart t) (ha : CleanPart a)
    (hp : CleanPart p) (htne : t ≠ []) (hane : a ≠ []) (hpne : p ≠ []) :
    addressParts (adminText t a p) = [t, a, p] := by
  have hone : ∀ part, CleanPart part → part ≠ [] →
      (if Text.trim isspace part = [] then [] else [Text.trim isspace part]) = [part] := by
    intro part hpart hne
    have htrim : Text.trim isspace part = part := hpart.2
    rw [htrim, if_neg hne]
  rw [addressParts_eq, adminText, Text.nonBlankPieces_append_cons ht.1,
    Text.nonBlankPieces_append_cons ha.1, Text.nonBlankPieces_of_not_mem hp.1, hone t ht htne,
    hone a ha hane, hone p hp hpne]
  rfl

/-- The address of five parts. -/
def layoutAddress (h m t a p : Str) : ParsedAddress where
  house_no := h
  moo_soi := m
  subdistrict := t
  district := a
  province := p
  fulladdress := Text.joinNonEmpty [' '] [h, m, t, a, p]

/-- Once the three texts are found, the five parts are the fields. -/
theorem ReadAs.parse_address_clean {address h m t a p : Str}
    (hread : ReadAs (dropYear address) h m (adminText t a p))
    (hclean : ∀ part ∈ [h, m, t, a, p], CleanPart part) (ht : t ≠ []) (ha : a ≠ []) (hp : p ≠ []) :
    parse_address address = layoutAddress h m t a p := by
  have hparts : addressParts (adminText t a p) = [t, a, p] :=
    addressParts_adminText (hclean t (by simp)) (hclean a (by simp)) (hclean p (by simp)) ht ha hp
  have hvars : readVars h m (adminText t a p)
      = { house_no := h, moo_soi := m, subdistrict := t, district := a, province := p,
          rest := some (adminText t a p) } := by
    simp [readVars, hparts, (hclean h (by simp)).2, (hclean m (by simp)).2]
  have hhouse : Text.cut ['#'] h = none := Text.cut_eq_none_of_not_mem (hclean h (by simp)).1
  rw [hread.parse_address_eq, hvars, splitMooSoi_of_subdistrict ht, splitHouseNo, hhouse]
  simp only [finishAddress, layoutAddress]
  rw [(hclean h (by simp)).dropHashes_eq, (hclean m (by simp)).dropHashes_eq,
    (hclean t (by simp)).dropHashes_eq, (hclean a (by simp)).dropHashes_eq,
    (hclean p (by simp)).dropHashes_eq]

/-! ### The documented layouts -/

/-- Too few separators for a run of them. -/
theorem not_infix_of_count_lt {sep s : Str} (h : s.count '#' < sep.count '#') :
    ¬ sep <:+: s := by
  intro hsub
  have hle := hsub.sublist.count_le '#'
  omega

/-- House number `###` moo and soi `##` administrative part. -/
def longLayout (h m t a p : Str) : Str :=
  h ++ ['#', '#', '#'] ++ m ++ ['#', '#'] ++ t ++ ['#'] ++ a ++ ['#'] ++ p

/-- House number `#` moo and soi `##` administrative part. -/
def shortLayout (h m t a p : Str) : Str :=
  h ++ ['#'] ++ m ++ ['#', '#'] ++ t ++ ['#'] ++ a ++ ['#'] ++ p

theorem readAs_longLayout {h m : Str} (hh : '#' ∉ h) (hm : '#' ∉ m) (t a p : Str) :
    ReadAs (longLayout h m t a p) h m (adminText t a p) := by
  have haddress : longLayout h m t a p
      = h ++ '#' :: (['#', '#'] ++ (m ++ '#' :: (['#'] ++ adminText t a p))) := by
    simp [longLayout, adminText]
  rw [haddress]
  exact .tripleDouble (Text.cut_append_sep hh _) (Text.cut_append_sep hm _)

/-- In the short layout `#` stands alone, but for the `##` behind moo and soi. -/
theorem readAs_shortLayout {h m t a p : Str} (hh : '#' ∉ h) (hm : '#' ∉ m) (ht : '#' ∉ t)
    (ha : '#' ∉ a) (hp : '#' ∉ p) (hmne : m ≠ []) (htne : t ≠ []) :
    ReadAs (shortLayout h m t a p) h m (adminText t a p) := by
  obtain ⟨x, m, rfl⟩ := List.exists_cons_of_ne_nil hmne
  obtain ⟨y, t, rfl⟩ := List.exists_cons_of_ne_nil htne
  have hx : x ≠ '#' := fun heq => hm (by simp [heq])
  have hy : y ≠ '#' := fun heq => ht (by simp [heq])
  have hhcount : h.count '#' = 0 := List.count_eq_zero_of_not_mem hh
  have hmcount : m.count '#' = 0 := List.count_eq_zero_of_not_mem fun hmem => hm (by simp [hmem])
  have htcount : t.count '#' = 0 := List.count_eq_zero_of_not_mem fun hmem => ht (by simp [hmem])
  have hacount : a.count '#' = 0 := List.count_eq_zero_of_not_mem ha
  have hpcount : p.count '#' = 0 := List.count_eq_zero_of_not_mem hp
  -- the text between two foreign symbols has too few `#`
  have h3 : Text.cut ['#', '#', '#'] (shortLayout h (x :: m) (y :: t) a p) = none := by
    have haddress : shortLayout h (x :: m) (y :: t) a p
        = h ++ ['#'] ++ x :: (m ++ ['#', '#'] ++ y :: (t ++ '#' :: (a ++ '#' :: p))) := by
      simp [shortLayout]
    rw [Text.cut_eq_none_iff (by simp), haddress,
      Text.infix_append_cons_iff (x := x) (by simp [hx]),
      Text.infix_append_cons_iff (x := y) (by simp [hy])]
    intro hsub
    rcases hsub with hsub | hsub | hsub
    · exact not_infix_of_count_lt (by simp [hhcount]) hsub
    · exact not_infix_of_count_lt (by simp [hmcount]) hsub
    · exact not_infix_of_count_lt (by simp [htcount, hacount, hpcount]) hsub
  have h2 : Text.cut ['#', '#'] (shortLayout h (x :: m) (y :: t) a p)
      = some (h ++ '#' :: (x :: m), adminText (y :: t) a p) := by
    have haddress : shortLayout h (x :: m) (y :: t) a p
        = h ++ '#' :: (x :: m ++ '#' :: '#' :: adminText (y :: t) a p) := by
      simp [shortLayout, adminText]
    rw [haddress]
    exact Text.cut_double hh hm (by simp) _
  exact .doubleSingle h3 h2 (Text.cut_append_sep hh _)

/-- **`parse_address` inverts the documented layouts.** -/
theorem layouts_inverted (h m t a p : Str) (hclean : ∀ part ∈ [h, m, t, a, p], CleanPart part)
    (ht : t ≠ []) (ha : a ≠ []) (hp : p ≠ []) (hyear : ¬ StartsWithYear h) :
    parse_address (longLayout h m t a p) = layoutAddress h m t a p ∧
      (m ≠ [] → parse_address (shortLayout h m t a p) = layoutAddress h m t a p) := by
  have hnot : ∀ part ∈ [h, m, t, a, p], '#' ∉ part := fun part hpart => (hclean part hpart).1
  -- the year would have to end before the first `#`
  have hdrop : ∀ behind, dropYear (h ++ '#' :: behind) = h ++ '#' :: behind := by
    intro behind
    rw [dropYear_append_cons (by decide) (by decide), dropYear_of_not_startsWithYear hyear]
  constructor
  · have haddress : dropYear (longLayout h m t a p) = longLayout h m t a p := by
      simpa [longLayout] using hdrop _
    have hread := readAs_longLayout (hnot h (by simp)) (hnot m (by simp)) t a p
    rw [← haddress] at hread
    exact hread.parse_address_clean hclean ht ha hp
  · intro hm
    have haddress : dropYear (shortLayout h m t a p) = shortLayout h m t a p := by
      simpa [shortLayout] using hdrop _
    have hread := readAs_shortLayout (hnot h (by simp)) (hnot m (by simp)) (hnot t (by simp))
      (hnot a (by simp)) (hnot p (by simp)) hm ht
    rw [← haddress] at hread
    exact hread.parse_address_clean hclean ht ha hp

theorem layouts_inverted_sample :
    (parse_address "1/2###หมู่ที่ 3##ตำบลก#อำเภอข#จังหวัดค".toList).fulladdress
        = "1/2 หมู่ที่ 3 ตำบลก อำเภอข จังหวัดค".toList ∧
      parse_address "1/2###หมู่ที่ 3##ตำบลก#อำเภอข#จังหวัดค".toList
        = parse_address "1/2#หมู่ที่ 3##ตำบลก#อำเภอข#จังหวัดค".toList := by
  obtain ⟨hlong, hshort⟩ := layouts_inverted "1/2".toList "หมู่ที่ 3".toList "ตำบลก".toList
    "อำเภอข".toList "จังหวัดค".toList (by decide +kernel) (by decide) (by decide) (by decide)
    (by
      intro h
      obtain ⟨year, c, behind, heq, hlen, -⟩ := h
      have hlen' := congrArg List.length heq
      simp [hlen] at hlen'
      omega)
  have hlongText : longLayout "1/2".toList "หมู่ที่ 3".toList "ตำบลก".toList "อำเภอข".toList
      "จังหวัดค".toList = "1/2###หมู่ที่ 3##ตำบลก#อำเภอข#จังหวัดค".toList := by decide +kernel
  have hshortText : shortLayout "1/2".toList "หมู่ที่ 3".toList "ตำบลก".toList "อำเภอข".toList
      "จังหวัดค".toList = "1/2#หมู่ที่ 3##ตำบลก#อำเภอข#จังหวัดค".toList := by decide +kernel
  rw [← hlongText, ← hshortText, hlong, hshort (by decide)]
  exact ⟨by decide +kernel, rfl⟩

end IdScan
