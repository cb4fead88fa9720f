import IdScan.Proofs.AddressLayout
import IdScan.Proofs.Weights

/-! # Where the administrative part is recognised

  An address that ends in subdistrict, district and province, with the word of
  the subdistrict nowhere else, behind any other text. The source finds the
  three parts by counting separators from the left, and looks for the word
  itself in one of its branches only. So it depends on the separators of the
  text in front whether the right parts land in the right fields.
-/

namespace IdScan

/-! ### The word of the subdistrict -/

theorem startsWithWord_iff {s : Str} :
    startsWithWord s = true ↔ ∃ word ∈ subdistrictWords, word <+: s := by
  simp [startsWithWord]

/-- None of the words occurs in the text. -/
def NoWord (s : Str) : Prop := ∀ word ∈ subdistrictWords, ¬ word <:+: s

theorem NoWord.mono {s s' : Str} (h : NoWord s) (hsub : s' <:+: s) : NoWord s' :=
  fun word hword hin => h word hword (hin.trans hsub)

/-- The words hold neither `#` nor white space, and do not begin with a digit. -/
theorem word_symbols : ∀ word ∈ subdistrictWords, word ≠ [] ∧
    ∀ c ∈ word, c ≠ '#' ∧ isspace c = false ∧ isdecimal c = false := by
  have hall : (subdistrictWords.all fun word => !word.isEmpty && word.all fun c =>
      c != '#' && !isspace c && !isdecimal c) = true := by decide +kernel
  simpa [and_assoc] using hall

/-- The text in front ends where a part may begin. -/
def EndsOpen (u : Str) : Prop := ∀ c ∈ u.getLast?, c = '#' ∨ isspace c = true

instance (u : Str) : Decidable (EndsOpen u) := Option.decidableForallMem u.getLast?

/-- Subdistrict, district and province, with the word of the subdistrict at the
    start of the subdistrict and nowhere else. -/
structure AdminPart (t a p : Str) : Prop where
  clean : ∀ part ∈ [t, a, p], CleanPart part
  nonempty : ∀ part ∈ [t, a, p], part ≠ []
  word : startsWithWord t = true
  noWord : NoWord t.tail ∧ NoWord a ∧ NoWord p

section admin
variable {t a p : Str} (hadm : AdminPart t a p)
include hadm

/-- The first symbol of the subdistrict. -/
theorem AdminPart.exists_cons : ∃ y t', t = y :: t' ∧ y ≠ '#' ∧ isspace y = false ∧
    isdecimal y = false := by
  obtain ⟨word, hword, hpre⟩ := startsWithWord_iff.mp hadm.word
  obtain ⟨hne, hsymbols⟩ := word_symbols word hword
  obtain ⟨y, word', rfl⟩ := List.exists_cons_of_ne_nil hne
  obtain ⟨behind, rfl⟩ := hpre
  exact ⟨y, word' ++ behind, rfl, hsymbols y (by simp)⟩

/-- In the administrative part the word stands at the start only. -/
theorem AdminPart.noWord_tail : NoWord (adminText t a p).tail := by
  obtain ⟨y, t', rfl, -⟩ := hadm.exists_cons
  obtain ⟨ht, ha, hp⟩ := hadm.noWord
  intro word hword hsub
  have hhash : '#' ∉ word := fun hmem => ((word_symbols word hword).2 '#' hmem).1 rfl
  have htail : (adminText (y :: t') a p).tail = t' ++ '#' :: (a ++ '#' :: p) := rfl
  rw [htail, Text.infix_append_cons_iff hhash, Text.infix_append_cons_iff hhash] at hsub
  rcases hsub with h | h | h
  · exact ht word hword h
  · exact ha word hword h
  · exact hp word hword h

/-- **The word occurs at one place**, where the administrative part begins. -/
theorem AdminPart.eq_of_startsWithWord {u from_ : Str} (hu : NoWord u) (hopen : EndsOpen u)
    (hfrom : from_ <:+ u ++ adminText t a p) (hword : startsWithWord from_ = true) :
    from_ = adminText t a p := by
  obtain ⟨word, hmem, hpre⟩ := startsWithWord_iff.mp hword
  have hsymbols := (word_symbols word hmem).2
  rcases List.suffix_or_suffix_of_suffix hfrom (List.suffix_append u (adminText t a p)) with h | h
  · -- at the start of the part, or behind it
    by_contra hne
    obtain ⟨y, t', rfl, -⟩ := hadm.exists_cons
    have htail : from_ <:+ (adminText (y :: t') a p).tail :=
      (List.suffix_cons_iff.mp h).resolve_left hne
    exact hadm.noWord_tail word hmem (hpre.isInfix.trans htail.isInfix)
  · obtain ⟨u', rfl⟩ := h
    have hsuffix : u' <:+ u := List.suffix_append_self_iff.mp hfrom
    rcases List.eq_nil_or_concat u' with rfl | ⟨u'', c, rfl⟩
    · rfl
    · -- the word does not reach over the last symbol in front
      exfalso
      have hc : c = '#' ∨ isspace c = true := by
        obtain ⟨before, hbefore⟩ := hsuffix
        apply hopen c
        simp [← hbefore]
      have hnot : c ∉ word := by
        intro hcw
        obtain ⟨hhash, hspace, -⟩ := hsymbols c hcw
        rcases hc with rfl | hc
        · exact hhash rfl
        · simp [hspace] at hc
      rw [List.concat_eq_append, List.append_assoc, List.singleton_append,
        Text.prefix_append_cons_iff hnot] at hpre
      have hsub : word <:+: u := by
        refine hpre.isInfix.trans (List.IsInfix.trans ?_ hsuffix.isInfix)
        exact ⟨[], [c], by simp⟩
      exact hu word hmem hsub

/-- `parse_address` finds the three parts. -/
def AdminFound (address t a p : Str) : Prop :=
  (parse_address address).subdistrict = t ∧ (parse_address address).district = a ∧
    (parse_address address).province = p

/-- Once the administrative part stands at the end of the rest, it is found if
    nothing else is there. -/
theorem AdminPart.found_iff {address house moo before : Str}
    (hread : ReadAs (dropYear address) house moo (before ++ adminText t a p))
    (hbefore : NoWord before) : AdminFound address t a p ↔ OnlySpacing before := by
  have ht := hadm.clean t (by simp)
  have htne := hadm.nonempty t (by simp)
  have hparts : addressParts (before ++ adminText t a p) ≠ [] := by
    obtain ⟨y, t', rfl, hy, hspace, -⟩ := hadm.exists_cons
    rw [addressParts_eq, Ne, Text.nonBlankPieces_eq_nil_iff]
    intro hall
    rcases hall y (by simp [adminText]) with h | h
    · exact hy h
    · simp [hspace] at h
  obtain ⟨hsub, hdist, hprov⟩ := hread.parse_address_parts hparts
  unfold AdminFound
  rw [hsub, hdist, hprov]
  constructor
  · intro h
    obtain ⟨hfirst, -⟩ := h
    -- the first part is the subdistrict, and its word is not in front
    have hhead : (addressParts (before ++ adminText t a p)).head? = some t := by
      cases hp : addressParts (before ++ adminText t a p) with
      | nil => exact absurd hp hparts
      | cons part parts =>
        rw [hp] at hfirst
        simpa using hfirst
    rw [addressParts_eq] at hhead
    rcases Text.head_nonBlankPieces ht.2 htne ht.1 _ hhead with hspacing | hsub
    · exact hspacing
    · exfalso
      obtain ⟨word, hword, hpre⟩ := startsWithWord_iff.mp hadm.word
      exact hbefore word hword (hpre.isInfix.trans hsub)
  · intro hspacing
    have hthree : addressParts (before ++ adminText t a p) = [t, a, p] := by
      rw [addressParts_eq, Text.nonBlankPieces_blank_append hspacing, ← addressParts_eq]
      exact addressParts_adminText ht (hadm.clean a (by simp)) (hadm.clean p (by simp)) htne
        (hadm.nonempty a (by simp)) (hadm.nonempty p (by simp))
    simp [hthree]

/-- With the subdistrict cut off, it is not found. -/
theorem AdminPart.not_found_of_cut {address house moo : Str}
    (hread : ReadAs (dropYear address) house moo (a ++ '#' :: p)) : ¬ AdminFound address t a p := by
  have ha := hadm.clean a (by simp)
  have hane := hadm.nonempty a (by simp)
  have htrim : Text.trim isspace a = a := ha.2
  have hhead : addressParts (a ++ '#' :: p) = a :: Text.nonBlankPieces isspace '#' p := by
    rw [addressParts_eq, Text.nonBlankPieces_append_cons ha.1, htrim, if_neg hane]
    rfl
  obtain ⟨hsub, -⟩ := hread.parse_address_parts (by simp [hhead])
  intro h
  have heq : a = t := by
    have hfirst := h.1
    rw [hsub, hhead] at hfirst
    simpa using hfirst
  -- the subdistrict begins with a word, the district holds none
  obtain ⟨word, hword, hpre⟩ := startsWithWord_iff.mp hadm.word
  exact hadm.noWord.2.1 word hword (heq ▸ hpre.isInfix)

/-- There is no `##` in the administrative part. -/
theorem AdminPart.cut_double : Text.cut ['#', '#'] (adminText t a p) = none := by
  obtain ⟨z, a', ha⟩ := List.exists_cons_of_ne_nil (hadm.nonempty a (by simp))
  have hcount : ∀ part ∈ [t, a, p], part.count '#' = 0 := fun part hpart =>
    List.count_eq_zero_of_not_mem (hadm.clean part hpart).1
  have hacount := hcount a (by simp)
  have htcount := hcount t (by simp)
  have hpcount := hcount p (by simp)
  have hz : z ≠ '#' := by
    intro heq
    simp [ha, heq] at hacount
  have hsplit : adminText t a p = t ++ ['#'] ++ z :: (a' ++ '#' :: p) := by simp [adminText, ha]
  have ha'count : a'.count '#' = 0 := by
    rw [ha, List.count_cons_of_ne hz] at hacount
    exact hacount
  rw [Text.cut_eq_none_iff (by simp), hsplit, Text.infix_append_cons_iff (x := z) (by simp [hz])]
  intro hsub
  rcases hsub with h | h
  · exact not_infix_of_count_lt (by simp [htcount]) h
  · exact not_infix_of_count_lt (by simp [ha'count, hpcount]) h

/-- The administrative part is cut behind the subdistrict. -/
theorem AdminPart.cut_single : Text.cut ['#'] (adminText t a p) = some (t, a ++ '#' :: p) :=
  Text.cut_append_sep (hadm.clean t (by simp)).1 _

theorem AdminPart.strip_eq : strip (adminText t a p) = adminText t a p := by
  obtain ⟨y, t', rfl, -, hspace, -⟩ := hadm.exists_cons
  have hp := hadm.clean p (by simp)
  have hsplit : adminText (y :: t') a p = y :: ((t' ++ '#' :: (a ++ ['#'])) ++ p) := by
    simp [adminText]
  rw [hsplit]
  exact Text.trim_cons_append hspace hp.2 (hadm.nonempty p (by simp)) _

theorem AdminPart.cut_triple : Text.cut ['#', '#', '#'] (adminText t a p) = none := by
  rw [Text.cut_eq_none_iff (by simp)]
  intro hsub
  have hdouble := (Text.cut_eq_none_iff (by simp)).mp hadm.cut_double
  exact hdouble (List.IsInfix.trans ⟨['#'], [], rfl⟩ hsub)

/-- A cut falls in front of the administrative part as if it were not there. -/
theorem AdminPart.cut_append {sep : Str} (hsep : ∀ c ∈ sep, c = '#') (u : Str) :
    Text.cut sep (u ++ adminText t a p) = match Text.cut sep u with
      | some (before, after) => some (before, after ++ adminText t a p)
      | none => (Text.cut sep (adminText t a p)).map fun (before, after) =>
          (u ++ before, after) := by
  obtain ⟨y, t', rfl, hy, -⟩ := hadm.exists_cons
  have hcons : adminText (y :: t') a p = y :: (t' ++ '#' :: (a ++ '#' :: p)) := rfl
  rw [hcons, Text.cut_append_cons fun hmem => hy (hsep y hmem)]
  cases Text.cut sep u <;> rfl

theorem AdminPart.cut_append_some {sep : Str} (hsep : ∀ c ∈ sep, c = '#') {u before after : Str}
    (hcut : Text.cut sep u = some (before, after)) :
    Text.cut sep (u ++ adminText t a p) = some (before, after ++ adminText t a p) := by
  rw [hadm.cut_append hsep, hcut]

theorem AdminPart.cut_append_none {sep : Str} (hsep : ∀ c ∈ sep, c = '#') {u : Str}
    (hcut : Text.cut sep u = none) (hnone : Text.cut sep (adminText t a p) = none) :
    Text.cut sep (u ++ adminText t a p) = none := by
  rw [hadm.cut_append hsep, hcut, hnone]
  rfl

/-- Behind one symbol of white space the word is found. -/
theorem AdminPart.startsWithSpacedWord_cons {c : Char} (hc : isspace c = true) :
    startsWithSpacedWord (c :: adminText t a p) = true := by
  obtain ⟨y, t', ht, -, hspace, -⟩ := hadm.exists_cons
  have hdrop : (c :: adminText t a p).dropWhile isspace = adminText t a p := by
    rw [List.dropWhile_cons_of_pos hc, ht, adminText, List.cons_append,
      List.dropWhile_cons_of_neg (by simp [hspace])]
  have hword : startsWithWord (adminText t a p) = true := by
    obtain ⟨word, hmem, hpre⟩ := startsWithWord_iff.mp hadm.word
    exact startsWithWord_iff.mpr ⟨word, hmem, hpre.trans (List.prefix_append _ _)⟩
  rw [startsWithSpacedWord, hdrop, hword]
  simp [hc]

end admin

/-! ### The separators in front -/

/-- The separators of the text in front lead to the administrative part. Behind
    a `###`: there is a `##`, and nothing but `#` and white space behind it; or
    there is none, and the text ends in white space or has nothing but `#` and
    white space behind its first `#`. Without a `###`: there is a `##`, and
    nothing but `#` and white space behind it. -/
def LeadsToAdmin (u : Str) : Prop :=
  match Text.cut ['#', '#', '#'] u with
  | some (_, behind) =>
    match Text.cut ['#', '#'] behind with
    | some (_, rest) => OnlySpacing rest
    | none =>
      (∃ c ∈ behind.getLast?, isspace c = true) ∨
        ∃ moo rest, Text.cut ['#'] behind = some (moo, rest) ∧ OnlySpacing rest
  | none =>
    match Text.cut ['#', '#'] u with
    | some (_, rest) => OnlySpacing rest
    | none => False

/-- What stands behind a cut ends as the whole. -/
theorem EndsOpen.of_cut {sep u before after : Str} (hopen : EndsOpen u)
    (hcut : Text.cut sep u = some (before, after)) : EndsOpen after := by
  intro c hc
  apply hopen c
  rw [Text.cut_eq_some hcut, List.getLast?_append]
  simp only [Option.mem_def] at hc ⊢
  simp [hc]

theorem NoWord.of_cut {sep u before after : Str} (hu : NoWord u)
    (hcut : Text.cut sep u = some (before, after)) : NoWord after := by
  apply hu.mono
  rw [Text.cut_eq_some hcut]
  exact (List.suffix_append _ _).isInfix

/-- Behind a `###` without another `##`, the source looks for the word behind
    white space, and then for a `#`. -/
theorem AdminPart.found_behind_triple_iff {address house behind t a p : Str}
    (hadm : AdminPart t a p) (hbehind : NoWord behind) (hopen : EndsOpen behind)
    (h3 : Text.cut ['#', '#', '#'] (dropYear address) = some (house, behind ++ adminText t a p))
    (h2 : Text.cut ['#', '#'] behind = none) :
    AdminFound address t a p ↔ (∃ c ∈ behind.getLast?, isspace c = true) ∨
      ∃ moo rest, Text.cut ['#'] behind = some (moo, rest) ∧ OnlySpacing rest := by
  have h2' : Text.cut ['#', '#'] (behind ++ adminText t a p) = none :=
    hadm.cut_append_none (by simp) h2 hadm.cut_double
  cases hword : search startsWithSpacedWord (behind ++ adminText t a p) with
  | some found =>
    -- the word is found where the administrative part begins, behind white space
    obtain ⟨moo, from_⟩ := found
    obtain ⟨heq, hmatch⟩ := search_eq_some hword
    simp only [startsWithSpacedWord, Bool.and_eq_true] at hmatch
    obtain ⟨hspace, hstarts⟩ := hmatch
    have hsuffix : from_.dropWhile isspace <:+ behind ++ adminText t a p := by
      rw [heq]
      exact (List.dropWhile_suffix isspace).trans (List.suffix_append _ _)
    have hfrom : from_.dropWhile isspace = adminText t a p :=
      hadm.eq_of_startsWithWord hbehind hopen hsuffix hstarts
    have hsplit : from_ = from_.takeWhile isspace ++ adminText t a p := by
      rw [← hfrom, List.takeWhile_append_dropWhile]
    have hstrip : strip from_ = adminText t a p := by
      rw [hsplit, strip, Text.trim_append_left fun c hc => List.mem_takeWhile_imp hc]
      exact hadm.strip_eq
    have hread : ReadAs (dropYear address) house moo ([] ++ adminText t a p) := by
      rw [List.nil_append, ← hstrip]
      exact .tripleWord h3 h2' hword
    have hfound : AdminFound address t a p :=
      (hadm.found_iff hread (hbehind.mono (List.nil_infix))).mpr (by simp [OnlySpacing])
    refine iff_of_true hfound (.inl ?_)
    have hend : behind = moo ++ from_.takeWhile isspace := by
      rw [hsplit, ← List.append_assoc] at heq
      exact List.append_cancel_right heq
    have hne : from_.takeWhile isspace ≠ [] := by
      cases from_ with
      | nil => simp at hspace
      | cons c from_ =>
        have hc : isspace c = true := by simpa using hspace
        simp [hc]
    refine ⟨(from_.takeWhile isspace).getLast hne, ?_, List.mem_takeWhile_imp (List.getLast_mem hne)⟩
    rw [hend, List.getLast?_append_of_ne_nil _ hne, List.getLast?_eq_some_getLast hne]
    rfl
  | none =>
    have hnospace : ¬ ∃ c ∈ behind.getLast?, isspace c = true := by
      intro hlast
      obtain ⟨c, hc, hspace⟩ := hlast
      obtain ⟨before, rfl⟩ := List.getLast?_eq_some_iff.mp hc
      have hsuffix : c :: adminText t a p <:+ before ++ [c] ++ adminText t a p :=
        ⟨before, by simp⟩
      have hnot := search_eq_none hword hsuffix (by simp)
      rw [hadm.startsWithSpacedWord_cons hspace] at hnot
      simp at hnot
    cases h1 : Text.cut ['#'] behind with
    | some q =>
      obtain ⟨moo, rest⟩ := q
      have h1' := hadm.cut_append_some (by simp) h1
      rw [hadm.found_iff (.tripleSingle h3 h2' hword h1') (hbehind.of_cut h1)]
      constructor
      · intro hrest
        exact .inr ⟨moo, rest, rfl, hrest⟩
      · intro h
        obtain ⟨moo', rest', heq, hrest⟩ := h.resolve_left hnospace
        cases heq
        exact hrest
    | none =>
      have h1' : Text.cut ['#'] (behind ++ adminText t a p) = some (behind ++ t, a ++ '#' :: p) := by
        rw [hadm.cut_append (by simp), h1, hadm.cut_single]
        rfl
      apply iff_of_false (hadm.not_found_of_cut (.tripleSingle h3 h2' hword h1'))
      intro h
      obtain ⟨moo', rest', heq, -⟩ := h.resolve_left hnospace
      cases heq

/-- What is dropped with the year stands in front. -/
theorem dropYear_suffix (u : Str) : dropYear u <:+ u := by
  unfold dropYear
  split
  · next a b c d tail =>
    split
    · have htail : tail <:+ a :: b :: c :: d :: tail := ⟨[a, b, c, d], rfl⟩
      exact (List.dropWhile_suffix isspace).trans htail
    · exact List.suffix_rfl
  · exact List.suffix_rfl

theorem EndsOpen.of_suffix {u u' : Str} (h : EndsOpen u) (hsuffix : u' <:+ u) : EndsOpen u' := by
  obtain ⟨before, rfl⟩ := hsuffix
  intro c hc
  apply h c
  simp only [Option.mem_def] at hc ⊢
  simp [List.getLast?_append, hc]

/-- The administrative part of the samples. -/
theorem sampleAdmin : AdminPart "ตำบลก".toList "อำเภอข".toList "จังหวัดค".toList where
  clean := by decide +kernel
  nonempty := by decide
  word := by decide +kernel
  noWord := by
    refine ⟨?_, ?_, ?_⟩ <;> unfold NoWord <;> decide +kernel

end IdScan
