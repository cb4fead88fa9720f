import IdScan.Proofs.Address
import IdScan.Proofs.Weights

/-! # What an address loses

  The full address is put together from the five fields, so that a piece of text
  comes through if it ends up in one of them. Two places drop text: the parts
  behind the third of the rest are assigned to nothing, and the text behind a
  `#` of the house number is dropped where there is a moo or soi already.

  No step adds text, and only these two drop any, so that the losses can be
  counted in characters.
-/

namespace IdScan

/-! ### The steps drop no text -/

/-- Cutting at `#` drops no text. -/
theorem content_of_cut {sep s before after : Str} (hsep : content sep = [])
    (h : Text.cut sep s = some (before, after)) : content s = content before ++ content after :=
  Text.filter_of_cut hsep h

theorem content_of_search {matches_ : Str → Bool} {s before from_ : Str}
    (h : search matches_ s = some (before, from_)) :
    content s = content before ++ content from_ := by
  rw [(search_eq_some h).1]
  exact List.filter_append _ _

/-- The parts of the rest hold all its text. -/
theorem content_addressParts (rest : Str) : (addressParts rest).flatMap content = content rest := by
  rw [addressParts_eq]
  exact Text.filter_nonBlankPieces isText_of_isspace (by decide) rest

/-- A part is not without text. -/
theorem content_part_ne_nil {rest part : Str} (h : part ∈ addressParts rest) :
    content part ≠ [] := by
  obtain ⟨hne, htrim, hhash⟩ := mem_addressParts h
  obtain ⟨c, part', rfl⟩ := List.exists_cons_of_ne_nil hne
  have hspace : isspace c = false := Text.head_trim_not htrim
  have hc : c ≠ '#' := fun heq => hhash (by simp [heq])
  rw [Ne, content_eq_nil_iff]
  intro hall
  rcases hall c (by simp) with h | h
  · exact hc h
  · simp [hspace] at h

/-! ### The fields -/

/-- The text in the fields, in the order of the full address. -/
def AddressVars.heldText (vars : AddressVars) : Str :=
  content vars.house_no ++ content vars.moo_soi ++ content vars.subdistrict ++
    content vars.district ++ content vars.province

/-- The full address holds the text of the fields. -/
theorem withoutSpace_finishAddress (vars : AddressVars) :
    withoutSpace (finishAddress vars).fulladdress = vars.heldText := by
  have hsep : ([' '] : Str).filter (fun c => !isspace c) = [] := by decide
  unfold finishAddress withoutSpace
  dsimp only
  rw [Text.filter_joinNonEmpty hsep]
  have hfield : ∀ field, (dropHashes field).filter (fun c => !isspace c) = content field :=
    withoutSpace_dropHashes
  simp [hfield, AddressVars.heldText]

/-- The text of the first three parts and of those behind. -/
theorem content_first_parts (parts : List Str) :
    content (parts.getD 0 []) ++ content (parts.getD 1 []) ++ content (parts.getD 2 []) ++
      (parts.drop 3).flatMap content = parts.flatMap content := by
  match parts with
  | [] => rfl
  | [a] => simp
  | [a, b] => simp
  | a :: b :: c :: parts => simp

/-- What the assigned variables hold, with the parts behind the third, is all
    the text of the three texts. -/
theorem heldText_readVars (house moo rest : Str) :
    (readVars house moo rest).heldText ++ ((addressParts rest).drop 3).flatMap content
      = content house ++ content moo ++ content rest := by
  have hparts := content_first_parts (addressParts rest)
  rw [content_addressParts] at hparts
  rw [← hparts]
  simp [AddressVars.heldText, readVars]

/-- The first correction moves text from one field to the next. -/
theorem heldText_splitMooSoi {vars : AddressVars}
    (hgap : vars.subdistrict = [] → vars.district = []) :
    (splitMooSoi vars).heldText = vars.heldText := by
  unfold splitMooSoi
  split
  · next hcond =>
    obtain ⟨-, hsub⟩ := hcond
    have hdist := hgap hsub
    split
    · rfl
    · next before from_ hsearch =>
      -- a subdistrict that is empty leaves nothing to shift
      rw [if_neg (by simp [hdist])]
      simp [AddressVars.heldText, content_of_search hsearch, hsub, hdist]
  · rfl

/-- The text behind the first `#`. -/
def behindHash (s : Str) : Str :=
  match Text.cut ['#'] s with
  | some (_, after) => after
  | none => []

theorem behindHash_append_cons {before : Str} (h : '#' ∉ before) (after : Str) :
    behindHash (before ++ '#' :: after) = after := by
  have hcut : Text.cut ['#'] (before ++ '#' :: after) = some (before, after) :=
    Text.cut_append_sep h after
  rw [behindHash, hcut]

theorem behindHash_of_not_mem {s : Str} (h : '#' ∉ s) : behindHash s = [] := by
  rw [behindHash, Text.cut_eq_none_of_not_mem h]

/-- The second correction drops the text behind the `#` of the house number
    where moo and soi are taken. -/
theorem heldText_splitHouseNo_length (vars : AddressVars) :
    (splitHouseNo vars).heldText.length +
        (if vars.moo_soi = [] then 0 else (content (behindHash vars.house_no)).length)
      = vars.heldText.length := by
  unfold splitHouseNo behindHash
  cases hcut : Text.cut ['#'] vars.house_no with
  | none => simp
  | some p =>
    obtain ⟨before, after⟩ := p
    have hhouse := content_of_cut (by decide) hcut
    by_cases hmoo : vars.moo_soi = []
    · simp [AddressVars.heldText, hhouse, hmoo]
    · simp only [AddressVars.heldText, hhouse, if_neg hmoo, content_strip, List.length_append]
      omega

theorem heldText_splitHouseNo {vars : AddressVars}
    (h : vars.moo_soi = [] ∨ content (behindHash vars.house_no) = []) :
    (splitHouseNo vars).heldText = vars.heldText := by
  unfold splitHouseNo
  unfold behindHash at h
  cases hcut : Text.cut ['#'] vars.house_no with
  | none => rfl
  | some p =>
    obtain ⟨before, after⟩ := p
    have hhouse := content_of_cut (by decide) hcut
    by_cases hmoo : vars.moo_soi = []
    · simp [AddressVars.heldText, hhouse, hmoo]
    · have hafter : content after = [] := by simpa [hcut, hmoo] using h
      simp [AddressVars.heldText, hhouse, hmoo, hafter]

/-- Trimming the house number does not change the text behind its `#`. -/
theorem content_behindHash_strip (s : Str) :
    content (behindHash (strip s)) = content (behindHash s) := by
  by_cases hmem : '#' ∈ s
  · obtain ⟨before, after, rfl, hbefore⟩ := List.eq_append_cons_of_mem hmem
    have hdropped : '#' ∉ before.dropWhile isspace := fun h =>
      hbefore ((List.dropWhile_suffix isspace).subset h)
    rw [strip, Text.trim_append_cons (by decide), behindHash_append_cons hdropped,
      behindHash_append_cons hbefore]
    exact Text.filter_rdropWhile isText_of_isspace after
  · have hstrip : '#' ∉ strip s := fun h => hmem (Text.mem_of_mem_trim h)
    rw [behindHash_of_not_mem hmem, behindHash_of_not_mem hstrip]

/-! ### Moo and soi -/

/-- There is nothing for moo and soi: the text is blank, or it begins with the
    word of a subdistrict, and there is no part for the subdistrict. -/
def MooEmpties (moo rest : Str) : Prop :=
  strip moo = [] ∨ addressParts rest = [] ∧ startsWithWord (strip moo) = true

@[simp] theorem splitMooSoi_house_no (vars : AddressVars) :
    (splitMooSoi vars).house_no = vars.house_no := by
  unfold splitMooSoi
  split
  · split
    · rfl
    · split <;> rfl
  · rfl

theorem subdistrict_readVars_eq_nil_iff (house moo rest : Str) :
    (readVars house moo rest).subdistrict = [] ↔ addressParts rest = [] := by
  show (addressParts rest).getD 0 [] = [] ↔ _
  rw [← not_iff_not, ← ne_eq, getD_addressParts_ne_nil_iff, List.length_pos_iff]

/-- What stands in front of the word is blank only if the word begins a trimmed
    text. -/
theorem strip_before_word_eq_nil_iff {moo before from_ : Str} (hne : strip moo ≠ [])
    (h : search startsWithWord (strip moo) = some (before, from_)) :
    strip before = [] ↔ startsWithWord (strip moo) = true := by
  obtain ⟨heq, hmatch⟩ := search_eq_some h
  obtain ⟨c, tail, hcons⟩ := List.exists_cons_of_ne_nil hne
  have hspace : isspace c = false := Text.head_trim_not hcons
  constructor
  · intro hblank
    have hbefore : before = [] := by
      cases before with
      | nil => rfl
      | cons b before =>
        -- the first character is not white space
        have hb : isspace b = true := Text.trim_eq_nil_iff.mp hblank b (by simp)
        rw [hcons, List.cons_append, List.cons.injEq] at heq
        rw [← heq.1, hspace] at hb
        simp at hb
    rw [heq, hbefore]
    exact hmatch
  · intro hword
    rw [hcons] at h hword
    rw [search, if_pos hword] at h
    simp only [Option.some.injEq, Prod.mk.injEq] at h
    rw [← h.1]
    rfl

theorem splitMooSoi_moo_soi_eq_nil_iff (house moo rest : Str) :
    (splitMooSoi (readVars house moo rest)).moo_soi = [] ↔ MooEmpties moo rest := by
  have hmoo : (readVars house moo rest).moo_soi = strip moo := rfl
  have hsub := subdistrict_readVars_eq_nil_iff house moo rest
  unfold splitMooSoi MooEmpties
  by_cases hcond : strip moo ≠ [] ∧ addressParts rest = []
  · obtain ⟨hne, hparts⟩ := hcond
    rw [hmoo, if_pos ⟨hne, hsub.mpr hparts⟩]
    cases hsearch : search startsWithWord (strip moo) with
    | none =>
      have hword := search_eq_none hsearch List.suffix_rfl hne
      simp [hmoo, hne, hword]
    | some found =>
      obtain ⟨before, from_⟩ := found
      have hiff := strip_before_word_eq_nil_iff hne hsearch
      dsimp only
      split <;> simp [hne, hparts, hiff]
  · rw [hmoo, if_neg (by rwa [hsub]), hmoo]
    tauto

/-! ### The whole address -/

/-- The rest has three parts at most, and there is no text behind a `#` of the
    house number unless there is nothing for moo and soi. -/
def TextKept (address : Str) : Prop :=
  ∀ house moo rest, ReadAs address house moo rest →
    (addressParts rest).length ≤ 3 ∧ (content (behindHash house) = [] ∨ MooEmpties moo rest)

/-- All of the address but the separators is in its three texts. -/
theorem ReadAs.content_eq {address house moo rest : Str} (h : ReadAs address house moo rest) :
    content address = content house ++ content moo ++ content rest := by
  cases h with
  | tripleDouble h3 h2 =>
    simp [content_of_cut (by decide) h3, content_of_cut (by decide) h2]
  | tripleWord h3 _ hword =>
    simp [content_of_cut (by decide) h3, content_of_search hword]
  | tripleSingle h3 _ _ h1 =>
    simp [content_of_cut (by decide) h3, content_of_cut (by decide) h1]
  | tripleOnly h3 _ _ _ => simp [content_of_cut (by decide) h3]
  | doubleSingle _ h2 h1 =>
    simp [content_of_cut (by decide) h2, content_of_cut (by decide) h1]
  | doubleOnly _ h2 _ => simp [content_of_cut (by decide) h2]
  | plain _ => simp

/-- No part is left over exactly if there are three at most. -/
theorem leftover_eq_nil_iff (rest : Str) :
    ((addressParts rest).drop 3).flatMap content = [] ↔ (addressParts rest).length ≤ 3 := by
  constructor
  · intro h
    by_contra hlen
    have hlt : 3 < (addressParts rest).length := by omega
    have hmem : (addressParts rest)[3] ∈ (addressParts rest).drop 3 := by
      rw [List.mem_drop_iff_getElem]
      exact ⟨0, by omega, rfl⟩
    rw [List.flatMap_eq_nil_iff] at h
    exact content_part_ne_nil (List.mem_of_mem_drop hmem) (h _ hmem)
  · intro hlen
    rw [List.drop_eq_nil_of_le hlen]
    rfl

/-- An address read as three texts loses nothing exactly if neither place drops
    text. -/
theorem ReadAs.text_kept_iff {address house moo rest : Str}
    (h : ReadAs (dropYear address) house moo rest) :
    withoutSpace (parse_address address).fulladdress = content (dropYear address) ↔
      (addressParts rest).length ≤ 3 ∧
        (content (behindHash house) = [] ∨ MooEmpties moo rest) := by
  have hgap : (readVars house moo rest).subdistrict = [] →
      (readVars house moo rest).district = [] := by
    intro hsub
    have hparts := (subdistrict_readVars_eq_nil_iff house moo rest).mp hsub
    simp [readVars, hparts]
  have hmoo := heldText_splitMooSoi hgap
  have hempties := splitMooSoi_moo_soi_eq_nil_iff house moo rest
  have hhouse : (splitMooSoi (readVars house moo rest)).house_no = strip house := by
    rw [splitMooSoi_house_no]
    rfl
  rw [h.parse_address_eq, withoutSpace_finishAddress, h.content_eq, ← heldText_readVars,
    ← leftover_eq_nil_iff, ← hempties]
  constructor
  · intro heq
    -- the two losses are counted in characters
    have hlen := congrArg List.length heq
    have hsplit := heldText_splitHouseNo_length (splitMooSoi (readVars house moo rest))
    rw [hmoo, hhouse, content_behindHash_strip] at hsplit
    rw [List.length_append] at hlen
    refine ⟨List.eq_nil_of_length_eq_zero (by omega), ?_⟩
    by_cases hnil : (splitMooSoi (readVars house moo rest)).moo_soi = []
    · exact .inr hnil
    · rw [if_neg hnil] at hsplit
      exact .inl (List.eq_nil_of_length_eq_zero (by omega))
  · intro hkept
    obtain ⟨hleft, hkeep⟩ := hkept
    rw [hleft, List.append_nil, ← hmoo]
    apply heldText_splitHouseNo
    rw [hhouse, content_behindHash_strip]
    exact hkeep.symm

/-- **When `parse_address` loses no text.** -/
theorem address_text_kept_iff (address : Str) :
    withoutSpace (parse_address address).fulladdress = content (dropYear address) ↔
      TextKept (dropYear address) := by
  rcases readAs_or_onlySingleHashes (dropYear address) with
    ⟨house, moo, rest, hread⟩ | ⟨hsingle, hnone⟩
  · constructor
    · intro heq house' moo' rest' hread'
      exact hread'.text_kept_iff.mp heq
    · intro hkept
      exact hread.text_kept_iff.mpr (hkept house moo rest hread)
  · -- the handler keeps the whole text
    rw [parse_address_of_rest_eq_none hnone]
    apply iff_of_true (withoutSpace_hashToSpace _)
    intro house moo rest hread
    exact absurd hsingle hread.not_onlySingleHashes

/-- A house number, a soi and a moo: the province is lost. -/
theorem province_lost :
    (parse_address "1##ซอยก#ตำบลข#อำเภอค#จังหวัดง".toList).fulladdress
        = "1 ซอยก ตำบลข อำเภอค".toList ∧
      withoutSpace (parse_address "1##ซอยก#ตำบลข#อำเภอค#จังหวัดง".toList).fulladdress
        ≠ content (dropYear "1##ซอยก#ตำบลข#อำเภอค#จังหวัดง".toList) := by
  decide +kernel

end IdScan
