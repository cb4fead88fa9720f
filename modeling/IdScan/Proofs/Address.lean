import IdScan.Framework.Pieces
import IdScan.Model.Parse
import Mathlib.Data.List.GetD

/-! # How an address is read

  The branches of `parse_address` on the separators come down to three texts:
  one for the house number, one for moo and soi, and the rest with subdistrict,
  district and province. `ReadAs` lists the ways they are found. There is one
  kind of address for which there are none: with a `#` but no `##`, where the
  source never assigns `rest`.
-/

namespace IdScan

/-! ### Searching -/

theorem search_eq_some {matches_ : Str → Bool} {s before from_ : Str}
    (h : search matches_ s = some (before, from_)) : s = before ++ from_ ∧ matches_ from_ = true := by
  induction s generalizing before with
  | nil => simp [search] at h
  | cons c s ih =>
    rw [search] at h
    split at h
    · next hmatch =>
      simp only [Option.some.injEq, Prod.mk.injEq] at h
      obtain ⟨rfl, rfl⟩ := h
      exact ⟨rfl, hmatch⟩
    · cases hs : search matches_ s with
      | none => simp [hs] at h
      | some p =>
        obtain ⟨b, f⟩ := p
        simp only [hs, Option.map_some, Option.some.injEq, Prod.mk.injEq] at h
        obtain ⟨rfl, rfl⟩ := h
        obtain ⟨heq, hmatch⟩ := ih hs
        exact ⟨by simp [heq], hmatch⟩

/-- A failed search has tried every place. -/
theorem search_eq_none {matches_ : Str → Bool} {s from_ : Str} (h : search matches_ s = none)
    (hfrom : from_ <:+ s) (hne : from_ ≠ []) : matches_ from_ = false := by
  induction s with
  | nil => exact absurd (List.suffix_nil.mp hfrom) hne
  | cons c s ih =>
    rw [search] at h
    split at h
    · simp at h
    · next hmatch =>
      rcases List.suffix_cons_iff.mp hfrom with rfl | hfrom
      · simpa using hmatch
      · exact ih (by simpa using h) hfrom

/-! ### The three texts -/

/-- The address, without its year, is read as these three texts. -/
inductive ReadAs (address : Str) : Str → Str → Str → Prop where
  | tripleDouble {house behind moo rest : Str}
      (h3 : Text.cut ['#', '#', '#'] address = some (house, behind))
      (h2 : Text.cut ['#', '#'] behind = some (moo, rest)) : ReadAs address house moo rest
  | tripleWord {house behind moo from_ : Str}
      (h3 : Text.cut ['#', '#', '#'] address = some (house, behind))
      (h2 : Text.cut ['#', '#'] behind = none)
      (hword : search startsWithSpacedWord behind = some (moo, from_)) :
      ReadAs address house moo (strip from_)
  | tripleSingle {house behind moo rest : Str}
      (h3 : Text.cut ['#', '#', '#'] address = some (house, behind))
      (h2 : Text.cut ['#', '#'] behind = none)
      (hword : search startsWithSpacedWord behind = none)
      (h1 : Text.cut ['#'] behind = some (moo, rest)) : ReadAs address house moo rest
  | tripleOnly {house behind : Str}
      (h3 : Text.cut ['#', '#', '#'] address = some (house, behind))
      (h2 : Text.cut ['#', '#'] behind = none)
      (hword : search startsWithSpacedWord behind = none)
      (h1 : Text.cut ['#'] behind = none) : ReadAs address house behind []
  | doubleSingle {first_part house moo rest : Str}
      (h3 : Text.cut ['#', '#', '#'] address = none)
      (h2 : Text.cut ['#', '#'] address = some (first_part, rest))
      (h1 : Text.cut ['#'] first_part = some (house, moo)) : ReadAs address house moo rest
  | doubleOnly {house rest : Str}
      (h3 : Text.cut ['#', '#', '#'] address = none)
      (h2 : Text.cut ['#', '#'] address = some (house, rest))
      (h1 : Text.cut ['#'] house = none) : ReadAs address house [] rest
  | plain (hmem : '#' ∉ address) : ReadAs address [] [] address

/-- The variables after the separators, from the three texts. -/
theorem ReadAs.splitAddress_eq {address house moo rest : Str} (h : ReadAs address house moo rest) :
    splitAddress address
      = { house_no := strip house, moo_soi := strip moo, rest := some rest } := by
  cases h with
  | tripleDouble h3 h2 => simp [splitAddress, h3, h2]
  | tripleWord h3 h2 hword => simp [splitAddress, h3, h2, hword]
  | tripleSingle h3 h2 hword h1 => simp [splitAddress, h3, h2, hword, h1]
  | tripleOnly h3 h2 hword h1 => simp [splitAddress, h3, h2, hword, h1]
  | doubleSingle h3 h2 h1 => simp [splitAddress, h3, h2, h1]
  | doubleOnly h3 h2 h1 => simp [splitAddress, h3, h2, h1, strip]
  | plain hmem =>
    have h3 : Text.cut ['#', '#', '#'] address = none := Text.cut_eq_none_of_not_mem hmem
    have h2 : Text.cut ['#', '#'] address = none := Text.cut_eq_none_of_not_mem hmem
    simp [splitAddress, h3, h2, hmem, strip]

/-- A `#` without a `##`. -/
def OnlySingleHashes (address : Str) : Prop := '#' ∈ address ∧ ¬ ['#', '#'] <:+: address

/-- **Every address is read as three texts**, but for the addresses with single
    `#` only. -/
theorem readAs_or_onlySingleHashes (address : Str) :
    (∃ house moo rest, ReadAs address house moo rest) ∨
      OnlySingleHashes address ∧ (splitAddress address).rest = none := by
  cases h3 : Text.cut ['#', '#', '#'] address with
  | some p =>
    obtain ⟨house, behind⟩ := p
    cases h2 : Text.cut ['#', '#'] behind with
    | some q => exact .inl ⟨_, _, _, .tripleDouble h3 h2⟩
    | none =>
      cases hword : search startsWithSpacedWord behind with
      | some q => exact .inl ⟨_, _, _, .tripleWord h3 h2 hword⟩
      | none =>
        cases h1 : Text.cut ['#'] behind with
        | some q => exact .inl ⟨_, _, _, .tripleSingle h3 h2 hword h1⟩
        | none => exact .inl ⟨_, _, _, .tripleOnly h3 h2 hword h1⟩
  | none =>
    cases h2 : Text.cut ['#', '#'] address with
    | some p =>
      obtain ⟨first_part, rest⟩ := p
      cases h1 : Text.cut ['#'] first_part with
      | some q => exact .inl ⟨_, _, _, .doubleSingle h3 h2 h1⟩
      | none => exact .inl ⟨_, _, _, .doubleOnly h3 h2 h1⟩
    | none =>
      by_cases hmem : '#' ∈ address
      · have hno : ¬ ['#', '#'] <:+: address := (Text.cut_eq_none_iff (by simp)).mp h2
        exact .inr ⟨⟨hmem, hno⟩, by simp [splitAddress, h3, h2, hmem]⟩
      · exact .inl ⟨_, _, _, .plain hmem⟩

/-- Addresses with single `#` only are read as nothing. -/
theorem ReadAs.not_onlySingleHashes {address house moo rest : Str}
    (h : ReadAs address house moo rest) : ¬ OnlySingleHashes address := by
  intro hsingle
  obtain ⟨hmem, hno⟩ := hsingle
  have hdouble : Text.cut ['#', '#'] address = none := (Text.cut_eq_none_iff (by simp)).mpr hno
  have htriple : Text.cut ['#', '#', '#'] address = none := by
    rw [Text.cut_eq_none_iff (by simp)]
    intro hsub
    exact hno (List.IsInfix.trans ⟨['#'], [], rfl⟩ hsub)
  cases h with
  | tripleDouble h3 _ => simp [htriple] at h3
  | tripleWord h3 _ _ => simp [htriple] at h3
  | tripleSingle h3 _ _ _ => simp [htriple] at h3
  | tripleOnly h3 _ _ _ => simp [htriple] at h3
  | doubleSingle _ h2 _ => simp [hdouble] at h2
  | doubleOnly _ h2 _ => simp [hdouble] at h2
  | plain hnot => exact hnot hmem

/-- Where the source leaves `rest` unassigned. -/
theorem splitAddress_rest_eq_none_iff (address : Str) :
    (splitAddress address).rest = none ↔ OnlySingleHashes address := by
  rcases readAs_or_onlySingleHashes address with ⟨house, moo, rest, hread⟩ | ⟨hsingle, hnone⟩
  · have hsome : (splitAddress address).rest = some rest := by rw [hread.splitAddress_eq]
    exact iff_of_false (by simp [hsome]) hread.not_onlySingleHashes
  · exact iff_of_true hnone hsingle

/-! ### The fields -/

/-- The parts of the rest are its pieces between the `#`. -/
theorem addressParts_eq (rest : Str) :
    addressParts rest = Text.nonBlankPieces isspace '#' rest := by
  show Text.nonBlankPieces isspace '#' (Text.replace ['#', '#'] ['#'] rest) = _
  have hnil : '#' ∉ ([] : Str) := by simp
  simpa using Text.nonBlankPieces_squeeze hnil rest

/-- A part is not empty, trimmed and without `#`. -/
theorem mem_addressParts {rest part : Str} (h : part ∈ addressParts rest) :
    part ≠ [] ∧ strip part = part ∧ '#' ∉ part := by
  rw [addressParts_eq] at h
  exact Text.mem_nonBlankPieces h

/-- The parts that are there are not empty. -/
theorem getD_addressParts_ne_nil_iff (rest : Str) (i : Nat) :
    (addressParts rest).getD i [] ≠ [] ↔ i < (addressParts rest).length := by
  constructor
  · intro h
    by_contra hi
    apply h
    rw [List.getD_eq_default]
    omega
  · intro hi
    rw [List.getD_eq_getElem _ _ hi]
    exact (mem_addressParts (List.getElem_mem hi)).1

/-- The variables of an address read as three texts, once the rest is assigned. -/
def readVars (house moo rest : Str) : AddressVars where
  house_no := strip house
  moo_soi := strip moo
  subdistrict := (addressParts rest).getD 0 []
  district := (addressParts rest).getD 1 []
  province := (addressParts rest).getD 2 []
  rest := some rest

/-- The variables where `rest` is tested and assigned. -/
theorem ReadAs.assignRest_eq {address house moo rest : Str} (h : ReadAs address house moo rest) :
    assignRest (splitAddress address) rest = readVars house moo rest := by
  rw [h.splitAddress_eq]
  unfold assignRest readVars
  split
  · next hnil =>
    -- no parts, so that the fields keep their empty texts
    have hparts : addressParts rest = [] := by rw [hnil]; rfl
    simp [hparts]
  · rfl

/-- **What an address is read as decides its fields.** -/
theorem ReadAs.parse_address_eq {address house moo rest : Str}
    (h : ReadAs (dropYear address) house moo rest) :
    parse_address address
      = finishAddress (splitHouseNo (splitMooSoi (readVars house moo rest))) := by
  have hrest : (splitAddress (dropYear address)).rest = some rest := by rw [h.splitAddress_eq]
  unfold parse_address
  dsimp only
  rw [hrest]
  dsimp only
  rw [h.assignRest_eq]

/-- The handler keeps the whole text. -/
theorem parse_address_of_rest_eq_none {address : Str}
    (h : (splitAddress (dropYear address)).rest = none) :
    parse_address address = unparsedAddress (dropYear address) := by
  unfold parse_address
  dsimp only
  rw [h]

@[simp] theorem splitHouseNo_subdistrict (vars : AddressVars) :
    (splitHouseNo vars).subdistrict = vars.subdistrict := by
  unfold splitHouseNo
  split <;> rfl

@[simp] theorem splitHouseNo_district (vars : AddressVars) :
    (splitHouseNo vars).district = vars.district := by
  unfold splitHouseNo
  split <;> rfl

@[simp] theorem splitHouseNo_province (vars : AddressVars) :
    (splitHouseNo vars).province = vars.province := by
  unfold splitHouseNo
  split <;> rfl

/-- Where there is a part for the subdistrict, moo and soi are left alone. -/
theorem splitMooSoi_of_subdistrict {vars : AddressVars} (h : vars.subdistrict ≠ []) :
    splitMooSoi vars = vars := by
  unfold splitMooSoi
  rw [if_neg]
  intro hboth
  exact h hboth.2

/-- A trimmed text without `#` is a field as it is. -/
theorem dropHashes_of_not_mem {field : Str} (hhash : '#' ∉ field) (htrim : strip field = field) :
    dropHashes field = field := by
  have hkeep : (field.filter fun c => decide (c ≠ '#')) = field := by
    rw [List.filter_eq_self]
    intro c hc
    have hne : c ≠ '#' := fun heq => hhash (heq ▸ hc)
    simp [hne]
  unfold dropHashes
  rw [Text.replace_singleton_nil, hkeep, htrim]

theorem dropHashes_getD_addressParts (rest : Str) (i : Nat) :
    dropHashes ((addressParts rest).getD i []) = (addressParts rest).getD i [] := by
  by_cases hi : i < (addressParts rest).length
  · have hmem : (addressParts rest).getD i [] ∈ addressParts rest := by
      rw [List.getD_eq_getElem _ _ hi]
      exact List.getElem_mem hi
    obtain ⟨-, htrim, hhash⟩ := mem_addressParts hmem
    exact dropHashes_of_not_mem hhash htrim
  · rw [List.getD_eq_default _ _ (by omega)]
    rfl

/-- With a part for the subdistrict, the first three parts of the rest are the
    administrative fields. -/
theorem ReadAs.parse_address_parts {address house moo rest : Str}
    (h : ReadAs (dropYear address) house moo rest) (hparts : addressParts rest ≠ []) :
    (parse_address address).subdistrict = (addressParts rest).getD 0 [] ∧
      (parse_address address).district = (addressParts rest).getD 1 [] ∧
      (parse_address address).province = (addressParts rest).getD 2 [] := by
  have hsub : (readVars house moo rest).subdistrict ≠ [] := by
    show (addressParts rest).getD 0 [] ≠ []
    rw [getD_addressParts_ne_nil_iff]
    exact List.length_pos_of_ne_nil hparts
  rw [h.parse_address_eq, splitMooSoi_of_subdistrict hsub]
  simp only [finishAddress, splitHouseNo_subdistrict, splitHouseNo_district,
    splitHouseNo_province, readVars]
  exact ⟨dropHashes_getD_addressParts rest 0, dropHashes_getD_addressParts rest 1,
    dropHashes_getD_addressParts rest 2⟩

/-! ### The regular return -/

/-- **When `parse_address` comes to its regular return**: `rest` has been
    assigned where it is tested exactly if the address, without its year, has no
    `#` or a `##` somewhere. -/
theorem regular_return_iff (address : Str) :
    (∃ parsed, addressBody (dropYear address) = some parsed ∧ parse_address address = parsed) ↔
      ('#' ∈ dropYear address → ['#', '#'] <:+: dropYear address) := by
  have hsingle : ('#' ∈ dropYear address → ['#', '#'] <:+: dropYear address) ↔
      ¬ OnlySingleHashes (dropYear address) := by
    unfold OnlySingleHashes
    rw [not_and_not_right]
  rw [hsingle, ← splitAddress_rest_eq_none_iff, parse_address_eq]
  unfold addressBody
  dsimp only
  cases (splitAddress (dropYear address)).rest with
  | none => simp
  | some rest => simp

/-- A house number with moo, behind a single `#`: the source splits it in two
    fields and then falls into its handler, which empties them. -/
theorem singleHash_falls_into_handler :
    (splitAddress "1/2#หมู่ 3".toList).house_no = "1/2".toList ∧
      addressBody (dropYear "1/2#หมู่ 3".toList) = none ∧
      parse_address "1/2#หมู่ 3".toList = unparsedAddress "1/2#หมู่ 3".toList ∧
      (parse_address "1/2#หมู่ 3".toList).house_no = [] := by
  decide +kernel

end IdScan
