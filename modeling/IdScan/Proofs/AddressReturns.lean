import IdScan.Proofs.AddressText

/-! # The fields of an address as texts of the card

  The five fields that are exported are pieces of the three texts an address is
  read as, without their `#` and trimmed. So it can be told from the text on the
  card whether there is a carriage return in a field. It is no matter where the
  carriage return is trimmed away, where it stands in a part behind the third,
  or where it goes with a text that is dropped.
-/

namespace IdScan

/-- The parts of an address that are exported. -/
def addressFields (address : ParsedAddress) : List Str :=
  [address.house_no, address.moo_soi, address.subdistrict, address.district, address.province]

/-! ### The pieces -/

/-- The text in front of the first `#`. -/
def frontHash (s : Str) : Str :=
  match Text.cut ['#'] s with
  | some (before, _) => before
  | none => s

/-- The piece for moo and soi, and the piece for the subdistrict, which is there
    only if the rest has no part for it. -/
def mooPieces (moo rest : Str) : Str × Str :=
  if addressParts rest = [] then (search startsWithWord (strip moo)).getD (moo, []) else (moo, [])

/-- No field holds a carriage return, told by the pieces of the three texts. -/
structure PlainPieces (house moo rest : Str) : Prop where
  house_no : '\r' ∉ strip (frontHash house)
  behind : MooEmpties moo rest → '\r' ∉ dropHashes (behindHash house)
  moo_soi : '\r' ∉ dropHashes (mooPieces moo rest).1
  word : '\r' ∉ dropHashes (mooPieces moo rest).2
  parts : ∀ part ∈ (addressParts rest).take 3, '\r' ∉ part

instance (moo rest : Str) : Decidable (MooEmpties moo rest) := inferInstanceAs (Decidable (_ ∨ _))

/-! ### The house number -/

@[simp] theorem dropHashes_strip (s : Str) : dropHashes (strip s) = dropHashes s := by
  unfold dropHashes
  rw [Text.replace_singleton_nil, Text.replace_singleton_nil]
  exact Text.trim_filter_trim _ _ _

theorem dropHashes_eq_strip {s : Str} (h : '#' ∉ s) : dropHashes s = strip s := by
  have hstrip : '#' ∉ strip s := fun hmem => h (Text.mem_of_mem_trim hmem)
  rw [← dropHashes_strip, dropHashes_of_not_mem hstrip (strip_strip s)]

theorem frontHash_append_cons {before : Str} (h : '#' ∉ before) (after : Str) :
    frontHash (before ++ '#' :: after) = before := by
  have hcut : Text.cut ['#'] (before ++ '#' :: after) = some (before, after) :=
    Text.cut_append_sep h after
  rw [frontHash, hcut]

theorem frontHash_of_not_mem {s : Str} (h : '#' ∉ s) : frontHash s = s := by
  rw [frontHash, Text.cut_eq_none_of_not_mem h]

theorem hash_not_mem_frontHash (s : Str) : '#' ∉ frontHash s := by
  by_cases hmem : '#' ∈ s
  · obtain ⟨before, after, rfl, hbefore⟩ := List.eq_append_cons_of_mem hmem
    rwa [frontHash_append_cons hbefore]
  · rwa [frontHash_of_not_mem hmem]

/-- A trimmed text has the same two sides of its first `#`, but for white space. -/
theorem sides_strip (s : Str) : strip (frontHash (strip s)) = strip (frontHash s) ∧
    dropHashes (behindHash (strip s)) = dropHashes (behindHash s) := by
  by_cases hmem : '#' ∈ s
  · obtain ⟨before, after, rfl, hbefore⟩ := List.eq_append_cons_of_mem hmem
    have hdropped : '#' ∉ before.dropWhile isspace := fun h =>
      hbefore ((List.dropWhile_suffix isspace).subset h)
    have hstrip : strip (before ++ '#' :: after)
        = before.dropWhile isspace ++ '#' :: after.rdropWhile isspace :=
      Text.trim_append_cons (by decide) before after
    rw [hstrip, frontHash_append_cons hdropped, behindHash_append_cons hdropped,
      frontHash_append_cons hbefore, behindHash_append_cons hbefore]
    refine ⟨Text.trim_dropWhile isspace before, ?_⟩
    rw [← dropHashes_strip (after.rdropWhile isspace), ← dropHashes_strip after]
    exact congrArg dropHashes (Text.trim_rdropWhile isspace after)
  · have hstrip : '#' ∉ strip s := fun h => hmem (Text.mem_of_mem_trim h)
    rw [frontHash_of_not_mem hmem, frontHash_of_not_mem hstrip, behindHash_of_not_mem hmem,
      behindHash_of_not_mem hstrip, strip_strip]
    exact ⟨rfl, rfl⟩

/-- The second correction, on the fields. -/
theorem dropHashes_splitHouseNo (vars : AddressVars) :
    dropHashes (splitHouseNo vars).house_no = strip (frontHash vars.house_no) ∧
      dropHashes (splitHouseNo vars).moo_soi
        = if vars.moo_soi = [] then dropHashes (behindHash vars.house_no)
          else dropHashes vars.moo_soi := by
  have hfront := dropHashes_eq_strip (hash_not_mem_frontHash vars.house_no)
  unfold splitHouseNo
  unfold behindHash frontHash at *
  cases hcut : Text.cut ['#'] vars.house_no with
  | none =>
    simp only [hcut] at hfront ⊢
    refine ⟨hfront, ?_⟩
    split
    · next hmoo => rw [hmoo]
    · rfl
  | some p =>
    obtain ⟨before, after⟩ := p
    simp only [hcut] at hfront ⊢
    refine ⟨by rw [dropHashes_strip, hfront], ?_⟩
    split
    · exact dropHashes_strip after
    · rfl

/-! ### Moo and soi -/

/-- The first correction, on the pieces. -/
theorem splitMooSoi_readVars (house moo rest : Str) :
    splitMooSoi (readVars house moo rest) = { readVars house moo rest with
      moo_soi := strip (mooPieces moo rest).1
      subdistrict := if addressParts rest = [] then strip (mooPieces moo rest).2
        else (addressParts rest).getD 0 [] } := by
  by_cases hparts : addressParts rest = []
  · have hvars : readVars house moo rest
        = { house_no := strip house, moo_soi := strip moo, rest := some rest } := by
      simp [readVars, hparts]
    rw [hvars, mooPieces, if_pos hparts, if_pos hparts, splitMooSoi]
    by_cases hmoo : strip moo = []
    · have hsearch : search startsWithWord (strip moo) = none := by rw [hmoo]; rfl
      rw [if_neg (by simp [hmoo]), hsearch]
      rfl
    · rw [if_pos ⟨hmoo, rfl⟩]
      cases search startsWithWord (strip moo) with
      | none => rfl
      | some found => rfl
  · have hsub : (readVars house moo rest).subdistrict ≠ [] :=
      mt (subdistrict_readVars_eq_nil_iff house moo rest).mp hparts
    rw [splitMooSoi_of_subdistrict hsub, mooPieces, if_neg hparts, if_neg hparts]
    rfl

/-- The piece for moo and soi is blank exactly if there is nothing for them. -/
theorem strip_mooPieces_eq_nil_iff (moo rest : Str) :
    strip (mooPieces moo rest).1 = [] ↔ MooEmpties moo rest := by
  rw [← splitMooSoi_moo_soi_eq_nil_iff [] moo rest, splitMooSoi_readVars]

/-! ### The fields -/

/-- The fields of an address, from the pieces of its three texts. -/
theorem ReadAs.addressFields_eq {address house moo rest : Str}
    (h : ReadAs (dropYear address) house moo rest) :
    addressFields (parse_address address) = [strip (frontHash house),
      if MooEmpties moo rest then dropHashes (behindHash house)
        else dropHashes (mooPieces moo rest).1,
      if addressParts rest = [] then dropHashes (mooPieces moo rest).2
        else (addressParts rest).getD 0 [],
      (addressParts rest).getD 1 [], (addressParts rest).getD 2 []] := by
  obtain ⟨hhouse, hmoo⟩ := dropHashes_splitHouseNo (splitMooSoi (readVars house moo rest))
  obtain ⟨hfront, hbehind⟩ := sides_strip house
  rw [h.parse_address_eq]
  unfold addressFields finishAddress
  dsimp only
  rw [hhouse, hmoo, splitHouseNo_subdistrict, splitHouseNo_district, splitHouseNo_province,
    splitMooSoi_readVars]
  simp only [strip_mooPieces_eq_nil_iff, readVars, hfront, hbehind, apply_ite dropHashes,
    dropHashes_strip, dropHashes_getD_addressParts]

/-- The first three parts are the ones that are looked up. -/
theorem forall_take_three (parts : List Str) : (∀ part ∈ parts.take 3, '\r' ∉ part) ↔
    '\r' ∉ parts.getD 0 [] ∧ '\r' ∉ parts.getD 1 [] ∧ '\r' ∉ parts.getD 2 [] := by
  match parts with
  | [] => simp
  | [_] => simp
  | [_, _] => simp
  | _ :: _ :: _ :: _ => simp

/-- **When no field of an address holds a carriage return.** -/
theorem ReadAs.plain_iff {address house moo rest : Str}
    (h : ReadAs (dropYear address) house moo rest) :
    (∀ part ∈ addressFields (parse_address address), '\r' ∉ part) ↔ PlainPieces house moo rest := by
  have hempties : MooEmpties moo rest → dropHashes (mooPieces moo rest).1 = [] := by
    intro hempty
    rw [← dropHashes_strip, (strip_mooPieces_eq_nil_iff moo rest).mpr hempty]
    rfl
  have hword : addressParts rest ≠ [] → (mooPieces moo rest).2 = [] := by
    intro hparts
    rw [mooPieces, if_neg hparts]
  rw [h.addressFields_eq]
  simp only [List.forall_mem_cons, List.not_mem_nil, false_implies, implies_true, and_true]
  constructor
  · intro hall
    obtain ⟨hhouse, hmoo, hsub, hdistrict, hprovince⟩ := hall
    refine ⟨hhouse, fun hempty => by rwa [if_pos hempty] at hmoo, ?_, ?_, ?_⟩
    · by_cases hempty : MooEmpties moo rest
      · simp [hempties hempty]
      · rwa [if_neg hempty] at hmoo
    · by_cases hparts : addressParts rest = []
      · rwa [if_pos hparts] at hsub
      · rw [hword hparts]
        exact List.not_mem_nil
    · refine (forall_take_three _).mpr ⟨?_, hdistrict, hprovince⟩
      by_cases hparts : addressParts rest = []
      · simp [hparts]
      · rwa [if_neg hparts] at hsub
  · intro hplain
    obtain ⟨hsub, hdistrict, hprovince⟩ := (forall_take_three _).mp hplain.parts
    refine ⟨hplain.house_no, ?_, ?_, hdistrict, hprovince⟩
    · split
      · next hempty => exact hplain.behind hempty
      · exact hplain.moo_soi
    · split
      · exact hplain.word
      · exact hsub

end IdScan
