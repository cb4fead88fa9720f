import IdScan.Proofs.AddressText

/-! # The fields fill from the left

  Subdistrict, district and province are the first parts of the rest, so that
  none of them is filled before the one in front of it. The first correction has
  a branch for a district without a subdistrict, which shifts the fields. No
  address comes to it.
-/

namespace IdScan

/-! ### The shifting branch -/

/-- The first correction takes the branch that shifts the fields. -/
def Shifts (vars : AddressVars) : Prop :=
  vars.moo_soi ≠ [] ∧ vars.subdistrict = [] ∧
    (search startsWithWord vars.moo_soi).isSome = true ∧ vars.district ≠ []

/-- What the branch does: the district becomes the province, and its own field
    gets the text of the subdistrict, which is empty. -/
theorem Shifts.splitMooSoi_eq {vars : AddressVars} (h : Shifts vars) :
    ∃ before from_, search startsWithWord vars.moo_soi = some (before, from_) ∧
      splitMooSoi vars
        = { vars with province := vars.district, district := []
                      subdistrict := strip from_, moo_soi := strip before } := by
  obtain ⟨hmoo, hsub, hfound, hdist⟩ := h
  obtain ⟨⟨before, from_⟩, hsearch⟩ := Option.isSome_iff_exists.mp hfound
  refine ⟨before, from_, hsearch, ?_⟩
  unfold splitMooSoi
  rw [if_pos ⟨hmoo, hsub⟩, hsearch]
  dsimp only
  rw [if_pos hdist, hsub]

/-- Every other branch leaves district and province as they are. -/
theorem splitMooSoi_of_not_shifts {vars : AddressVars} (h : ¬ Shifts vars) :
    (splitMooSoi vars).district = vars.district ∧ (splitMooSoi vars).province = vars.province := by
  unfold splitMooSoi
  split
  · next hcond =>
    split
    · exact ⟨rfl, rfl⟩
    · next before from_ hsearch =>
      have hdist : ¬ vars.district ≠ [] := by
        intro hdist
        apply h
        exact ⟨hcond.1, hcond.2, by rw [hsearch]; rfl, hdist⟩
      rw [if_neg hdist]
      exact ⟨rfl, rfl⟩
  · exact ⟨rfl, rfl⟩

/-! ### No gaps -/

/-- A district comes only behind a subdistrict. -/
theorem not_shifts_readVars (house moo rest : Str) : ¬ Shifts (readVars house moo rest) := by
  intro h
  obtain ⟨-, hsub, -, hdist⟩ := h
  have hone : 1 < (addressParts rest).length := (getD_addressParts_ne_nil_iff rest 1).mp hdist
  have hnil : addressParts rest = [] := (subdistrict_readVars_eq_nil_iff house moo rest).mp hsub
  rw [hnil] at hone
  exact absurd hone (by decide)

/-- The last two fields of an address read as three texts. -/
theorem ReadAs.district_province {address house moo rest : Str}
    (h : ReadAs (dropYear address) house moo rest) :
    (parse_address address).district = (addressParts rest).getD 1 [] ∧
      (parse_address address).province = (addressParts rest).getD 2 [] := by
  obtain ⟨hdist, hprov⟩ := splitMooSoi_of_not_shifts (not_shifts_readVars house moo rest)
  rw [h.parse_address_eq]
  unfold finishAddress
  dsimp only
  rw [splitHouseNo_district, splitHouseNo_province, hdist, hprov]
  exact ⟨dropHashes_getD_addressParts rest 1, dropHashes_getD_addressParts rest 2⟩

/-- **The address fields fill without a gap**, and the branch that would close
    one is never taken. -/
theorem fields_without_gap (address : Str) :
    ((parse_address address).province ≠ [] → (parse_address address).district ≠ []) ∧
      ((parse_address address).district ≠ [] → (parse_address address).subdistrict ≠ []) ∧
      ∀ rest, (splitAddress (dropYear address)).rest = some rest →
        ¬ Shifts (assignRest (splitAddress (dropYear address)) rest) := by
  rcases readAs_or_onlySingleHashes (dropYear address) with
    ⟨house, moo, rest, hread⟩ | ⟨-, hnone⟩
  · obtain ⟨hdist, hprov⟩ := hread.district_province
    refine ⟨?_, ?_, ?_⟩
    · rw [hdist, hprov, getD_addressParts_ne_nil_iff, getD_addressParts_ne_nil_iff]
      intro htwo
      omega
    · rw [hdist, getD_addressParts_ne_nil_iff]
      intro hone
      have hparts : addressParts rest ≠ [] := List.ne_nil_of_length_pos (by omega)
      rw [(hread.parse_address_parts hparts).1, getD_addressParts_ne_nil_iff]
      omega
    · intro rest' hrest
      rw [hread.splitAddress_eq] at hrest
      have heq : rest = rest' := by simpa using hrest
      rw [← heq, hread.assignRest_eq]
      exact not_shifts_readVars house moo rest
  · -- the handler leaves the fields empty
    rw [parse_address_of_rest_eq_none hnone]
    refine ⟨fun h => absurd rfl h, fun h => absurd rfl h, ?_⟩
    intro rest hrest
    rw [hnone] at hrest
    exact absurd hrest (by simp)

end IdScan
