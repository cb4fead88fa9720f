import IdScan.Model.Python

/-! # Taking names and addresses apart

  `parse_name` and `parse_address` of `gui_reader.py`. The card separates the
  parts of a name or an address by runs of `#`.
-/

namespace IdScan

/-! ### Names -/

/-- What `parse_name` returns. -/
structure ParsedName where
  title : Str
  firstname : Str
  lastname : Str
  fullname : Str
  deriving DecidableEq

/-- A name that does not have the layout: only the full name is filled. -/
def unparsedName (fullname : Str) : ParsedName where
  title := []
  firstname := []
  lastname := []
  fullname := hashToSpace fullname

/-- `parse_name`: title `#` first name `##` last name. Nothing in its `try` can
    raise on a `str`, so its handler has no counterpart here. -/
def parse_name (fullname : Str) : ParsedName :=
  match Text.split ['#', '#'] fullname with
  | [name_part, last_part] =>
    let lastname := strip last_part
    match Text.split ['#'] name_part with
    -- pieces behind the second are ignored
    | title_part :: first_part :: _ =>
      let title := strip title_part
      let firstname := strip first_part
      { title, firstname, lastname,
        fullname := title ++ ' ' :: (firstname ++ ' ' :: lastname) }
    | _ => unparsedName fullname
  | _ => unparsedName fullname

/-! ### Addresses -/

/-- What `parse_address` returns. -/
structure ParsedAddress where
  house_no : Str
  moo_soi : Str
  subdistrict : Str
  district : Str
  province : Str
  fulladdress : Str
  deriving DecidableEq

/-- The local variables of `parse_address`. `rest` is `none` until the source
    assigns it. -/
structure AddressVars where
  house_no : Str := []
  moo_soi : Str := []
  subdistrict : Str := []
  district : Str := []
  province : Str := []
  rest : Option Str := none
  deriving DecidableEq

/-- `re.sub(r'^\d{4}\s+', '', address)`. -/
def dropYear (address : Str) : Str :=
  match address with
  | a :: b :: c :: d :: tail =>
    if [a, b, c, d].all isdecimal && (tail.head?.any isspace) then tail.dropWhile isspace
    else address
  | _ => address

/-- The two words a subdistrict begins with. -/
def subdistrictWords : List Str := ["แขวง".toList, "ตำบล".toList]

/-- `(แขวง|ตำบล)` at the start of `s`. -/
def startsWithWord (s : Str) : Bool := subdistrictWords.any (·.isPrefixOf s)

/-- `\s+(แขวง|ตำบล)` at the start of `s`. -/
def startsWithSpacedWord (s : Str) : Bool :=
  s.head?.any isspace && startsWithWord (s.dropWhile isspace)

/-- `re.search`: the texts before and from the leftmost match. -/
def search (matches_ : Str → Bool) : Str → Option (Str × Str)
  | [] => none
  | c :: cs =>
    if matches_ (c :: cs) then some ([], c :: cs)
    else (search matches_ cs).map fun (before, from_) => (c :: before, from_)

/-- The branches on the separators, down to `if rest:`. -/
def splitAddress (address : Str) : AddressVars :=
  match Text.cut ['#', '#', '#'] address with
  | some (house_part, rest) =>
    let house_no := strip house_part
    match Text.cut ['#', '#'] rest with
    | some (moo_soi_part, rest) => { house_no, moo_soi := strip moo_soi_part, rest := some rest }
    | none =>
      match search startsWithSpacedWord rest with
      | some (before, from_) => { house_no, moo_soi := strip before, rest := some (strip from_) }
      -- neither `##` nor a subdistrict word
      | none =>
        match Text.cut ['#'] rest with
        | some (before, after) => { house_no, moo_soi := strip before, rest := some after }
        | none => { house_no, moo_soi := strip rest, rest := some [] }
  | none =>
    match Text.cut ['#', '#'] address with
    | some (first_part, rest) =>
      match Text.cut ['#'] first_part with
      | some (before, after) =>
        { house_no := strip before, moo_soi := strip after, rest := some rest }
      | none => { house_no := strip first_part, rest := some rest }
    | none =>
      if '#' ∈ address then
        -- here the source fills the five fields and leaves `rest` unassigned
        let all_parts := Text.split ['#'] address
        { house_no := strip (all_parts.getD 0 []), moo_soi := strip (all_parts.getD 1 []),
          subdistrict := strip (all_parts.getD 2 []), district := strip (all_parts.getD 3 []),
          province := strip (all_parts.getD 4 []) }
      else { rest := some address }

/-- `[p.strip() for p in rest.replace('##', '#').split('#') if p.strip()]`. -/
def addressParts (rest : Str) : List Str :=
  ((Text.split ['#'] (Text.replace ['#', '#'] ['#'] rest)).map strip).filter fun p => !p.isEmpty

/-- Subdistrict, district and province out of `rest`. -/
def assignRest (vars : AddressVars) (rest : Str) : AddressVars :=
  if rest = [] then vars
  else
    let address_parts := addressParts rest
    { vars with
      subdistrict := address_parts.getD 0 vars.subdistrict
      district := address_parts.getD 1 vars.district
      province := address_parts.getD 2 vars.province }

/-- Post-processing 1: a subdistrict word inside `moo_soi`. -/
def splitMooSoi (vars : AddressVars) : AddressVars :=
  if vars.moo_soi ≠ [] ∧ vars.subdistrict = [] then
    match search startsWithWord vars.moo_soi with
    | none => vars
    | some (before, from_) =>
      let actual_moo_soi := strip before
      let actual_subdistrict := strip from_
      if vars.district ≠ [] then
        { vars with
          province := vars.district, district := vars.subdistrict
          subdistrict := actual_subdistrict, moo_soi := actual_moo_soi }
      else { vars with subdistrict := actual_subdistrict, moo_soi := actual_moo_soi }
  else vars

/-- Post-processing 2: a `#` left in `house_no`. -/
def splitHouseNo (vars : AddressVars) : AddressVars :=
  match Text.cut ['#'] vars.house_no with
  | none => vars
  | some (before, after) =>
    { vars with
      house_no := strip before
      moo_soi := if vars.moo_soi = [] then strip after else vars.moo_soi }

/-- `field.replace('#', '').strip()`. -/
def dropHashes (field : Str) : Str := strip (Text.replace ['#'] [] field)

/-- The regular return. -/
def finishAddress (vars : AddressVars) : ParsedAddress :=
  let house_no := dropHashes vars.house_no
  let moo_soi := dropHashes vars.moo_soi
  let subdistrict := dropHashes vars.subdistrict
  let district := dropHashes vars.district
  let province := dropHashes vars.province
  { house_no, moo_soi, subdistrict, district, province,
    fulladdress := Text.joinNonEmpty [' '] [house_no, moo_soi, subdistrict, district, province] }

/-- The return of the handler. -/
def unparsedAddress (address : Str) : ParsedAddress where
  house_no := []
  moo_soi := []
  subdistrict := []
  district := []
  province := []
  fulladdress := hashToSpace address

/-- The `try` of `parse_address` behind the year; `none` where it tests a `rest`
    that was never assigned, which raises. -/
def addressBody (address : Str) : Option ParsedAddress :=
  let vars := splitAddress address
  match vars.rest with
  | none => none
  | some rest => some (finishAddress (splitHouseNo (splitMooSoi (assignRest vars rest))))

/-- `parse_address`. Testing `rest` where it was never assigned raises, and the
    handler sees `address` as it stands then, without the year. -/
def parse_address (address : Str) : ParsedAddress :=
  let address := dropYear address
  let vars := splitAddress address
  match vars.rest with
  | none => unparsedAddress address
  | some rest => finishAddress (splitHouseNo (splitMooSoi (assignRest vars rest)))

/-- The regular return of the `try`, or the return of its handler. -/
theorem parse_address_eq (address : Str) :
    parse_address address
      = (addressBody (dropYear address)).getD (unparsedAddress (dropYear address)) := by
  unfold parse_address addressBody
  dsimp only
  cases (splitAddress (dropYear address)).rest <;> rfl

example : parse_address "1/2###หมู่ที่ 3##ตำบลก#อำเภอข#จังหวัดค".toList
    = { house_no := "1/2".toList, moo_soi := "หมู่ที่ 3".toList, subdistrict := "ตำบลก".toList,
        district := "อำเภอข".toList, province := "จังหวัดค".toList,
        fulladdress := "1/2 หมู่ที่ 3 ตำบลก อำเภอข จังหวัดค".toList } := by
  decide +kernel

end IdScan
