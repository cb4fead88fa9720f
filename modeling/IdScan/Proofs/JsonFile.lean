import IdScan.Framework.Json
import IdScan.Model.Output

/-! # The JSON file

  `save_to_json` writes the record as one JSON object, indented. It is opened in
  text mode, so that every line break of the text becomes that of the platform.
  A line break within a field is escaped before, and only the layout is touched:
  a reader of the file finds the record as it was, whatever characters its fields
  hold.
-/

namespace IdScan

namespace ReadImproved

/-! ### Escaping -/

theorem toDigits_control {n : Nat} (hn : n < 0x20) :
    Nat.toDigits 16 n = if n < 0x10 then [n.digitChar] else ['1', (n - 0x10).digitChar] := by
  have hall : ∀ n < 0x20, Nat.toDigits 16 n
      = if n < 0x10 then [n.digitChar] else ['1', (n - 0x10).digitChar] := by decide
  exact hall n hn

theorem hexValue_digitChar {n : Nat} (hn : n < 0x10) : Json.hexValue n.digitChar = some n := by
  have hall : ∀ n < 0x10, Json.hexValue n.digitChar = some n := by decide
  exact hall n hn

/-- The reader takes four hexadecimal digits for the character they number. -/
theorem readChars_unicode {c high low : Char} (hchar : c.toNat < 0x20)
    (hhigh : Json.hexValue high = some (c.toNat / 0x10))
    (hlow : Json.hexValue low = some (c.toNat % 0x10)) (rest : Str) :
    Json.readChars .plain ('\\' :: 'u' :: '0' :: '0' :: high :: low :: rest)
      = (Json.readChars .plain rest).map fun (cs, behind) => (c :: cs, behind) := by
  have hzero : Json.hexValue '0' = some 0 := by decide
  have hvalue : 16 * (16 * (16 * (16 * 0 + 0) + 0) + c.toNat / 0x10) + c.toNat % 0x10 = c.toNat := by
    omega
  have hvalid : c.toNat.isValidChar := Or.inl (by omega)
  have hback : Char.ofNat c.toNat = c := Char.ofNat_toNat c
  simp only [Json.readChars, hzero, hhigh, hlow, hvalue, hback]
  simp [hvalid]

/-- **The escaping of `json.dump` is undone by the reader.** -/
theorem faithful_jsonChar : Json.Faithful jsonChar := by
  intro c rest
  unfold jsonChar
  by_cases hquote : c = '"'
  · subst hquote
    simp [Json.readChars, Json.unescape]
  rw [if_neg hquote]
  by_cases hback : c = '\\'
  · subst hback
    simp [Json.readChars, Json.unescape]
  rw [if_neg hback]
  by_cases hn : c = '\n'
  · subst hn
    simp [Json.readChars, Json.unescape]
  rw [if_neg hn]
  by_cases hr : c = '\r'
  · subst hr
    simp [Json.readChars, Json.unescape]
  rw [if_neg hr]
  by_cases ht : c = '\t'
  · subst ht
    simp [Json.readChars, Json.unescape]
  rw [if_neg ht]
  by_cases hf : c = '\x0c'
  · subst hf
    simp [Json.readChars, Json.unescape]
  rw [if_neg hf]
  by_cases hb : c = '\x08'
  · subst hb
    simp [Json.readChars, Json.unescape]
  rw [if_neg hb]
  by_cases hlow : c.toNat < 0x10
  · -- one digit behind three zeros
    have hcontrol : c.toNat < 0x20 := by omega
    have hhigh : Json.hexValue '0' = some (c.toNat / 0x10) := by
      rw [Nat.div_eq_of_lt hlow]
      decide
    have hdigit : Json.hexValue c.toNat.digitChar = some (c.toNat % 0x10) := by
      rw [Nat.mod_eq_of_lt hlow]
      exact hexValue_digitChar hlow
    rw [if_pos hlow, toDigits_control hcontrol, if_pos hlow]
    exact readChars_unicode hcontrol hhigh hdigit rest
  rw [if_neg hlow]
  by_cases hcontrol : c.toNat < 0x20
  · -- the two digits are a 1 and another
    have hhigh : Json.hexValue '1' = some (c.toNat / 0x10) := by
      have hone : c.toNat / 0x10 = 1 := by omega
      rw [hone]
      decide
    have hdigit : Json.hexValue (c.toNat - 0x10).digitChar = some (c.toNat % 0x10) := by
      have hrest : c.toNat % 0x10 = c.toNat - 0x10 := by omega
      rw [hrest]
      apply hexValue_digitChar
      omega
    rw [if_pos hcontrol, toDigits_control hcontrol, if_neg hlow]
    exact readChars_unicode hcontrol hhigh hdigit rest
  rw [if_neg hcontrol]
  show Json.readChars .plain (c :: rest) = _
  simp only [Json.readChars, if_neg hquote, if_neg hback, if_neg hcontrol]

/-- An escaped character holds no line break. -/
theorem newline_not_mem_jsonChar (c : Char) : '\n' ∉ jsonChar c := by
  have hdigits : ∀ n < 0x20, '\n' ∉ Nat.toDigits 16 n := by decide
  unfold jsonChar
  intro hmem
  split_ifs at hmem with hquote hback hn hr ht hf hb hlow hcontrol
  · exact absurd hmem (by decide)
  · exact absurd hmem (by decide)
  · exact absurd hmem (by decide)
  · exact absurd hmem (by decide)
  · exact absurd hmem (by decide)
  · exact absurd hmem (by decide)
  · exact absurd hmem (by decide)
  · rcases List.mem_append.mp hmem with hfixed | hdigit
    · exact absurd hfixed (by decide)
    · exact hdigits c.toNat (by omega) hdigit
  · rcases List.mem_append.mp hmem with hfixed | hdigit
    · exact absurd hfixed (by decide)
    · exact hdigits c.toNat hcontrol hdigit
  · exact hn (List.mem_singleton.mp hmem).symm

/-! ### The text of the file -/

/-- What text mode writes for a text: every line break becomes `os.linesep`. -/
def textMode (linesep s : Str) : Str := s.flatMap fun c => if c = '\n' then linesep else [c]

theorem textMode_append (linesep s t : Str) :
    textMode linesep (s ++ t) = textMode linesep s ++ textMode linesep t :=
  List.flatMap_append

/-- A text without line breaks is written as it is. -/
theorem textMode_plain (linesep : Str) {s : Str} (hs : '\n' ∉ s) : textMode linesep s = s := by
  induction s with
  | nil => rfl
  | cons c s ih =>
    rw [List.mem_cons, not_or] at hs
    obtain ⟨hc, hrest⟩ := hs
    have htail : textMode linesep s = s := ih hrest
    show (if c = '\n' then linesep else [c]) ++ textMode linesep s = c :: s
    rw [if_neg (Ne.symm hc), htail]
    rfl

theorem newline_not_mem_jsonString (s : Str) : '\n' ∉ jsonString s := by
  intro hmem
  rw [jsonString, List.mem_cons, List.mem_append, List.mem_flatMap] at hmem
  rcases hmem with hquote | ⟨c, -, hc⟩ | hquote
  · exact absurd hquote (by decide)
  · exact newline_not_mem_jsonChar c hc
  · exact absurd hquote (by decide)

/-- How `json.dump` lays out the object, with the line break that is written. -/
def dumpLayout (linesep : Str) : Json.Layout := ⟨linesep ++ "  ".toList, " ".toList, linesep⟩

theorem blank_dumpLayout {linesep : Str} (hsep : ∀ c ∈ linesep, Json.isBlank c = true) :
    (dumpLayout linesep).Blank := by
  have hblanks : ∀ c ∈ "  ".toList, Json.isBlank c = true := List.all_eq_true.mp (by decide)
  have hcolon : ∀ c ∈ " ".toList, Json.isBlank c = true := List.all_eq_true.mp (by decide)
  refine ⟨?_, hcolon, hsep⟩
  intro c hc
  rcases List.mem_append.mp hc with hfirst | hsecond
  · exact hsep c hfirst
  · exact hblanks c hsecond

/-- One line of the object. -/
def jsonLine (member : Str × Str) : Str :=
  "  ".toList ++ jsonString member.1 ++ ": ".toList ++ jsonString member.2

theorem textMode_jsonLine (linesep : Str) (member : Str × Str) :
    textMode linesep (jsonLine member) = jsonLine member := by
  apply textMode_plain
  have hkey := newline_not_mem_jsonString member.1
  have hvalue := newline_not_mem_jsonString member.2
  have hblanks : '\n' ∉ "  ".toList := by decide
  have hcolon : '\n' ∉ ": ".toList := by decide
  simp only [jsonLine, List.mem_append, not_or]
  exact ⟨⟨⟨hblanks, hkey⟩, hcolon⟩, hvalue⟩

/-- The lines with their commas are the members as the library writes them. -/
theorem textMode_lines (linesep : Str) (member : Str × Str) (members : List (Str × Str)) :
    linesep ++ textMode linesep (",\n".toList.intercalate ((member :: members).map jsonLine))
        ++ textMode linesep "\n\x7d".toList
      = Json.writeMembers jsonChar (dumpLayout linesep) (member :: members) := by
  have hclose : textMode linesep "\n\x7d".toList = linesep ++ ['\x7d'] := rfl
  have hline : ∀ member, linesep ++ jsonLine member
      = Json.writeMember jsonChar (dumpLayout linesep) member := by
    intro member
    simp [Json.writeMember, Json.writeString, jsonLine, jsonString, dumpLayout]
  induction members generalizing member with
  | nil =>
    have hone : ",\n".toList.intercalate ([member].map jsonLine) = jsonLine member := by
      simp [List.intercalate]
    rw [hone, textMode_jsonLine, hline, hclose]
    exact (List.append_assoc _ _ _).symm
  | cons next members ih =>
    have hmore : ",\n".toList.intercalate ((member :: next :: members).map jsonLine)
        = jsonLine member
          ++ (",\n".toList ++ ",\n".toList.intercalate ((next :: members).map jsonLine)) := by
      simp [List.intercalate]
    have hcomma : textMode linesep ",\n".toList = ',' :: linesep := by
      show ',' :: (linesep ++ []) = _
      rw [List.append_nil]
    rw [hmore, textMode_append, textMode_append, textMode_jsonLine, hcomma]
    have hrest := ih next
    calc linesep ++ (jsonLine member ++ (',' :: linesep
            ++ textMode linesep (",\n".toList.intercalate ((next :: members).map jsonLine))))
          ++ textMode linesep "\n\x7d".toList
        = (linesep ++ jsonLine member) ++ ',' :: (linesep
            ++ textMode linesep (",\n".toList.intercalate ((next :: members).map jsonLine))
            ++ textMode linesep "\n\x7d".toList) := by simp
      _ = Json.writeMembers jsonChar (dumpLayout linesep) (member :: next :: members) := by
          rw [hline, hrest]
          rfl

/-- The text in the file is the object as the library writes it. -/
theorem textMode_jsonDump (linesep : Str) (data : CardData) :
    textMode linesep (jsonDump data)
      = Json.writeObject jsonChar (dumpLayout linesep) data.items := by
  have hopen : textMode linesep "\x7b\n".toList = '\x7b' :: linesep := by
    show '\x7b' :: (linesep ++ []) = _
    rw [List.append_nil]
  have hdump : jsonDump data = "\x7b\n".toList ++ ",\n".toList.intercalate (data.items.map jsonLine)
      ++ "\n\x7d".toList := rfl
  obtain ⟨member, members, hitems⟩ : ∃ member members, data.items = member :: members :=
    ⟨_, _, rfl⟩
  rw [hdump, textMode_append, textMode_append, hopen, Json.writeObject, hitems, ← textMode_lines]
  simp

/-! ### Reading the file -/

/-- The record in a dictionary; `none` where a key is missing. -/
def CardData.ofItems (items : List (Str × Str)) : Option CardData := do
  let cid ← items.lookup "cid".toList
  let th_fullname ← items.lookup "th_fullname".toList
  let en_fullname ← items.lookup "en_fullname".toList
  let birth_date ← items.lookup "birth_date".toList
  let gender ← items.lookup "gender".toList
  let issuer ← items.lookup "issuer".toList
  let issue_date ← items.lookup "issue_date".toList
  let expire_date ← items.lookup "expire_date".toList
  let address ← items.lookup "address".toList
  let read_timestamp ← items.lookup "read_timestamp".toList
  return {
    cid, th_fullname, en_fullname, birth_date, gender, issuer, issue_date, expire_date, address
    photo_path := items.lookup "photo_path".toList
    read_timestamp }

/-- The dictionary determines the record. -/
theorem ofItems_items (data : CardData) : CardData.ofItems data.items = some data := by
  obtain ⟨cid, th_fullname, en_fullname, birth_date, gender, issuer, issue_date, expire_date,
    address, photo_path, read_timestamp⟩ := data
  cases photo_path <;> rfl

/-- The record in the text of a file. -/
def loadRecord (text : Str) : Option CardData := (Json.readObject text).bind CardData.ofItems

/-- **The file holds the record**: whatever characters its fields hold, and
    whatever white space the platform breaks lines with, the text is one JSON
    object and reads back to the record. -/
theorem load_jsonDump (data : CardData) {linesep : Str}
    (hsep : ∀ c ∈ linesep, Json.isBlank c = true) :
    loadRecord (textMode linesep (jsonDump data)) = some data := by
  have hne : data.items ≠ [] := List.cons_ne_nil _ _
  have hread : Json.readObject (textMode linesep (jsonDump data)) = some data.items := by
    rw [textMode_jsonDump]
    exact Json.read_write faithful_jsonChar (blank_dumpLayout hsep) hne
  rw [loadRecord, hread, Option.bind_some, ofItems_items]

end ReadImproved

end IdScan
