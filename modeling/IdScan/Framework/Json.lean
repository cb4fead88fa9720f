import Mathlib.Data.List.Basic

/-! # JSON objects of strings

  A reader for JSON texts whose value is an object with string members, and what
  it makes of a written one. The writer has two parameters: how it escapes a
  character, and the white space of its layout. Whatever they are, the reader
  gives back the members, in order: `read_write`.

  A pair of surrogate escapes is not read; a writer that leaves characters
  unescaped has no need of it.
-/

namespace Json

/-! ### Reading -/

/-- The white space between tokens. -/
def isBlank (c : Char) : Bool := c == ' ' || c == '\t' || c == '\n' || c == '\r'

/-- What stands for the character behind a backslash. -/
def unescape (c : Char) : Option Char :=
  if c = '"' then some '"'
  else if c = '\\' then some '\\'
  else if c = '/' then some '/'
  else if c = 'b' then some '\x08'
  else if c = 'f' then some '\x0c'
  else if c = 'n' then some '\n'
  else if c = 'r' then some '\r'
  else if c = 't' then some '\t'
  else none

/-- The value of a hexadecimal digit. -/
def hexValue (c : Char) : Option Nat :=
  if '0' ≤ c ∧ c ≤ '9' then some (c.toNat - '0'.toNat)
  else if 'a' ≤ c ∧ c ≤ 'f' then some (c.toNat - 'a'.toNat + 10)
  else if 'A' ≤ c ∧ c ≤ 'F' then some (c.toNat - 'A'.toNat + 10)
  else none

/-- Where a reader is in a string. -/
inductive Mode where
  | plain
  /-- Behind a backslash. -/
  | escape
  /-- In the digits of `\u`: one more and `left` others to come, with this value
      so far. -/
  | hex (left value : Nat)

/-- The characters of a string up to its closing quote, and what is behind. -/
def readChars : Mode → List Char → Option (List Char × List Char)
  | _, [] => none
  | .plain, c :: rest =>
    if c = '"' then some ([], rest)
    else if c = '\\' then readChars .escape rest
    else if c.toNat < 0x20 then none
    else (readChars .plain rest).map fun (cs, behind) => (c :: cs, behind)
  | .escape, c :: rest =>
    if c = 'u' then readChars (.hex 3 0) rest
    else
      match unescape c with
      | none => none
      | some meant => (readChars .plain rest).map fun (cs, behind) => (meant :: cs, behind)
  | .hex left value, c :: rest =>
    match hexValue c with
    | none => none
    | some digit =>
      match left with
      | left + 1 => readChars (.hex left (16 * value + digit)) rest
      | 0 =>
        if (16 * value + digit).isValidChar then
          (readChars .plain rest).map fun (cs, behind) =>
            (Char.ofNat (16 * value + digit) :: cs, behind)
        else none

/-- A token of one character, behind white space. -/
def readToken (token : Char) (s : List Char) : Option (List Char) :=
  match s.dropWhile isBlank with
  | [] => none
  | c :: rest => if c = token then some rest else none

/-- A string, behind white space. -/
def readString (s : List Char) : Option (List Char × List Char) :=
  (readToken '"' s).bind (readChars .plain)

/-- A member of an object. -/
abbrev Member := List Char × List Char

def readMember (s : List Char) : Option (Member × List Char) := do
  let (key, s) ← readString s
  let s ← readToken ':' s
  let (value, s) ← readString s
  return ((key, value), s)

/-- The members up to the closing brace, at most `n` of them, and what is
    behind. -/
def readMembers : Nat → List Char → Option (List Member × List Char)
  | 0, _ => none
  | n + 1, s => do
    let (member, s) ← readMember s
    match readToken ',' s with
    | some s =>
      let (members, behind) ← readMembers n s
      return (member :: members, behind)
    | none =>
      let behind ← readToken '\x7d' s
      return ([member], behind)

/-- A text that is an object with members. -/
def readObject (s : List Char) : Option (List Member) := do
  let inside ← readToken '\x7b' s
  let (members, behind) ← readMembers s.length inside
  if behind.all isBlank then return members else none

/-! ### Writing -/

/-- The white space of a written object: before each member, behind a colon, and
    before the closing brace. -/
structure Layout where
  member : List Char
  colon : List Char
  close : List Char

/-- The layout is white space only. -/
def Layout.Blank (layout : Layout) : Prop :=
  (∀ c ∈ layout.member, isBlank c = true) ∧ (∀ c ∈ layout.colon, isBlank c = true) ∧
    ∀ c ∈ layout.close, isBlank c = true

section writing
variable (escape : Char → List Char) (layout : Layout)

def writeString (s : List Char) : List Char := '"' :: (s.flatMap escape ++ ['"'])

def writeMember (member : Member) : List Char :=
  layout.member ++ writeString escape member.1 ++ ':' :: layout.colon
    ++ writeString escape member.2

/-- The members with their commas, and the closing brace. -/
def writeMembers : List Member → List Char
  | [] => layout.close ++ ['\x7d']
  | [member] => writeMember escape layout member ++ layout.close ++ ['\x7d']
  | member :: members => writeMember escape layout member ++ ',' :: writeMembers members

def writeObject (members : List Member) : List Char := '\x7b' :: writeMembers escape layout members

/-- An escaping is faithful if the reader undoes it, whatever follows. -/
def Faithful : Prop :=
  ∀ c rest, readChars .plain (escape c ++ rest)
    = (readChars .plain rest).map fun (cs, behind) => (c :: cs, behind)

end writing

/-! ### The round trip -/

section roundTrip
variable {escape : Char → List Char} {layout : Layout}

/-- White space in front of a token is skipped. -/
theorem readToken_append {blank : List Char} (hblank : ∀ c ∈ blank, isBlank c = true) {token : Char}
    (htoken : isBlank token = false) (rest : List Char) :
    readToken token (blank ++ token :: rest) = some rest := by
  have hskip : (blank ++ token :: rest).dropWhile isBlank = token :: rest := by
    rw [List.dropWhile_append_of_pos hblank]
    simp [htoken]
  unfold readToken
  rw [hskip]
  simp

/-- Another token is not taken. -/
theorem readToken_other {blank : List Char} (hblank : ∀ c ∈ blank, isBlank c = true)
    {token other : Char} (hother : isBlank other = false) (hne : other ≠ token)
    (rest : List Char) : readToken token (blank ++ other :: rest) = none := by
  have hskip : (blank ++ other :: rest).dropWhile isBlank = other :: rest := by
    rw [List.dropWhile_append_of_pos hblank]
    simp [hother]
  unfold readToken
  rw [hskip]
  simp [hne]

/-- The characters of a written string come back. -/
theorem readChars_flatMap (hescape : Faithful escape) (s rest : List Char) :
    readChars .plain (s.flatMap escape ++ '"' :: rest) = some (s, rest) := by
  induction s with
  | nil => simp [readChars]
  | cons c s ih =>
    rw [List.flatMap_cons, List.append_assoc, hescape, ih]
    rfl

theorem readString_write (hescape : Faithful escape) {blank : List Char}
    (hblank : ∀ c ∈ blank, isBlank c = true) (s rest : List Char) :
    readString (blank ++ writeString escape s ++ rest) = some (s, rest) := by
  have htext : blank ++ writeString escape s ++ rest
      = blank ++ '"' :: (s.flatMap escape ++ '"' :: rest) := by
    simp [writeString]
  unfold readString
  rw [htext, readToken_append hblank rfl, Option.bind_some, readChars_flatMap hescape]

theorem readMember_write (hescape : Faithful escape) (hlayout : layout.Blank) (member : Member)
    (rest : List Char) :
    readMember (writeMember escape layout member ++ rest) = some (member, rest) := by
  obtain ⟨hmember, hcolon, -⟩ := hlayout
  have htext : writeMember escape layout member ++ rest
      = layout.member ++ writeString escape member.1
        ++ ([] ++ ':' :: (layout.colon ++ writeString escape member.2 ++ rest)) := by
    simp [writeMember]
  have hkey := readString_write hescape hmember member.1
    ([] ++ ':' :: (layout.colon ++ writeString escape member.2 ++ rest))
  have hvalue := readString_write hescape hcolon member.2 rest
  have hmiddle := @readToken_append [] (by simp) ':' rfl
    (layout.colon ++ writeString escape member.2 ++ rest)
  simp only [readMember, htext, hkey, hmiddle, hvalue, Option.bind_eq_bind, Option.bind_some]
  rfl

/-- A written member is not empty, so that a text is longer than its members are
    many. -/
theorem length_le_writeMembers (escape : Char → List Char) (layout : Layout)
    (members : List Member) : members.length ≤ (writeMembers escape layout members).length := by
  induction members with
  | nil => simp
  | cons member members ih =>
    cases members with
    | nil =>
      simp only [writeMembers, List.length_append, List.length_cons, List.length_nil]
      omega
    | cons next members =>
      simp only [writeMembers, List.length_append, List.length_cons] at ih ⊢
      omega

theorem readMembers_write (hescape : Faithful escape) (hlayout : layout.Blank)
    {members : List Member} (hne : members ≠ []) {n : Nat} (hn : members.length ≤ n) :
    readMembers n (writeMembers escape layout members) = some (members, []) := by
  induction members generalizing n with
  | nil => exact absurd rfl hne
  | cons member members ih =>
    obtain ⟨n, rfl⟩ : ∃ m, n = m + 1 := ⟨n - 1, by simp at hn; omega⟩
    cases members with
    | nil =>
      have htext : writeMembers escape layout [member]
          = writeMember escape layout member ++ (layout.close ++ ['\x7d']) := by
        simp [writeMembers]
      have hcomma : readToken ',' (layout.close ++ ['\x7d']) = none :=
        readToken_other hlayout.2.2 rfl (by decide) []
      have hclose : readToken '\x7d' (layout.close ++ ['\x7d']) = some [] :=
        readToken_append hlayout.2.2 rfl []
      simp only [readMembers, htext, readMember_write hescape hlayout, hcomma, hclose,
        Option.bind_eq_bind, Option.bind_some]
      rfl
    | cons next members =>
      have htext : writeMembers escape layout (member :: next :: members)
          = writeMember escape layout member
            ++ ',' :: writeMembers escape layout (next :: members) := rfl
      have hcomma : readToken ',' (',' :: writeMembers escape layout (next :: members))
          = some (writeMembers escape layout (next :: members)) :=
        @readToken_append [] (by simp) _ rfl _
      have hrest := ih (by simp) (show (next :: members).length ≤ n by simpa using hn)
      simp only [readMembers, htext, readMember_write hescape hlayout, hcomma, hrest,
        Option.bind_eq_bind, Option.bind_some]
      rfl

/-- **The round trip**: a written object is read back, whatever the layout. -/
theorem read_write (hescape : Faithful escape) (hlayout : layout.Blank) {members : List Member}
    (hne : members ≠ []) : readObject (writeObject escape layout members) = some members := by
  have hlen := length_le_writeMembers escape layout members
  have hmembers : readMembers (writeObject escape layout members).length
      (writeMembers escape layout members) = some (members, []) := by
    apply readMembers_write hescape hlayout hne
    rw [writeObject, List.length_cons]
    omega
  have hopen : readToken '\x7b' (writeObject escape layout members)
      = some (writeMembers escape layout members) := @readToken_append [] (by simp) _ rfl _
  simp only [readObject, hopen, hmembers, Option.bind_eq_bind, Option.bind_some]
  rfl

end roundTrip

end Json
