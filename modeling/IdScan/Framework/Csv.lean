import Mathlib.Data.List.Basic

/-! # Delimiter-separated text: a writer, a reader and their round trip

  The writer quotes a field only where it has to and doubles the quotes inside
  it. The reader is a character machine that is fed one line at a time: every
  line feed is followed by an end-of-line mark, and so is an unterminated last
  line. Between the two stands the text layer, which turns every carriage
  return, alone or before a line feed, into a line feed.

  `Dialect.read_writeRows` is the round trip through all three. Rows and fields
  come back in number and order, and only the line ends inside a field change.

  A reader may refuse long fields. `limitFields` is what it then delivers.
-/

namespace Csv

abbrev Field := List Char

abbrev Row := List Field

/-- The characters that end a line. -/
def isNewline (c : Char) : Bool := c == '\n' || c == '\r'

/-- A dialect: its two special characters, different and not line ends. -/
structure Dialect where
  delimiter : Char
  quotechar : Char
  delimiter_ne_quotechar : delimiter ≠ quotechar
  delimiter_not_newline : isNewline delimiter = false
  quotechar_not_newline : isNewline quotechar = false

/-- Comma and double quote. -/
def excel : Dialect where
  delimiter := ','
  quotechar := '"'
  delimiter_ne_quotechar := by decide
  delimiter_not_newline := by decide
  quotechar_not_newline := by decide

theorem Dialect.delimiter_ne_lf (d : Dialect) : d.delimiter ≠ '\n' := by
  intro h
  have := d.delimiter_not_newline
  simp [h, isNewline] at this

theorem Dialect.quotechar_ne_lf (d : Dialect) : d.quotechar ≠ '\n' := by
  intro h
  have := d.quotechar_not_newline
  simp [h, isNewline] at this

/-! ### Line ends of a text stream -/

/-- `universalNewlines` after a character that was (`true`) or was not a
    carriage return. -/
def newlinesFrom : Bool → List Char → List Char
  | _, [] => []
  | afterCr, c :: cs =>
    if c = '\r' then '\n' :: newlinesFrom true cs
    else if c = '\n' ∧ afterCr = true then newlinesFrom false cs
    else c :: newlinesFrom false cs

/-- Every carriage return, alone or before a line feed, becomes a line feed. -/
def universalNewlines (s : List Char) : List Char := newlinesFrom false s

@[simp] theorem newlinesFrom_nil (b : Bool) : newlinesFrom b [] = [] := rfl

theorem newlinesFrom_cons_of_not_newline {c : Char} (hc : isNewline c = false) (b : Bool)
    (cs : List Char) : newlinesFrom b (c :: cs) = c :: newlinesFrom false cs := by
  simp only [isNewline, Bool.or_eq_false_iff, beq_eq_false_iff_ne] at hc
  simp [newlinesFrom, hc.1, hc.2]

/-- No carriage return is left. -/
theorem cr_not_mem_newlinesFrom (b : Bool) (s : List Char) : '\r' ∉ newlinesFrom b s := by
  induction s generalizing b with
  | nil => simp
  | cons c cs ih =>
    rw [newlinesFrom]
    split
    · simp [ih]
    · next hc =>
      split
      · exact ih _
      · simp [ih, Ne.symm hc]

theorem cr_not_mem_universalNewlines (s : List Char) : '\r' ∉ universalNewlines s :=
  cr_not_mem_newlinesFrom false s

/-- A text without carriage returns passes unchanged. -/
theorem universalNewlines_of_not_mem {s : List Char} (h : '\r' ∉ s) :
    universalNewlines s = s := by
  unfold universalNewlines
  induction s with
  | nil => rfl
  | cons c cs ih =>
    simp only [List.mem_cons, not_or] at h
    simp [newlinesFrom, Ne.symm h.1, ih h.2]

/-- The texts that pass unchanged are those without carriage returns. -/
theorem universalNewlines_eq_self_iff {s : List Char} :
    universalNewlines s = s ↔ '\r' ∉ s :=
  ⟨fun h => h ▸ cr_not_mem_universalNewlines s, universalNewlines_of_not_mem⟩

/-- Other characters than line ends stay. -/
theorem mem_newlinesFrom_of_mem {c : Char} (hc : isNewline c = false) {b : Bool} {s : List Char}
    (h : c ∈ s) : c ∈ newlinesFrom b s := by
  induction s generalizing b with
  | nil => simp at h
  | cons c' cs ih =>
    rw [newlinesFrom]
    rcases List.mem_cons.mp h with rfl | h
    · simp only [isNewline, Bool.or_eq_false_iff, beq_eq_false_iff_ne] at hc
      simp [hc.1, hc.2]
    · split
      · simp [ih h]
      · split
        · exact ih h
        · simp [ih h]

/-- Only the empty text becomes empty. -/
@[simp] theorem universalNewlines_eq_nil_iff {s : List Char} :
    universalNewlines s = [] ↔ s = [] := by
  cases s with
  | nil => simp [universalNewlines]
  | cons c cs =>
    simp only [universalNewlines, newlinesFrom, reduceCtorEq, iff_false]
    split
    · simp
    · simp

/-- The stream splits before any character but a line feed. -/
theorem newlinesFrom_append_cons {c : Char} (hc : c ≠ '\n') (b : Bool) (s t : List Char) :
    newlinesFrom b (s ++ c :: t) = newlinesFrom b s ++ newlinesFrom false (c :: t) := by
  induction s generalizing b with
  | nil => simp [newlinesFrom, hc]
  | cons x xs ih =>
    simp only [List.cons_append, newlinesFrom]
    split
    · rw [ih]; rfl
    · split
      · rw [ih]; rfl
      · rw [ih]; rfl

/-! ### Writing -/

namespace Dialect

/-- Does the writer have to quote the field? -/
def needsQuotes (d : Dialect) (f : Field) : Bool :=
  f.any fun c => c == d.delimiter || c == d.quotechar || isNewline c

/-- Every quote doubled. -/
def doubleQuotes (d : Dialect) : List Char → List Char
  | [] => []
  | c :: cs =>
    if c = d.quotechar then c :: c :: doubleQuotes d cs else c :: doubleQuotes d cs

def writeField (d : Dialect) (f : Field) : List Char :=
  if d.needsQuotes f then d.quotechar :: (d.doubleQuotes f ++ [d.quotechar]) else f

def joinFields (d : Dialect) : Row → List Char
  | [] => []
  | [f] => d.writeField f
  | f :: g :: gs => d.writeField f ++ d.delimiter :: joinFields d (g :: gs)

/-- The row without its line end. A row of one empty field is quoted, or the
    reader would take it for an empty line. -/
def rowText (d : Dialect) (row : Row) : List Char :=
  if row = [[]] then [d.quotechar, d.quotechar] else d.joinFields row

def writeRow (d : Dialect) (row : Row) : List Char := d.rowText row ++ ['\r', '\n']

def writeRows (d : Dialect) (rows : List Row) : List Char := rows.flatMap d.writeRow

/-! ### The writer and the line ends -/

theorem needsQuotes_universalNewlines (d : Dialect) (f : Field) :
    d.needsQuotes (universalNewlines f) = d.needsQuotes f := by
  unfold universalNewlines
  induction f with
  | nil => rfl
  | cons c cs ih =>
    simp only [needsQuotes] at ih
    by_cases hc : c = '\r'
    · subst hc
      simp [needsQuotes, newlinesFrom, isNewline]
    · simp [needsQuotes, newlinesFrom, hc, ih]

theorem newlinesFrom_doubleQuotes (d : Dialect) (b : Bool) (f : Field) :
    newlinesFrom b (d.doubleQuotes f) = d.doubleQuotes (newlinesFrom b f) := by
  induction f generalizing b with
  | nil => rfl
  | cons c cs ih =>
    by_cases hq : c = d.quotechar
    · subst hq
      have hnl := d.quotechar_not_newline
      simp [doubleQuotes, newlinesFrom_cons_of_not_newline hnl, ih]
    · simp only [doubleQuotes, if_neg hq, newlinesFrom]
      split
      · simp [doubleQuotes, d.quotechar_ne_lf.symm, ih]
      · split
        · exact ih _
        · simp [doubleQuotes, hq, ih]

/-- Line ends may be translated before or after a field is written. -/
theorem universalNewlines_writeField (d : Dialect) (f : Field) :
    universalNewlines (d.writeField f) = d.writeField (universalNewlines f) := by
  simp only [writeField, needsQuotes_universalNewlines]
  split
  · have hnl := d.quotechar_not_newline
    unfold universalNewlines
    rw [newlinesFrom_cons_of_not_newline hnl, newlinesFrom_append_cons d.quotechar_ne_lf,
      newlinesFrom_doubleQuotes, newlinesFrom_cons_of_not_newline hnl]
    rfl
  · rfl

theorem universalNewlines_joinFields (d : Dialect) (row : Row) :
    universalNewlines (d.joinFields row) = d.joinFields (row.map universalNewlines) := by
  induction row with
  | nil => rfl
  | cons f fs ih =>
    cases fs with
    | nil => exact universalNewlines_writeField d f
    | cons g gs =>
      have hnl := d.delimiter_not_newline
      have hf := universalNewlines_writeField d f
      unfold universalNewlines at ih hf ⊢
      simp only [joinFields, List.map_cons]
      rw [newlinesFrom_append_cons d.delimiter_ne_lf, newlinesFrom_cons_of_not_newline hnl, ih, hf]
      rfl

theorem universalNewlines_rowText (d : Dialect) (row : Row) :
    universalNewlines (d.rowText row) = d.rowText (row.map universalNewlines) := by
  have hiff : row.map universalNewlines = [[]] ↔ row = [[]] := by
    cases row with
    | nil => simp
    | cons f fs => cases fs <;> simp
  simp only [rowText, hiff]
  split
  · have hnl := d.quotechar_not_newline
    simp [universalNewlines, newlinesFrom_cons_of_not_newline hnl]
  · exact universalNewlines_joinFields d row

/-- A written row is read through the text layer as the row of translated
    fields, ended by one line feed. -/
theorem newlinesFrom_writeRow (d : Dialect) (row : Row) (rest : List Char) :
    newlinesFrom false (d.writeRow row ++ rest)
      = d.rowText (row.map universalNewlines) ++ '\n' :: newlinesFrom false rest := by
  have hrow := universalNewlines_rowText d row
  unfold universalNewlines at hrow
  simp only [writeRow, List.append_assoc, List.cons_append, List.nil_append]
  rw [newlinesFrom_append_cons (by decide), hrow]
  rfl

/-! ### Reading -/

end Dialect

/-- What the reader is fed: a character, or the end of a line. -/
inductive Sym where
  | chr (c : Char)
  | eol
  deriving DecidableEq

/-- The states of the reader. -/
inductive Mode where
  | startRecord | startField | inField | inQuotedField | quoteInQuotedField | eatCrnl
  deriving DecidableEq

/-- The modes in which the reader can stand behind a field: behind its closing
    quote, at an empty field, or behind its last plain character. -/
def Mode.IsFieldEnd (mode : Mode) : Prop :=
  mode = .quoteInQuotedField ∨ mode = .startField ∨ mode = .inField

/-- The reader: its state, the fields saved for this record, and the field it
    is in. -/
structure Parser where
  mode : Mode
  fields : Row
  field : Field
  deriving DecidableEq

/-- The reader before a record. -/
def Parser.fresh : Parser := ⟨.startRecord, [], []⟩

def Parser.save (p : Parser) (mode : Mode) : Parser := ⟨mode, p.fields ++ [p.field], []⟩

def Parser.add (p : Parser) (mode : Mode) (c : Char) : Parser :=
  ⟨mode, p.fields, p.field ++ [c]⟩

def Parser.goto (p : Parser) (mode : Mode) : Parser := { p with mode := mode }

/-- Why the rows end: the stream does, or an exception was raised. -/
inductive Ending where
  | eof
  | raised
  deriving DecidableEq

/-- The stream as the reader is fed it. `inLine` tells whether the current
    line has a character yet. -/
def symbols : Bool → List Char → List Sym
  | inLine, [] => if inLine then [.eol] else []
  | _, c :: cs => .chr c :: (if c = '\n' then .eol :: symbols false cs else symbols true cs)

namespace Dialect

/-- One symbol where a field may begin. -/
def processStartField (d : Dialect) (p : Parser) : Sym → Parser
  | .eol => p.save .startRecord
  | .chr c =>
    if isNewline c then p.save .eatCrnl
    else if c = d.quotechar then p.goto .inQuotedField
    else if c = d.delimiter then p.save .startField
    else p.add .inField c

/-- One symbol of the reader; `none` is the reader's own error. -/
def process (d : Dialect) (p : Parser) (sym : Sym) : Option Parser :=
  match p.mode, sym with
  | .startRecord, .eol => some p
  | .startRecord, .chr c =>
    if isNewline c then some (p.goto .eatCrnl) else some (d.processStartField p (.chr c))
  | .startField, sym => some (d.processStartField p sym)
  | .inField, .eol => some (p.save .startRecord)
  | .inField, .chr c =>
    if isNewline c then some (p.save .eatCrnl)
    else if c = d.delimiter then some (p.save .startField)
    else some (p.add .inField c)
  | .inQuotedField, .eol => some p
  | .inQuotedField, .chr c =>
    if c = d.quotechar then some (p.goto .quoteInQuotedField)
    else some (p.add .inQuotedField c)
  | .quoteInQuotedField, .eol => some (p.save .startRecord)
  | .quoteInQuotedField, .chr c =>
    if c = d.quotechar then some (p.add .inQuotedField c)
    else if c = d.delimiter then some (p.save .startField)
    else if isNewline c then some (p.save .eatCrnl)
    else some (p.add .inField c)
  | .eatCrnl, .eol => some (p.goto .startRecord)
  | .eatCrnl, .chr c => if isNewline c then some p else none

/-- The records of a symbol stream. A record is delivered at the end of the
    line that brings the reader back to the start of a record. -/
def parse (d : Dialect) (p : Parser) : List Sym → List Row × Ending
  | [] =>
    if p.field ≠ [] ∨ p.mode = .inQuotedField then ([(p.save .startRecord).fields], .eof)
    else ([], .eof)
  | sym :: syms =>
    match d.process p sym with
    | none => ([], .raised)
    | some p' =>
      if sym = .eol ∧ p'.mode = .startRecord then
        let rest := parse d .fresh syms
        (p'.fields :: rest.1, rest.2)
      else parse d p' syms

/-- All the records of a text stream, however long their fields are. -/
def read (d : Dialect) (s : List Char) : List Row × Ending :=
  d.parse .fresh (symbols false s)

/-! ### The reader on what the writer wrote

    Each lemma takes the reader over one chunk of written text and says in
    which state it is after it. -/

/-- A character that is not a line feed is one step. -/
theorem parse_chr {d : Dialect} {p q : Parser} {c : Char} (hc : c ≠ '\n')
    (hp : d.process p (.chr c) = some q) (b : Bool) (cs : List Char) :
    d.parse p (symbols b (c :: cs)) = d.parse q (symbols true cs) := by
  simp [symbols, hc, parse, hp]

/-- A line feed that ends the record delivers it. -/
theorem parse_lf {d : Dialect} {p : Parser} {row : Row} {f : Field}
    (hp : d.process p (.chr '\n') = some ⟨.eatCrnl, row, f⟩) (b : Bool) (cs : List Char) :
    d.parse p (symbols b ('\n' :: cs)) = (row :: (d.read cs).1, (d.read cs).2) := by
  have heol : d.process ⟨.eatCrnl, row, f⟩ .eol = some ⟨.startRecord, row, f⟩ := rfl
  simp [symbols, parse, hp, heol, read]

/-- Inside quotes everything up to the closing quote is the field. -/
theorem parse_quoted (d : Dialect) (fields : Row) (f g : Field) (b : Bool) (rest : List Char) :
    d.parse ⟨.inQuotedField, fields, f⟩ (symbols b (d.doubleQuotes g ++ d.quotechar :: rest))
      = d.parse ⟨.quoteInQuotedField, fields, f ++ g⟩ (symbols true rest) := by
  have hlf := d.quotechar_ne_lf
  induction g generalizing f b with
  | nil =>
    simp only [doubleQuotes, List.nil_append, List.append_nil]
    exact parse_chr hlf (by simp [process, Parser.goto]) b rest
  | cons c cs ih =>
    simp only [doubleQuotes]
    split
    · next hc =>
      -- a doubled quote: out of the quotes and back in
      subst hc
      rw [List.cons_append, List.cons_append,
        parse_chr (q := ⟨.quoteInQuotedField, fields, f⟩) hlf (by simp [process, Parser.goto]),
        parse_chr (q := ⟨.inQuotedField, fields, f ++ [d.quotechar]⟩) hlf
          (by simp [process, Parser.add]), ih]
      simp
    · next hc =>
      have hstep : d.process ⟨.inQuotedField, fields, f⟩ (.chr c)
          = some ⟨.inQuotedField, fields, f ++ [c]⟩ := by
        simp [process, hc, Parser.add]
      by_cases hn : c = '\n'
      · -- a line feed in quotes: its end-of-line mark changes nothing
        subst hn
        have hmark : d.parse ⟨.inQuotedField, fields, f⟩
              (symbols b ('\n' :: (d.doubleQuotes cs ++ d.quotechar :: rest)))
            = d.parse ⟨.inQuotedField, fields, f ++ ['\n']⟩
              (symbols false (d.doubleQuotes cs ++ d.quotechar :: rest)) := by
          have heol : ∀ g, d.process ⟨.inQuotedField, fields, g⟩ .eol
              = some ⟨.inQuotedField, fields, g⟩ := fun g => rfl
          simp [symbols, parse, hstep, heol]
        rw [List.cons_append, hmark, ih]
        simp
      · rw [List.cons_append, parse_chr hn hstep, ih]
        simp

/-- Plain characters are added to an unquoted field. -/
theorem parse_plain {d : Dialect} {g : Field} (hg : d.needsQuotes g = false) (fields : Row)
    (f : Field) (b : Bool) (c : Char) (rest : List Char) :
    d.parse ⟨.inField, fields, f⟩ (symbols b (g ++ c :: rest))
      = d.parse ⟨.inField, fields, f ++ g⟩ (symbols true (c :: rest)) := by
  induction g generalizing f b with
  | nil => simp [symbols]
  | cons x xs ih =>
    simp only [needsQuotes, List.any_cons, Bool.or_eq_false_iff, beq_eq_false_iff_ne] at hg ih
    obtain ⟨⟨⟨hd, hq⟩, hn⟩, hxs⟩ := hg
    have hlf : x ≠ '\n' := by
      rintro rfl; simp [isNewline] at hn
    rw [List.cons_append,
      parse_chr (q := ⟨.inField, fields, f ++ [x]⟩) hlf (by simp [process, hn, hd, Parser.add]),
      ih hxs]
    simp

/-- A written field is read up to the character behind it. -/
theorem parse_writeField (d : Dialect) (fields : Row) (f : Field) (b : Bool) (c : Char)
    (rest : List Char) :
    ∃ (mode : Mode) (b' : Bool), mode.IsFieldEnd ∧
      d.parse ⟨.startField, fields, []⟩ (symbols b (d.writeField f ++ c :: rest))
        = d.parse ⟨mode, fields, f⟩ (symbols b' (c :: rest)) := by
  have hqn := d.quotechar_not_newline
  unfold writeField
  split
  · refine ⟨.quoteInQuotedField, true, .inl rfl, ?_⟩
    rw [List.cons_append, List.append_assoc, List.singleton_append,
      parse_chr (q := ⟨.inQuotedField, fields, []⟩) d.quotechar_ne_lf
        (by simp [process, processStartField, hqn, Parser.goto]),
      parse_quoted, List.nil_append]
  · next hf =>
    cases f with
    | nil => exact ⟨.startField, b, .inr (.inl rfl), rfl⟩
    | cons x xs =>
      have hall : d.needsQuotes (x :: xs) = false := by simpa using hf
      simp only [needsQuotes, List.any_cons, Bool.or_eq_false_iff, beq_eq_false_iff_ne] at hall
      obtain ⟨⟨⟨hd, hq⟩, hn⟩, hxs⟩ := hall
      have hlf : x ≠ '\n' := by
        rintro rfl; simp [isNewline] at hn
      refine ⟨.inField, true, .inr (.inr rfl), ?_⟩
      rw [List.cons_append,
        parse_chr (q := ⟨.inField, fields, [x]⟩) hlf
          (by simp [process, processStartField, hn, hq, hd, Parser.add]),
        parse_plain hxs]
      rfl

/-- A written field before a delimiter is saved, and the next one begins. -/
theorem parse_field_delimiter (d : Dialect) (fields : Row) (f : Field) (b : Bool)
    (rest : List Char) :
    d.parse ⟨.startField, fields, []⟩ (symbols b (d.writeField f ++ d.delimiter :: rest))
      = d.parse ⟨.startField, fields ++ [f], []⟩ (symbols true rest) := by
  have hdn := d.delimiter_not_newline
  have hdq := d.delimiter_ne_quotechar
  obtain ⟨mode, b', hmode, hread⟩ := d.parse_writeField fields f b d.delimiter rest
  rw [hread]
  apply parse_chr d.delimiter_ne_lf
  rcases hmode with rfl | rfl | rfl
  · simp [process, hdq, Parser.save]
  · simp [process, processStartField, hdn, hdq, Parser.save]
  · simp [process, hdn, Parser.save]

/-- The line feed after the last field of a row delivers the row. -/
theorem parse_field_newline (d : Dialect) (fields : Row) (f : Field) (b : Bool)
    (rest : List Char) :
    d.parse ⟨.startField, fields, []⟩ (symbols b (d.writeField f ++ '\n' :: rest))
      = ((fields ++ [f]) :: (d.read rest).1, (d.read rest).2) := by
  have hqlf := d.quotechar_ne_lf.symm
  have hdlf := d.delimiter_ne_lf.symm
  obtain ⟨mode, b', hmode, hread⟩ := d.parse_writeField fields f b '\n' rest
  have hsaved : d.process ⟨mode, fields, f⟩ (.chr '\n') = some ⟨.eatCrnl, fields ++ [f], []⟩ := by
    rcases hmode with rfl | rfl | rfl
    · simp [process, hqlf, hdlf, isNewline, Parser.save]
    · simp [process, processStartField, isNewline, Parser.save]
    · simp [process, isNewline, Parser.save]
  rw [hread]
  exact parse_lf hsaved _ _

/-- The fields of a row, from where a field begins to the end of the line. -/
theorem parse_joinFields (d : Dialect) (fields : Row) {row : Row} (hrow : row ≠ []) (b : Bool)
    (rest : List Char) :
    d.parse ⟨.startField, fields, []⟩ (symbols b (d.joinFields row ++ '\n' :: rest))
      = ((fields ++ row) :: (d.read rest).1, (d.read rest).2) := by
  induction row generalizing fields b with
  | nil => exact absurd rfl hrow
  | cons f fs ih =>
    cases fs with
    | nil => exact parse_field_newline d fields f b rest
    | cons g gs =>
      simp only [joinFields, List.append_assoc, List.cons_append]
      rw [parse_field_delimiter, ih _ (by simp)]
      simp

/-- At the start of a record a character that ends no line begins a field. -/
theorem parse_startRecord {d : Dialect} {c : Char} (hc : isNewline c = false) (b : Bool)
    (cs : List Char) :
    d.parse .fresh (symbols b (c :: cs)) = d.parse ⟨.startField, [], []⟩ (symbols b (c :: cs)) := by
  have hlf : c ≠ '\n' := by
    rintro rfl; simp [isNewline] at hc
  have hsame : d.process .fresh (.chr c) = d.process ⟨.startField, [], []⟩ (.chr c) := by
    simp [process, Parser.fresh, processStartField, hc, Parser.save, Parser.add, Parser.goto]
  simp [symbols, hlf, parse, hsame]

/-- A written row does not begin with a line end. -/
theorem rowText_head (d : Dialect) {row : Row} (hrow : row ≠ []) :
    ∃ c cs, d.rowText row = c :: cs ∧ isNewline c = false := by
  have hfield : ∀ f : Field, f ≠ [] → ∃ c cs, d.writeField f = c :: cs ∧ isNewline c = false := by
    intro f hf
    unfold writeField
    split
    · exact ⟨_, _, rfl, d.quotechar_not_newline⟩
    · next h =>
      cases f with
      | nil => exact absurd rfl hf
      | cons x xs =>
        simp only [needsQuotes, List.any_cons, Bool.or_eq_true, not_or, Bool.not_eq_true] at h
        exact ⟨x, xs, rfl, h.1.2⟩
  unfold rowText
  split
  · exact ⟨_, _, rfl, d.quotechar_not_newline⟩
  · next hne =>
    match row with
    | [] => exact absurd rfl hrow
    | [f] => exact hfield f (by rintro rfl; exact hne rfl)
    | f :: g :: gs =>
      by_cases hf : f = []
      · subst hf
        exact ⟨d.delimiter, d.joinFields (g :: gs), rfl, d.delimiter_not_newline⟩
      · obtain ⟨c, cs, hc, hn⟩ := hfield f hf
        exact ⟨c, cs ++ d.delimiter :: d.joinFields (g :: gs), by simp [joinFields, hc], hn⟩

/-- One written row is one record. -/
theorem read_rowText (d : Dialect) {row : Row} (hrow : row ≠ []) (rest : List Char) :
    d.read (d.rowText row ++ '\n' :: rest) = (row :: (d.read rest).1, (d.read rest).2) := by
  obtain ⟨c, cs, hcs, hn⟩ := d.rowText_head hrow
  have hstart : d.read (d.rowText row ++ '\n' :: rest)
      = d.parse ⟨.startField, [], []⟩ (symbols false (d.rowText row ++ '\n' :: rest)) := by
    rw [read, hcs, List.cons_append, parse_startRecord hn]
  rw [hstart, rowText]
  split
  · next hone =>
    -- the quoted empty field
    subst hone
    rw [List.cons_append, List.singleton_append,
      parse_chr (q := ⟨.inQuotedField, [], []⟩) d.quotechar_ne_lf
        (by simp [process, processStartField, d.quotechar_not_newline, Parser.goto]),
      parse_chr (q := ⟨.quoteInQuotedField, [], []⟩) d.quotechar_ne_lf
        (by simp [process, Parser.goto])]
    exact parse_lf (by
      simp [process, d.quotechar_ne_lf.symm, d.delimiter_ne_lf.symm, isNewline, Parser.save]; rfl)
      _ _
  · exact parse_joinFields d [] hrow false rest

/-- **Round trip**: rows written, passed through the text layer and read back
    are the same rows with the line ends inside the fields translated. -/
theorem read_writeRows (d : Dialect) {rows : List Row} (hrows : ∀ row ∈ rows, row ≠ []) :
    d.read (universalNewlines (d.writeRows rows))
      = (rows.map (List.map universalNewlines), .eof) := by
  unfold universalNewlines
  induction rows with
  | nil => rfl
  | cons row rows ih =>
    have hne : row.map universalNewlines ≠ [] := by simpa using hrows row (by simp)
    rw [writeRows, List.flatMap_cons, newlinesFrom_writeRow, read_rowText d hne]
    have ih' := ih fun r hr => hrows r (by simp [hr])
    simp only [writeRows] at ih'
    rw [ih']
    rfl

end Dialect

/-! ### A limit on the length of fields -/

def rowFits (limit : Nat) (row : Row) : Bool := row.all fun f => f.length ≤ limit

/-- What a reader delivers that raises at the first character beyond `limit` of
    a field: the records in front of the one with that field. -/
def limitFields (limit : Nat) (rows : List Row) (ending : Ending) : List Row × Ending :=
  (rows.takeWhile (rowFits limit), if rows.all (rowFits limit) then ending else .raised)

example : limitFields 1 [[['a']], [['b', 'c']], [['d']]] .eof = ([[['a']]], .raised) := by decide

namespace Dialect

example : excel.read (universalNewlines (excel.writeRows [["a,\"".toList, []], ["\r\n".toList]]))
    = ([["a,\"".toList, []], ["\n".toList]], .eof) := by decide +kernel

end Dialect

end Csv
