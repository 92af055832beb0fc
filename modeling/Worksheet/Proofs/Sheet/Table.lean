import Worksheet.Proofs.Text.Cut
import Worksheet.Sheet.Table

/-! Written tables. The rules that a library documents leave it free to put a field in quotes, but a field with a mark
in it has to stand in them, where no mark but the quote counts. Rows that are written by these rules are read as they
were; only a byte order mark at the start of the table is lost. -/

namespace Worksheet.Table

variable {delimiter : Char}

/-- A delimiter takes one byte and is neither the quote nor what ends a row. -/
structure IsDelimiter (delimiter : Char) : Prop where
  ascii : delimiter.toNat < 128
  noQuote : delimiter ≠ '"'
  noFeed : delimiter ≠ '\n'

theorem IsDelimiter.noMark (isDelimiter : IsDelimiter delimiter) : delimiter ≠ byteOrderMark := by
  rintro rfl
  exact absurd isDelimiter.ascii (by decide)

theorem IsDelimiter.delimiterOf (isDelimiter : IsDelimiter delimiter) : delimiterOf [delimiter] = .ok delimiter :=
  if_pos isDelimiter.ascii

theorem needsQuotes_cons {char : Char} {text : Text} :
    needsQuotes delimiter (char :: text) = false ↔
      (char ≠ delimiter ∧ char ≠ '"' ∧ char ≠ '\n' ∧ char ≠ '\r') ∧ needsQuotes delimiter text = false := by
  simp [needsQuotes, and_assoc]

/-! ## The rules of the written form -/

/-- A field as it may stand in a row: a missing one as nothing, a text as it is if it has no mark, and any text in
quotes with its own quotes doubled. -/
inductive Encodes (delimiter : Char) : Text → Option Text → Prop
  | missing : Encodes delimiter [] none
  | plain {text : Text} (present : text ≠ []) (clear : needsQuotes delimiter text = false) :
    Encodes delimiter text (some text)
  | quoted {text : Text} (present : text ≠ []) : Encodes delimiter (quoted text) (some text)

inductive EncodesRow (delimiter : Char) : Text → List (Option Text) → Prop
  | last {written : Text} {field : Option Text} (encodes : Encodes delimiter written field) :
    EncodesRow delimiter (written ++ ['\n']) [field]
  | next {written line : Text} {field : Option Text} {row : List (Option Text)} (encodes : Encodes delimiter written field)
    (later : EncodesRow delimiter line row) : EncodesRow delimiter (written ++ delimiter :: line) (field :: row)

inductive EncodesRows (delimiter : Char) : Text → List (List (Option Text)) → Prop
  | nil : EncodesRows delimiter [] []
  | cons {line rest : Text} {row : List (Option Text)} {rows : List (List (Option Text))}
    (encodes : EncodesRow delimiter line row) (later : EncodesRows delimiter rest rows) :
    EncodesRows delimiter (line ++ rest) (row :: rows)

/-- A library that keeps to the documented rules: it writes a table that has no blank text by them, and from what is
written by them, with any text in it, it reads the rows of one length. -/
structure Library.Documented (library : Library) (delimiter : Char) : Prop where
  writes : ∀ table : Table, table.names ≠ [] → (∀ row ∈ table.rows, row.length = table.names.length) →
    (∀ row ∈ table.rows, some [] ∉ row) →
      ∃ written, library.write [delimiter] table = .ok written ∧ EncodesRows delimiter written table.rows
  reads : ∀ (written : Text) (rows : List (List (Option Text))) (width : Nat),
    EncodesRows delimiter (withoutMark written) rows → (∀ row ∈ rows, row.length = width) →
      (∃ row ∈ rows, ∃ text, some text ∈ row) → library.read [delimiter] written = .ok rows

theorem Encodes.ne_blank {written : Text} {field : Option Text} (encodes : Encodes delimiter written field) :
    field ≠ some [] := by
  rintro rfl
  cases encodes with
  | plain present => exact present rfl
  | quoted present => exact present rfl

theorem EncodesRow.ne_blank {line : Text} {row : List (Option Text)} (encodes : EncodesRow delimiter line row) :
    some [] ∉ row := by
  induction encodes with
  | last encodes => exact fun member => encodes.ne_blank (List.mem_singleton.mp member).symm
  | next encodes _ ih => exact fun member => (List.mem_cons.mp member).elim (encodes.ne_blank ·.symm) ih

theorem EncodesRow.ne_nil {line : Text} {row : List (Option Text)} (encodes : EncodesRow delimiter line row) :
    row ≠ [] := by
  cases encodes with
  | last => exact List.cons_ne_nil _ _
  | next => exact List.cons_ne_nil _ _

theorem EncodesRow.line_ne_nil {line : Text} {row : List (Option Text)} (encodes : EncodesRow delimiter line row) :
    line ≠ [] := by
  cases encodes with
  | last => simp
  | next => simp

theorem EncodesRows.of_mem {written : Text} {rows : List (List (Option Text))} (encodes : EncodesRows delimiter written rows)
    {row : List (Option Text)} (member : row ∈ rows) : ∃ line, EncodesRow delimiter line row := by
  induction encodes with
  | nil => cases member
  | cons own _ ih =>
    rcases List.mem_cons.mp member with rfl | later
    · exact ⟨_, own⟩
    · exact ih later

/-! ## Writing -/

theorem encodes_writeField {field : Option Text} (present : field ≠ some []) :
    Encodes delimiter (writeField delimiter field) field := by
  cases field with
  | none => exact .missing
  | some text =>
    have filled : text ≠ [] := fun blank => present (congrArg some blank)
    rw [writeField, Option.getD_some]
    split
    next => exact .quoted filled
    next clear => exact .plain filled (eq_false_of_ne_true clear)

theorem encodesRow_writeRow {row : List (Option Text)} (filled : row ≠ []) (present : some [] ∉ row) :
    EncodesRow delimiter (writeRow delimiter row) row := by
  induction row with
  | nil => exact absurd rfl filled
  | cons field fields ih =>
    have own := @encodes_writeField delimiter field fun blank => present (blank ▸ List.mem_cons_self)
    cases fields with
    | nil => exact .last own
    | cons next others =>
      have onward := ih (List.cons_ne_nil _ _) fun member => present (List.mem_cons_of_mem _ member)
      rw [writeRow, List.map_cons, Text.join_cons (by simp)]
      simp only [List.append_assoc, List.singleton_append]
      exact .next own onward

theorem encodesRows_flatMap {rows : List (List (Option Text))} (filled : ∀ row ∈ rows, row ≠ [] ∧ some [] ∉ row) :
    EncodesRows delimiter (rows.flatMap (writeRow delimiter)) rows := by
  induction rows with
  | nil => exact .nil
  | cons row rows ih =>
    obtain ⟨own, later⟩ := List.forall_mem_cons.mp filled
    rw [List.flatMap_cons]
    exact .cons (encodesRow_writeRow own.1 own.2) (ih later)

/-! ## Reading one field -/

inductive Reading.Behind (delimiter : Char) : Option Text → Reading → Prop
  | missing : Behind delimiter none .start
  | plain {text : Text} (present : text ≠ []) (clear : needsQuotes delimiter text = false) :
    Behind delimiter (some text) ⟨.plain, text.reverse, false⟩
  | closing {text : Text} (present : text ≠ []) : Behind delimiter (some text) ⟨.closing, text.reverse, true⟩

theorem readRows_plain {text : Text} (clear : needsQuotes delimiter text = false) (field : Text) (wasQuoted : Bool)
    (row : List Text) (rest : Text) :
    readRows delimiter ⟨.plain, field, wasQuoted⟩ row (text ++ rest)
      = readRows delimiter ⟨.plain, text.reverse ++ field, wasQuoted⟩ row rest := by
  induction text generalizing field with
  | nil => rfl
  | cons char text ih =>
    obtain ⟨⟨delimits, quotes, feeds, returns⟩, later⟩ := needsQuotes_cons.mp clear
    rw [List.cons_append, readRows]
    simp only [if_neg delimits, if_neg feeds]
    rw [ih later, List.reverse_cons, List.append_assoc, List.singleton_append]

theorem readRows_inside (text field : Text) (row : List Text) (rest : Text) :
    readRows delimiter ⟨.inside, field, true⟩ row
        ((text.flatMap fun char => if char = '"' then ['"', '"'] else [char]) ++ rest)
      = readRows delimiter ⟨.inside, text.reverse ++ field, true⟩ row rest := by
  induction text generalizing field with
  | nil => rfl
  | cons char text ih =>
    have onward : text.reverse ++ char :: field = (char :: text).reverse ++ field := by simp
    rw [List.flatMap_cons, List.append_assoc]
    by_cases quote : char = '"'
    · subst quote
      rw [if_pos rfl, List.cons_append, List.cons_append, List.nil_append, readRows]
      simp only [if_true]
      rw [readRows]
      simp only [if_true]
      rw [ih, onward]
    · rw [if_neg quote, List.cons_append, List.nil_append, readRows]
      simp only [if_neg quote]
      rw [ih, onward]

theorem readRows_field {written : Text} {field : Option Text} (encodes : Encodes delimiter written field) :
    ∃ reading : Reading, reading.Behind delimiter field ∧ ∀ row rest,
      readRows delimiter .start row (written ++ rest) = readRows delimiter reading row rest := by
  cases encodes with
  | missing => exact ⟨.start, .missing, fun row rest => rfl⟩
  | plain present clear =>
    refine ⟨_, .plain present clear, fun row rest => ?_⟩
    cases written with
    | nil => exact absurd rfl present
    | cons char text =>
      obtain ⟨⟨delimits, quotes, feeds, returns⟩, later⟩ := needsQuotes_cons.mp clear
      rw [List.cons_append, readRows]
      simp only [Reading.start, if_neg quotes, if_neg delimits, if_neg feeds]
      rw [readRows_plain later, List.reverse_cons]
  | quoted present =>
    refine ⟨_, .closing present, fun row rest => ?_⟩
    simp only [quoted, Text.replaceAll_single, List.cons_append]
    rw [readRows]
    simp only [Reading.start, if_true]
    rw [List.append_assoc, readRows_inside, List.append_nil, List.singleton_append, readRows]
    simp only [if_true]

/-! ## What ends a field -/

section

variable {reading : Reading} {field : Option Text} (behind : reading.Behind delimiter field)

include behind

theorem readRows_delimiter (noQuote : delimiter ≠ '"') (row : List Text) (rest : Text) :
    readRows delimiter reading row (delimiter :: rest) = readRows delimiter .start (field.getD [] :: row) rest := by
  cases behind with
  | missing =>
    rw [readRows]
    simp only [Reading.start, if_neg noQuote, if_true, Option.getD_none]
  | plain =>
    rw [readRows]
    simp only [if_true, List.reverse_reverse, Option.getD_some]
  | closing =>
    rw [readRows]
    simp only [if_neg noQuote, if_true, List.reverse_reverse, Option.getD_some]

/-- A text that needs no quotes does not end in a carriage return, and in quotes none is dropped. -/
theorem lineField_behind : reading.lineField = field.getD [] := by
  cases behind with
  | missing => rfl
  | closing => simp [Reading.lineField]
  | @plain text _ clear =>
    unfold Reading.lineField
    split
    next => rw [List.reverse_reverse, Option.getD_some]
    next ends _ =>
      change text.reverse = '\r' :: _ at ends
      have member : '\r' ∈ text := List.mem_reverse.mp (ends ▸ List.mem_cons_self)
      have absent := List.any_eq_false.mp clear _ member
      simp at absent
    next => rw [List.reverse_reverse, Option.getD_some]

end

def asLine : List Text → List Text
  | [[]] => []
  | fields => fields

theorem asLine_of_ne {fields : List Text} (filled : fields ≠ [[]]) : asLine fields = fields := by
  unfold asLine
  split
  · contradiction
  · rfl

theorem asLine_of_length {fields : List Text} (wide : 2 ≤ fields.length) : asLine fields = fields := by
  refine asLine_of_ne ?_
  rintro rfl
  simp at wide

theorem readRows_feed (noFeed : delimiter ≠ '\n') {reading : Reading} {field : Option Text}
    (behind : reading.Behind delimiter field) (row : List Text) (rest : Text) :
    readRows delimiter reading row ('\n' :: rest)
      = asLine (field.getD [] :: row).reverse :: readRows delimiter .start [] rest := by
  have ends := lineField_behind behind
  have noQuote : ('\n' : Char) ≠ '"' := by decide
  have single {text : Text} (present : text ≠ []) : asLine (text :: row).reverse = (text :: row).reverse := by
    cases row with
    | nil => exact asLine_of_ne (by simpa using present)
    | cons other fields => exact asLine_of_length (by simp)
  cases behind with
  | missing =>
    rw [readRows]
    simp only [Reading.start, if_neg noQuote, if_neg noFeed.symm, if_true, Option.getD_none]
    cases row with
    | nil => rfl
    | cons other fields =>
      rw [asLine_of_length (by simp)]
      rfl
  | plain present =>
    rw [readRows]
    simp only [if_neg noFeed.symm, if_true, ends, Option.getD_some, single present]
    rw [if_neg fun blank => present (List.isEmpty_iff.mp blank.2)]
  | closing present =>
    rw [readRows]
    simp only [if_neg noQuote, if_neg noFeed.symm, if_true, ends, Option.getD_some, single present]

/-! ## Reading rows -/

def lineOf (row : List (Option Text)) : List Text :=
  asLine (row.map (·.getD []))

theorem readRows_row (noQuote : delimiter ≠ '"') (noFeed : delimiter ≠ '\n') {line : Text} {fields : List (Option Text)}
    (encodes : EncodesRow delimiter line fields) (row : List Text) (rest : Text) :
    readRows delimiter .start row (line ++ rest)
      = asLine (row.reverse ++ fields.map (·.getD [])) :: readRows delimiter .start [] rest := by
  induction encodes generalizing row with
  | last encodes =>
    obtain ⟨reading, behind, read⟩ := readRows_field encodes
    rw [List.append_assoc, List.singleton_append, read, readRows_feed noFeed behind, List.reverse_cons]
    rfl
  | next encodes _ ih =>
    obtain ⟨reading, behind, read⟩ := readRows_field encodes
    rw [List.append_assoc, List.cons_append, read, readRows_delimiter behind noQuote, ih]
    simp

theorem readRows_rows (noQuote : delimiter ≠ '"') (noFeed : delimiter ≠ '\n') {written : Text}
    {rows : List (List (Option Text))} (encodes : EncodesRows delimiter written rows) :
    readRows delimiter .start [] written = rows.map lineOf := by
  induction encodes with
  | nil => rfl
  | cons own _ ih =>
    rw [readRows_row noQuote noFeed own, ih]
    rfl

theorem fieldOf_getD {field : Option Text} (present : field ≠ some []) : fieldOf (field.getD []) = field := by
  cases field with
  | none => rfl
  | some text => exact if_neg fun blank => present (congrArg some (List.isEmpty_iff.mp blank))

theorem fillRow_lineOf {row : List (Option Text)} (present : some [] ∉ row) : fillRow row.length (lineOf row) = row := by
  have fields : (row.map (·.getD [])).map fieldOf = row := by
    rw [List.map_map]
    exact (List.map_congr_left fun field member => fieldOf_getD fun blank => present (blank ▸ member)).trans
      (List.map_id row)
  by_cases single : row.map (·.getD []) = [[]]
  · have alone : row.length = 1 := by simpa using congrArg List.length single
    rw [single] at fields
    rw [lineOf, single, alone, ← fields]
    rfl
  · rw [lineOf, asLine_of_ne single, fillRow, fields, List.length_map, Nat.sub_self, List.replicate_zero, List.append_nil]

theorem lineOf_ne_nil {row : List (Option Text)} (present : some [] ∉ row) {text : Text} (member : some text ∈ row) :
    lineOf row ≠ [] := by
  intro blank
  have filled := fillRow_lineOf present
  rw [blank] at filled
  have missing : some text ∈ List.replicate (row.length - 0) (none : Option Text) := by
    rw [← filled] at member
    exact member
  cases List.eq_of_mem_replicate missing

theorem length_lineOf {row : List (Option Text)} (filled : lineOf row ≠ []) : (lineOf row).length = row.length := by
  have several : row.map (·.getD []) ≠ [[]] := fun blank => filled (by rw [lineOf, blank]; rfl)
  rw [lineOf, asLine_of_ne several, List.length_map]

theorem read_of_encodes (noQuote : delimiter ≠ '"') (noFeed : delimiter ≠ '\n') {written : Text}
    {rows : List (List (Option Text))} {width : Nat} (encodes : EncodesRows delimiter (withoutMark written) rows)
    (even : ∀ row ∈ rows, row.length = width) (shown : ∃ row ∈ rows, ∃ text, some text ∈ row) :
    read delimiter written = .ok rows := by
  obtain ⟨row, member, text, held⟩ := shown
  have present : ∀ source ∈ rows, some [] ∉ source := fun source listed => (encodes.of_mem listed).elim fun _ => (·.ne_blank)
  have lines := readRows_rows noQuote noFeed encodes
  have nonempty : (withoutMark written).isEmpty = false := by
    rw [List.isEmpty_eq_false_iff]
    generalize withoutMark written = remaining at encodes
    cases encodes with
    | nil => cases member
    | cons own => exact List.append_ne_nil_of_left_ne_nil own.line_ne_nil _
  obtain ⟨first, found⟩ : ∃ first, (rows.map lineOf).find? (!·.isEmpty) = some first := by
    refine Option.isSome_iff_exists.mp (List.find?_isSome.mpr ⟨_, List.mem_map_of_mem member, ?_⟩)
    simpa using lineOf_ne_nil (present row member) held
  have full : first.length = width := by
    obtain ⟨source, listed, rfl⟩ := List.mem_map.mp (List.mem_of_find?_eq_some found)
    rw [length_lineOf (by simpa using List.find?_some found), even source listed]
  have level : ¬((rows.map lineOf).any fun line => line.length > first.length) = true := by
    simp only [List.any_eq_true, not_exists, not_and, decide_eq_true_eq, Nat.not_lt, full]
    intro line listed
    obtain ⟨source, own, rfl⟩ := List.mem_map.mp listed
    by_cases filled : lineOf source = []
    · rw [filled]
      exact Nat.zero_le _
    · exact Nat.le_of_eq ((length_lineOf filled).trans (even source own))
  have kept : (if first.length > 1 then (rows.map lineOf).filter (!·.isEmpty) else rows.map lineOf) = rows.map lineOf := by
    split
    next wide =>
      refine List.filter_eq_self.mpr fun line listed => ?_
      obtain ⟨source, own, rfl⟩ := List.mem_map.mp listed
      have long : 2 ≤ source.length := by
        rw [even source own, ← full]
        exact wide
      rw [lineOf, asLine_of_length (by rwa [List.length_map])]
      simpa using List.ne_nil_of_length_pos (Nat.lt_of_lt_of_le Nat.zero_lt_two long)
    next => rfl
  have filled : (rows.map lineOf).map (fillRow width) = rows := by
    rw [List.map_map]
    refine (List.map_congr_left fun source listed => ?_).trans (List.map_id rows)
    rw [Function.comp_apply, ← even source listed]
    exact fillRow_lineOf (present source listed)
  unfold read
  simp only [nonempty, Bool.false_eq_true, if_false, lines, found, if_neg level, kept]
  rw [full, filled]

/-- The library in plain sight keeps to the rules. -/
theorem documented_standard (isDelimiter : IsDelimiter delimiter) : Library.standard.Documented delimiter where
  writes := by
    intro table named even present
    refine ⟨table.rows.flatMap (writeRow delimiter), ?_, encodesRows_flatMap fun row member => ⟨?_, present row member⟩⟩
    · simp only [Library.standard, isDelimiter.delimiterOf, bind, Except.bind, pure, Except.pure, write,
        List.isEmpty_iff, if_neg named]
    · exact List.ne_nil_of_length_pos (even row member ▸ List.length_pos_iff.mpr named)
  reads := by
    intro written rows width encodes even shown
    simp only [Library.standard, isDelimiter.delimiterOf, bind, Except.bind]
    exact read_of_encodes isDelimiter.noQuote isDelimiter.noFeed encodes even shown

/-! ## The byte order mark -/

theorem withoutMark_cons {char : Char} (other : char ≠ byteOrderMark) (rest : Text) :
    withoutMark (char :: rest) = char :: rest :=
  if_neg fun same => other (Option.some.inj same)

theorem EncodesRow.exists_first {line : Text} {field : Option Text} {fields : List (Option Text)}
    (encodes : EncodesRow delimiter line (field :: fields)) :
    ∃ written mark tail, line = written ++ mark :: tail ∧ Encodes delimiter written field ∧
      (mark = delimiter ∨ mark = '\n') ∧ ∀ other start, Encodes delimiter other start →
        EncodesRow delimiter (other ++ mark :: tail) (start :: fields) := by
  cases encodes with
  | last own => exact ⟨_, '\n', [], rfl, own, Or.inr rfl, fun other start first => .last first⟩
  | next own later => exact ⟨_, delimiter, _, rfl, own, Or.inl rfl, fun other start first => .next first later⟩

theorem encodes_of_clear {text : Text} (clear : needsQuotes delimiter text = false) :
    ∃ field, Encodes delimiter text field := by
  cases text with
  | nil => exact ⟨none, .missing⟩
  | cons char rest => exact ⟨_, .plain (List.cons_ne_nil _ _) clear⟩

/-- A byte order mark that is written stands at the start of the first field, which is read without it. -/
theorem EncodesRows.exists_withoutMark (noMark : delimiter ≠ byteOrderMark) {written : Text} {field : Option Text}
    {fields : List (Option Text)} {rows : List (List (Option Text))}
    (encodes : EncodesRows delimiter written ((field :: fields) :: rows)) :
    ∃ start, EncodesRows delimiter (withoutMark written) ((start :: fields) :: rows) ∧
      ((∀ text, field = some text → text.head? ≠ some byteOrderMark) → start = field) := by
  cases encodes with
  | cons own later =>
    obtain ⟨first, mark, tail, rfl, encoded, ends, other⟩ := own.exists_first
    have noTail : mark ≠ byteOrderMark := by
      rcases ends with rfl | rfl
      · exact noMark
      · decide
    have whole := EncodesRows.cons (other first field encoded) later
    rw [List.append_assoc, List.cons_append] at whole ⊢
    cases encoded with
    | missing =>
      refine ⟨none, ?_, fun _ => rfl⟩
      rwa [List.nil_append, withoutMark_cons noTail]
    | quoted =>
      refine ⟨_, ?_, fun _ => rfl⟩
      rw [quoted, List.cons_append] at whole ⊢
      rwa [List.cons_append, withoutMark_cons (by decide)]
    | plain present clear =>
      cases first with
      | nil => exact absurd rfl present
      | cons char others =>
        by_cases marked : char = byteOrderMark
        · subst marked
          obtain ⟨start, encodesStart⟩ := encodes_of_clear (needsQuotes_cons.mp clear).2
          refine ⟨start, ?_, fun unmarked => absurd rfl (unmarked _ rfl)⟩
          have dropped := EncodesRows.cons (other others start encodesStart) later
          rw [List.append_assoc, List.cons_append] at dropped
          exact dropped
        · refine ⟨_, ?_, fun _ => rfl⟩
          rwa [List.cons_append, withoutMark_cons marked]

/-! ## Tables -/

namespace Library.Documented

variable {library : Library} {table : Table}

theorem exists_read_write (documented : library.Documented delimiter) (isDelimiter : IsDelimiter delimiter)
    (even : ∀ row ∈ table.rows, row.length = table.names.length) (present : ∀ row ∈ table.rows, some [] ∉ row)
    {row column : Nat} {text : Text} (placed : (table.rows[row]?.bind (·[column]?)) = some (some text))
    (unmarked : text.head? ≠ some byteOrderMark) :
    ∃ written rows, library.write [delimiter] table = .ok written ∧ library.read [delimiter] written = .ok rows ∧
      (rows[row]?.bind (·[column]?)) = some (some text) := by
  obtain ⟨names, rows⟩ := table
  obtain ⟨line, atRow, atColumn⟩ := Option.bind_eq_some_iff.mp placed
  have width : line.length = names.length := even line (List.mem_of_getElem? atRow)
  have named : names ≠ [] := by
    rintro rfl
    rw [List.length_eq_zero_iff.mp width] at atColumn
    cases atColumn
  obtain ⟨written, wrote, encodes⟩ := documented.writes ⟨names, rows⟩ named even present
  cases rows with
  | nil => cases atRow
  | cons first others =>
    obtain ⟨own, later⟩ := List.forall_mem_cons.mp even
    cases first with
    | nil => exact absurd (List.length_eq_zero_iff.mp own.symm) named
    | cons field behind =>
      obtain ⟨start, dropped, kept⟩ := encodes.exists_withoutMark isDelimiter.noMark
      -- The mark that is lost is not that of the text.
      have placed : (((start :: behind) :: others)[row]?.bind (·[column]?)) = some (some text) := by
        cases row with
        | succ row => exact placed
        | zero =>
          cases column with
          | succ column => exact placed
          | zero =>
            obtain rfl : field = some text := by simpa using placed
            rw [kept fun other same => Option.some.inj same ▸ unmarked]
            rfl
      obtain ⟨line, atRow, atColumn⟩ := Option.bind_eq_some_iff.mp placed
      refine ⟨written, (start :: behind) :: others, wrote, ?_, placed⟩
      exact documented.reads written _ names.length dropped (List.forall_mem_cons.mpr ⟨own, later⟩)
        ⟨line, List.mem_of_getElem? atRow, text, List.mem_of_getElem? atColumn⟩

theorem read_write (documented : library.Documented delimiter) (noMark : delimiter ≠ byteOrderMark) {field : Option Text}
    {fields : List (Option Text)} {others : List (List (Option Text))} (begins : table.rows = (field :: fields) :: others)
    (named : table.names ≠ []) (even : ∀ row ∈ table.rows, row.length = table.names.length)
    (present : ∀ row ∈ table.rows, some [] ∉ row) (shown : ∃ row ∈ table.rows, ∃ text, some text ∈ row)
    (unmarked : ∀ text, field = some text → text.head? ≠ some byteOrderMark) :
    ∃ written, library.write [delimiter] table = .ok written ∧ library.read [delimiter] written = .ok table.rows := by
  obtain ⟨written, wrote, encodes⟩ := documented.writes table named even present
  rw [begins] at encodes
  obtain ⟨start, dropped, kept⟩ := encodes.exists_withoutMark noMark
  rw [kept unmarked, ← begins] at dropped
  exact ⟨written, wrote, documented.reads written table.rows table.names.length dropped even shown⟩

end Library.Documented

end Worksheet.Table
