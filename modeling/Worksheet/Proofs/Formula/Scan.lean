import Worksheet.Formula.Scan
import Worksheet.Proofs.Formula.Token
import Worksheet.Proofs.Text.Letter
import Worksheet.Proofs.Text.Strip

/-! Pieces of argument text that can be read apart from their surroundings. A scan looks back only as far as the last
visible character, and there it only asks whether an operand can begin, so a balanced piece is read in the same way
alone, after the parenthesis of a call and after a comma. -/

namespace Worksheet.Scan

/-- Read on from a scan, the text closes no parenthesis that it did not open, has no comma outside, and
ends outside of quotes and parentheses. -/
def balancedFrom (scan : Scan) : Text → Bool
  | [] => scan.isOutside
  | char :: rest =>
    !(char == ',' && scan.isOutside) && decide (0 ≤ (scan.step char).depth)
      && balancedFrom (scan.step char) rest

def isBalanced (text : Text) : Bool :=
  balancedFrom start text

/-- Two scans that read on alike, `shift` parentheses apart. -/
structure Alike (shift : Int) (left right : Scan) : Prop where
  quote : left.quote = right.quote
  depth : left.depth = shift + right.depth
  operand : beginsOperand left.previous = beginsOperand right.previous

@[simp] theorem run_nil (scan : Scan) : scan.run [] = scan := rfl

@[simp] theorem run_cons (scan : Scan) (char : Char) (rest : Text) :
    scan.run (char :: rest) = (scan.step char).run rest := rfl

theorem isOutside_iff (scan : Scan) : scan.isOutside = true ↔ scan.quote = none ∧ scan.depth = 0 := by
  simp [isOutside]

theorem Alike.see {shift : Int} {left right : Scan} (alike : Alike shift left right) (char : Char) :
    beginsOperand (left.see char) = beginsOperand (right.see char) := by
  simp only [Scan.see]
  split
  · exact alike.operand
  · rfl

theorem Alike.step {shift : Int} {left right : Scan} (alike : Alike shift left right) (char : Char) :
    Alike shift (left.step char) (right.step char) := by
  have see := alike.see char
  have opens : left.opensQuote char = right.opensQuote char := by
    simp only [opensQuote, alike.operand]
  have depth := alike.depth
  simp only [Scan.step, alike.quote, opens]
  split
  · exact ⟨rfl, depth, see⟩
  · split
    · exact ⟨rfl, depth, see⟩
    · split
      · exact ⟨rfl, by simp only [depth]; omega, see⟩
      · split
        · exact ⟨rfl, by simp only [depth]; omega, see⟩
        · exact ⟨rfl, depth, see⟩

theorem Alike.run {shift : Int} {left right : Scan} (alike : Alike shift left right) (text : Text) :
    Alike shift (left.run text) (right.run text) := by
  induction text generalizing left right with
  | nil => exact alike
  | cons char rest ih => exact ih (alike.step char)

theorem Alike.isOutside {left right : Scan} (alike : Alike 0 left right) :
    left.isOutside = right.isOutside := by
  simp [Scan.isOutside, alike.quote, alike.depth]

theorem isOutside_run_of_balanced {own : Scan} {text : Text} (balanced : balancedFrom own text = true) :
    (own.run text).isOutside = true := by
  induction text generalizing own with
  | nil => exact balanced
  | cons char rest ih =>
    simp only [balancedFrom, Bool.and_eq_true] at balanced
    exact ih balanced.2

theorem step_blank {scan : Scan} {char : Char} (unquoted : scan.quote = none)
    (blank : Text.isBlank char = true) : scan.step char = scan := by
  have notQuote := Token.not_isQuote_of_isBlank blank
  have notOpen : char ≠ '(' := by rintro rfl; revert blank; decide
  have notClose : char ≠ ')' := by rintro rfl; revert blank; decide
  obtain ⟨quote, depth, previous⟩ := scan
  subst unquoted
  simp [Scan.step, opensQuote, notQuote, notOpen, notClose, see, blank]

theorem run_blank {scan : Scan} {gap : Text} (unquoted : scan.quote = none) (blank : Text.Blank gap) :
    scan.run gap = scan := by
  induction gap with
  | nil => rfl
  | cons char rest ih =>
    rw [run_cons, step_blank unquoted (blank char (by simp))]
    exact ih fun char member => blank char (by simp [member])

theorem balancedFrom_blank_append {scan : Scan} {gap : Text} (text : Text) (unquoted : scan.quote = none)
    (nonnegative : 0 ≤ scan.depth) (blank : Text.Blank gap) :
    balancedFrom scan (gap ++ text) = balancedFrom scan text := by
  induction gap with
  | nil => rfl
  | cons char rest ih =>
    have first : Text.isBlank char = true := blank char (by simp)
    have notComma : char ≠ ',' := by rintro rfl; revert first; decide
    have later := ih fun char member => blank char (by simp [member])
    simp [balancedFrom, step_blank unquoted first, nonnegative, notComma, later]

theorem balancedFrom_append_blank {scan : Scan} {text gap : Text} (balanced : balancedFrom scan text = true)
    (blank : Text.Blank gap) : balancedFrom scan (text ++ gap) = true := by
  induction text generalizing scan with
  | nil =>
    obtain ⟨unquoted, depth⟩ := (isOutside_iff scan).mp balanced
    have alone := balancedFrom_blank_append [] unquoted (by omega) blank
    rw [List.append_nil] at alone
    exact alone.trans balanced
  | cons char rest ih =>
    simp only [List.cons_append, balancedFrom, Bool.and_eq_true] at balanced ⊢
    exact ⟨balanced.1, ih balanced.2⟩

/-- What stands behind a text may be replaced by anything that is balanced there. -/
theorem balancedFrom_replace {scan : Scan} {text rest other : Text} (balanced : balancedFrom scan (text ++ rest) = true)
    (onward : balancedFrom (scan.run text) other = true) : balancedFrom scan (text ++ other) = true := by
  induction text generalizing scan with
  | nil => exact onward
  | cons char later ih =>
    simp only [List.cons_append, balancedFrom, Bool.and_eq_true] at balanced ⊢
    exact ⟨balanced.1, ih balanced.2 onward⟩

theorem balancedFrom_of_append {scan : Scan} {text rest : Text} (balanced : balancedFrom scan (text ++ rest) = true) :
    balancedFrom (scan.run text) rest = true := by
  induction text generalizing scan with
  | nil => exact balanced
  | cons char later ih =>
    simp only [List.cons_append, balancedFrom, Bool.and_eq_true] at balanced
    exact ih balanced.2

theorem isBalanced_blank {gap : Text} (blank : Text.Blank gap) : isBalanced gap = true := by
  have empty : balancedFrom start [] = true := rfl
  exact balancedFrom_append_blank empty blank

def marks : Text := ['"', '\'', '(', ')', ',']

theorem step_of_notMem_marks {scan : Scan} {char : Char} (outside : scan.isOutside = true)
    (bare : char ∉ marks) : (scan.step char).isOutside = true := by
  obtain ⟨unquoted, depth⟩ := (isOutside_iff scan).mp outside
  simp only [marks, List.mem_cons, List.not_mem_nil, or_false, not_or] at bare
  obtain ⟨notDouble, notSingle, notOpen, notClose, _⟩ := bare
  simp [Scan.step, opensQuote, Token.isQuote, isOutside, unquoted, depth, notDouble, notSingle, notOpen, notClose]

theorem notMem_marks_of_letter {char : Char} (letter : Text.isEnglishLetter char = true) : char ∉ marks :=
  Text.notMem_of_kind (by decide) letter

theorem notMem_marks_of_digit {char : Char} (digit : Text.isDigit char = true) : char ∉ marks :=
  Text.notMem_of_kind (by decide) digit

theorem notMem_marks_of_blank {char : Char} (blank : Text.isBlank char = true) : char ∉ marks :=
  Text.notMem_of_kind (by decide) blank

theorem balancedFrom_of_bare {scan : Scan} {text : Text} (outside : scan.isOutside = true)
    (bare : ∀ char ∈ text, char ∉ marks) : balancedFrom scan text = true := by
  induction text generalizing scan with
  | nil => exact outside
  | cons char rest ih =>
    obtain ⟨own, later⟩ := List.forall_mem_cons.mp bare
    have next := step_of_notMem_marks outside own
    have comma : char ≠ ',' := by
      rintro rfl
      exact own (by decide)
    have depth := ((isOutside_iff _).mp next).2
    simp [balancedFrom, comma, depth, ih next later]

/-- After the parenthesis of a call, a piece is read as if it stood alone, one level deeper. -/
theorem alike_open {scan : Scan} (unquoted : scan.quote = none) (depth : scan.depth = 0) :
    Alike 1 (scan.step '(') start := by
  have plain : Token.isQuote '(' = false := by decide
  have visible : Text.isBlank '(' = false := by decide
  constructor
  · simp [Scan.step, opensQuote, unquoted, plain, start]
  · simp [Scan.step, opensQuote, unquoted, plain, start, depth]
  · simp [Scan.step, opensQuote, unquoted, plain, start, see, visible]
    decide

/-! ## Splitting at the commas -/

theorem splitFrom_balanced {scan own : Scan} {text : Text} (alike : Alike 0 scan own)
    (balanced : balancedFrom own text = true) (piece rest : Text) :
    splitFrom scan piece (text ++ rest) = splitFrom (scan.run text) (text.reverse ++ piece) rest := by
  induction text generalizing scan own piece with
  | nil => rfl
  | cons char later ih =>
    simp only [balancedFrom, Bool.and_eq_true, Bool.not_eq_true', Bool.and_eq_false_iff] at balanced
    have inner : ¬(char = ',' ∧ scan.isOutside = true) := by
      rw [alike.isOutside]
      rintro ⟨rfl, outside⟩
      simp [outside] at balanced
    rw [List.cons_append, splitFrom, if_neg inner, ih (alike.step char) balanced.2]
    simp

theorem splitFrom_comma {scan : Scan} (outside : scan.isOutside = true) (piece rest : Text) :
    splitFrom scan piece (',' :: rest)
      = Text.strip piece.reverse :: splitFrom (scan.step ',') [] rest := by
  simp [splitFrom, outside]

theorem alike_comma {shift : Int} {scan own : Scan} (alike : Alike shift scan own)
    (outside : own.isOutside = true) : Alike shift (scan.step ',') start := by
  obtain ⟨unquoted, depth⟩ := (isOutside_iff own).mp outside
  have quote := alike.quote
  have shifted := alike.depth
  have comma : (Token.isQuote ',') = false := by decide
  have visible : Text.isBlank ',' = false := by decide
  obtain ⟨quote', depth', previous'⟩ := scan
  simp only [unquoted, depth] at quote shifted
  subst quote
  constructor
  · simp [Scan.step, opensQuote, comma, start]
  · simp [Scan.step, opensQuote, comma, start, shifted]
  · simp [Scan.step, opensQuote, comma, start, see, visible]
    decide

theorem join_cons_cons (separator : Char) (piece next : Text) (later : List Text) :
    Text.join [separator] (piece :: next :: later)
      = piece ++ separator :: Text.join [separator] (next :: later) := by
  simp [Text.join]

def kept : List Text → List Text
  | [] => []
  | [last] => if (Text.strip last).isEmpty then [] else [Text.strip last]
  | piece :: next :: rest => Text.strip piece :: kept (next :: rest)

theorem kept_eq_map {pieces : List Text} (ends : ∀ last, pieces.getLast? = some last → Text.strip last ≠ []) :
    kept pieces = pieces.map Text.strip := by
  induction pieces with
  | nil => rfl
  | cons piece rest ih =>
    cases rest with
    | nil =>
      have visible : Text.strip piece ≠ [] := ends piece rfl
      simp [kept, visible]
    | cons next later =>
      rw [kept, ih fun last found => ends last (by simpa using found)]
      rfl

/-- The pieces come back stripped, whatever stands between their quotes and parentheses. White space read
before them makes no difference. -/
theorem splitFrom_join {scan : Scan} {gap : Text} {pieces : List Text} (alike : Alike 0 scan start)
    (blank : Text.Blank gap) (balanced : ∀ piece ∈ pieces, isBalanced piece = true) :
    splitFrom scan gap.reverse (Text.join [','] pieces) = kept pieces := by
  induction pieces generalizing scan gap with
  | nil => simp [Text.join, splitFrom, kept, Text.strip_eq_nil blank]
  | cons piece rest ih =>
    have own : balancedFrom start piece = true := balanced piece (by simp)
    have stripped : Text.strip (piece.reverse ++ gap.reverse).reverse = Text.strip piece := by
      rw [List.reverse_append, List.reverse_reverse, List.reverse_reverse,
        Text.strip_blank_append piece blank]
    cases rest with
    | nil =>
      have read := splitFrom_balanced alike own gap.reverse []
      rw [List.append_nil] at read
      rw [Text.join, read, splitFrom, stripped, kept]
    | cons next later =>
      have outside := isOutside_run_of_balanced own
      have outsideHere : (scan.run piece).isOutside = true := by
        rw [(alike.run piece).isOutside, outside]
      have after := alike_comma (alike.run piece) outside
      have onward : splitFrom ((scan.run piece).step ',') [].reverse (Text.join [','] (next :: later))
          = kept (next :: later) :=
        ih after (by simp [Text.Blank]) fun piece member => balanced piece (by simp [member])
      rw [join_cons_cons, splitFrom_balanced alike own, splitFrom_comma outsideHere, stripped, kept,
        ← onward, List.reverse_nil]

theorem splitArguments_join {gap : Text} {pieces : List Text} (blank : Text.Blank gap)
    (balanced : ∀ piece ∈ pieces, isBalanced piece = true) :
    splitArguments (gap ++ Text.join [','] pieces) = kept pieces := by
  have still : start.run gap = start := run_blank rfl blank
  have alone : Alike 0 start start := ⟨rfl, by simp, rfl⟩
  rw [splitArguments, splitFrom_balanced alone (isBalanced_blank blank), still, List.append_nil]
  exact splitFrom_join alone blank balanced

/-! ## The parenthesis that closes a call -/

theorem closesAtEnd_balanced {scan own : Scan} {text : Text} (alike : Alike 1 scan own)
    (balanced : balancedFrom own text = true) (rest : Text) :
    closesAtEnd scan (text ++ rest) = closesAtEnd (scan.run text) rest := by
  induction text generalizing scan own with
  | nil => rfl
  | cons char later ih =>
    simp only [balancedFrom, Bool.and_eq_true, decide_eq_true_eq] at balanced
    have deeper := (alike.step char).depth
    have stillOpen : (scan.step char).depth ≠ 0 := by omega
    simp only [List.cons_append, closesAtEnd, stillOpen, and_false, ↓reduceIte]
    exact ih (alike.step char) balanced.2

theorem closesAtEnd_close {scan own : Scan} (alike : Alike 1 scan own) (outside : own.isOutside = true) :
    closesAtEnd scan [')'] = true := by
  obtain ⟨unquoted, depth⟩ := (isOutside_iff own).mp outside
  have quote : scan.quote = none := alike.quote.trans unquoted
  have level : scan.depth = 1 := by have shifted := alike.depth; omega
  have plain : Token.isQuote ')' = false := by decide
  simp [closesAtEnd, Scan.step, opensQuote, quote, level, plain]

theorem closesAtEnd_join {scan : Scan} {pieces : List Text} (alike : Alike 1 scan start)
    (balanced : ∀ piece ∈ pieces, isBalanced piece = true) :
    closesAtEnd scan (Text.join [','] pieces ++ [')']) = true := by
  induction pieces generalizing scan with
  | nil => exact closesAtEnd_close alike rfl
  | cons piece rest ih =>
    have own : balancedFrom start piece = true := balanced piece (by simp)
    have outside := isOutside_run_of_balanced own
    cases rest with
    | nil =>
      rw [Text.join, closesAtEnd_balanced alike own]
      exact closesAtEnd_close (alike.run piece) outside
    | cons next later =>
      have after := alike_comma (alike.run piece) outside
      have onward : closesAtEnd (scan.run piece) (',' :: (Text.join [','] (next :: later) ++ [')']))
          = closesAtEnd ((scan.run piece).step ',') (Text.join [','] (next :: later) ++ [')']) := by
        simp [closesAtEnd]
      rw [join_cons_cons, List.append_assoc, closesAtEnd_balanced alike own, List.cons_append, onward]
      exact ih after fun piece member => balanced piece (by simp [member])

theorem closesAtEnd_blank_append {scan : Scan} {gap : Text} (alike : Alike 1 scan start)
    (blank : Text.Blank gap) (rest : Text) : closesAtEnd scan (gap ++ rest) = closesAtEnd scan rest := by
  rw [closesAtEnd_balanced alike (isBalanced_blank blank), run_blank alike.quote blank]

theorem closesAtEnd_name {scan : Scan} {name : Text} (outside : scan.isOutside = true)
    (letters : ∀ char ∈ name, Text.isEnglishLetter char = true) (rest : Text) :
    ∃ inner, Alike 1 inner start ∧ closesAtEnd scan (name ++ '(' :: rest) = closesAtEnd inner rest := by
  induction name generalizing scan with
  | nil =>
    obtain ⟨unquoted, depth⟩ := (isOutside_iff scan).mp outside
    refine ⟨scan.step '(', ?_, by simp [closesAtEnd]⟩
    exact alike_open unquoted depth
  | cons char later ih =>
    have letter := letters char (by simp)
    have onward := step_of_notMem_marks outside (notMem_marks_of_letter letter)
    have notClose : char ≠ ')' := by rintro rfl; revert letter; decide
    obtain ⟨inner, alike, equal⟩ := ih onward fun char member => letters char (by simp [member])
    refine ⟨inner, alike, ?_⟩
    rw [List.cons_append, closesAtEnd]
    simpa [notClose] using equal

end Worksheet.Scan
