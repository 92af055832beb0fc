import Worksheet.Formula.Evaluation
import Worksheet.Proofs.CellName
import Worksheet.Proofs.Formula.Alternation
import Worksheet.Proofs.Formula.Scan
import Worksheet.Proofs.Value.Decidable

/-! Comparisons in argument text. The first comparison character outside of quotes and parentheses parts the text;
where the relation ends depends on the one character after it. So a text is a comparison exactly if it is a side
without such a character, a relation and something after it, and both sides are read as they would be alone. -/

namespace Worksheet

namespace Token

theorem not_isComparisonChar_of_isBlank {char : Char} (blank : Text.isBlank char = true) :
    isComparisonChar char = false := by
  cases comparison : isComparisonChar char with
  | false => rfl
  | true =>
    have visible := isBlank_of_isOperatorChar (isOperatorChar_of_isComparisonChar comparison)
    rw [blank] at visible
    cases visible

theorem not_isComparisonChar_of_isNameChar {char : Char} (inName : Address.isNameChar char = true) :
    isComparisonChar char = false := by
  have absent : char ∉ ['<', '>', '='] := Text.notMem_of_kind (by decide +kernel) inName
  simpa [isComparisonChar, and_assoc] using absent

end Token

/-! ## Where a relation ends -/

namespace Relation

def stops : Relation → Text → Bool
  | less, next :: _ => !Token.extendsComparison next
  | greater, next :: _ => next != '='
  | _, _ => true

theorem stops_of_not_extends (relation : Relation) {rest : Text}
    (single : ∀ next ∈ rest.head?, Token.extendsComparison next = false) : relation.stops rest = true := by
  unfold stops
  split
  next next later => simp [single next rfl]
  next next later =>
    have other := single next rfl
    simp only [Token.extendsComparison, Bool.or_eq_false_iff, beq_eq_false_iff_ne] at other
    simpa using other.1
  next => rfl

theorem read_text (relation : Relation) {rest : Text} (ends : relation.stops rest = true) :
    ∃ char later, relation.text = char :: later ∧ Token.isComparisonChar char = true ∧
      read char (later ++ rest) = (relation, rest) := by
  cases relation with
  | equal => exact ⟨'=', [], rfl, by decide, by simp [read]⟩
  | notEqual => exact ⟨'<', ['>'], rfl, by decide, rfl⟩
  | lessOrEqual => exact ⟨'<', ['='], rfl, by decide, rfl⟩
  | greaterOrEqual => exact ⟨'>', ['='], rfl, by decide, rfl⟩
  | less =>
    refine ⟨'<', [], rfl, by decide, ?_⟩
    cases rest with
    | nil => rfl
    | cons next later =>
      simp only [stops, Token.extendsComparison, Bool.not_eq_true', Bool.or_eq_false_iff,
        beq_eq_false_iff_ne] at ends
      simp [read, ends.1, ends.2]
  | greater =>
    refine ⟨'>', [], rfl, by decide, ?_⟩
    cases rest with
    | nil => rfl
    | cons next later =>
      simp only [stops, bne_iff_ne] at ends
      simp [read, ends]

theorem text_of_read {char : Char} (rest : Text) (comparison : Token.isComparisonChar char = true) :
    char :: rest = (read char rest).1.text ++ (read char rest).2 ∧
      (read char rest).1.stops (read char rest).2 = true := by
  simp only [Token.isComparisonChar, Bool.or_eq_true, beq_iff_eq] at comparison
  rcases comparison with (rfl | rfl) | rfl
  · cases rest with
    | nil => exact ⟨rfl, rfl⟩
    | cons next later =>
      by_cases equal : next = '='
      · rw [equal]
        exact ⟨rfl, rfl⟩
      · by_cases greater : next = '>'
        · rw [greater]
          exact ⟨rfl, rfl⟩
        · simp [read, text, stops, Token.extendsComparison, equal, greater]
  · cases rest with
    | nil => exact ⟨rfl, rfl⟩
    | cons next later =>
      by_cases equal : next = '='
      · rw [equal]
        exact ⟨rfl, rfl⟩
      · simp [read, text, stops, equal]
  · simp [read, text, stops]

theorem read_append_blank {char : Char} {tail : Text} (rest : Text) (blank : Text.Blank tail) :
    read char (rest ++ tail) = ((read char rest).1, (read char rest).2 ++ tail) := by
  cases rest with
  | cons next later =>
    rw [List.cons_append]
    unfold read
    split <;> simp_all
  | nil =>
    cases tail with
    | nil => simp
    | cons next later =>
      have single := Token.not_extendsComparison_of_isBlank (blank next (by simp))
      simp only [Token.extendsComparison, Bool.or_eq_false_iff, beq_eq_false_iff_ne] at single
      rw [List.nil_append]
      unfold read
      split <;> simp_all

end Relation

/-! ## White space between the sides -/

namespace Scan

theorem run_append (scan : Scan) (text rest : Text) : scan.run (text ++ rest) = (scan.run text).run rest :=
  List.foldl_append

theorem notMem_marks_of_name {char : Char} (inName : Address.isNameChar char = true) : char ∉ marks :=
  Text.notMem_of_kind (by decide +kernel) inName

def Quoting (scan : Scan) : Prop :=
  ∀ close, scan.quote = some close → Token.isQuote close = true

theorem quoting_start : Quoting start := by
  intro close waiting
  cases waiting

theorem Quoting.step {scan : Scan} (quoting : scan.Quoting) (char : Char) : (scan.step char).Quoting := by
  intro close waiting
  cases inside : scan.quote with
  | some own =>
    simp only [Scan.step, inside] at waiting
    split at waiting
    · cases waiting
    · cases waiting
      exact quoting close inside
  | none =>
    simp only [Scan.step, inside] at waiting
    split at waiting
    next opens =>
      cases waiting
      exact (Bool.and_eq_true_iff.mp opens).1
    next =>
      split at waiting
      · cases waiting
      · split at waiting
        · cases waiting
        · cases waiting

theorem Quoting.run {scan : Scan} (quoting : scan.Quoting) (text : Text) : (scan.run text).Quoting := by
  induction text generalizing scan with
  | nil => exact quoting
  | cons char rest ih => exact ih (quoting.step char)

theorem isOutside_step_blank {scan : Scan} {char : Char} (quoting : scan.Quoting)
    (blank : Text.isBlank char = true) : (scan.step char).isOutside = scan.isOutside := by
  cases waiting : scan.quote with
  | none => rw [step_blank waiting blank]
  | some close =>
    have different : char ≠ close := by
      rintro rfl
      have notQuote := Token.not_isQuote_of_isBlank blank
      rw [quoting char waiting] at notQuote
      cases notQuote
    simp [Scan.step, isOutside, waiting, different]

theorem isOutside_run_blank {scan : Scan} {gap : Text} (quoting : scan.Quoting) (blank : Text.Blank gap) :
    (scan.run gap).isOutside = scan.isOutside := by
  induction gap generalizing scan with
  | nil => rfl
  | cons char rest ih =>
    obtain ⟨first, later⟩ := List.forall_mem_cons.mp blank
    rw [run_cons, ih (quoting.step char) later, isOutside_step_blank quoting first]

end Scan

/-! ## The first comparison outside -/

namespace Comparison

/-- Read on from a scan, the text has no comparison character outside of quotes and parentheses. -/
def absentFrom (scan : Scan) : Text → Bool
  | [] => true
  | char :: rest =>
    !(Token.isComparisonChar char && scan.isOutside) && absentFrom (scan.step char) rest

/-- What may stand in front of a relation: no comparison outside, and every quote and parenthesis closed. -/
def isSide (text : Text) : Bool :=
  absentFrom Scan.start text && (Scan.start.run text).isOutside

theorem isSide_iff {text : Text} :
    isSide text = true ↔ absentFrom Scan.start text = true ∧ (Scan.start.run text).isOutside = true := by
  simp [isSide]

theorem absentFrom_append (scan : Scan) (text rest : Text) :
    absentFrom scan (text ++ rest) = (absentFrom scan text && absentFrom (scan.run text) rest) := by
  induction text generalizing scan with
  | nil => rfl
  | cons char later ih => rw [List.cons_append, absentFrom, absentFrom, ih, Scan.run_cons, Bool.and_assoc]

theorem absentFrom_of_forall {text : Text} (none : ∀ char ∈ text, Token.isComparisonChar char = false)
    (scan : Scan) : absentFrom scan text = true := by
  induction text generalizing scan with
  | nil => rfl
  | cons char rest ih =>
    obtain ⟨own, later⟩ := List.forall_mem_cons.mp none
    simp [absentFrom, own, ih later]

theorem absentFrom_blank {gap : Text} (blank : Text.Blank gap) (scan : Scan) : absentFrom scan gap = true :=
  absentFrom_of_forall (fun char member => Token.not_isComparisonChar_of_isBlank (blank char member)) scan

theorem isSide_surrounded {lead tail : Text} (blankLead : Text.Blank lead) (blankTail : Text.Blank tail)
    (text : Text) : isSide (lead ++ (text ++ tail)) = isSide text := by
  have still : Scan.start.run lead = Scan.start := Scan.run_blank rfl blankLead
  have ends := Scan.isOutside_run_blank (Scan.quoting_start.run text) blankTail
  rw [isSide, isSide, absentFrom_append, absentFrom_blank blankLead, Scan.run_append, still, absentFrom_append,
    absentFrom_blank blankTail, Scan.run_append, ends, Bool.true_and, Bool.and_true]

theorem isSide_strip (text : Text) : isSide (Text.strip text) = isSide text := by
  obtain ⟨lead, tail, blankLead, blankTail, whole⟩ := Text.exists_strip text
  conv => rhs; rw [whole]
  exact (isSide_surrounded blankLead blankTail _).symm

theorem isSide_of_name {text : Text} (inName : ∀ char ∈ text, Address.isNameChar char = true) :
    isSide text = true := by
  have absent := absentFrom_of_forall (fun char member => Token.not_isComparisonChar_of_isNameChar (inName char member))
    Scan.start
  have bare : ∀ char ∈ text, char ∉ Scan.marks := fun char member => Scan.notMem_marks_of_name (inName char member)
  exact isSide_iff.mpr ⟨absent, Scan.isOutside_run_of_balanced (Scan.balancedFrom_of_bare rfl bare)⟩

theorem findFrom_append {scan : Scan} {text : Text} (absent : absentFrom scan text = true) (before rest : Text) :
    findFrom scan before (text ++ rest) = findFrom (scan.run text) (text.reverse ++ before) rest := by
  induction text generalizing scan before with
  | nil => rfl
  | cons char later ih =>
    simp only [absentFrom, Bool.and_eq_true, Bool.not_eq_true', Bool.and_eq_false_iff] at absent
    have notHere : ¬(Token.isComparisonChar char = true ∧ scan.isOutside = true) := by
      rintro ⟨comparison, outside⟩
      simp [comparison, outside] at absent
    rw [List.cons_append, findFrom, if_neg notHere, ih absent.2]
    simp

theorem findFrom_eq_none_of_absent {scan : Scan} {text : Text} (absent : absentFrom scan text = true)
    (before : Text) : findFrom scan before text = none := by
  have read := findFrom_append absent before []
  rwa [List.append_nil] at read

theorem findFrom_relation {scan : Scan} {relation : Relation} {rest : Text} (outside : scan.isOutside = true)
    (ends : relation.stops rest = true) (before : Text) :
    findFrom scan before (relation.text ++ rest) =
      if Text.strip before.reverse = [] ∨ Text.strip rest = [] then none
      else some ⟨Text.strip before.reverse, relation, Text.strip rest⟩ := by
  obtain ⟨char, later, written, comparison, read⟩ := relation.read_text ends
  rw [written, List.cons_append, findFrom, if_pos ⟨comparison, outside⟩, read]
  simp only [List.isEmpty_iff]

theorem find_of_side {left rest : Text} {relation : Relation} (side : isSide left = true)
    (ends : relation.stops rest = true) :
    find? (left ++ (relation.text ++ rest)) =
      if Text.strip left = [] ∨ Text.strip rest = [] then none
      else some ⟨Text.strip left, relation, Text.strip rest⟩ := by
  obtain ⟨absent, outside⟩ := isSide_iff.mp side
  rw [find?, findFrom_append absent, findFrom_relation outside ends, List.append_nil, List.reverse_reverse]

theorem exists_of_findFrom {scan : Scan} {before text : Text} {found : Comparison}
    (equal : findFrom scan before text = some found) :
    ∃ left rest, text = left ++ (found.relation.text ++ rest) ∧ absentFrom scan left = true ∧
      (scan.run left).isOutside = true ∧ found.relation.stops rest = true ∧
      Text.strip (before.reverse ++ left) = found.left ∧ Text.strip rest = found.right ∧
      found.left ≠ [] ∧ found.right ≠ [] := by
  induction text generalizing scan before with
  | nil => cases equal
  | cons char rest ih =>
    rw [findFrom] at equal
    split at equal
    next here =>
      simp only [List.isEmpty_iff] at equal
      split at equal
      · cases equal
      next visible =>
        cases equal
        obtain ⟨written, ends⟩ := Relation.text_of_read rest here.1
        obtain ⟨leftVisible, rightVisible⟩ := not_or.mp visible
        refine ⟨[], _, written, rfl, here.2, ends, ?_, rfl, leftVisible, rightVisible⟩
        rw [List.append_nil]
    next notHere =>
      obtain ⟨left, later, written, absent, outside, ends, leftSide, others⟩ := ih equal
      refine ⟨char :: left, later, ?_, ?_, outside, ends, ?_, others⟩
      · rw [written, List.cons_append]
      · have own : (Token.isComparisonChar char && scan.isOutside) = false := by
          rw [Bool.eq_false_iff, ne_eq, Bool.and_eq_true]
          exact notHere
        rw [absentFrom, own, absent]
        rfl
      · rw [← leftSide, List.reverse_cons, List.append_assoc]
        rfl

theorem exists_of_find {text : Text} {found : Comparison} (equal : find? text = some found) :
    ∃ left rest, text = left ++ (found.relation.text ++ rest) ∧ isSide left = true ∧
      found.relation.stops rest = true ∧ Text.strip left = found.left ∧ Text.strip rest = found.right ∧
      found.left ≠ [] ∧ found.right ≠ [] := by
  obtain ⟨left, rest, written, absent, outside, others⟩ := exists_of_findFrom equal
  exact ⟨left, rest, written, isSide_iff.mpr ⟨absent, outside⟩, others⟩

theorem findFrom_blank_passed {lead : Text} (blank : Text.Blank lead) (scan : Scan) (before text : Text) :
    findFrom scan (before ++ lead.reverse) text = findFrom scan before text := by
  induction text generalizing scan before with
  | nil => rfl
  | cons char rest ih =>
    have same : Text.strip (before ++ lead.reverse).reverse = Text.strip before.reverse := by
      rw [List.reverse_append, List.reverse_reverse, Text.strip_blank_append _ blank]
    rw [findFrom, findFrom, same, ← List.cons_append, ih]

theorem findFrom_append_blank {tail : Text} (blank : Text.Blank tail) (scan : Scan) (before text : Text) :
    findFrom scan before (text ++ tail) = findFrom scan before text := by
  induction text generalizing scan before with
  | nil => exact findFrom_eq_none_of_absent (absentFrom_blank blank scan) before
  | cons char rest ih =>
    rw [List.cons_append, findFrom, findFrom, Relation.read_append_blank rest blank, ih]
    simp only [Text.strip_append_blank _ blank]

theorem find_strip (text : Text) : find? (Text.strip text) = find? text := by
  obtain ⟨lead, tail, blankLead, blankTail, whole⟩ := Text.exists_strip text
  have still : Scan.start.run lead = Scan.start := Scan.run_blank rfl blankLead
  have passed := findFrom_blank_passed blankLead Scan.start [] (Text.strip text)
  conv => rhs; rw [whole]
  rw [find?, find?, findFrom_append (absentFrom_blank blankLead _), still, findFrom_append_blank blankTail,
    List.append_nil]
  exact passed.symm

theorem find_left_eq_none {text : Text} {found : Comparison} (equal : find? text = some found) :
    find? found.left = none := by
  obtain ⟨left, rest, _, side, _, same, _⟩ := exists_of_find equal
  rw [← same]
  rw [← isSide_strip] at side
  exact findFrom_eq_none_of_absent (isSide_iff.mp side).1 []

end Comparison

namespace Comparison

structure Written where
  lead : Text
  left : Text
  gap : Text
  relation : Relation
  space : Text
  right : Text
  tail : Text
  blankLead : Text.Blank lead
  blankGap : Text.Blank gap
  blankSpace : Text.Blank space
  blankTail : Text.Blank tail
  side : isSide left = true
  ends : relation.stops (space ++ (right ++ tail)) = true

namespace Written

def text (written : Written) : Text :=
  written.lead ++ (written.left ++ (written.gap ++
    (written.relation.text ++ (written.space ++ (written.right ++ written.tail)))))

def Visible (written : Written) : Prop :=
  Text.strip written.left ≠ [] ∧ Text.strip written.right ≠ []

theorem find_text (written : Written) :
    find? written.text =
      if Text.strip written.left = [] ∨ Text.strip written.right = [] then none
      else some ⟨Text.strip written.left, written.relation, Text.strip written.right⟩ := by
  have side : isSide (written.lead ++ (written.left ++ written.gap)) = true := by
    rw [isSide_surrounded written.blankLead written.blankGap]
    exact written.side
  have left : Text.strip (written.lead ++ (written.left ++ written.gap)) = Text.strip written.left := by
    rw [Text.strip_blank_append _ written.blankLead, Text.strip_append_blank _ written.blankGap]
  have right : Text.strip (written.space ++ (written.right ++ written.tail)) = Text.strip written.right := by
    rw [Text.strip_blank_append _ written.blankSpace, Text.strip_append_blank _ written.blankTail]
  have found := find_of_side side written.ends
  rw [left, right] at found
  rw [← found, text]
  simp only [List.append_assoc]

theorem find_of_visible {written : Written} (visible : written.Visible) :
    find? written.text = some ⟨Text.strip written.left, written.relation, Text.strip written.right⟩ := by
  have either : ¬(Text.strip written.left = [] ∨ Text.strip written.right = []) := not_or.mpr visible
  rw [find_text, if_neg either]

end Written

theorem exists_written {text : Text} {found : Comparison} (equal : find? text = some found) :
    ∃ written : Written, written.text = text ∧ written.Visible ∧ written.left = found.left ∧
      written.relation = found.relation ∧ written.right = found.right := by
  obtain ⟨left, rest, whole, side, ends, leftSide, rightSide, leftVisible, rightVisible⟩ := exists_of_find equal
  obtain ⟨lead, gap, blankLead, blankGap, leftWhole⟩ := Text.exists_strip left
  obtain ⟨space, tail, blankSpace, blankTail, rightWhole⟩ := Text.exists_strip rest
  rw [leftSide] at leftWhole
  rw [rightSide] at rightWhole
  rw [← isSide_strip, leftSide] at side
  rw [rightWhole] at ends
  have visible : Text.strip found.left ≠ [] ∧ Text.strip found.right ≠ [] := by
    rw [← leftSide, ← rightSide, Text.strip_strip, Text.strip_strip, leftSide, rightSide]
    exact ⟨leftVisible, rightVisible⟩
  refine ⟨⟨lead, found.left, gap, found.relation, space, found.right, tail, blankLead, blankGap, blankSpace,
    blankTail, side, ends⟩, ?_, visible, rfl, rfl, rfl⟩
  rw [whole, leftWhole, rightWhole]
  simp [Written.text]

end Comparison

/-! ## Comparisons as arguments -/

namespace Argument

theorem find_eq_none_of_name {text : Text} (inName : ∀ char ∈ text, Address.isNameChar char = true) :
    Comparison.find? text = none := by
  have absent := Comparison.absentFrom_of_forall
    (fun char member => Token.not_isComparisonChar_of_isNameChar (inName char member)) Scan.start
  exact Comparison.findFrom_eq_none_of_absent absent []

theorem ofText_of_find {text : Text} {found : Comparison} (equal : Comparison.find? text = some found) :
    ofText text = .comparison (ofText found.left) found.relation (ofText found.right) := by
  rw [← Comparison.find_strip] at equal
  have noSpan : Address.spanParts? (Text.strip text) = none := by
    cases span : Address.spanParts? (Text.strip text) with
    | none => rfl
    | some parts =>
      rw [find_eq_none_of_name (Address.isNameChar_of_spanParts span)] at equal
      cases equal
  have noCell : Address.cellParts? (Text.strip text) = none := by
    cases cell : Address.cellParts? (Text.strip text) with
    | none => rfl
    | some parts =>
      rw [find_eq_none_of_name (Address.isNameChar_of_cellParts cell)] at equal
      cases equal
  rw [ofText, ofTrimmed, noSpan, noCell]
  simp only
  split
  next other same =>
    rw [equal] at same
    cases same
    rfl
  next same =>
    rw [equal] at same
    cases same

theorem ofText_strip (text : Text) : ofText (Text.strip text) = ofText text := by
  rw [ofText, Text.strip_strip, ofText]

theorem ofText_written {written : Comparison.Written} (visible : written.Visible) :
    ofText written.text = .comparison (ofText written.left) written.relation (ofText written.right) := by
  rw [ofText_of_find (Comparison.Written.find_of_visible visible), ofText_strip, ofText_strip]

theorem not_extendsComparison_of_head {space right tail : Text} (blankSpace : Text.Blank space)
    (blankTail : Text.Blank tail) (single : ∀ next ∈ right.head?, Token.extendsComparison next = false) :
    ∀ next ∈ (space ++ (right ++ tail)).head?, Token.extendsComparison next = false := by
  intro next first
  cases space with
  | cons char later =>
    obtain rfl := Option.some.inj first
    exact Token.not_extendsComparison_of_isBlank (blankSpace char (by simp))
  | nil =>
    cases right with
    | cons char later => exact single next first
    | nil =>
      cases tail with
      | nil => cases first
      | cons char later =>
        obtain rfl := Option.some.inj first
        exact Token.not_extendsComparison_of_isBlank (blankTail char (by simp))

/-- A relation between two texts parts them, and the argument is the comparison of what they are as arguments.
The text before it has every quote and parenthesis closed and no comparison outside of them, the one after it
does not go on with the relation. Where one of the two is blank there is no comparison. The other way round,
a comparison that is found stands in the text with nothing but white space around both sides, and its left
side is no comparison again. -/
theorem comparison_of_sides :
    (∀ (relation : Relation) (lead left gap space right tail : Text),
      Text.Blank lead → Text.Blank gap → Text.Blank space → Text.Blank tail →
      Comparison.isSide left = true → (∀ next ∈ right.head?, Token.extendsComparison next = false) →
      Comparison.find? (lead ++ left ++ gap ++ relation.text ++ space ++ right ++ tail) =
        (if Text.strip left = [] ∨ Text.strip right = [] then none
        else some ⟨Text.strip left, relation, Text.strip right⟩) ∧
      (Text.strip left ≠ [] → Text.strip right ≠ [] →
        ∀ (setting : Setting) (view : View) (depth : Int) (keepsErrors : Bool),
          resolve setting view depth keepsErrors
              (ofText (lead ++ left ++ gap ++ relation.text ++ space ++ right ++ tail)) = do
            let leftValue ← resolve setting view depth keepsErrors (ofText left)
            let rightValue ← resolve setting view depth keepsErrors (ofText right)
            Outcome.ofExcept (relation.apply leftValue rightValue))) ∧
    ∀ (text : Text) (found : Comparison), Comparison.find? text = some found →
      (∃ lead gap space tail, Text.Blank lead ∧ Text.Blank gap ∧ Text.Blank space ∧ Text.Blank tail ∧
        text = lead ++ found.left ++ gap ++ found.relation.text ++ space ++ found.right ++ tail) ∧
      Comparison.find? found.left = none := by
  constructor
  · intro relation lead left gap space right tail blankLead blankGap blankSpace blankTail side single
    have ends := relation.stops_of_not_extends (not_extendsComparison_of_head blankSpace blankTail single)
    let written : Comparison.Written :=
      ⟨lead, left, gap, relation, space, right, tail, blankLead, blankGap, blankSpace, blankTail, side, ends⟩
    have whole : lead ++ left ++ gap ++ relation.text ++ space ++ right ++ tail = written.text := by
      simp [Comparison.Written.text, written]
    rw [whole]
    refine ⟨written.find_text, ?_⟩
    intro leftVisible rightVisible setting view depth keepsErrors
    rw [ofText_written ⟨leftVisible, rightVisible⟩, resolve]
  · intro text found equal
    obtain ⟨written, whole, _, left, relation, right⟩ := Comparison.exists_written equal
    refine ⟨⟨written.lead, written.gap, written.space, written.tail, written.blankLead, written.blankGap,
      written.blankSpace, written.blankTail, ?_⟩, Comparison.find_left_eq_none equal⟩
    rw [← whole, ← left, ← relation, ← right]
    simp [Comparison.Written.text]

theorem comparison_of_sides_quoted :
    Comparison.find? " IF(A1>2,'<','>') <= \"a=b\" < 3 ".toList =
        some ⟨"IF(A1>2,'<','>')".toList, .lessOrEqual, "\"a=b\" < 3".toList⟩ ∧
      Comparison.find? "IF(A1>2,'<','>')".toList = none ∧
      (resolve ⟨64, ⟨0, 0, .utc⟩⟩ (Sheet.view []) 0 false (ofText " IF(A1>2,'<','>') <= \"a=b\" < 3 ".toList)).result =
        .ok (.bool true) := by
  obtain ⟨forward, backward⟩ := comparison_of_sides
  have visible : Text.strip "IF(A1>2,'<','>')".toList ≠ [] ∧ Text.strip "\"a=b\" < 3".toList ≠ [] := by decide
  have single : ∀ next ∈ ("\"a=b\" < 3".toList).head?, Token.extendsComparison next = false := by
    intro next first
    obtain rfl : '"' = next := Option.some.inj first
    decide
  obtain ⟨found, resolved⟩ := forward .lessOrEqual [' '] "IF(A1>2,'<','>')".toList [' '] [' ']
    "\"a=b\" < 3".toList [' '] (by decide) (by decide) (by decide) (by decide) (by decide) single
  rw [if_neg (not_or.mpr visible)] at found
  have same : Comparison.find? " IF(A1>2,'<','>') <= \"a=b\" < 3 ".toList =
      some ⟨"IF(A1>2,'<','>')".toList, .lessOrEqual, "\"a=b\" < 3".toList⟩ := found
  refine ⟨same, (backward _ _ same).2, ?_⟩
  exact (congrArg Outcome.result (resolved visible.1 visible.2 ⟨64, ⟨0, 0, .utc⟩⟩ (Sheet.view []) 0 false)).trans
    (by decide +kernel)

end Argument

end Worksheet
