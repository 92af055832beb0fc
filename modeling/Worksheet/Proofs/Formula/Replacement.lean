import Worksheet.Proofs.Formula.Comparison
import Worksheet.Proofs.Formula.Containment
import Worksheet.Proofs.Formula.Range
import Worksheet.Sheet.Basic

/-! A nested formula that ends in an error code stands for an empty cell, unless the function around it takes the
code. So in a call such a formula may give its place to the address of any cell that is not in the sheet. -/

namespace Worksheet

/-! ## Cell names as arguments -/

namespace Address

theorem strip_ne_nil_of_cellParts {name : Text} {parts : Text × Text} (found : cellParts? name = some parts) :
    Text.strip name ≠ [] := by
  obtain ⟨letters, digits⟩ := parts
  obtain ⟨named, _, allLetters, _, newline, _, rfl⟩ := cellParts_eq_some found
  obtain ⟨first, rest, rfl⟩ := List.exists_cons_of_ne_nil named
  intro empty
  have blank := Text.blank_of_strip_eq_nil empty first (by simp)
  rw [Text.not_isBlank_of_isLetter (allLetters first (by simp))] at blank
  cases blank

theorem exists_cellParts_of_readKey {name key : Text} (keyed : readKey name = .ok (some key)) :
    ∃ parts, cellParts? name = some parts := by
  unfold readKey readCell at keyed
  cases found : cellParts? name with
  | some parts => exact ⟨parts, rfl⟩
  | none =>
    rw [found] at keyed
    cases keyed

end Address

namespace Argument

theorem ofText_of_readCell {name : Text} {position : Position}
    (read : Address.readCell name = .ok (some position)) : ofText name = .cell position := by
  unfold Address.readCell at read
  split at read
  next letters digits found =>
    obtain ⟨named, numbered, allLetters, allDigits, newline, either, rfl⟩ := Address.cellParts_eq_some found
    have blank : Text.Blank newline := by
      rcases either with rfl | rfl
      · exact Text.blank_nil
      · decide
    have parts : Address.ofParts letters digits = .ok position := by
      cases result : Address.ofParts letters digits with
      | error failure =>
        rw [result] at read
        cases read
      | ok other =>
        rw [result] at read
        cases read
        rfl
    rw [← List.append_assoc, ← ofText_strip, Text.strip_append_blank _ blank, ofText_strip,
      ofText_cellName named numbered allLetters allDigits, parts]
    rfl
  next => cases read

theorem result_of_absent {sheet : Sheet} {name key : Text} (keyed : Address.readKey name = .ok (some key))
    (absent : sheet.lookup? key = none) (setting : Setting) (depth : Int) (keepsErrors : Bool) :
    (∃ position, ofText name = .cell position) ∧
      (resolve setting sheet.view depth keepsErrors (ofText name)).result = .ok .empty := by
  unfold Address.readKey at keyed
  obtain ⟨found, read, keyed⟩ := bind_eq_ok.mp keyed
  cases found with
  | none => cases keyed
  | some position =>
    obtain ⟨own, written, equal⟩ := bind_eq_ok.mp keyed
    cases equal
    refine ⟨⟨position, ofText_of_readCell read⟩, ?_⟩
    rw [ofText_of_readCell read, resolve, Outcome.result_ofExcept, Sheet.view, written]
    change Except.ok (sheet.valueAt key) = _
    rw [Sheet.valueAt, absent]

theorem result_of_nested_error {setting : Setting} {view : View} {depth : Int} {text : Text} {code : ErrorCode}
    (nested : (ofText text).isNested = true)
    (failed : (evaluateAt setting view (depth + 1) ('=' :: Text.strip text)).result = .ok (.error code))
    (keepsErrors : Bool) :
    (resolve setting view depth keepsErrors (ofText text)).result =
      .ok (if keepsErrors then .error code else .empty) := by
  rw [ofText, resolve_nested setting view depth keepsErrors (Text.strip_strip text) nested, Outcome.result_bind,
    failed]
  rfl

end Argument

/-! ## Places for an argument in a piece -/

namespace Comparison.Written

def withLeft (written : Written) {name : Text} (inName : ∀ char ∈ name, Address.isNameChar char = true) : Written :=
  { written with left := name, side := isSide_of_name inName }

theorem stops_of_name {relation : Relation} {space name tail : Text} (blankSpace : Text.Blank space)
    (blankTail : Text.Blank tail) (inName : ∀ char ∈ name, Address.isNameChar char = true) :
    relation.stops (space ++ (name ++ tail)) = true := by
  refine relation.stops_of_not_extends (Argument.not_extendsComparison_of_head blankSpace blankTail ?_)
  intro next first
  have comparison := Token.not_isComparisonChar_of_isNameChar (inName next (List.mem_of_mem_head? first))
  simp only [Token.isComparisonChar, Bool.or_eq_false_iff, beq_eq_false_iff_ne] at comparison
  simp [Token.extendsComparison, comparison]

def withRight (written : Written) {name : Text} (inName : ∀ char ∈ name, Address.isNameChar char = true) : Written :=
  { written with right := name, ends := stops_of_name written.blankSpace written.blankTail inName }

end Comparison.Written

/-- A place for one argument text in a piece: all of it, or one side of the comparison that it is. -/
inductive Place where
  | alone (held : Text)
  | left (written : Comparison.Written) (visible : written.Visible)
  | right (written : Comparison.Written) (visible : written.Visible)

namespace Place

def held : Place → Text
  | alone held => held
  | left written _ => written.left
  | right written _ => written.right

def fill (text : Text) : Place → Text
  | alone _ => text
  | left written _ =>
    written.lead ++ (text ++ (written.gap ++
      (written.relation.text ++ (written.space ++ (written.right ++ written.tail)))))
  | right written _ =>
    written.lead ++ (written.left ++ (written.gap ++
      (written.relation.text ++ (written.space ++ (text ++ written.tail)))))

def text (place : Place) : Text :=
  place.fill place.held

def otherSide : Place → Option Text
  | alone _ => none
  | left written _ => some written.right
  | right written _ => some written.left

/-- The argument that the text is, with another argument in the place. -/
def around (hole : Argument) : Place → Argument
  | alone _ => hole
  | left written _ => .comparison hole written.relation (Argument.ofText written.right)
  | right written _ => .comparison (Argument.ofText written.left) written.relation hole

theorem ofText_text (place : Place) : Argument.ofText place.text = place.around (Argument.ofText place.held) := by
  cases place with
  | alone held => rfl
  | left written visible => exact Argument.ofText_written visible
  | right written visible => exact Argument.ofText_written visible

theorem exists_of_find {text : Text} {found : Comparison} (equal : Comparison.find? text = some found) :
    (∃ place : Place, place.text = text ∧ place.held = found.left ∧ place.otherSide = some found.right) ∧
      ∃ place : Place, place.text = text ∧ place.held = found.right ∧ place.otherSide = some found.left := by
  obtain ⟨written, whole, visible, leftSide, _, rightSide⟩ := Comparison.exists_written equal
  constructor
  · exact ⟨left written visible, whole, leftSide, congrArg some rightSide⟩
  · exact ⟨right written visible, whole, rightSide, congrArg some leftSide⟩

theorem ofText_fill {name : Text} {parts : Text × Text} (found : Address.cellParts? name = some parts)
    (place : Place) : Argument.ofText (place.fill name) = place.around (Argument.ofText name) := by
  have inName := Address.isNameChar_of_cellParts found
  have nonempty := Address.strip_ne_nil_of_cellParts found
  cases place with
  | alone held => rfl
  | left written visible =>
    have kept : (written.withLeft inName).Visible := ⟨nonempty, visible.2⟩
    exact Argument.ofText_written kept
  | right written visible =>
    have kept : (written.withRight inName).Visible := ⟨visible.1, nonempty⟩
    exact Argument.ofText_written kept

theorem around_ne_blank {hole : Argument} (given : hole ≠ .constant (.text [])) (place : Place) :
    place.around hole ≠ .constant (.text []) := by
  cases place with
  | alone held => exact given
  | left written visible =>
    intro same
    cases same
  | right written visible =>
    intro same
    cases same

/-! ### Balance -/

theorem isOutside_side {lead side gap : Text} (blankLead : Text.Blank lead) (blankGap : Text.Blank gap)
    (isSide : Comparison.isSide side = true) : (Scan.start.run (lead ++ (side ++ gap))).isOutside = true := by
  rw [← Comparison.isSide_surrounded blankLead blankGap] at isSide
  exact (Comparison.isSide_iff.mp isSide).2

/-- Outside, a relation leaves a scan with nothing of what came before. -/
theorem balancedFrom_relation {scan other : Scan} (outside : scan.isOutside = true) (others : other.isOutside = true)
    (relation : Relation) (rest : Text) :
    Scan.balancedFrom scan (relation.text ++ rest) = Scan.balancedFrom other (relation.text ++ rest) := by
  obtain ⟨quote, depth, previous⟩ := scan
  obtain ⟨otherQuote, otherDepth, otherPrevious⟩ := other
  obtain ⟨rfl, rfl⟩ := (Scan.isOutside_iff _).mp outside
  obtain ⟨rfl, rfl⟩ := (Scan.isOutside_iff _).mp others
  cases relation <;> rfl

theorem notMem_marks_of_mem_relation (relation : Relation) : ∀ char ∈ relation.text, char ∉ Scan.marks := by
  have table : (relation.text.all fun char => !Scan.marks.contains char) = true := by
    cases relation <;> decide
  intro char member
  simpa using List.all_eq_true.mp table char member

theorem isBalanced_fill {name : Text} (inName : ∀ char ∈ name, Address.isNameChar char = true) {place : Place}
    (balanced : Scan.isBalanced place.text = true) : Scan.isBalanced (place.fill name) = true := by
  have bare : ∀ char ∈ name, char ∉ Scan.marks :=
    fun char member => Scan.notMem_marks_of_name (inName char member)
  cases place with
  | alone held => exact Scan.balancedFrom_of_bare rfl bare
  | left written visible =>
    obtain ⟨lead, held, gap, relation, space, right, tail, blankLead, blankGap, _, _, side, _⟩ := written
    have apart (text : Text) : fill text (left _ visible) =
        (lead ++ (text ++ gap)) ++ (relation.text ++ (space ++ (right ++ tail))) := by
      simp [fill]
    rw [text, apart] at balanced
    rw [apart]
    have named : Scan.isBalanced (lead ++ (name ++ gap)) = true :=
      Piece.isBalanced_written ⟨lead, name, gap, blankLead, blankGap, Scan.balancedFrom_of_bare rfl bare⟩
    have behind := Scan.balancedFrom_of_append balanced
    have outside := isOutside_side blankLead blankGap side
    have others := isOutside_side blankLead blankGap (Comparison.isSide_of_name inName)
    rw [Scan.isBalanced, ← List.append_nil (lead ++ (name ++ gap))] at named
    refine Scan.balancedFrom_replace named ?_
    rw [balancedFrom_relation others outside]
    exact behind
  | right written visible =>
    obtain ⟨lead, left, gap, relation, space, held, tail, blankLead, blankGap, blankSpace, blankTail, side, _⟩ :=
      written
    have apart (text : Text) : fill text (right _ visible) =
        (lead ++ (left ++ gap)) ++ (relation.text ++ (space ++ (text ++ tail))) := by
      simp [fill]
    rw [text, apart] at balanced
    rw [apart]
    refine Scan.balancedFrom_replace balanced ?_
    refine Scan.balancedFrom_of_bare (isOutside_side blankLead blankGap side) fun char member => ?_
    simp only [List.mem_append] at member
    rcases member with inRelation | inSpace | inside | inTail
    · exact notMem_marks_of_mem_relation relation char inRelation
    · exact Scan.notMem_marks_of_blank (blankSpace char inSpace)
    · exact bare char inside
    · exact Scan.notMem_marks_of_blank (blankTail char inTail)

/-! ### Values -/

section

variable {setting : Setting} {view : View} {depth : Int} {keepsErrors : Bool} {hole other : Argument}

theorem result_around_congr
    (same : (hole.resolve setting view depth keepsErrors).result =
      (other.resolve setting view depth keepsErrors).result) (place : Place) :
    ((place.around hole).resolve setting view depth keepsErrors).result =
      ((place.around other).resolve setting view depth keepsErrors).result := by
  cases place with
  | alone held => exact same
  | left written visible => simp only [around, Argument.resolve, Outcome.result_bind, same]
  | right written visible => simp only [around, Argument.resolve, Outcome.result_bind, same]

theorem result_around_error {code : ErrorCode} {place : Place}
    (failed : (hole.resolve setting view depth keepsErrors).result = .ok (.error code))
    (plain : ∀ side ∈ place.otherSide, ∃ value,
      ((Argument.ofText side).resolve setting view depth keepsErrors).result = .ok value ∧ value.isError = false) :
    ((place.around hole).resolve setting view depth keepsErrors).result = .ok (.error code) := by
  cases place with
  | alone held => exact failed
  | left written visible =>
    obtain ⟨value, resolved, _⟩ := plain written.right rfl
    rw [around, Argument.resolve, Outcome.result_bind, failed]
    change ((Argument.ofText written.right).resolve _ _ _ _ >>= _).result = _
    rw [Outcome.result_bind, resolved]
    rfl
  | right written visible =>
    obtain ⟨value, resolved, notError⟩ := plain written.left rfl
    rw [around, Argument.resolve, Outcome.result_bind, resolved]
    change (hole.resolve _ _ _ _ >>= _).result = _
    rw [Outcome.result_bind, failed]
    cases value with
    | error own => cases notError
    | _ => rfl

theorem exists_error_around {place : Place} {side : Text} {failure : Failure} (other : side ∈ place.otherSide)
    (fails : ((Argument.ofText side).resolve setting view depth keepsErrors).result = .error failure)
    {value : Value} (given : (hole.resolve setting view depth keepsErrors).result = .ok value) :
    ∃ cause, ((place.around hole).resolve setting view depth keepsErrors).result = .error cause := by
  refine ⟨failure, ?_⟩
  cases place with
  | alone held => cases other
  | left written visible =>
    cases other
    rw [around, Argument.resolve, Outcome.result_bind, given]
    change ((Argument.ofText written.right).resolve _ _ _ _ >>= _).result = _
    rw [Outcome.result_bind, fails]
    rfl
  | right written visible =>
    cases other
    rw [around, Argument.resolve, Outcome.result_bind, fails]
    rfl

end

end Place

/-! ## Calls -/

theorem Formula.below_of_settle {limit depth : Int} {source : Text} {body : Unit → Outcome Answer} {answer : Answer}
    (inner : 0 < depth) (answered : (settle limit source depth body).result = .ok answer) : depth < limit := by
  by_cases deep : depth ≥ limit
  · rw [settle, if_pos deep, Outcome.recover_of_error (Outcome.result_fail _), onFailure, if_pos inner] at answered
    cases answered
  · omega

theorem Formula.below_of_evaluateAt {setting : Setting} {view : View} {depth : Int} {text : Text} {answer : Answer}
    (inner : 0 < depth) (answered : (evaluateAt setting view depth ('=' :: text)).result = .ok answer) :
    depth < setting.maxDepth := by
  rw [evaluateAt, ofText] at answered
  cases parts : callParts? (Text.strip text) with
  | some found =>
    simp only [parts, Formula.answer] at answered
    exact below_of_settle inner answered
  | none =>
    simp only [parts] at answered
    split at answered
    · exact below_of_settle inner answered
    · exact below_of_settle inner answered

theorem Piece.not_isBlank_around {piece : Piece} {place : Place} {hole : Argument}
    (same : piece.argument = place.around hole) (given : hole ≠ .constant (.text [])) : piece.isBlank = false := by
  refine not_isBlank_of_argument ?_
  rw [same]
  exact Place.around_ne_blank given place

/-- In a call of a steady function that does not take error codes, a nested formula that ends in one may give its
place to the address of any cell that is not in the sheet, also where it is one side of a comparison, and also between
two evaluations that draw other numbers if no piece calls a changing function. A function that takes error codes gets
the code itself, and so it does from a comparison whose other side comes to a value without a code. The call fails if
the other side fails. -/
theorem evaluate_failed_argument (setting : Setting) (sheet : Sheet) {builtin : Builtin} (frame : CallFrame builtin)
    (before after : List Piece) (piece : Piece) (place : Place) (written : piece.text = place.text)
    (code : ErrorCode) (nested : (Argument.ofText place.held).isNested = true)
    (failed : (evaluateAt setting sheet.view 1 ('=' :: Text.strip place.held)).result = .ok (.error code))
    (name key : Text) (keyed : Address.readKey name = .ok (some key)) (absent : sheet.lookup? key = none) :
    let answer (setting : Setting) (pieces : List Piece) := (evaluate setting sheet.view (frame.source pieces)).result
    let value (text : Text) := ((Argument.ofText text).resolve setting sheet.view 0 true).result
    let values (arguments : List Argument) := (Argument.resolveAll setting sheet.view 0 true arguments).result
    (builtin.acceptsErrors = false → builtin.volatile = false →
      ∃ balanced : Scan.isBalanced (place.fill name) = true,
        let replaced : Piece := { piece with text := place.fill name, balanced := balanced }
        answer setting (before ++ piece :: after) = answer setting (before ++ replaced :: after) ∧
          ∀ later : Setting, setting.Alike later →
            (∀ given ∈ before ++ piece :: after, given.argument.isVolatile = false) →
              answer later (before ++ piece :: after) = answer setting (before ++ replaced :: after)) ∧
    (builtin.acceptsErrors = true →
      ((∀ side ∈ place.otherSide, ∃ found, value side = .ok found ∧ found.isError = false) →
        answer setting (before ++ piece :: after) = .ok (Answer.ofResult (do
          let first ← values (before.map Piece.argument)
          let last ← values (Piece.arguments after)
          builtin.run setting.ambient (builtin.given (first ++ .error code :: last))))) ∧
      (∀ side ∈ place.otherSide, ∀ failure, value side = .error failure →
        answer setting (before ++ piece :: after) = .ok (.error .failure))) := by
  intro answer value values
  have positive : 0 < setting.maxDepth := by
    have below := Formula.below_of_evaluateAt (by decide) failed
    omega
  have argument : piece.argument = place.around (Argument.ofText place.held) := by
    rw [Piece.argument, written, Place.ofText_text]
  have visible : piece.isBlank = false := by
    refine Piece.not_isBlank_around argument ?_
    intro none
    rw [none] at nested
    cases nested
  have held (keepsErrors : Bool) : ((Argument.ofText place.held).resolve setting sheet.view 0 keepsErrors).result =
      .ok (if keepsErrors then .error code else .empty) :=
    Argument.result_of_nested_error nested failed keepsErrors
  constructor
  · intro refuses steady
    obtain ⟨parts, found⟩ := Address.exists_cellParts_of_readKey keyed
    obtain ⟨⟨position, isCell⟩, empty⟩ := Argument.result_of_absent keyed absent setting 0 false
    have balanced : Scan.isBalanced (place.fill name) = true := by
      refine Place.isBalanced_fill (Address.isNameChar_of_cellParts found) ?_
      rw [← written]
      exact piece.balanced
    let replaced : Piece := { piece with text := place.fill name, balanced := balanced }
    have other : replaced.argument = place.around (Argument.ofText name) := Place.ofText_fill found place
    have same : answer setting (before ++ piece :: after) = answer setting (before ++ replaced :: after) := by
      refine frame.result_replace before after visible ?_ ?_
      · exact Piece.not_isBlank_around other (by simp [isCell])
      · rw [argument, other, refuses]
        exact Place.result_around_congr ((held false).trans empty.symm) place
    refine ⟨balanced, same, fun later alike allSteady => ?_⟩
    rw [← same]
    exact congrArg Outcome.result (frame.evaluate_steady steady alike allSteady).symm
  · intro accepts
    constructor
    · intro plain
      have received : (piece.argument.resolve setting sheet.view 0 true).result = .ok (.error code) := by
        rw [argument]
        exact Place.result_around_error (held true) plain
      change (evaluate setting sheet.view (frame.source (before ++ piece :: after))).result = _
      rw [frame.result_of_acceptsErrors positive accepts, Piece.arguments_append_cons before visible after,
        Argument.result_resolveAll_append, Argument.result_resolveAll_cons, received]
      simp only [values, bind_assoc]
      rfl
    · intro side other failure fails
      obtain ⟨cause, failedAll⟩ := Place.exists_error_around other fails (held true)
      rw [← argument, ← accepts] at failedAll
      exact frame.result_of_failed (List.mem_append_right _ List.mem_cons_self) failedAll

def Piece.unknown : Piece := .ofWord "NOSUCH()".toList (by decide)

def Comparison.unknownEqualsOne : Comparison.Written where
  lead := []
  left := "NOSUCH()".toList
  gap := []
  relation := .equal
  space := [' ']
  right := ['1']
  tail := []
  blankLead := Text.blank_nil
  blankGap := Text.blank_nil
  blankSpace := List.forall_mem_singleton.mpr (by decide)
  blankTail := Text.blank_nil
  side := by decide
  ends := rfl

def CallFrame.isError : CallFrame (.errorAware "ISERROR" (Builtin.ask "ISERROR" fun value => .ok value.isError)) where
  lead := []
  name := "IsError".toList
  gap := []
  tail := []
  named := List.cons_ne_nil _ _
  letters := List.all_eq_true.mp (by decide)
  blankLead := Text.blank_nil
  blankGap := Text.blank_nil
  blankTail := Text.blank_nil
  found := rfl

theorem evaluate_failed_argument_unknown :
    (evaluate ⟨64, ⟨0, 0, .utc⟩⟩ (Sheet.view []) (CallFrame.sum.source [.one, .unknown])).result =
      (evaluate ⟨64, ⟨0, 0, .utc⟩⟩ (Sheet.view []) (CallFrame.sum.source [.one, .ofWord "B2".toList (by decide)])).result ∧
    (evaluate ⟨64, ⟨0, 0, .utc⟩⟩ (Sheet.view [])
        (CallFrame.isError.source [.ofWord "NOSUCH()= 1".toList (by decide)])).result = .ok (.value (.bool true)) := by
  have nested : (Argument.ofText "NOSUCH()".toList).isNested = true := by decide +kernel
  have failed : (evaluateAt ⟨64, ⟨0, 0, .utc⟩⟩ (Sheet.view []) 1 ('=' :: Text.strip "NOSUCH()".toList)).result =
      .ok (.error .name) := by decide +kernel
  have keyed : Address.readKey "B2".toList = .ok (some "1,1".toList) := by decide +kernel
  have visible : Comparison.unknownEqualsOne.Visible := ⟨by decide, by decide⟩
  constructor
  · obtain ⟨_, same, _⟩ := (evaluate_failed_argument ⟨64, ⟨0, 0, .utc⟩⟩ [] CallFrame.sum [.one] [] .unknown
      (.alone "NOSUCH()".toList) rfl .name nested failed "B2".toList _ keyed rfl).1 rfl rfl
    exact same
  · have received := ((evaluate_failed_argument ⟨64, ⟨0, 0, .utc⟩⟩ [] CallFrame.isError [] []
      (.ofWord "NOSUCH()= 1".toList (by decide)) (.left Comparison.unknownEqualsOne visible) rfl .name nested failed
      "B2".toList _ keyed rfl).2 rfl).1
    refine received ?_
    intro side other
    cases other
    exact ⟨.integer 1, by decide +kernel, rfl⟩

theorem RangeEnd.isBalanced_text (corner : RangeEnd) : Scan.isBalanced corner.text = true := by
  refine Scan.balancedFrom_of_bare rfl fun char member => ?_
  exact Scan.notMem_marks_of_name (Address.isNameChar_of_cellParts corner.cellParts_text char member)

theorem RangeEnd.ofText_of_long {corner : RangeEnd} (long : ¬corner.Readable) :
    Argument.ofText corner.text = .invalid .unreadable := by
  have letter : ∀ char ∈ [corner.column], Text.isLetter char = true :=
    List.forall_mem_singleton.mpr (isLetter_of_isEnglishLetter corner.english).1
  have read := Argument.ofText_cellName (List.cons_ne_nil _ _) corner.numbered letter corner.digits
  rw [Address.ofParts, Text.readNat, if_pos (Nat.lt_of_not_le long)] at read
  exact read

theorem evaluate_failed_argument_beyond :
    (evaluateAt ⟨64, ⟨0, 0, .utc⟩⟩ (Sheet.view []) 1 "=NOSUCH()".toList).result = .ok (.error .name) ∧
    (evaluate ⟨64, ⟨0, 0, .utc⟩⟩ (Sheet.view []) (CallFrame.sum.source [.unknown])).result = .ok (.value (.integer 0)) ∧
    Address.isCellName RangeEnd.far.text = true ∧
    (evaluate ⟨64, ⟨0, 0, .utc⟩⟩ (Sheet.view [])
        (CallFrame.sum.source [.ofWord RangeEnd.far.text RangeEnd.far.isBalanced_text])).result =
      .ok (.error .failure) ∧
    Builtin.ask "ISERROR" (fun value => .ok value.isError) [.error .name] = .ok (.bool true) ∧
    (∃ failure, ((Argument.ofText "A1*1.5".toList).resolve ⟨64, ⟨0, 0, .utc⟩⟩ Sheet.beyond.view 0 true).result =
      .error failure) ∧
    (evaluate ⟨64, ⟨0, 0, .utc⟩⟩ Sheet.beyond.view
        (CallFrame.isError.source [.ofWord "NOSUCH()=A1*1.5".toList (by decide)])).result =
      .ok (.error .failure) := by
  have argument : Argument.ofText RangeEnd.far.text = .invalid .unreadable :=
    RangeEnd.ofText_of_long (by decide +kernel)
  refine ⟨by decide +kernel, by decide +kernel, ?_, ?_, rfl, ⟨.outOfRange, by decide +kernel⟩, by decide +kernel⟩
  · rw [Address.isCellName, RangeEnd.far.cellParts_text]
    rfl
  · exact CallFrame.sum.result_of_invalid List.mem_cons_self argument

end Worksheet
