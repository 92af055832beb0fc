import Worksheet.Formula.Evaluation
import Worksheet.Proofs.Formula.Scan
import Worksheet.Proofs.Outcome
import Worksheet.Proofs.Text.Letter

/-! Calls are compositional: a name with balanced pieces between its parentheses is read as one call of that name with
just these pieces as its arguments, at every depth of nesting. -/

namespace Worksheet

/-- An argument as it is written: balanced text with white space around it. -/
structure Piece where
  before : Text
  text : Text
  after : Text
  blankBefore : Text.Blank before
  blankAfter : Text.Blank after
  balanced : Scan.isBalanced text = true

namespace Piece

def written (piece : Piece) : Text :=
  piece.before ++ (piece.text ++ piece.after)

def ofWord (word : Text) (balanced : Scan.isBalanced word = true) : Piece :=
  ⟨[], word, [], Text.blank_nil, Text.blank_nil, balanced⟩

theorem strip_written (piece : Piece) : Text.strip piece.written = Text.strip piece.text := by
  rw [written, Text.strip_blank_append _ piece.blankBefore, Text.strip_append_blank _ piece.blankAfter]

theorem isBalanced_written (piece : Piece) : Scan.isBalanced piece.written = true := by
  have padded := Scan.balancedFrom_append_blank piece.balanced piece.blankAfter
  rw [Scan.isBalanced, written, Scan.balancedFrom_blank_append _ rfl (by decide) piece.blankBefore]
  exact padded

def inside (gap : Text) (pieces : List Piece) : Text :=
  gap ++ Text.join [','] (pieces.map written)

def callText (name gap : Text) (pieces : List Piece) : Text :=
  name ++ '(' :: (inside gap pieces ++ [')'])

end Piece

theorem callStart_name {name : Text} (rest : Text) (named : name ≠ [])
    (letters : ∀ char ∈ name, Text.isEnglishLetter char = true) :
    callStart? (name ++ '(' :: rest) = some (name, rest) := by
  have inName : ∀ char ∈ name, Text.isLetter char = true := fun char member =>
    (isLetter_of_isEnglishLetter (letters char member)).1
  have stop : Text.isLetter '(' = false := by decide +kernel
  simp [callStart?, List.dropWhile_append_of_pos inName, List.takeWhile_append_of_pos inName, stop, named]

theorem callParts_callText {name gap : Text} {pieces : List Piece} (named : name ≠ [])
    (letters : ∀ char ∈ name, Text.isEnglishLetter char = true) (blank : Text.Blank gap) :
    callParts? (Piece.callText name gap pieces) = some (Text.upper name, Piece.inside gap pieces) := by
  have balanced : ∀ piece ∈ pieces.map Piece.written, Scan.isBalanced piece = true := by
    intro written member
    obtain ⟨piece, _, rfl⟩ := List.mem_map.mp member
    exact piece.isBalanced_written
  have outside : Scan.start.isOutside = true := rfl
  obtain ⟨inner, alike, onward⟩ :=
    Scan.closesAtEnd_name outside letters (Piece.inside gap pieces ++ [')'])
  have closed : Scan.closesAtEnd Scan.start (Piece.callText name gap pieces) = true := by
    rw [Piece.callText, onward, Piece.inside, List.append_assoc,
      Scan.closesAtEnd_blank_append alike blank]
    exact Scan.closesAtEnd_join alike balanced
  rw [callParts?, Piece.callText, callStart_name _ named letters, ← Piece.callText]
  simp [closed]

theorem splitArguments_pieces {gap : Text} (blank : Text.Blank gap) (pieces : List Piece) :
    Scan.splitArguments (Piece.inside gap pieces) = Scan.kept (pieces.map Piece.written) := by
  refine Scan.splitArguments_join blank fun written member => ?_
  obtain ⟨piece, _, rfl⟩ := List.mem_map.mp member
  exact piece.isBalanced_written

theorem splitArguments_inside {gap : Text} {pieces : List Piece} (blank : Text.Blank gap)
    (ends : ∀ last, pieces.getLast? = some last → Text.strip last.text ≠ []) :
    Scan.splitArguments (Piece.inside gap pieces) = pieces.map fun piece => Text.strip piece.text := by
  rw [splitArguments_pieces blank, Scan.kept_eq_map]
  · simp [Piece.strip_written]
  · intro written found
    rw [List.getLast?_map] at found
    obtain ⟨last, isLast, rfl⟩ := Option.map_eq_some_iff.mp found
    rw [Piece.strip_written]
    exact ends last isLast

theorem strip_callText {name lead gap tail : Text} {pieces : List Piece} (named : name ≠ [])
    (letters : ∀ char ∈ name, Text.isEnglishLetter char = true) (blankLead : Text.Blank lead)
    (blankTail : Text.Blank tail) :
    Text.strip (lead ++ (Piece.callText name gap pieces ++ tail)) = Piece.callText name gap pieces := by
  rw [Text.strip_blank_append _ blankLead, Text.strip_append_blank _ blankTail]
  cases name with
  | nil => contradiction
  | cons first rest =>
    have visible := (isLetter_of_isEnglishLetter (letters first (by simp))).2
    have close : Text.isBlank ')' = false := by decide
    have whole : Piece.callText (first :: rest) gap pieces
        = first :: (rest ++ '(' :: Piece.inside gap pieces) ++ [')'] := by
      simp [Piece.callText]
    rw [whole]
    exact Text.strip_eq_self visible close

theorem Argument.ofText_blank {text : Text} (empty : Text.strip text = []) :
    Argument.ofText text = .constant (.text []) := by
  rw [Argument.ofText, empty, Argument.ofTrimmed]
  rfl

namespace Piece

def argument (piece : Piece) : Argument :=
  Argument.ofText piece.text

def isBlank (piece : Piece) : Bool :=
  (Text.strip piece.text).isEmpty

/-- The arguments of a call with the pieces; a blank piece at the end is none. -/
def arguments (pieces : List Piece) : List Argument :=
  (Scan.kept (pieces.map written)).map Argument.ofText

theorem ofText_strip_written (piece : Piece) : Argument.ofText (Text.strip piece.written) = piece.argument := by
  rw [strip_written, argument, Argument.ofText, Argument.ofText, Text.strip_strip]

theorem not_isBlank {piece : Piece} (nonempty : piece.text ≠ [])
    (visible : ∀ char ∈ piece.text, Text.isBlank char = false) : piece.isBlank = false := by
  rw [isBlank, Text.strip_eq_self_of_visible visible]
  exact List.isEmpty_eq_false_iff.mpr nonempty

theorem not_isBlank_of_argument {piece : Piece} (given : piece.argument ≠ .constant (.text [])) :
    piece.isBlank = false := by
  cases blank : piece.isBlank with
  | false => rfl
  | true => exact absurd (Argument.ofText_blank (List.isEmpty_iff.mp blank)) given

theorem arguments_singleton (last : Piece) :
    arguments [last] = if last.isBlank then [] else [last.argument] := by
  have kept : Scan.kept [last.written] = if last.isBlank then [] else [Text.strip last.written] := by
    rw [Scan.kept, last.strip_written]
    rfl
  cases blank : last.isBlank with
  | true => simp [arguments, kept, blank]
  | false => simp [arguments, kept, blank, ofText_strip_written]

theorem arguments_cons_cons (piece next : Piece) (rest : List Piece) :
    arguments (piece :: next :: rest) = piece.argument :: arguments (next :: rest) := by
  simp only [arguments, List.map_cons, Scan.kept, ofText_strip_written]

theorem arguments_cons {piece : Piece} (visible : piece.isBlank = false) (rest : List Piece) :
    arguments (piece :: rest) = piece.argument :: arguments rest := by
  cases rest with
  | nil =>
    rw [arguments_singleton, visible]
    rfl
  | cons next others => exact arguments_cons_cons piece next others

theorem exists_of_mem_arguments {pieces : List Piece} {given : Argument} (member : given ∈ arguments pieces) :
    ∃ piece ∈ pieces, piece.argument = given := by
  induction pieces with
  | nil => cases member
  | cons piece rest ih =>
    cases rest with
    | nil =>
      rw [arguments_singleton] at member
      split at member
      · cases member
      · exact ⟨piece, List.mem_cons_self, (List.mem_singleton.mp member).symm⟩
    | cons next others =>
      rw [arguments_cons_cons] at member
      rcases List.mem_cons.mp member with first | later
      · exact ⟨piece, List.mem_cons_self, first.symm⟩
      · obtain ⟨other, among, same⟩ := ih later
        exact ⟨other, List.mem_cons_of_mem _ among, same⟩

theorem arguments_append {pieces rest : List Piece}
    (ends : ∀ last, pieces.getLast? = some last → rest = [] → last.isBlank = false) :
    arguments (pieces ++ rest) = pieces.map argument ++ arguments rest := by
  induction pieces with
  | nil => rfl
  | cons piece others ih =>
    cases others with
    | nil =>
      cases rest with
      | nil => exact arguments_cons (ends piece rfl rfl) []
      | cons next later => exact arguments_cons_cons piece next later
    | cons next later =>
      have onward := ih fun last found => ends last (by rwa [List.getLast?_cons_cons])
      rw [List.cons_append, List.cons_append, arguments_cons_cons, ← List.cons_append, onward]
      rfl

theorem arguments_append_of_visible {pieces : List Piece} (visible : ∀ piece ∈ pieces, piece.isBlank = false)
    (rest : List Piece) : arguments (pieces ++ rest) = pieces.map argument ++ arguments rest :=
  arguments_append fun last found _ => visible last (List.mem_of_getLast? found)

theorem arguments_append_cons (before : List Piece) {piece : Piece} (visible : piece.isBlank = false)
    (after : List Piece) :
    arguments (before ++ piece :: after) = before.map argument ++ piece.argument :: arguments after := by
  rw [arguments_append fun _ _ empty => absurd empty (List.cons_ne_nil _ _), arguments_cons visible]

theorem mem_arguments {pieces : List Piece} {piece : Piece} (member : piece ∈ pieces) (visible : piece.isBlank = false) :
    piece.argument ∈ arguments pieces := by
  obtain ⟨before, after, rfl⟩ := List.append_of_mem member
  rw [arguments_append_cons before visible]
  exact List.mem_append_right _ List.mem_cons_self

end Piece

theorem Formula.ofText_callText {name lead gap tail : Text} (named : name ≠ [])
    (letters : ∀ char ∈ name, Text.isEnglishLetter char = true) (blankLead : Text.Blank lead)
    (blankGap : Text.Blank gap) (blankTail : Text.Blank tail) (pieces : List Piece) :
    ofText ('=' :: (lead ++ (Piece.callText name gap pieces ++ tail))) =
      .call (Text.upper name) (Piece.arguments pieces) := by
  have stripped := @strip_callText name lead gap tail pieces named letters blankLead blankTail
  have parts := @callParts_callText name gap pieces named letters blankGap
  simp only [ofText, stripped, parts, splitArguments_pieces blankGap, Piece.arguments]

theorem Argument.result_resolveAll_cons (setting : Setting) (view : View) (depth : Int) (keepsErrors : Bool)
    (argument : Argument) (rest : List Argument) :
    (resolveAll setting view depth keepsErrors (argument :: rest)).result =
      (resolve setting view depth keepsErrors argument).result >>= fun value =>
        (resolveAll setting view depth keepsErrors rest).result >>= fun values => .ok (value :: values) := by
  rw [resolveAll, Outcome.result_bind]
  congr 1
  funext value
  rw [Outcome.result_bind]
  rfl

theorem Argument.result_resolveAll_append (setting : Setting) (view : View) (depth : Int) (keepsErrors : Bool)
    (arguments others : List Argument) :
    (resolveAll setting view depth keepsErrors (arguments ++ others)).result =
      (resolveAll setting view depth keepsErrors arguments).result >>= fun values =>
        (resolveAll setting view depth keepsErrors others).result >>= fun later => .ok (values ++ later) := by
  induction arguments with
  | nil =>
    rw [List.nil_append, resolveAll]
    exact (bind_pure (resolveAll setting view depth keepsErrors others).result).symm
  | cons argument rest ih =>
    rw [List.cons_append, result_resolveAll_cons, result_resolveAll_cons, ih]
    simp only [bind_assoc]
    rfl

/-- The text of a call of `name` with balanced pieces, white space wherever it may stand, is answered by
the function of that name in capitals with the pieces as its arguments, in their order. -/
theorem evaluateAt_callText (setting : Setting) (view : View) (depth : Int)
    (name lead gap tail : Text) (pieces : List Piece) (named : name ≠ [])
    (letters : ∀ char ∈ name, Text.isEnglishLetter char = true)
    (ends : ∀ last, pieces.getLast? = some last → Text.strip last.text ≠ [])
    (blankLead : Text.Blank lead) (blankGap : Text.Blank gap) (blankTail : Text.Blank tail)
    (below : depth < setting.maxDepth) :
    let call := Piece.callText name gap pieces
    let source := '=' :: (lead ++ (call ++ tail))
    callParts? (Text.strip (lead ++ (call ++ tail))) = some (Text.upper name, Piece.inside gap pieces) ∧
      Scan.splitArguments (Piece.inside gap pieces) = pieces.map (fun piece => Text.strip piece.text) ∧
      (∀ piece ∈ pieces, Text.strip piece.text = [] →
        Argument.ofText piece.text = .constant (.text [])) ∧
      evaluateAt setting view depth source =
        (Formula.callFunction setting (Text.upper name) fun keeps =>
          Argument.resolveAll setting view depth keeps
            (pieces.map fun piece => Argument.ofText piece.text)).recover
          (Formula.onFailure source depth) := by
  intro call source
  have stripped : Text.strip (lead ++ (call ++ tail)) = call :=
    strip_callText named letters blankLead blankTail
  have parts : callParts? call = some (Text.upper name, Piece.inside gap pieces) :=
    callParts_callText named letters blankGap
  have split := splitArguments_inside blankGap ends
  refine ⟨by rw [stripped]; exact parts, split, fun piece _ empty => Argument.ofText_blank empty, ?_⟩
  have parsed : Formula.ofText source =
      .call (Text.upper name) (pieces.map fun piece => Argument.ofText piece.text) := by
    simp only [source, Formula.ofText, stripped]
    simp only [call, parts, split, List.map_map]
    congr 2
    funext piece
    simp [Argument.ofText]
  have shallow : ¬depth ≥ setting.maxDepth := by omega
  rw [evaluateAt, parsed, Formula.answer, Formula.settle, if_neg shallow]

def Piece.samples : List Piece :=
  [⟨[' '], ['"', ',', ' ', ')', '"'], [], by decide, by decide, by decide⟩,
   ⟨[], [], [' '], by decide, by decide, by decide⟩,
   ⟨[], ['i', 't', '\'', 's'], [], by decide, by decide, by decide⟩]

theorem evaluateAt_callText_samples :
    callParts? (Text.strip ([' '] ++ (Piece.callText ['i', 'F'] [] Piece.samples ++ ['\n'])))
        = some (['I', 'F'], Piece.inside [] Piece.samples) ∧
      Scan.splitArguments (Piece.inside [] Piece.samples)
        = [['"', ',', ' ', ')', '"'], [], ['i', 't', '\'', 's']] ∧
      evaluateAt ⟨4, ⟨0, 0, .utc⟩⟩ (fun _ => .ok .empty) 3
          ('=' :: ([' '] ++ (Piece.callText ['i', 'F'] [] Piece.samples ++ ['\n']))) =
        (Formula.callFunction ⟨4, ⟨0, 0, .utc⟩⟩ ['I', 'F'] fun keeps =>
          Argument.resolveAll ⟨4, ⟨0, 0, .utc⟩⟩ (fun _ => .ok .empty) 3 keeps
            (Piece.samples.map fun piece => Argument.ofText piece.text)).recover
          (Formula.onFailure
            ('=' :: ([' '] ++ (Piece.callText ['i', 'F'] [] Piece.samples ++ ['\n']))) 3) := by
  have letters : ∀ char ∈ ['i', 'F'], Text.isEnglishLetter char = true :=
    List.all_eq_true.mp (by decide)
  have facts := evaluateAt_callText ⟨4, ⟨0, 0, .utc⟩⟩ (fun _ => .ok .empty) 3 ['i', 'F'] [' '] [] ['\n']
    Piece.samples (by decide) letters (by intro last found; cases found; decide) (by decide)
    (by decide) (by decide) (by decide)
  exact ⟨facts.1, facts.2.1, facts.2.2.2⟩

end Worksheet
