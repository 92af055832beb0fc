import Worksheet.Event

/-! Long texts in the context of an event. A context is determined by its shape, which is all of it but its texts, and
by its texts in order. Cutting keeps the shape and cuts each text by itself, and a text that was cut is not changed by
cutting it again. -/

namespace Worksheet.Value

variable {value other : Value}

/-! ## Single texts -/

theorem cutText_of_short {text : Text} (short : text.length ≤ contextLimit) : cutText text = text :=
  if_neg (Nat.not_lt.mpr short)

theorem cutText_of_long {text : Text} (long : contextLimit < text.length) :
    cutText text = text.take contextLimit ++ cutMark :=
  if_pos long

theorem length_cutText_of_long {text : Text} (long : contextLimit < text.length) :
    (cutText text).length = contextLimit + cutMark.length := by
  rw [cutText_of_long long, List.length_append, List.length_take, Nat.min_eq_left (Nat.le_of_lt long)]

theorem length_cutText_le (text : Text) : (cutText text).length ≤ contextLimit + cutMark.length := by
  by_cases long : contextLimit < text.length
  · exact Nat.le_of_eq (length_cutText_of_long long)
  · have short := Nat.not_lt.mp long
    rw [cutText_of_short short]
    exact Nat.le_trans short (Nat.le_add_right _ _)

theorem cutText_cutText (text : Text) : cutText (cutText text) = cutText text := by
  by_cases long : contextLimit < text.length
  · have again : contextLimit < (cutText text).length := by
      rw [length_cutText_of_long long]
      decide
    have kept : (text.take contextLimit).length = contextLimit := List.length_take_of_le (Nat.le_of_lt long)
    rw [cutText_of_long again, cutText_of_long long, List.take_left' kept]
  · have short := Nat.not_lt.mp long
    rw [cutText_of_short short, cutText_of_short short]

/-! ## Shape and texts -/

mutual

/-- The value with nothing in its texts. All else stays: the names of fields, the lists, and what is no text. -/
def shape : Value → Value
  | text _ => text []
  | list values => list (shapes values)
  | record fields => record (fieldShapes fields)
  | other => other

def shapes : List Value → List Value
  | [] => []
  | value :: rest => value.shape :: shapes rest

def fieldShapes : List (Text × Value) → List (Text × Value)
  | [] => []
  | (name, value) :: rest => (name, value.shape) :: fieldShapes rest

end

mutual

/-- The texts in a value, in their order; the names of fields are none of them. -/
def texts : Value → List Text
  | text found => [found]
  | list values => textsOf values
  | record fields => fieldTextsOf fields
  | _ => []

def textsOf : List Value → List Text
  | [] => []
  | value :: rest => value.texts ++ textsOf rest

def fieldTextsOf : List (Text × Value) → List Text
  | [] => []
  | (_, value) :: rest => value.texts ++ fieldTextsOf rest

end

mutual

theorem shape_cut (value : Value) : value.cut.shape = value.shape := by
  cases value with
  | list values => exact congrArg list (shapes_cut values)
  | record fields => exact congrArg record (fieldShapes_cut fields)
  | _ => rfl

theorem shapes_cut (values : List Value) : shapes (cutAll values) = shapes values := by
  cases values with
  | nil => rfl
  | cons value rest => rw [cutAll, shapes, shapes, shape_cut value, shapes_cut rest]

theorem fieldShapes_cut (fields : List (Text × Value)) : fieldShapes (cutFields fields) = fieldShapes fields := by
  cases fields with
  | nil => rfl
  | cons field rest => rw [cutFields, fieldShapes, fieldShapes, shape_cut field.2, fieldShapes_cut rest]

end

mutual

theorem texts_cut (value : Value) : value.cut.texts = value.texts.map cutText := by
  cases value with
  | list values => exact textsOf_cut values
  | record fields => exact fieldTextsOf_cut fields
  | _ => rfl

theorem textsOf_cut (values : List Value) : textsOf (cutAll values) = (textsOf values).map cutText := by
  cases values with
  | nil => rfl
  | cons value rest => rw [cutAll, textsOf, textsOf, List.map_append, texts_cut value, textsOf_cut rest]

theorem fieldTextsOf_cut (fields : List (Text × Value)) :
    fieldTextsOf (cutFields fields) = (fieldTextsOf fields).map cutText := by
  cases fields with
  | nil => rfl
  | cons field rest =>
    rw [cutFields, fieldTextsOf, fieldTextsOf, List.map_append, texts_cut field.2, fieldTextsOf_cut rest]

end

/-! ## What determines a value -/

mutual

theorem length_texts_shape (value : Value) : value.shape.texts.length = value.texts.length := by
  cases value with
  | list values => exact length_textsOf_shapes values
  | record fields => exact length_fieldTextsOf_shapes fields
  | _ => rfl

theorem length_textsOf_shapes (values : List Value) : (textsOf (shapes values)).length = (textsOf values).length := by
  cases values with
  | nil => rfl
  | cons value rest =>
    rw [shapes, textsOf, textsOf, List.length_append, List.length_append, length_texts_shape value,
      length_textsOf_shapes rest]

theorem length_fieldTextsOf_shapes (fields : List (Text × Value)) :
    (fieldTextsOf (fieldShapes fields)).length = (fieldTextsOf fields).length := by
  cases fields with
  | nil => rfl
  | cons field rest =>
    rw [fieldShapes, fieldTextsOf, fieldTextsOf, List.length_append, List.length_append, length_texts_shape field.2,
      length_fieldTextsOf_shapes rest]

end

theorem length_texts_of_shape (same : value.shape = other.shape) : value.texts.length = other.texts.length := by
  rw [← length_texts_shape value, same, length_texts_shape]

mutual

theorem eq_of_shape_of_texts (value other : Value) (sameShape : value.shape = other.shape)
    (sameTexts : value.texts = other.texts) : value = other := by
  cases value with
  | list values =>
    cases other with
    | list others => exact congrArg list (eq_of_shapes_of_texts values others (list.inj sameShape) sameTexts)
    | _ => cases sameShape
  | record fields =>
    cases other with
    | record others =>
      exact congrArg record (eq_of_fieldShapes_of_texts fields others (record.inj sameShape) sameTexts)
    | _ => cases sameShape
  | text found =>
    cases other with
    | text _ => exact congrArg text (List.cons.inj sameTexts).1
    | _ => cases sameShape
  | _ =>
    cases other with
    | list _ => cases sameShape
    | record _ => cases sameShape
    | text _ => cases sameShape
    | _ => exact sameShape

theorem eq_of_shapes_of_texts (values others : List Value) (sameShapes : shapes values = shapes others)
    (sameTexts : textsOf values = textsOf others) : values = others := by
  cases values with
  | nil =>
    cases others with
    | nil => rfl
    | cons _ _ => cases sameShapes
  | cons value rest =>
    cases others with
    | nil => cases sameShapes
    | cons other later =>
      obtain ⟨here, behind⟩ := List.cons.inj sameShapes
      obtain ⟨own, onward⟩ := List.append_inj sameTexts (length_texts_of_shape here)
      rw [eq_of_shape_of_texts value other here own, eq_of_shapes_of_texts rest later behind onward]

theorem eq_of_fieldShapes_of_texts (fields others : List (Text × Value)) (sameShapes : fieldShapes fields = fieldShapes others)
    (sameTexts : fieldTextsOf fields = fieldTextsOf others) : fields = others := by
  cases fields with
  | nil =>
    cases others with
    | nil => rfl
    | cons _ _ => cases sameShapes
  | cons field rest =>
    cases others with
    | nil => cases sameShapes
    | cons other later =>
      obtain ⟨name, value⟩ := field
      obtain ⟨otherName, otherValue⟩ := other
      obtain ⟨here, behind⟩ := List.cons.inj sameShapes
      obtain ⟨rfl, shape⟩ := Prod.mk.inj here
      obtain ⟨own, onward⟩ := List.append_inj sameTexts (length_texts_of_shape shape)
      rw [eq_of_shape_of_texts value otherValue shape own, eq_of_fieldShapes_of_texts rest later behind onward]

end

theorem cut_cut (value : Value) : value.cut.cut = value.cut := by
  refine eq_of_shape_of_texts _ _ (shape_cut value.cut) ?_
  rw [texts_cut, texts_cut, List.map_map]
  exact List.map_congr_left fun text _ => cutText_cutText text

/-- A context that is cut has the shape that it had, down to any depth, and of its texts those with at most 256
characters as they were and from each longer one the first 256 characters with the mark behind them; it is the only
one with this shape and these texts. None of them has more than 270 characters, and cutting the context again changes
nothing. -/
theorem context_is_cut (context : Fields) :
    (∀ other, other = record (cutFields context) ↔ other.shape = (record context).shape ∧
      other.texts = (record context).texts.map fun text =>
        if text.length ≤ 256 then text else text.take 256 ++ "...[truncated]".toList) ∧
    (∀ text ∈ (record (cutFields context)).texts, text.length ≤ 270) ∧
    cutFields (cutFields context) = cutFields context := by
  have rule : cutText = fun text =>
      if text.length ≤ 256 then text else text.take 256 ++ "...[truncated]".toList := by
    funext text
    by_cases short : text.length ≤ contextLimit
    · rw [cutText_of_short short]
      exact (if_pos short).symm
    · rw [cutText_of_long (Nat.not_le.mp short)]
      exact (if_neg short).symm
  have texts := texts_cut (record context)
  have bounded : ∀ text ∈ (record context).cut.texts, text.length ≤ 270 := by
    rw [texts]
    exact List.forall_mem_map.mpr fun text _ => length_cutText_le text
  refine ⟨fun other => ?_, bounded, record.inj (cut_cut (record context))⟩
  rw [← rule]
  constructor
  · rintro rfl
    exact ⟨shape_cut (record context), texts⟩
  · rintro ⟨sameShape, sameTexts⟩
    exact eq_of_shape_of_texts other _ (sameShape.trans (shape_cut (record context)).symm) (sameTexts.trans texts.symm)

def nestedTexts (found : Text) : Fields :=
  [("cells".toList, list [text found, bool true])]

theorem context_is_cut_inside_list :
    let kept := List.replicate 256 'a' ++ "...[truncated]".toList
    cutFields (nestedTexts (List.replicate 300 'a')) = nestedTexts kept ∧ kept ∈ (record (nestedTexts kept)).texts ∧
      kept.length ≤ 270 := by
  intro kept
  have texts (found : Text) : (record (nestedTexts found)).texts = [found] := rfl
  have alike (found other : Text) : (record (nestedTexts found)).shape = (record (nestedTexts other)).shape := rfl
  obtain ⟨determined, bounded, _⟩ := context_is_cut (nestedTexts (List.replicate 300 'a'))
  have whole : record (nestedTexts kept) = record (cutFields (nestedTexts (List.replicate 300 'a'))) := by
    refine (determined _).mpr ⟨alike _ _, ?_⟩
    rw [texts, texts, List.map_singleton]
    decide +kernel
  have member : kept ∈ (record (nestedTexts kept)).texts := by
    rw [texts]
    exact List.mem_singleton_self kept
  refine ⟨(record.inj whole).symm, member, bounded kept ?_⟩
  rwa [← whole]

end Worksheet.Value
