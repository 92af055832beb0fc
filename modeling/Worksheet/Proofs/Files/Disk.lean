import Mathlib.Data.List.Basic
import Worksheet.Files.Disk

/-! Files in memory: what making folders and appending to a file do to the folders and to the file. -/

namespace Worksheet

namespace Path

theorem self_mem_trail {path : Path} (named : path.names ≠ []) : path ∈ path.trail := by
  have positive := List.length_pos_iff.mpr named
  refine List.mem_map.mpr ⟨path.names.length - 1, List.mem_range.mpr (by omega), ?_⟩
  rw [List.take_of_length_le (by omega)]

theorem length_le_of_mem_trail {path folder : Path} (member : folder ∈ path.trail) :
    folder.names.length ≤ path.names.length := by
  obtain ⟨count, _, rfl⟩ := List.mem_map.mp member
  exact (List.take_sublist _ _).length_le

@[simp] theorem parent_child (folder : Path) (name : String) : (folder.child name).parent = folder := by
  simp [parent, child]

end Path

namespace Disk

variable {disk next : Disk} {path other : Path} {bytes content : Bytes}

theorem kindOf_eq_folder : disk.kindOf path = some .folder ↔ path.names = [] ∨ path ∈ disk.folders := by
  rw [← List.isEmpty_iff, ← List.contains_iff_mem]
  unfold kindOf
  split
  next folder => exact iff_of_true rfl folder
  next other =>
    refine iff_of_false ?_ other
    split <;> simp

theorem kindOf_eq_folder_congr (same : next.folders = disk.folders) :
    next.kindOf path = some .folder ↔ disk.kindOf path = some .folder := by
  rw [kindOf_eq_folder, kindOf_eq_folder, same]

theorem find_put (path : Path) (content : Bytes) (files : List (Path × Bytes)) :
    ((put path content files).find? fun file => file.1 == path) = some (path, content) := by
  induction files with
  | nil => simp [put]
  | cons first rest ih =>
    rw [put]
    split
    · simp
    · next other => rw [List.find?_cons_of_neg (by simpa using other), ih]

/-- The file has the content, or it has none yet; its folder is there. -/
structure Holds (disk : Disk) (path : Path) (content : Bytes) : Prop where
  folder : disk.kindOf path.parent = some .folder
  free : disk.kindOf path ≠ some .folder
  content : (disk.content? path).getD [] = content

theorem Holds.append (holds : disk.Holds path content) (bytes : Bytes) :
    ∃ next, disk.append path bytes = .ok next ∧ next.Holds path (content ++ bytes) ∧ next.folders = disk.folders := by
  obtain ⟨next, written, files, folders⟩ : ∃ next, disk.append path bytes = .ok next ∧
      next.files = put path (content ++ bytes) disk.files ∧ next.folders = disk.folders := by
    refine ⟨⟨put path (content ++ bytes) disk.files, disk.folders⟩, ?_, rfl, rfl⟩
    rw [Disk.append, write, if_neg holds.free, if_pos holds.folder, holds.content]
  refine ⟨next, written, ⟨?_, ?_, ?_⟩, folders⟩
  · exact (kindOf_eq_folder_congr folders).mpr holds.folder
  · exact mt (kindOf_eq_folder_congr folders).mp holds.free
  · rw [content?, files, find_put]
    rfl

theorem content_of_kindOf_none (absent : disk.kindOf path = none) : disk.content? path = none := by
  unfold kindOf at absent
  split at absent
  · cases absent
  · split at absent
    · cases absent
    · next none => simpa using none

theorem content_of_kindOf_file (file : disk.kindOf path = some .file) : ∃ content, disk.content? path = some content := by
  unfold kindOf at file
  split at file
  · cases file
  · split at file
    · next found => exact Option.isSome_iff_exists.mp found
    · cases file

theorem Holds.read (holds : disk.Holds path content) (there : disk.kindOf path ≠ none) : disk.read path = .ok content := by
  have file : disk.kindOf path = some .file := by
    have free := holds.free
    revert there free
    cases disk.kindOf path with
    | none => simp
    | some kind => cases kind <;> simp
  obtain ⟨bytes, found⟩ := content_of_kindOf_file file
  have held := holds.content
  rw [found] at held
  rw [Disk.read, file, found]
  exact congrArg Except.ok held

theorem makeFolders_eq_ok {paths : List Path} (made : disk.makeFolders paths = .ok next) :
    next.files = disk.files ∧
      ∀ path, next.kindOf path = some .folder ↔ path ∈ paths ∨ disk.kindOf path = some .folder := by
  induction paths generalizing disk with
  | nil =>
    cases made
    simp
  | cons first rest ih =>
    rw [makeFolders] at made
    split at made
    · cases made
    · next there =>
      obtain ⟨files, folders⟩ := ih made
      refine ⟨files, fun path => ?_⟩
      rw [folders, List.mem_cons]
      constructor
      · rintro (among | before)
        · exact Or.inl (Or.inr among)
        · exact Or.inr before
      · rintro ((rfl | among) | before)
        · exact Or.inr there
        · exact Or.inl among
        · exact Or.inr before
    · obtain ⟨files, folders⟩ := ih made
      refine ⟨files, fun path => ?_⟩
      rw [folders, kindOf_eq_folder, kindOf_eq_folder, List.mem_cons, List.mem_cons]
      tauto

theorem makeFolders_of_folders {paths : List Path} (there : ∀ path ∈ paths, disk.kindOf path = some .folder) :
    disk.makeFolders paths = .ok disk := by
  induction paths with
  | nil => rfl
  | cons path rest ih =>
    obtain ⟨own, later⟩ := List.forall_mem_cons.mp there
    rw [makeFolders, own]
    exact ih later

end Disk

end Worksheet
