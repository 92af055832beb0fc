import Worksheet.Command.Project
import Worksheet.Proofs.Files.Disk
import Worksheet.Proofs.Log.Written

/-! The log of a folder. Whichever sinks write into it, each record becomes one more line, and what a reader gets are
the newest of the records. -/

namespace Worksheet.Command

/-- What an operation on files gives over files in memory, and the files after it. -/
def onDisk {α : Type} (operation : StateM Disk α) (disk : Disk) : α × Disk :=
  (operation.run disk).run

theorem onDisk_bind {α β : Type} (first : StateM Disk α) (next : α → StateM Disk β) (disk : Disk) :
    onDisk (first >>= next) disk = onDisk (next (onDisk first disk).1) (onDisk first disk).2 :=
  rfl

theorem onDisk_change_of_ok {edit : Disk → Except Failure Disk} {disk next : Disk} (edited : edit disk = .ok next) :
    onDisk (Disk.change edit) disk = (.ok (), next) := by
  simp [onDisk, Disk.change, edited]

theorem onDisk_change_of_error {edit : Disk → Except Failure Disk} {disk : Disk} {failure : Failure}
    (failed : edit disk = .error failure) : onDisk (Disk.change edit) disk = (.error failure, disk) := by
  simp [onDisk, Disk.change, failed]

theorem onDisk_kindOf (path : Path) (disk : Disk) : onDisk (Files.kindOf path) disk = (disk.kindOf path, disk) :=
  rfl

theorem onDisk_read (path : Path) (disk : Disk) : onDisk (Files.read path) disk = (disk.read path, disk) :=
  rfl

namespace EventLog

def bytesIn (folder : Path) (disk : Disk) : Bytes :=
  (disk.content? (Project.logPath folder)).getD []

/-- The files after some records have been written, each through a log of its own. -/
def afterWrites (disk : Disk) (writes : List (EventLog × Log.Record)) : Disk :=
  writes.foldl (fun disk write => (onDisk (write.1.write write.2) disk).2) disk

structure Ready (disk : Disk) (folder : Path) (content : Bytes) : Prop where
  folders : ∀ path ∈ (Project.logFolder folder).trail, disk.kindOf path = some .folder
  holds : disk.Holds (Project.logPath folder) content

variable {folder : Path} {disk start : Disk} {content : Bytes} {log : EventLog} {record : Log.Record}

theorem onDisk_openIn_of_ok {window : Int} (made : start.makeFolder (Project.logFolder folder) = .ok disk) :
    onDisk (openIn folder window) start = (.ok ⟨Project.logPath folder, window⟩, disk) := by
  have folders : onDisk (Files.makeFolder (Project.logFolder folder)) start = (.ok (), disk) := onDisk_change_of_ok made
  rw [openIn, onDisk_bind, folders]
  rfl

theorem makeFolder_of_openIn {window : Int} (opened : onDisk (openIn folder window) start = (.ok log, disk)) :
    start.makeFolder (Project.logFolder folder) = .ok disk := by
  cases made : start.makeFolder (Project.logFolder folder) with
  | error failure =>
    have folders : onDisk (Files.makeFolder (Project.logFolder folder)) start = (.error failure, start) :=
      onDisk_change_of_error made
    rw [openIn, onDisk_bind, folders] at opened
    cases opened
  | ok next =>
    rw [onDisk_openIn_of_ok made] at opened
    exact congrArg Except.ok (Prod.mk.inj opened).2

theorem ready_of_openIn {window : Int} (nothing : start.kindOf (Project.logPath folder) = none)
    (opened : onDisk (openIn folder window) start = (.ok log, disk)) : Ready disk folder [] := by
  obtain ⟨files, folders⟩ := Disk.makeFolders_eq_ok (makeFolder_of_openIn opened)
  have named : (Project.logFolder folder).names ≠ [] := by simp [Project.logFolder, Path.child]
  refine ⟨fun path member => (folders path).mpr (Or.inl member), ⟨?_, ?_, ?_⟩⟩
  · rw [Project.logPath, Path.parent_child]
    exact (folders _).mpr (Or.inl (Path.self_mem_trail named))
  -- the log is no folder: those that were made lead to its own folder, and their paths are shorter
  · intro folderThere
    rcases (folders _).mp folderThere with member | before
    · have shorter := Path.length_le_of_mem_trail member
      simp [Project.logPath, Path.child] at shorter
    · rw [nothing] at before
      cases before
  · rw [Disk.content?, files]
    exact congrArg (·.getD []) (Disk.content_of_kindOf_none nothing)

theorem Ready.openIn (ready : Ready disk folder content) (window : Int) :
    onDisk (EventLog.openIn folder window) disk = (.ok ⟨Project.logPath folder, window⟩, disk) :=
  onDisk_openIn_of_ok (Disk.makeFolders_of_folders ready.folders)

theorem Ready.write (ready : Ready disk folder content) (here : log.path = Project.logPath folder)
    (short : record.fits = true) :
    ∃ next, onDisk (log.write record) disk = (.ok (), next) ∧ Ready next folder (content ++ Log.lineOf record.body) := by
  obtain ⟨next, appended, holds, same⟩ := ready.holds.append (Log.lineOf record.body)
  have written : onDisk (Files.append (Project.logPath folder) (Log.lineOf record.body)) disk = (.ok (), next) :=
    onDisk_change_of_ok appended
  refine ⟨next, ?_, ⟨fun path member => ?_, holds⟩⟩
  · rw [EventLog.write, Log.Record.bytes_of_fits short, here, written]
  · exact (Disk.kindOf_eq_folder_congr same).mpr (ready.folders path member)

theorem write_of_long (valid : record.isValid = true) (long : record.fits = false) :
    onDisk (log.write record) disk = (.error .unreadable, disk) := by
  rw [write, Log.Record.bytes_of_long valid long]
  rfl

theorem Ready.read (ready : Ready disk folder content) (here : log.path = Project.logPath folder) (filter : Log.Filter)
    (limit : Int) : onDisk (log.read filter limit) disk = (Log.read log.window filter limit content, disk) := by
  have held : onDisk log.content disk = (.ok content, disk) := by
    rw [EventLog.content, onDisk_bind, onDisk_kindOf, here]
    cases kind : disk.kindOf (Project.logPath folder) with
    | none =>
      have empty := ready.holds.content
      rw [Disk.content_of_kindOf_none kind] at empty
      rw [← empty]
      rfl
    | some _ =>
      change onDisk (Files.read _) disk = _
      rw [onDisk_read, ready.holds.read (by simp [kind])]
  rw [EventLog.read, onDisk_bind, held]
  rfl

def kept (writes : List (EventLog × Log.Record)) : List Log.Record :=
  (writes.map (·.2)).filter Log.Record.fits

theorem fits_of_mem_kept {writes : List (EventLog × Log.Record)} : ∀ record ∈ kept writes, record.fits = true :=
  fun _ member => (List.mem_filter.mp member).2

theorem Ready.afterWrites {writes : List (EventLog × Log.Record)} (ready : Ready disk folder content)
    (here : ∀ write ∈ writes, write.1.path = Project.logPath folder)
    (valid : ∀ write ∈ writes, write.2.isValid = true) :
    Ready (afterWrites disk writes) folder (content ++ Log.contentOf (kept writes)) := by
  induction writes generalizing disk content with
  | nil =>
    rw [kept, List.map_nil, List.filter_nil, Log.contentOf, List.flatMap_nil, List.append_nil]
    exact ready
  | cons write rest ih =>
    obtain ⟨ownPlace, places⟩ := List.forall_mem_cons.mp here
    obtain ⟨own, later⟩ := List.forall_mem_cons.mp valid
    rw [EventLog.afterWrites, List.foldl_cons, kept, List.map_cons, List.filter_cons]
    cases short : write.2.fits with
    | false =>
      rw [write_of_long own short]
      exact ih ready places later
    | true =>
      obtain ⟨next, written, after⟩ := ready.write ownPlace short
      rw [written, if_pos rfl, Log.contentOf, List.flatMap_cons, ← List.append_assoc]
      exact ih after places later

/-- To write a record that fits adds its line, which nothing in the record breaks; to write any other one fails
and changes nothing. -/
def AddsItsLine (folder : Path) (disk : Disk) (log : EventLog) (record : Log.Record) : Prop :=
  if record.fits then
    ∃ next, onDisk (log.write record) disk = (.ok (), next) ∧
      bytesIn folder next = bytesIn folder disk ++ Log.lineOf record.body ∧ Log.Unbroken record.body
  else onDisk (log.write record) disk = (.error .unreadable, disk)

theorem Ready.addsItsLine (ready : Ready disk folder content) (here : log.path = Project.logPath folder)
    (valid : record.isValid = true) : AddsItsLine folder disk log record := by
  unfold AddsItsLine
  split
  next short =>
    obtain ⟨next, written, after⟩ := ready.write here short
    refine ⟨next, written, ?_, Log.unbroken_of_printable (Log.Record.line_of_fits short).2.1⟩
    rw [bytesIn, after.holds.content, bytesIn, ready.holds.content]
  next long => exact write_of_long valid (by simpa using long)

/-- Whatever logs of an empty folder write, in whatever order: each write of a record that fits adds one line, to
open the log again at any time changes nothing, and what is read are, newest first, the records that the filter
asks for among those in the window, which are the last ones written. Each is read with its context as it was. -/
theorem read_of_writes {window : Int} (nothing : start.kindOf (Project.logPath folder) = none)
    (opened : onDisk (openIn folder window) start = (.ok log, disk)) {writes : List (EventLog × Log.Record)}
    (here : ∀ write ∈ writes, write.1.path = Project.logPath folder)
    (valid : ∀ write ∈ writes, write.2.isValid = true) :
    (∀ before write after, writes = before ++ write :: after →
      AddsItsLine folder (afterWrites disk before) write.1 write.2 ∧
        write.2.toValue.sorted = .record write.2.entry) ∧
    (∀ before after, writes = before ++ after → ∀ window, onDisk (openIn folder window) (afterWrites disk before)
      = (.ok ⟨Project.logPath folder, window⟩, afterWrites disk before)) ∧
    bytesIn folder (afterWrites disk writes) = Log.contentOf (kept writes) ∧
    ∀ window filter (limit : Nat),
      onDisk (read ⟨Project.logPath folder, window⟩ filter limit) (afterWrites disk writes)
        = (.ok ((((Log.inWindow window (kept writes)).filter filter.admits).map (·.toValue.sorted)).reverse.take
            (min limit 2000)), afterWrites disk writes) ∧
      ∃ count, Log.inWindow window (kept writes) = (kept writes).drop count := by
  have fresh := ready_of_openIn nothing opened
  have reached (before : List (EventLog × Log.Record)) (among : ∀ write ∈ before, write ∈ writes) :
      Ready (afterWrites disk before) folder (Log.contentOf (kept before)) :=
    fresh.afterWrites (fun write member => here write (among write member))
      fun write member => valid write (among write member)
  have whole := reached writes fun write member => member
  refine ⟨?_, ?_, whole.holds.content, fun window filter limit => ⟨?_, ?_⟩⟩
  · rintro before write after rfl
    have own := valid write (by simp)
    have ready := reached before fun write member => by simp [member]
    exact ⟨ready.addsItsLine (here write (by simp)) own, Log.Record.sorted_toValue own⟩
  · rintro before after rfl window
    exact (reached before fun write member => by simp [member]).openIn window
  · rw [whole.read rfl, Log.read_contentOf fits_of_mem_kept]
  · obtain ⟨count, newest, _⟩ := Log.tail_contentOf fits_of_mem_kept window
    exact ⟨count, newest⟩

def sample (level : EventLevel) : Log.Record :=
  ⟨1, "t".toList, ⟨level, .formulaFailed, [("n".toList, .integer 5)], "\u2028".toList, none⟩⟩

theorem valid_sample (level : EventLevel) : (sample level).isValid = true ∧ (sample level).fits = true := by
  cases level <;> decide

theorem body_sample (level : EventLevel) : (sample level).body =
    "\x7b\"context\": \x7b\"n\": 5\x7d, \"error_code\": null, \"event_type\": \"formula_failed\", \"level\": ".toList
      ++ Json.writeText level.text
      ++ ", \"message\": \"\\u2028\", \"schema_version\": 1, \"ts\": \"t\"\x7d".toList := by
  have context : (Value.record [("n".toList, Value.integer 5)]).sorted = .record [("n".toList, .integer 5)] := by
    simp [Value.sorted, Value.sortedFields, Value.integer]
  rw [Log.Record.body, Log.Record.sorted_toValue (valid_sample level).1, Log.Record.entry_eq]
  simp only [Log.Record.fields, sample, Value.sortedFields, context]
  cases level <;> decide +kernel

theorem length_sample :
    (Log.lineOf (sample .info).body).length = 144 ∧ (Log.lineOf (sample .error).body).length = 145 := by
  rw [body_sample, body_sample]
  decide +kernel

theorem read_of_writes_two :
    let folder : Path := ⟨false, ["p".toList]⟩
    let log : EventLog := ⟨Project.logPath folder, 146⟩
    let disk := (onDisk (openIn folder 145) ⟨[], [folder]⟩).2
    let later := afterWrites disk [(log, sample .info), (⟨log.path, 0⟩, sample .error)]
    onDisk (read ⟨log.path, 145⟩ {} (7 : Nat)) later = (.ok [], later) ∧
      onDisk (log.read {} (7 : Nat)) later = (.ok [(sample .error).toValue.sorted], later) := by
  intro folder log disk later
  have nothing : (⟨[], [folder]⟩ : Disk).kindOf (Project.logPath folder) = none := by decide
  have opened : onDisk (openIn folder 145) ⟨[], [folder]⟩ = (.ok ⟨log.path, 145⟩, disk) := rfl
  have here : ∀ write ∈ [(log, sample .info), (⟨log.path, 0⟩, sample .error)], write.1.path = log.path := by simp
  have valid : ∀ write ∈ [(log, sample .info), (⟨log.path, 0⟩, sample .error)], write.2.isValid = true := by
    simp [valid_sample]
  obtain ⟨_, _, _, reads⟩ := read_of_writes nothing opened here valid
  have both : kept [(log, sample .info), (⟨log.path, 0⟩, sample .error)] = [sample .info, sample .error] := by
    simp [kept, valid_sample]
  have outside : Log.inWindow 145 [sample .info, sample .error] = [] := by
    simp [Log.inWindow, Log.reaches, Log.contentOf, length_sample]
  have inside : Log.inWindow 146 [sample .info, sample .error] = [sample .error] := by
    simp [Log.inWindow, Log.reaches, Log.contentOf, length_sample]
  rw [both] at reads
  constructor
  · rw [(reads 145 {} 7).1, outside]
    rfl
  · rw [(reads 146 {} 7).1, inside]
    rfl

theorem fits_pow : Text.fits (10 ^ Text.digitLimit) = false := by
  have magnitude (count : Nat) : (10 ^ count : Int).natAbs = 10 ^ count := Int.natAbs_pow 10 count
  rw [Text.fits, magnitude]
  exact decide_eq_false (Text.not_short_pow (Nat.le_refl _))

theorem write_long_integer :
    let record : Log.Record :=
      ⟨1, "t".toList, ⟨.info, .formulaFailed, [("n".toList, .integer (10 ^ Text.digitLimit))], [], none⟩⟩
    let folder : Path := ⟨false, ["p".toList]⟩
    let disk : Disk := ⟨[], [Project.logFolder folder, folder]⟩
    record.isValid = true ∧
      onDisk (EventLog.write ⟨Project.logPath folder, Log.defaultWindow⟩ record) disk = (.error .unreadable, disk) := by
  intro record folder disk
  have valid : record.isValid = true := rfl
  have long : record.fits = false := by
    change (Text.fits 1 && (true && (Text.fits (10 ^ Text.digitLimit) && true))) = false
    rw [fits_pow]
    rfl
  exact ⟨valid, write_of_long valid long⟩

end EventLog

end Worksheet.Command
