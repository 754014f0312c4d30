import Mathlib
import StructSync.CommandLine.Logger
import StructSync.Sync

/-!
# Machines with files

`Machine.Files` says what a machine keeps in its files: what is written to a file is read from it,
and a file stays as it is as long as nothing is written to it. `Keeps` holds of the steps that leave
something of the machine as it is, and `Leaves` of those that leave the file of a path; the outputs
of a command do, log included, unless the log is kept in that file. `Machine.Disk` has the bytes of
the files, too. A `Shelf` is a machine of which all this is true.
-/

namespace StructSync

variable {α β ε τ : Type}

/-- The step leaves what is seen of the machine as it is. -/
def Keeps (seen : τ → β) (x : StateM τ α) : Prop := ∀ t, seen (x.run t).2 = seen t

/-- The step leaves what is at the path as it is. -/
def Leaves (content : τ → String → Option (Except FileFault String)) (path : String)
    (x : StateM τ α) : Prop :=
  ∀ t, content (x.run t).2 path = content t path

/-- The files of a machine: what is at a path, which is nothing or whatever reading it gives, and
which paths lead to different files. -/
structure Machine.Files (τ : Type) [Machine (StateM τ)] where
  content : τ → String → Option (Except FileFault String)
  Apart : String → String → Prop
  /-- A file is read as it is. -/
  readFile : ∀ {t path found}, content t path = some found →
    ((Machine.readFile path : StateM τ _).run t).1 = found
  fileExists : ∀ {t path},
    ((Machine.fileExists path : StateM τ _).run t).1 = (content t path).isSome
  /-- What was written is there. -/
  writeFile : ∀ {t path text}, ((Machine.writeFile path text : StateM τ _).run t).1 = .ok () →
    content ((Machine.writeFile path text : StateM τ _).run t).2 path = some (.ok text)
  /-- Writing to a file leaves the others as they are. -/
  writeFile_leaves : ∀ {path other text}, Apart path other →
    Leaves content other (Machine.writeFile path text : StateM τ _)
  appendFile_leaves : ∀ {path other text}, Apart path other →
    Leaves content other (Machine.appendFile path text : StateM τ _)
  readFile_leaves : ∀ {path other}, Leaves content other (Machine.readFile path : StateM τ _)
  fileExists_leaves : ∀ {path other}, Leaves content other (Machine.fileExists path : StateM τ _)
  print_leaves : ∀ {text other}, Leaves content other (Machine.print text : StateM τ _)
  printError_leaves : ∀ {text other}, Leaves content other (Machine.printError text : StateM τ _)
  ask_leaves : ∀ {prompt other}, Leaves content other (Machine.ask prompt : StateM τ _)
  timestamp_leaves : ∀ {other}, Leaves content other (Machine.timestamp : StateM τ _)

/-- The file in which the log is kept, if it is. -/
def Logger.file? : Logger → Option String
  | console _ _ _ file => file
  | filtered .. => none

namespace Keeps

variable {γ : Type} {seen : τ → γ}

theorem pure (a : α) : Keeps seen (pure a : StateM τ α) := fun _ => rfl

theorem bind {x : StateM τ α} {f : α → StateM τ β} (hx : Keeps seen x)
    (hf : ∀ a, Keeps seen (f a)) : Keeps seen (x >>= f) := by
  intro t
  rw [StateT.run_bind]
  exact (hf _ _).trans (hx t)

theorem forM {l : List α} {f : α → StateM τ Unit} (hf : ∀ a ∈ l, Keeps seen (f a)) :
    Keeps seen (l.forM f) := by
  induction l with
  | nil => exact .pure ()
  | cons a l ih =>
    obtain ⟨ha, hl⟩ := List.forall_mem_cons.1 hf
    exact ha.bind fun _ => ih hl

theorem syncAll {σ : Type} [Host σ] {confirm : Confirmer (StateM τ)}
    {tell : StructSchema → Logged (Except SyncError (Descriptor × Outcome)) → StateM τ Unit}
    (hconfirm : ∀ prompt, Keeps seen (confirm prompt))
    (htell : ∀ entry built, Keeps seen (tell entry built)) (structs : List StructSchema)
    (host : σ) : Keeps seen (StructSync.syncAll confirm tell structs host) := by
  induction structs generalizing host with
  | nil => exact .pure _
  | cons entry rest ih =>
    have hmaterialize (d : Descriptor) : Keeps seen (d.materialize confirm host) := by
      unfold Descriptor.materialize
      dsimp only
      split
      · exact (hconfirm _).bind fun _ => .pure _
      · exact .pure _
    have hbuild : Keeps seen (Descriptor.build confirm entry.name entry.fields host) := by
      unfold Descriptor.build
      dsimp only
      split
      · exact .pure _
      · exact (hmaterialize _).bind fun _ => .pure _
    rw [StructSync.syncAll]
    refine hbuild.bind fun built => (htell _ _).bind fun _ => ?_
    split
    · exact .pure _
    · exact ih _

end Keeps

namespace Leaves

variable {content : τ → String → Option (Except FileFault String)} {path : String}

theorem pure (a : α) : Leaves content path (pure a : StateM τ α) := fun _ => rfl

theorem bind {x : StateM τ α} {f : α → StateM τ β} (hx : Leaves content path x)
    (hf : ∀ a, Leaves content path (f a)) : Leaves content path (x >>= f) :=
  show Keeps (content · path) (x >>= f) from .bind hx hf

theorem forM {l : List α} {f : α → StateM τ Unit} (hf : ∀ a ∈ l, Leaves content path (f a)) :
    Leaves content path (l.forM f) :=
  show Keeps (content · path) (l.forM f) from .forM hf

end Leaves

/-! ### Outputs -/

section
variable [Machine (StateM τ)] {γ : Type} {seen : τ → γ}

/-- What is seen of the machine does not change when it reads, shows something or asks. -/
structure Machine.Still (seen : τ → γ) : Prop where
  readFile : ∀ path, Keeps seen (Machine.readFile path : StateM τ _)
  fileExists : ∀ path, Keeps seen (Machine.fileExists path : StateM τ _)
  print : ∀ text, Keeps seen (Machine.print text : StateM τ _)
  printError : ∀ text, Keeps seen (Machine.printError text : StateM τ _)
  ask : ∀ prompt, Keeps seen (Machine.ask prompt : StateM τ _)
  timestamp : Keeps seen (Machine.timestamp : StateM τ _)

/-- What is seen of the machine does not change when it reads or reports something. -/
structure Machine.Steady (seen : τ → γ) : Prop where
  readFile : ∀ path, Keeps seen (Machine.readFile path : StateM τ _)
  fileExists : ∀ path, Keeps seen (Machine.fileExists path : StateM τ _)
  printError : ∀ text, Keeps seen (Machine.printError text : StateM τ _)
  timestamp : Keeps seen (Machine.timestamp : StateM τ _)

theorem Machine.Still.steady (h : Machine.Still seen) : Machine.Steady seen :=
  ⟨h.readFile, h.fileExists, h.printError, h.timestamp⟩

namespace Logger

variable {logger : Logger}

/-- What is seen of the machine does not change when the log is kept. -/
def Unseen (seen : τ → γ) (logger : Logger) : Prop :=
  ∀ file ∈ logger.file?, ∀ text, Keeps seen (Machine.appendFile file text : StateM τ _)

theorem log_keeps (hsteady : Machine.Steady seen) (r : LogRecord) (file : Option String) :
    (∀ other ∈ file, ∀ text, Keeps seen (Machine.appendFile other text : StateM τ _)) →
    Keeps seen (match file with
      | some file =>
        if (Threshold.upTo .debug).allows r.level then do
          let time ← Machine.timestamp
          Machine.appendFile file (time ++ " " ++ r.line ++ "\n")
        else pure ()
      | none => pure () : StateM τ Unit) := by
  intro hlog
  cases file with
  | none => exact .pure _
  | some file =>
    dsimp only
    split
    · exact hsteady.timestamp.bind fun _ => hlog file rfl _
    · exact .pure _

theorem emit_keeps (hsteady : Machine.Steady seen) (hlog : logger.Unseen seen) (r : LogRecord) :
    Keeps seen (logger.emit r : StateM τ Unit) := by
  unfold emit
  cases logger with
  | console threshold named palette file =>
    dsimp only
    split
    · exact (hsteady.printError _).bind fun _ => log_keeps hsteady r file hlog
    · exact log_keeps hsteady r file hlog
  | filtered filter palette =>
    dsimp only
    split
    · exact hsteady.printError _
    · exact .pure _

theorem emitAll_keeps (hsteady : Machine.Steady seen) (hlog : logger.Unseen seen)
    (log : List LogRecord) : Keeps seen (logger.emitAll log : StateM τ Unit) :=
  .forM fun r _ => emit_keeps hsteady hlog r

end Logger

end

namespace Machine.Files

variable [Machine (StateM τ)] (files : Machine.Files τ) {path : String}

/-- The log is not kept in the file of the path. -/
def Unlogged (logger : Logger) (path : String) : Prop :=
  ∀ file ∈ logger.file?, files.Apart file path

theorem still (path : String) : Machine.Still (files.content · path) where
  readFile _ := files.readFile_leaves
  fileExists _ := files.fileExists_leaves
  print _ := files.print_leaves
  printError _ := files.printError_leaves
  ask _ := files.ask_leaves
  timestamp := files.timestamp_leaves

variable {files}

theorem Unlogged.unseen {logger : Logger} (h : files.Unlogged logger path) :
    logger.Unseen (files.content · path) := fun file hfile _ =>
  files.appendFile_leaves (h file hfile)

end Machine.Files

/-! ### Bytes -/

/-- The text that the bytes stand for, if they stand for one. -/
def textOfBytes (bytes : ByteArray) : Except FileFault String :=
  match String.fromUTF8? bytes with
  | some text => .ok text
  | none => .error .notText

theorem textOfBytes_toUTF8 (text : String) : textOfBytes text.toUTF8 = .ok text := by
  unfold textOfBytes String.fromUTF8? String.toUTF8
  rw [dif_pos text.isValidUTF8]
  rfl

/-- The files of a machine with their bytes: what is at a path, which is nothing, bytes, or
something that has none, and which paths lead to different files. -/
structure Machine.Disk (τ : Type) [Machine (StateM τ)] where
  bytes : τ → String → Option (Except FileFault ByteArray)
  Apart : String → String → Prop
  /-- What is read is the text of the bytes. -/
  readFile : ∀ {t path found}, bytes t path = some found →
    ((Machine.readFile path : StateM τ _).run t).1 = found.bind textOfBytes
  fileExists : ∀ {t path},
    ((Machine.fileExists path : StateM τ _).run t).1 = (bytes t path).isSome
  /-- What was written is there. -/
  writeFile : ∀ {t path text}, ((Machine.writeFile path text : StateM τ _).run t).1 = .ok () →
    bytes ((Machine.writeFile path text : StateM τ _).run t).2 path = some (.ok text.toUTF8)
  still : ∀ path, Machine.Still (bytes · path)
  /-- Writing to a file leaves the others as they are. -/
  writeFile_keeps : ∀ {path other text}, Apart path other →
    Keeps (bytes · other) (Machine.writeFile path text : StateM τ _)
  appendFile_keeps : ∀ {path other text}, Apart path other →
    Keeps (bytes · other) (Machine.appendFile path text : StateM τ _)

namespace Machine.Disk

variable [Machine (StateM τ)] (disk : Machine.Disk τ)

/-- What is at a path as it is read. -/
def content (t : τ) (path : String) : Option (Except FileFault String) :=
  (disk.bytes t path).map (·.bind textOfBytes)

theorem leaves_of_keeps {disk : Machine.Disk τ} {path : String} {x : StateM τ α}
    (h : Keeps (disk.bytes · path) x) : Leaves disk.content path x := by
  intro t
  unfold content
  rw [show disk.bytes (x.run t).2 path = disk.bytes t path from h t]

theorem content_of_bytes {t : τ} {path text : String}
    (h : disk.bytes t path = some (.ok text.toUTF8)) : disk.content t path = some (.ok text) := by
  rw [content, h]
  exact congrArg some (textOfBytes_toUTF8 text)

/-- The files as they are read. -/
def files : Machine.Files τ where
  content := disk.content
  Apart := disk.Apart
  readFile h := by
    obtain ⟨found, hfound, rfl⟩ := Option.map_eq_some_iff.1 h
    exact disk.readFile hfound
  fileExists := disk.fileExists.trans Option.isSome_map.symm
  writeFile h := disk.content_of_bytes (disk.writeFile h)
  writeFile_leaves h := leaves_of_keeps (disk.writeFile_keeps h)
  appendFile_leaves h := leaves_of_keeps (disk.appendFile_keeps h)
  readFile_leaves := leaves_of_keeps ((disk.still _).readFile _)
  fileExists_leaves := leaves_of_keeps ((disk.still _).fileExists _)
  print_leaves := leaves_of_keeps ((disk.still _).print _)
  printError_leaves := leaves_of_keeps ((disk.still _).printError _)
  ask_leaves := leaves_of_keeps ((disk.still _).ask _)
  timestamp_leaves := leaves_of_keeps (disk.still _).timestamp

end Machine.Disk

/-! ### Shelves -/

/-- Texts with their paths, of which the first at a path counts. -/
structure Shelf where
  texts : List (String × String)

namespace Shelf

def text? (shelf : Shelf) (path : String) : Option String := shelf.texts.lookup path

def put (shelf : Shelf) (path text : String) : Shelf := ⟨(path, text) :: shelf.texts⟩

theorem text?_put_self (shelf : Shelf) (path text : String) :
    (shelf.put path text).text? path = some text := by
  unfold text? put
  rw [List.lookup_cons_self]

theorem text?_put_of_ne (shelf : Shelf) {path other : String} (h : path ≠ other) (text : String) :
    (shelf.put path text).text? other = shelf.text? other := by
  unfold text? put
  rw [List.lookup_cons, beq_false_of_ne h.symm]

/-- A machine that has its files on a shelf, shows its output to nobody and says yes to all. -/
instance : Machine (StateM Shelf) where
  readFile path := fun shelf => (((shelf.text? path).map Except.ok).getD (.error .notFound), shelf)
  writeFile path text := fun shelf => (.ok (), shelf.put path text)
  appendFile path text := fun shelf => ((), shelf.put path ((shelf.text? path).getD "" ++ text))
  fileExists path := fun shelf => ((shelf.text? path).isSome, shelf)
  environment? _ := pure none
  outputIsTerminal := pure false
  print _ := pure ()
  printError _ := pure ()
  ask _ := pure ⟨.yes, []⟩
  timestamp := pure ""
  elapsed := pure ""

theorem still : Machine.Still (id : Shelf → Shelf) :=
  ⟨fun _ _ => rfl, fun _ _ => rfl, fun _ _ => rfl, fun _ _ => rfl, fun _ _ => rfl, fun _ => rfl⟩

def files : Machine.Files Shelf where
  content shelf path := (shelf.text? path).map Except.ok
  Apart path other := path ≠ other
  readFile {shelf path found} h := by
    show ((shelf.text? path).map Except.ok).getD _ = found
    rw [h]
    rfl
  fileExists {shelf path} := Option.isSome_map.symm
  writeFile {shelf path text} _ := by
    show ((shelf.put path text).text? path).map _ = _
    rw [text?_put_self]
    rfl
  writeFile_leaves h shelf := congrArg _ (text?_put_of_ne shelf h _)
  appendFile_leaves h shelf := congrArg _ (text?_put_of_ne shelf h _)
  readFile_leaves _ := rfl
  fileExists_leaves _ := rfl
  print_leaves _ := rfl
  printError_leaves _ := rfl
  ask_leaves _ := rfl
  timestamp_leaves _ := rfl

/-- The texts as bytes. -/
def disk : Machine.Disk Shelf where
  bytes shelf path := (shelf.text? path).map fun text => .ok text.toUTF8
  Apart path other := path ≠ other
  readFile {shelf path found} h := by
    obtain ⟨text, htext, rfl⟩ := Option.map_eq_some_iff.1 h
    show ((shelf.text? path).map Except.ok).getD _ = textOfBytes text.toUTF8
    rw [htext, textOfBytes_toUTF8]
    rfl
  fileExists {shelf path} := Option.isSome_map.symm
  writeFile {shelf path text} _ := by
    show ((shelf.put path text).text? path).map _ = _
    rw [text?_put_self]
    rfl
  still path := ⟨fun _ _ => rfl, fun _ _ => rfl, fun _ _ => rfl, fun _ _ => rfl, fun _ _ => rfl,
    fun _ => rfl⟩
  writeFile_keeps h shelf := congrArg _ (text?_put_of_ne shelf h _)
  appendFile_keeps h shelf := congrArg _ (text?_put_of_ne shelf h _)

end Shelf

end StructSync
