/-
Which files an answer depends on, and what a file tree gives back.

An invocation is answered from a configuration, a mask and a script. The mask may be named
by the configuration, so the files that count are known only as they are read. Files that
agree with others on those paths give the same answer (`Invocation.answer_congr`), and so
does what is gathered by reading them one after the other (`Invocation.answer_gather`).

In a file tree a path is followed part by part. A file that was written is read back if no
file stands on the way to it, and whatever could be read before is still read afterwards,
unless it stood at the place of the new file or below it.
-/
import CityScript.CommandLine.Plan

set_option autoImplicit false

namespace CityScript

/-! ## The files that count -/

namespace Inputs

variable {i j : Inputs}

theorem config_congr {path : Option String} (h : ∀ p ∈ path, i.files p = j.files p) :
    i.config path = j.config path := by
  cases path with
  | none => rfl
  | some path => simp only [config, h path rfl]

theorem mask_congr {size : Option Nat} {path : Option String}
    (h : ∀ p ∈ path, i.files p = j.files p) : i.mask size path = j.mask size path := by
  cases path with
  | none => rfl
  | some path => simp only [mask, maskFile, h path rfl]

theorem script_congr {path : String}
    (h : if Path.isDash path then i.stdin = j.stdin else i.files path = j.files path) :
    i.script path = j.script path := by
  unfold script
  split at h
  · rw [if_pos ‹_›, if_pos ‹_›, h]
  · rw [if_neg ‹_›, if_neg ‹_›, h]

end Inputs

namespace Invocation

/-- Inputs that agree on all that an invocation reads. -/
structure Agree (invocation : Invocation) (i j : Inputs) : Prop where
  config : ∀ path ∈ invocation.configPath?, i.files path = j.files path
  mask : ∀ path ∈ invocation.maskPath? i.files, i.files path = j.files path
  script : ∀ path ∈ invocation.script?,
    if Path.isDash path then i.stdin = j.stdin else i.files path = j.files path

/-- **An answer depends only on the files that are read.** -/
theorem answer_congr {invocation : Invocation} {i j : Inputs} (h : invocation.Agree i j) :
    invocation.answer i = invocation.answer j := by
  obtain ⟨output, quiet, verbose, config, command⟩ := invocation
  cases command with
  | run script options =>
    have hconfig : i.config config = j.config config := Inputs.config_congr h.config
    have hscript : i.script script = j.script script := Inputs.script_congr (h.script script rfl)
    have hsession : i.session config options = j.session config options := by
      unfold Inputs.session
      rw [hconfig]
      cases hc : j.config config with
      | error e => rfl
      | ok c =>
        -- the configuration names the mask unless the command line does
        have hread : (Inputs.mk i.files (.ok "")).config config = .ok c := by
          rw [← hc, ← hconfig]
          exact Inputs.config_congr fun _ _ => rfl
        have hmask : i.mask c.gridSize (options.mask <|> c.mask) =
            j.mask c.gridSize (options.mask <|> c.mask) := by
          refine Inputs.mask_congr fun path hpath => h.mask path ?_
          simpa [maskPath?, hread] using hpath
        change (i.mask c.gridSize (options.mask <|> c.mask)).bind _ =
          (j.mask c.gridSize (options.mask <|> c.mask)).bind _
        rw [hmask]
    simp only [answer, Inputs.run, hsession, hscript]
  | check script =>
    have hscript : i.script script = j.script script := Inputs.script_congr (h.script script rfl)
    simp only [answer, Inputs.check, hscript]
  | ops => rfl

end Invocation

/-! ## Reading one file after the other -/

namespace FilesRead

/-- What was read of files. -/
def ReadFrom (read : FilesRead) (files : Files) : Prop := ∀ entry ∈ read, entry.2 = files entry.1

/-- The paths of what was read. -/
def paths (read : FilesRead) : List String := read.map Prod.fst

variable {read : FilesRead} {files : Files}

/-- A file that was read has its text, whatever was read after it. -/
theorem toFiles_eq (h : read.ReadFrom files) {path : String} (hpath : path ∈ read.paths) :
    read.toFiles path = files path := by
  unfold paths at hpath
  unfold toFiles
  induction read with
  | nil => cases hpath
  | cons entry read ih =>
    obtain ⟨hentry, hread⟩ := List.forall_mem_cons.mp h
    obtain ⟨first, text⟩ := entry
    by_cases hp : path = first
    · subst hp
      rw [List.lookup_cons_self]
      exact hentry
    · have hrest : path ∈ read.map Prod.fst := by simpa [hp] using hpath
      have hskip : List.lookup path ((first, text) :: read) = List.lookup path read := by
        rw [List.lookup_cons, beq_false_of_ne hp]
      rw [hskip]
      exact ih hread hrest

theorem readFrom_readNext (h : read.ReadFrom files) (path : Option String) :
    ReadFrom (read.readNext (m := Id) files path) files := by
  cases path with
  | none => exact h
  | some path => exact List.forall_mem_cons.mpr ⟨rfl, h⟩

theorem mem_paths_readNext_self {path : Option String} {p : String} (hp : p ∈ path) :
    p ∈ paths (read.readNext (m := Id) files path) := by
  obtain rfl := Option.mem_def.mp hp
  exact List.mem_cons_self

theorem mem_paths_readNext {p : String} (hp : p ∈ read.paths) (path : Option String) :
    p ∈ paths (read.readNext (m := Id) files path) := by
  cases path with
  | none => exact hp
  | some path => exact List.mem_cons_of_mem _ hp

end FilesRead

namespace Invocation

theorem maskPath?_congr {invocation : Invocation} {files files' : Files}
    (h : ∀ path ∈ invocation.configPath?, files path = files' path) :
    invocation.maskPath? files = invocation.maskPath? files' := by
  obtain ⟨output, quiet, verbose, config, command⟩ := invocation
  cases command with
  | run script options =>
    have hconfig : (Inputs.mk files (.ok "")).config config =
        (Inputs.mk files' (.ok "")).config config := Inputs.config_congr h
    simp only [maskPath?, hconfig]
  | check script => rfl
  | ops => rfl

variable {files : Files} {invocation : Invocation}

/-- What is read before the mask is known. -/
def configRead (files : Files) (invocation : Invocation) : FilesRead :=
  FilesRead.readNext (m := Id) files [] invocation.configPath?

/-- What is read before the script. -/
def maskRead (files : Files) (invocation : Invocation) : FilesRead :=
  (invocation.configRead files).readNext (m := Id) files
    (invocation.maskPath? (invocation.configRead files).toFiles)

/-- All that is read of files. A dash is no file. -/
def filesRead (files : Files) (invocation : Invocation) : FilesRead :=
  (invocation.maskRead files).readNext (m := Id) files
    (invocation.script?.filter fun path => !Path.isDash path)

theorem readFrom_configRead : (invocation.configRead files).ReadFrom files := by
  refine FilesRead.readFrom_readNext ?_ _
  rintro entry ⟨⟩

theorem readFrom_filesRead : (invocation.filesRead files).ReadFrom files :=
  FilesRead.readFrom_readNext (FilesRead.readFrom_readNext readFrom_configRead _) _

/-- Inputs agree on what counts if they agree on all files that are read, and on the standard
input if that is the script. -/
theorem agree_of_filesRead {i j : Inputs}
    (hfiles : ∀ path ∈ (invocation.filesRead i.files).paths, i.files path = j.files path)
    (hstdin : ∀ path ∈ invocation.script?, Path.isDash path = true → i.stdin = j.stdin) :
    invocation.Agree i j where
  config := fun path hpath => hfiles path (FilesRead.mem_paths_readNext
    (FilesRead.mem_paths_readNext (FilesRead.mem_paths_readNext_self hpath) _) _)
  mask := by
    intro path hpath
    have hmask : invocation.maskPath? (invocation.configRead i.files).toFiles =
        invocation.maskPath? i.files :=
      maskPath?_congr fun path hpath =>
        FilesRead.toFiles_eq readFrom_configRead (FilesRead.mem_paths_readNext_self hpath)
    rw [← hmask] at hpath
    exact hfiles path (FilesRead.mem_paths_readNext (FilesRead.mem_paths_readNext_self hpath) _)
  script := by
    intro path hpath
    split
    · next hdash => exact hstdin path hpath hdash
    · next hdash =>
      refine hfiles path (FilesRead.mem_paths_readNext_self ?_)
      rw [Option.mem_def.mp hpath]
      simp [hdash]

theorem gather_files (i : Inputs) :
    (invocation.gather (m := Id) i.files i.stdin : Inputs).files =
      (invocation.filesRead i.files).toFiles := by
  unfold gather filesRead maskRead configRead
  cases invocation.script? with
  | none => rfl
  | some path =>
    by_cases hdash : Path.isDash path = true
    · have hfilter : (some path).filter (fun path => !Path.isDash path) = none := by simp [hdash]
      simp only [hfilter, hdash, if_true]
      rfl
    · have hfilter : (some path).filter (fun path => !Path.isDash path) = some path := by
        simp [hdash]
      simp only [hfilter, if_neg hdash]
      rfl

theorem gather_stdin (i : Inputs) {path : String} (hscript : path ∈ invocation.script?)
    (hdash : Path.isDash path = true) :
    (invocation.gather (m := Id) i.files i.stdin : Inputs).stdin = i.stdin := by
  unfold gather
  rw [Option.mem_def.mp hscript]
  simp only [hdash, if_true]
  rfl

/-- **Gathering is enough**: read one after the other, the files give the same answer. -/
theorem answer_gather (i : Inputs) (invocation : Invocation) :
    invocation.answer (invocation.gather (m := Id) i.files i.stdin) = invocation.answer i := by
  refine (answer_congr (agree_of_filesRead ?_ ?_)).symm
  · intro path hpath
    rw [gather_files, FilesRead.toFiles_eq readFrom_filesRead hpath]
  · intro path hscript hdash
    exact (gather_stdin i hscript hdash).symm

end Invocation

/-! ## File trees in memory -/

namespace FileTree

variable {t : FileTree} {bytes found : ByteArray}

/-- A part of a path that leads to a folder or a file below. -/
def IsName (part : String) : Prop := Path.isIdle part = false ∧ part ≠ ".."

theorem mem_placesAlong_self (place : List String) (parts : List String) :
    place ∈ placesAlong place parts := by
  cases parts with
  | nil => exact List.mem_singleton_self place
  | cons part rest => exact List.mem_cons_self

/-- **A path is followed to its file** if there are folders on the way and no files. -/
theorem follow_of_lookup {place parts : List String}
    (hlast : ∀ part ∈ parts.getLast?, IsName part) (hne : parts ≠ [])
    (hshort : ∀ part ∈ parts, part.utf8ByteSize ≤ 255)
    (hfolders : ∀ q ∈ placesAlong place parts.dropLast, q ∈ t.folders)
    (hfree : ∀ q ∈ placesAlong place parts.dropLast, t.files.lookup q = none)
    (hfile : t.files.lookup (parts.foldl step place) = some bytes) :
    t.follow place parts = .ok bytes := by
  induction parts generalizing place with
  | nil => exact absurd rfl hne
  | cons part rest ih =>
    obtain ⟨hpart, hshort⟩ := List.forall_mem_cons.mp hshort
    have hlong : ¬ 255 < part.utf8ByteSize := by omega
    cases rest with
    | nil =>
      obtain ⟨hidle, hparent⟩ := hlast part rfl
      have hfile : t.files.lookup (step place part) = some bytes := hfile
      simp [follow, hidle, hparent, hlong, hfile]
    | cons next rest =>
      have hmem : ∀ q ∈ placesAlong (step place part) (next :: rest).dropLast,
          q ∈ placesAlong place (part :: next :: rest).dropLast :=
        fun q hq => List.mem_cons_of_mem _ hq
      have hrest := ih hlast (List.cons_ne_nil _ _) hshort (fun q hq => hfolders q (hmem q hq))
        (fun q hq => hfree q (hmem q hq)) hfile
      have hstep := hmem _ (mem_placesAlong_self _ _)
      rw [follow]
      split
      · exact hrest
      · rw [hfree _ hstep]
        exact (if_pos (hfolders _ hstep)).trans hrest

/-- The path of a file that a system accepts: it is short enough, and so are the names in it,
the last of which is the name of the file. -/
structure IsFilePath (path : String) : Prop where
  nonempty : path ≠ ""
  noNul : '\x00' ∉ path.toList
  short : path.utf8ByteSize < 4096
  names : ∀ part ∈ Path.parts path, part.utf8ByteSize ≤ 255
  last : ∀ part ∈ (Path.parts path).getLast?, IsName part

theorem parts_ne_nil (path : String) : Path.parts path ≠ [] := by
  have hne : ∀ cs, Path.splitSlashes cs ≠ [] := by
    intro cs
    unfold Path.splitSlashes
    split <;> simp
  simp [Path.parts, hne]

theorem read_eq {path : String} (h : IsFilePath path) :
    t.read path = (t.follow (t.start path) (Path.parts path)).bind decodeText := by
  rw [read, if_neg h.noNul, if_neg h.nonempty, if_neg (Nat.not_le.mpr h.short)]

/-- **A file that was written is read back**, if no file stands on the way to it. -/
theorem read_write {path : String} (hpath : IsFilePath path)
    (hfree : ∀ q ∈ t.placesBefore path, (t.write path bytes).files.lookup q = none) :
    (t.write path bytes).read path = decodeText bytes := by
  have hfollow : (t.write path bytes).follow (t.start path) (Path.parts path) = .ok bytes :=
    follow_of_lookup hpath.last (parts_ne_nil path) hpath.names
      (fun q hq => List.mem_append_left _ hq) hfree List.lookup_cons_self
  have hstart : (t.write path bytes).start path = t.start path := rfl
  rw [read_eq hpath, hstart, hfollow]
  rfl

/-- **What was on the way is still there**, if a file was written to another place that is no
folder. -/
theorem follow_write_of_ok {path : String} {place parts : List String}
    (hfolder : t.place path ∉ t.folders) (hplace : parts.foldl step place ≠ t.place path)
    (h : t.follow place parts = .ok found) :
    (t.write path bytes).follow place parts = .ok found := by
  have hother : ∀ q, q ≠ t.place path →
      (t.write path bytes).files.lookup q = t.files.lookup q := by
    intro q hq
    simp [write, List.lookup_cons, beq_false_of_ne hq]
  induction parts generalizing place with
  | nil => cases h
  | cons part rest ih =>
    rw [follow] at h ⊢
    split at h
    · rw [if_pos ‹_›]
      exact ih hplace h
    · split at h
      · cases h
      · rw [if_neg ‹_›, if_neg ‹_›]
        split at h
        · next b hb =>
          -- a file is at the end of the path, so it is not the one that was written
          split at h
          · next hrest =>
            subst hrest
            have hnext : step place part ≠ t.place path := hplace
            rw [hother _ hnext, hb]
            simpa using h
          · cases h
        · next hnone =>
          split at h
          · next hmem =>
            have hne : step place part ≠ t.place path := fun heq => hfolder (heq ▸ hmem)
            have hmem' : step place part ∈ (t.write path bytes).folders :=
              List.mem_append_right _ hmem
            rw [hother _ hne, hnone, if_pos hmem']
            exact ih hplace h
          · cases h

/-- **A file that could be read can be read after another one was written.** -/
theorem read_write_of_ne {path other : String} {text : String}
    (hfolder : t.place path ∉ t.folders) (hne : t.place other ≠ t.place path)
    (h : t.read other = .ok text) : (t.write path bytes).read other = .ok text := by
  unfold read at h ⊢
  split at h
  · cases h
  · split at h
    · cases h
    · split at h
      · cases h
      · rw [if_neg ‹_›, if_neg ‹_›, if_neg ‹_›]
        cases hfollow : t.follow (t.start other) (Path.parts other) with
        | error e =>
          rw [hfollow] at h
          cases h
        | ok found =>
          have hstart : (t.write path bytes).start other = t.start other := rfl
          rw [hfollow] at h
          rw [hstart, follow_write_of_ok hfolder hne hfollow]
          exact h

/-- **An answer does not change** when a file is written that is none of those that were read
for it. -/
theorem answer_write {path : String} {stdin : Except ReadError String} {invocation : Invocation}
    (hfolder : t.place path ∉ t.folders)
    (hread : ∀ other ∈ (invocation.filesRead t.read).paths,
      t.place other ≠ t.place path ∧ ∃ text, t.read other = .ok text) :
    invocation.answer ⟨(t.write path bytes).read, stdin⟩ =
      invocation.answer ⟨t.read, stdin⟩ := by
  have hagree : invocation.Agree ⟨t.read, stdin⟩ ⟨(t.write path bytes).read, stdin⟩ := by
    refine Invocation.agree_of_filesRead ?_ fun _ _ _ => rfl
    intro other hother
    obtain ⟨hne, text, htext⟩ := hread other hother
    exact htext.trans (read_write_of_ne hfolder hne htext).symm
  exact (Invocation.answer_congr hagree).symm

end FileTree

end CityScript
