import CompilerLink.File.System

/-! # What creating and writing change

`create` and `writeAt` change what stands at one place and nothing else, which is `SameElsewhere`.
`OnlyWrote` says this of a whole history: a file was created at a path and has been written to, and
all else is as it was. Then the path leads to the file. -/

namespace CompilerLink.FileSystem

variable {fs fs' fs'' : FileSystem} {l : Location} {path : String} {file : OpenFile}
  {content : ByteArray}

/-! ### One place -/

/-- Filtering a key out of an association list leaves `lookup` of every other key. -/
theorem lookup_filter_ne {l l' : Location} (hne : l' ≠ l) (nodes : List (Location × Node)) :
    (nodes.filter (·.1 ≠ l)).lookup l' = nodes.lookup l' := by
  induction nodes with
  | nil => rfl
  | cons entry nodes ih =>
    obtain ⟨place, node⟩ := entry
    by_cases hplace : place = l
    · -- The entry that is dropped is not the one looked for.
      subst hplace
      have hkey : (l' == place) = false := by simpa using hne
      simpa [List.lookup_cons, hkey] using ih
    · simp only [List.filter_cons, hplace, ne_eq, not_false_eq_true, decide_true, if_true,
        List.lookup_cons]
      cases l' == place
      · exact ih
      · rfl

/-- `place` changes `find?` at `l` and nowhere else. -/
theorem find?_place (hl : l ≠ []) (fs : FileSystem) (node : Node) (l' : Location) :
    (fs.place l node).find? l' = if l' = l then some node else fs.find? l' := by
  simp only [find?, place]
  -- The root has no node of its own, so it is treated apart.
  by_cases hroot : l' = []
  · have hne : ¬ ([] : Location) = l := fun heq => hl heq.symm
    simp [hroot, hne]
  · rw [if_neg hroot, if_neg hroot]
    by_cases heq : l' = l
    · simp [heq]
    · have hkey : (l' == l) = false := by simpa using heq
      simp only [List.lookup_cons, hkey, if_neg heq]
      exact lookup_filter_ne heq fs.nodes

/-- `fs'` differs from `fs` in nothing but what stands at `l`. -/
structure SameElsewhere (fs fs' : FileSystem) (l : Location) : Prop where
  find?_eq : ∀ l' ≠ l, fs'.find? l' = fs.find? l'
  workingDir_eq : fs'.workingDir = fs.workingDir
  workingDirRemoved_eq : fs'.workingDirRemoved = fs.workingDirRemoved
  tempDir_eq : fs'.tempDir = fs.tempDir

namespace SameElsewhere

/-- `SameElsewhere` composes, for one location. -/
theorem trans (h : fs.SameElsewhere fs' l) (h' : fs'.SameElsewhere fs'' l) :
    fs.SameElsewhere fs'' l where
  find?_eq l' hne := (h'.find?_eq l' hne).trans (h.find?_eq l' hne)
  workingDir_eq := h'.workingDir_eq.trans h.workingDir_eq
  workingDirRemoved_eq := h'.workingDirRemoved_eq.trans h.workingDirRemoved_eq
  tempDir_eq := h'.tempDir_eq.trans h.tempDir_eq

/-- `place` at `l` is `SameElsewhere`, whatever the next serial number is. -/
theorem place (hl : l ≠ []) (fs : FileSystem) (node : Node) (nextSerial : Nat) :
    fs.SameElsewhere { fs.place l node with nextSerial } l where
  find?_eq l' hne := (find?_place hl fs node l').trans (if_neg hne)
  workingDir_eq := rfl
  workingDirRemoved_eq := rfl
  tempDir_eq := rfl

/-- A name that leads to a directory still does after `SameElsewhere`, unless `l` was
a directory. -/
theorem step_eq (h : fs.SameElsewhere fs' l) (hl : fs.find? l ≠ some .directory)
    {dir next : Position} {name : String} (hstep : fs.step dir name = .ok next) :
    fs'.step dir name = .ok next := by
  rw [step] at hstep ⊢
  -- The special names stay within directories; any other name is looked up.
  split
  · rwa [if_pos ‹_›] at hstep
  · rename_i hdot
    rw [if_neg hdot] at hstep
    split
    · rwa [if_pos ‹_›] at hstep
    · rename_i hdots
      rw [if_neg hdots, entry] at hstep
      rw [entry]
      by_cases hremoved : dir.removed = true
      · rw [if_pos hremoved] at hstep
        exact nomatch hstep
      · rw [if_neg hremoved] at hstep ⊢
        by_cases hlong : name.utf8ByteSize > nameLimit
        · rw [if_pos hlong] at hstep
          exact nomatch hstep
        · rw [if_neg hlong] at hstep ⊢
          -- The name that `step` reads is a directory, so it does not stand at `l`.
          have hne : dir.location ++ [name] ≠ l := by
            rintro rfl
            cases hfind : fs.find? (dir.location ++ [name]) with
            | none => simp [hfind] at hstep
            | some node =>
              cases node with
              | directory => exact hl hfind
              | file serial content => simp [hfind] at hstep
          rw [h.find?_eq _ hne]
          exact hstep

/-- `step_eq` along a list of names. -/
theorem walk_eq (h : fs.SameElsewhere fs' l) (hl : fs.find? l ≠ some .directory)
    {names : List String} {dir last : Position} (hwalk : fs.walk dir names = .ok last) :
    fs'.walk dir names = .ok last := by
  induction names generalizing dir with
  | nil => exact hwalk
  | cons name names ih =>
    rw [walk] at hwalk ⊢
    -- A walk that succeeds has every step succeed, and each of them is one of the other files too.
    cases hstep : fs.step dir name with
    | error fault =>
      rw [hstep] at hwalk
      exact nomatch hwalk
    | ok next =>
      rw [hstep] at hwalk
      rw [h.step_eq hl hstep]
      exact ih hwalk

/-- `start` reads the working directory only, which `SameElsewhere` keeps. -/
theorem start_eq (h : fs.SameElsewhere fs' l) (path : String) : fs'.start path = fs.start path := by
  rw [start, start, h.workingDir_eq, h.workingDirRemoved_eq]

end SameElsewhere

/-! ### Creating a file -/

/-- Where `create` puts the file of a path: behind a walk along directories, at a name that stands
for no directory. -/
structure Creates (fs : FileSystem) (path : String) (file : OpenFile) : Prop where
  noNul : '\x00' ∉ path.toList
  nonempty : path ≠ ""
  short : ¬ pathLimit ≤ path.utf8ByteSize
  leads : ∃ name dir, (Path.names path).getLast? = some name ∧
    fs.walk (fs.start path) (Path.names path).dropLast = .ok dir ∧
    ¬ (Path.hasTrailingSlash path ∨ name = "." ∨ name = "..") ∧
    dir.removed = false ∧ ¬ name.utf8ByteSize > nameLimit ∧
    file.location = dir.location ++ [name]
  notDirectory : fs.find? file.location ≠ some .directory

/-- A file that was created does not stand at the root. -/
theorem Creates.location_ne_nil (h : fs.Creates path file) : file.location ≠ [] := by
  obtain ⟨name, dir, -, -, -, -, -, hlocation⟩ := h.leads
  simp [hlocation]

/-- `create` places an empty file where `Creates` says, and does nothing else. -/
theorem creates_of_create (hcreate : fs.create path = .ok (file, fs')) :
    fs.Creates path file ∧ ∃ nextSerial,
      fs' = { fs.place file.location (.file file.serial ByteArray.empty) with nextSerial } := by
  rw [create] at hcreate
  split at hcreate
  · exact nomatch hcreate
  split at hcreate
  · exact nomatch hcreate
  split at hcreate
  · exact nomatch hcreate
  rename_i hnul hnonempty hshort
  -- The name to create is the last one, and the walk goes along those before it.
  cases hname : (Path.names path).getLast? with
  | none => simp [hname] at hcreate
  | some name =>
  cases hwalk : fs.walk (fs.start path) (Path.names path).dropLast with
  | error fault => simp [hname, hwalk] at hcreate
  | ok dir =>
  by_cases hdots : Path.hasTrailingSlash path ∨ name = "." ∨ name = ".."
  · simp [hname, hwalk, hdots] at hcreate
  · simp only [hname, hwalk, if_neg hdots, entry] at hcreate
    by_cases hremoved : dir.removed = true
    · simp [hremoved] at hcreate
    by_cases hlong : name.utf8ByteSize > nameLimit
    · simp [hremoved, hlong] at hcreate
    rw [if_neg hremoved, if_neg hlong] at hcreate
    -- A file that is there is replaced under its own serial; a new one takes the next.
    cases hfind : fs.find? (dir.location ++ [name]) with
    | none =>
      simp only [hfind, Except.ok.injEq, Prod.mk.injEq] at hcreate
      obtain ⟨rfl, rfl⟩ := hcreate
      exact ⟨⟨hnul, hnonempty, hshort, ⟨name, dir, hname, hwalk, hdots, by simpa using hremoved,
        hlong, rfl⟩, by simp [hfind]⟩, fs.nextSerial + 1, rfl⟩
    | some node =>
      cases node with
      | directory => simp [hfind] at hcreate
      | file serial content =>
        simp only [hfind, Except.ok.injEq, Prod.mk.injEq] at hcreate
        obtain ⟨rfl, rfl⟩ := hcreate
        exact ⟨⟨hnul, hnonempty, hshort, ⟨name, dir, hname, hwalk, hdots, by simpa using hremoved,
          hlong, rfl⟩, by simp [hfind]⟩, fs.nextSerial, rfl⟩

/-- All that has happened since `fs` is that the file was created at its path and given
its content. -/
structure OnlyWrote (fs fs' : FileSystem) (path : String) (file : OpenFile)
    (content : ByteArray) : Prop where
  creates : fs.Creates path file
  same : fs.SameElsewhere fs' file.location
  find?_eq : fs'.find? file.location = some (.file file.serial content)

/-- `create` has `OnlyWrote` an empty file. -/
theorem onlyWrote_of_create (hcreate : fs.create path = .ok (file, fs')) :
    fs.OnlyWrote fs' path file ByteArray.empty := by
  obtain ⟨hcreates, nextSerial, rfl⟩ := creates_of_create hcreate
  have hl := hcreates.location_ne_nil
  refine ⟨hcreates, .place hl fs _ nextSerial, ?_⟩
  exact (find?_place hl fs _ _).trans (if_pos rfl)

/-! ### Writing to it -/

/-- `overwrite` at the end of a content appends to it. -/
theorem overwrite_size (content bytes : ByteArray) :
    overwrite content content.size bytes = content ++ bytes := by
  rw [overwrite]
  split
  · rename_i hempty
    have hbytes : bytes = ByteArray.empty := by
      rw [← ByteArray.size_eq_zero_iff]
      simpa [ByteArray.isEmpty] using hempty
    rw [hbytes, ByteArray.append_empty]
  · -- At the end of the content there is no gap to fill and nothing behind to keep.
    have hgap : ByteArray.mk (Array.replicate (content.size - content.size) 0) =
        ByteArray.empty := by
      rw [Nat.sub_self]
      rfl
    have hrest : content.extract (content.size + bytes.size) content.size = ByteArray.empty := by
      rw [ByteArray.extract_eq_empty_iff]
      omega
    rw [hgap, hrest, ByteArray.extract_zero_size, ByteArray.append_empty, ByteArray.append_empty]

/-- `writeAt` the end of a file is to `place` the longer content there. -/
theorem writeAt_size (h : fs.find? file.location = some (.file file.serial content))
    (bytes : ByteArray) :
    fs.writeAt file content.size bytes =
      fs.place file.location (.file file.serial (content ++ bytes)) := by
  rw [writeAt, h]
  simp only [if_true, overwrite_size]

/-- `writeAt` the end of a file appends to it, and every other location keeps what it had. -/
theorem find?_writeAt (h : fs.find? file.location = some (.file file.serial content))
    (bytes : ByteArray) (l : Location) :
    (fs.writeAt file content.size bytes).find? l =
      if l = file.location then some (.file file.serial (content ++ bytes)) else fs.find? l := by
  have hl : file.location ≠ [] := by
    intro hroot
    rw [hroot] at h
    exact nomatch h
  rw [writeAt_size h, find?_place hl]

namespace OnlyWrote

/-- `OnlyWrote` is carried by `writeAt` the end of the file to the longer content. -/
theorem writeAt (h : fs.OnlyWrote fs' path file content) (bytes : ByteArray) :
    fs.OnlyWrote (fs'.writeAt file content.size bytes) path file (content ++ bytes) := by
  obtain ⟨hcreates, hsame, hfind⟩ := h
  have hl := hcreates.location_ne_nil
  refine ⟨hcreates, ?_, ?_⟩
  · rw [writeAt_size hfind]
    exact hsame.trans (.place hl fs' _ fs'.nextSerial)
  · rw [find?_writeAt hfind, if_pos rfl]

/-- `lookup` of the path finds the file with its content, after `OnlyWrote`. -/
theorem lookup_eq (h : fs.OnlyWrote fs' path file content) :
    fs'.lookup path = .ok (.file file.serial content) := by
  obtain ⟨hcreates, hsame, hfind⟩ := h
  obtain ⟨hnul, hnonempty, hshort, ⟨name, dir, hname, hwalk, hdots, hremoved, hlong, hlocation⟩,
    hnot⟩ := hcreates
  -- The walk goes along directories, and the file that was written is none of them.
  have hwalk' : fs'.walk (fs'.start path) (Path.names path).dropLast = .ok dir := by
    rw [hsame.start_eq]
    exact hsame.walk_eq hnot hwalk
  rw [hlocation] at hfind
  rw [lookup, if_neg hnul, if_neg hnonempty, if_neg hshort, hname]
  simp only [hwalk', if_neg hdots, entry, hremoved, if_neg hlong, hfind]
  rfl

end OnlyWrote

end CompilerLink.FileSystem
