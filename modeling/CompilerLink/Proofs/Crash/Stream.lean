import CompilerLink.Crash.Log
import CompilerLink.Proofs.File.Footprint

/-! # What comes to the target of a crash log

A `Sheet` is what a crash log writes to: the files, the output streams and the place in its file.
`Sheet.Received` says that some content has come to the target and that nothing else has happened.

`Settles` says which target the settings ask for, and what stands at its head: nothing, or the
notice that there is no file. A log that `Follows` the settings settles on that one, by
`Follows.settles_resolve`. -/

namespace CompilerLink

/-! ### Bytes -/

/-- Buffers one behind the other. -/
def joined (buffers : List ByteArray) : ByteArray := buffers.foldr (· ++ ·) ByteArray.empty

/-- `joined` of no buffers is empty. -/
@[simp] theorem joined_nil : joined [] = ByteArray.empty := rfl

/-- `joined` puts the first buffer before the rest. -/
@[simp] theorem joined_cons (buffer : ByteArray) (rest : List ByteArray) :
    joined (buffer :: rest) = buffer ++ joined rest := rfl

/-- `Stream.content` grows by the bytes of an emission to that stream, and of no other. -/
theorem Stream.content_append_bytes (stream other : Stream) (emitted : List Emission)
    (buffer : ByteArray) :
    stream.content (emitted ++ [.bytes other buffer]) =
      if other = stream then stream.content emitted ++ buffer else stream.content emitted := by
  simp [Stream.content]

namespace Crash

/-! ### Writing to a target -/

/-- The path of a file target. -/
def Target.path? : Target → Option String
  | .console _ => none
  | .file _ path => some path

/-- What a crash log writes to, and how far it has come in its file. -/
structure Sheet where
  files : FileSystem
  emitted : List Emission := []
  offset : Nat := 0

namespace Sheet

/-- Write a buffer to a target. -/
def put (s : Sheet) (buffer : ByteArray) : Target → Sheet
  | .console stream => { s with emitted := s.emitted ++ [.bytes stream buffer] }
  | .file file _ =>
    { s with
      files := s.files.writeAt file s.offset buffer
      offset := s.offset + buffer.size }

/-- Since the files were `fs`, the target has received `content` and nothing else has been written,
created or emptied: a console gets its stream, and a file is a new or emptied one. -/
def Received (s : Sheet) (fs : FileSystem) (content : ByteArray) : Target → Prop
  | .console stream =>
    s.files = fs ∧
      ∀ other : Stream, other.content s.emitted = if stream = other then content else .empty
  | .file file path =>
    fs.OnlyWrote s.files path file content ∧ s.offset = content.size ∧
      ∀ other : Stream, other.content s.emitted = .empty

/-- `Received` is carried by `put` from `content` to `content ++ buffer`. -/
theorem Received.put {s : Sheet} {fs : FileSystem} {content : ByteArray} {target : Target}
    (h : s.Received fs content target) (buffer : ByteArray) :
    (s.put buffer target).Received fs (content ++ buffer) target := by
  cases target with
  | console stream =>
    obtain ⟨hfiles, hstreams⟩ := h
    refine ⟨hfiles, fun other => ?_⟩
    show other.content (s.emitted ++ [.bytes stream buffer]) = _
    rw [Stream.content_append_bytes, hstreams other]
    split <;> rfl
  | file file path =>
    -- The offset is the length of the content, so the buffer goes to its end.
    obtain ⟨hfiles, hoffset, hstreams⟩ := h
    refine ⟨?_, ?_, hstreams⟩
    · show fs.OnlyWrote (s.files.writeAt file s.offset buffer) path file (content ++ buffer)
      rw [hoffset]
      exact hfiles.writeAt buffer
    · show s.offset + buffer.size = (content ++ buffer).size
      rw [hoffset, ByteArray.size_append]

/-- `put` buffers to a target, one behind the other. -/
def putAll (s : Sheet) (buffers : List ByteArray) (target : Target) : Sheet :=
  buffers.foldl (fun s buffer => s.put buffer target) s

/-- `putAll` of no buffers does nothing. -/
@[simp] theorem putAll_nil (s : Sheet) (target : Target) : s.putAll [] target = s := rfl

/-- `putAll` puts the first buffer first. -/
@[simp] theorem putAll_cons (s : Sheet) (buffer : ByteArray) (rest : List ByteArray)
    (target : Target) :
    s.putAll (buffer :: rest) target = (s.put buffer target).putAll rest target := rfl

/-- `putAll` of two lists of buffers, one after the other. -/
theorem putAll_append (s : Sheet) (buffers rest : List ByteArray) (target : Target) :
    s.putAll (buffers ++ rest) target = (s.putAll buffers target).putAll rest target := by
  simp [putAll]

/-- `Received` is carried by `putAll` to the content with all buffers `joined` behind it. -/
theorem Received.putAll {s : Sheet} {fs : FileSystem} {content : ByteArray} {target : Target}
    (h : s.Received fs content target) (buffers : List ByteArray) :
    (s.putAll buffers target).Received fs (content ++ joined buffers) target := by
  induction buffers generalizing s content with
  | nil => simpa using h
  | cons buffer rest ih => simpa [ByteArray.append_assoc] using ih (h.put buffer)

end Sheet

/-! ### Settling on a target -/

/-- Which target the settings ask for in a process with the files at hand, and what stands at its
head. The file name is `crashFile` with the process id put in by `expandPid`. -/
inductive Settles (settings : Settings) (processId : String) (fs : FileSystem) :
    Target → ByteArray → Prop where
  /-- `crashToStdout` comes before everything else. -/
  | stdout (hout : settings.crashToStdout = true) :
      Settles settings processId fs (.console .stdout) .empty
  /-- `crashToStderr` comes before any file. -/
  | stderr (hout : settings.crashToStdout = false) (herr : settings.crashToStderr = true) :
      Settles settings processId fs (.console .stderr) .empty
  /-- The file `name` can be created. -/
  | named {name : String} {file : OpenFile} {fs' : FileSystem}
      (hout : settings.crashToStdout = false) (herr : settings.crashToStderr = false)
      (hname : name =
        expandPid processId (settings.crashFile.getD "bridge_err_pid%p_compiler.log"))
      (hcreate : fs.create name = .ok (file, fs')) :
      Settles settings processId fs (.file file name) .empty
  /-- `name` cannot be created, but it is relative and can be created in `tempDir`. -/
  | temporary {name : String} {fault : FileFault} {file : OpenFile} {fs' : FileSystem}
      (hout : settings.crashToStdout = false) (herr : settings.crashToStderr = false)
      (hname : name =
        expandPid processId (settings.crashFile.getD "bridge_err_pid%p_compiler.log"))
      (hfault : fs.create name = .error fault) (hrelative : Path.isAbsolute name = false)
      (hcreate : fs.create (Path.join fs.tempDir name) = .ok (file, fs')) :
      Settles settings processId fs (.file file (Path.join fs.tempDir name)) .empty
  /-- Neither can be created; the notice has the `message` of the first attempt's fault. -/
  | noFile {name : String} {fault : FileFault}
      (hout : settings.crashToStdout = false) (herr : settings.crashToStderr = false)
      (hname : name =
        expandPid processId (settings.crashFile.getD "bridge_err_pid%p_compiler.log"))
      (hfault : fs.create name = .error fault)
      (hlast : Path.isAbsolute name = true ∨
        ∃ fault', fs.create (Path.join fs.tempDir name) = .error fault') :
      Settles settings processId fs (.console .stdout)
        ("Can't open compiler library error report file. Error: " ++ fault.message ++
          "\nCompiler library error report will be written to console.\n").toUTF8

/-- A target of `Settles` that is a file has nothing at its head. -/
theorem Settles.head_eq_empty {settings : Settings} {processId : String} {fs : FileSystem}
    {file : OpenFile} {path : String} {heading : ByteArray}
    (h : Settles settings processId fs (.file file path) heading) : heading = .empty := by
  cases h <;> rfl

namespace Log

variable {log : Log} {fs : FileSystem} {settings : Settings} {processId : String}

/-- `log` goes by `settings` in the process `processId`, wherever its numbers, its target and its
offset stand. -/
structure Follows (log : Log) (settings : Settings) (processId : String) : Prop where
  toStdout_eq : log.toStdout = settings.crashToStdout
  toStderr_eq : log.toStderr = settings.crashToStderr
  fileName_eq : log.fileName =
    expandPid processId (settings.crashFile.getD "bridge_err_pid%p_compiler.log")

/-- `Log.ofSettings` follows the settings it was made from, whatever the thread numbers. -/
theorem follows_ofSettings (settings : Settings) (processId : String) (numbers : ThreadNumbers) :
    { Log.ofSettings settings processId with numbers }.Follows settings processId :=
  ⟨rfl, rfl, rfl⟩

/-- `createFile` succeeds with `name` itself, or else with `name` in the directory for temporary
files. -/
theorem createFile_eq_ok {name : String} {file : OpenFile} {path : String} {fs' : FileSystem}
    (h : createFile fs name = .ok (file, path, fs')) :
    (fs.create name = .ok (file, fs') ∧ path = name) ∨
      (∃ fault, fs.create name = .error fault) ∧ Path.isAbsolute name = false ∧
        path = Path.join fs.tempDir name ∧ fs.create path = .ok (file, fs') := by
  rw [createFile] at h
  cases hfirst : fs.create name with
  | ok made =>
    simp only [hfirst, Except.ok.injEq, Prod.mk.injEq] at h
    obtain ⟨rfl, rfl, rfl⟩ := h
    exact .inl ⟨rfl, rfl⟩
  | error fault =>
    -- The temporary directory is tried for a relative name only.
    cases hrelative : Path.isAbsolute name with
    | true => simp [hfirst, hrelative] at h
    | false =>
      cases hsecond : fs.create (Path.join fs.tempDir name) with
      | error fault' => simp [hfirst, hrelative, hsecond] at h
      | ok made =>
        simp only [hfirst, hrelative, hsecond, Bool.false_eq_true, if_false, Except.ok.injEq,
          Prod.mk.injEq] at h
        obtain ⟨rfl, rfl, rfl⟩ := h
        exact .inr ⟨⟨fault, rfl⟩, rfl, rfl, hsecond⟩

/-- `createFile` fails with the fault of the first attempt, if there is no second one or it fails as
well. -/
theorem createFile_eq_error {name : String} {fault : FileFault}
    (h : createFile fs name = .error fault) :
    fs.create name = .error fault ∧ (Path.isAbsolute name = true ∨
      ∃ fault', fs.create (Path.join fs.tempDir name) = .error fault') := by
  rw [createFile] at h
  cases hfirst : fs.create name with
  | ok made => simp [hfirst] at h
  | error first =>
    cases hrelative : Path.isAbsolute name with
    | true =>
      simp only [hfirst, hrelative, if_true, Except.error.injEq] at h
      -- An absolute name has one attempt, and its fault is passed on.
      exact ⟨congrArg _ h, .inl rfl⟩
    | false =>
      cases hsecond : fs.create (Path.join fs.tempDir name) with
      | ok made => simp [hfirst, hrelative, hsecond] at h
      | error second =>
        simp only [hfirst, hrelative, hsecond, Bool.false_eq_true, if_false,
          Except.error.injEq] at h
        -- The fault of the first attempt is passed on, not that of the second.
        exact ⟨congrArg _ h, .inr ⟨second, rfl⟩⟩

/-- `resolve` depends on the settings of the log and not on its numbers, its target or
its offset. -/
theorem resolve_with (log : Log) (numbers : ThreadNumbers) (settled : Option (Nat × Target))
    (offset : Nat) (fs : FileSystem) :
    { log with numbers, settled, offset }.resolve fs = log.resolve fs := by
  simp only [resolve, fileName]

/-- The `Sheet` once the log has found its target. -/
def firstSheet (log : Log) (fs : FileSystem) : Sheet :=
  ⟨(log.resolve fs).state, (log.resolve fs).emitted, 0⟩

/-- `notice` puts the error of a failed `create` between its two lines. -/
theorem notice_eq (fault : FileFault) :
    notice fault = "Can't open compiler library error report file. Error: " ++ fault.message ++
      "\nCompiler library error report will be written to console.\n" := by
  have hlines : "\n" ++ "Compiler library error report will be written to console.\n" =
      "\nCompiler library error report will be written to console.\n" := by decide
  unfold notice
  rw [String.append_assoc, hlines]

/-- A log that `Follows` the settings resolves to the target of `Settles`, and its head is all that
`resolve` has written. -/
theorem Follows.settles_resolve (h : log.Follows settings processId) (fs : FileSystem) :
    ∃ heading, Settles settings processId fs (log.resolve fs).value heading ∧
      (log.firstSheet fs).Received fs heading (log.resolve fs).value := by
  have hname := h.fileName_eq
  rw [firstSheet, resolve]
  -- The cases are those of `resolve` in its order, one constructor of `Settles` each.
  cases hout : log.toStdout with
  | true =>
    have hout' := h.toStdout_eq.symm.trans hout
    exact ⟨_, .stdout hout', rfl, fun other => by simp [Stream.content]⟩
  | false =>
  have hout' := h.toStdout_eq.symm.trans hout
  cases herr : log.toStderr with
  | true =>
    have herr' := h.toStderr_eq.symm.trans herr
    exact ⟨_, .stderr hout' herr', rfl, fun other => by simp [Stream.content]⟩
  | false =>
  have herr' := h.toStderr_eq.symm.trans herr
  cases hfile : createFile fs log.fileName with
  | ok made =>
    obtain ⟨file, path, fs'⟩ := made
    have hstreams : ∀ other : Stream, other.content
        [.remark {
          severity := .info
          component := .crashLog
          message := "Crash log file created"
          fields := [("path", .shown path)] }] = .empty := fun other => rfl
    rcases createFile_eq_ok hfile with ⟨hcreate, rfl⟩ | ⟨⟨fault, hfault⟩, hrelative, rfl, hcreate⟩
    · exact ⟨_, .named hout' herr' hname hcreate, FileSystem.onlyWrote_of_create hcreate, rfl,
        hstreams⟩
    · exact ⟨_, .temporary hout' herr' hname hfault hrelative hcreate,
        FileSystem.onlyWrote_of_create hcreate, rfl, hstreams⟩
  | error fault =>
    obtain ⟨hfault, hlast⟩ := createFile_eq_error hfile
    refine ⟨_, .noFile hout' herr' hname hfault hlast, rfl, fun other => ?_⟩
    simp [Stream.content, notice_eq]

end Log

end Crash

end CompilerLink
