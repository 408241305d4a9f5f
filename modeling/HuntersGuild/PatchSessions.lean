import HuntersGuild.AsciiFields
import HuntersGuild.ByteStreams
import HuntersGuild.CheckedLoops
import HuntersGuild.Checksums
import HuntersGuild.DirectoryWalks
import HuntersGuild.StatefulPrograms
import Mathlib.Data.List.Chain
import Mathlib.Data.List.Nodup

/-!
A session of the patch server: it asks for the checksums of a client's files, and sends
the files that differ from its own.
-/

namespace HuntersGuild.PatchSessions

open HuntersGuild.ByteStreams (Exception)
open HuntersGuild.DirectoryWalks
open HuntersGuild.ExceptionRules
open HuntersGuild.StatefulPrograms

abbrev Name := List UInt8

/-! The server. -/

namespace PatchFileIndex

def chunkSize : Nat := 0x6000

/-- A file as it is loaded into the index. -/
structure File where
  pathDirectories : List Name
  name : Name
  loadedData : List UInt8
  size_lt : loadedData.length < 2 ^ 32
  deriving DecidableEq

variable (crc : List UInt8 → UInt32)

def File.size (self : File) : UInt32 := .ofNat self.loadedData.length

def File.crc32 (self : File) : UInt32 := crc (self.loadedData.take self.size.toNat)

def File.chunkCrcs (self : File) : List UInt32 :=
  (List.range ((self.loadedData.length + (chunkSize - 1)) / chunkSize)).map fun x =>
    crc ((self.loadedData.drop (x * chunkSize)).take
      (min (self.size.toNat - x * chunkSize) chunkSize))

end PatchFileIndex

open PatchFileIndex

structure PatchFileChecksumRequest where
  file : File
  crc32 : UInt32
  size : UInt32
  responseReceived : Bool

/-- What the server sends. The fields of the commands that are always zero are left out. -/
inductive Command where
  | openFile (size : UInt32) (filename : List UInt8)
  | writeFile (chunkIndex chunkChecksum chunkSize : UInt32) (data : List UInt8)
  | closeCurrentFile
  | enterDirectory (name : List UInt8)
  | exitDirectory
  | startSession
  | fileChecksumRequest (requestId : UInt32) (filename : List UInt8)
  | endOfChecksumRequests
  | startFileDownloads (totalBytes numFiles : UInt32)
  | endSession
  deriving DecidableEq

/-- `C_FileInformation_Patch_0F` -/
structure FileInformation where
  requestId : UInt32
  checksum : UInt32
  size : UInt32
  deriving DecidableEq

/-- A client of the server, and what was sent to it. -/
structure Client where
  patchFileChecksumRequests : List PatchFileChecksumRequest
  sent : List Command

abbrev Handler := EStateM Exception Client

def send (commands : List Command) : Handler PUnit :=
  modify fun c => { c with sent := c.sent ++ commands }

def sendPatchChangeToDirectory (clientPathDirectories filePathDirectories : List Name) :
    Handler (List Name) := do
  let (exits, kept) := leave filePathDirectories clientPathDirectories.reverse
  let clientPathDirectories := kept.reverse
  send (List.replicate exits .exitDirectory)
  if clientPathDirectories.length > filePathDirectories.length then
    throw (.logicError "did not exit all necessary directories")
  if clientPathDirectories ≠ filePathDirectories.take clientPathDirectories.length then
    throw (.logicError "intermediate path is not a prefix of final path")
  send ((filePathDirectories.drop clientPathDirectories.length).map fun dir =>
    .enterDirectory (AsciiFields.encode 0x40 dir))
  return filePathDirectories

section

variable (crc : List UInt8 → UInt32)

def PatchFileChecksumRequest.new (file : File) : PatchFileChecksumRequest where
  file := file
  crc32 := 0
  size := 0
  responseReceived := false

def PatchFileChecksumRequest.needsUpdate (self : PatchFileChecksumRequest) : Bool :=
  !self.responseReceived || self.crc32 ≠ self.file.crc32 crc || self.size ≠ self.file.size

def requestChecksums (path : List Name) : List File → Handler (List Name)
  | [] => return path
  | file :: files => do
      let path ← sendPatchChangeToDirectory path file.pathDirectories
      let c ← get
      send [.fileChecksumRequest (.ofNat c.patchFileChecksumRequests.length) (AsciiFields.encode 0x20 file.name)]
      modify fun c => { c with
        patchFileChecksumRequests := c.patchFileChecksumRequests ++ [.new file] }
      requestChecksums path files

/-- The part of `on_04_U` behind the login. -/
def on04 : Option (List File) → Handler PUnit
  | some allFiles => do
      send [.startSession]
      let path ← requestChecksums [] allFiles
      let _ ← sendPatchChangeToDirectory path []
      send [.endOfChecksumRequests]
  | none =>
      send [.enterDirectory (AsciiFields.encode 0x40 [0x2E]),
        .enterDirectory (AsciiFields.encode 0x40 [0x64, 0x61, 0x74, 0x61]),
        .enterDirectory (AsciiFields.encode 0x40 [0x73, 0x63, 0x65, 0x6E, 0x65]),
        .exitDirectory, .exitDirectory, .exitDirectory, .endSession]

def on0F (cmd : FileInformation) : Handler PUnit := do
  let c ← get
  match c.patchFileChecksumRequests[cmd.requestId.toNat]? with
  | none => throw (.outOfRange "vector::at")
  | some req =>
      set { c with
        patchFileChecksumRequests := c.patchFileChecksumRequests.set cmd.requestId.toNat
          { req with crc32 := cmd.checksum, size := cmd.size, responseReceived := true } }

/-- The bytes and the files that are to be sent. -/
def startCmd : List PatchFileChecksumRequest → Except Exception (UInt32 × UInt32)
  | [] => return (0, 0)
  | req :: reqs =>
      if !req.responseReceived then throw (.runtimeError "client did not respond to checksum request")
      else do
        let (totalBytes, numFiles) ← startCmd reqs
        if req.needsUpdate crc then return (req.file.size + totalBytes, 1 + numFiles)
        else return (totalBytes, numFiles)

def writeCommands (file : File) : List Command :=
  (file.chunkCrcs crc).zipIdx.map fun (chunkCrc, x) =>
    let chunkSize := min (file.size.toNat - x * PatchFileIndex.chunkSize) PatchFileIndex.chunkSize
    .writeFile (.ofNat x) chunkCrc (.ofNat chunkSize)
      ((file.loadedData.drop (x * PatchFileIndex.chunkSize)).take chunkSize)

def fileCommands (file : File) : List Command :=
  .openFile file.size (AsciiFields.encode 0x30 file.name) :: writeCommands crc file ++ [.closeCurrentFile]

def sendFiles (path : List Name) : List PatchFileChecksumRequest → Handler (List Name)
  | [] => return path
  | req :: reqs =>
      if req.needsUpdate crc then do
        let path ← sendPatchChangeToDirectory path req.file.pathDirectories
        send (fileCommands crc req.file)
        sendFiles path reqs
      else sendFiles path reqs

def on10 : Handler PUnit := do
  let c ← get
  let (totalBytes, numFiles) ← fromExcept (startCmd crc c.patchFileChecksumRequests)
  if numFiles ≠ 0 then
    send [.startFileDownloads totalBytes numFiles]
    let path ← sendFiles crc [] c.patchFileChecksumRequests
    let _ ← sendPatchChangeToDirectory path []
  send [.endSession]

/-! The player's files. -/

/-- The files of a player by directory and name, and what the commands have done. -/
structure Player where
  files : List Name → Name → Option (List UInt8)
  directory : List Name
  openFile : Option Name
  answers : List FileInformation

/-- What a player's file is reported as. A file that is missing has no checksum and no size. -/
def fileInformation (requestId : UInt32) : Option (List UInt8) → FileInformation
  | some data => ⟨requestId, crc data, .ofNat data.length⟩
  | none => ⟨requestId, 0, 0⟩

def writeTo (files : List Name → Name → Option (List UInt8)) (directory : List Name) (name : Name)
    (data : List UInt8) : List Name → Name → Option (List UInt8) :=
  fun directory' name' => if directory' = directory ∧ name' = name then some data else files directory' name'

/-- The meaning of the commands. A command that makes no sense has none. -/
def Player.obey (p : Player) : Command → Option Player
  | .enterDirectory name => some { p with directory := p.directory ++ [AsciiFields.decode name] }
  | .exitDirectory => if p.directory = [] then none else some { p with directory := p.directory.dropLast }
  | .fileChecksumRequest requestId filename =>
      some { p with answers := p.answers ++
        [fileInformation crc requestId (p.files p.directory (AsciiFields.decode filename))] }
  | .openFile _ filename =>
      if p.openFile.isSome then none
      else some { p with
        files := writeTo p.files p.directory (AsciiFields.decode filename) []
        openFile := some (AsciiFields.decode filename) }
  | .writeFile _ chunkChecksum chunkSize data =>
      match p.openFile with
      | none => none
      | some name =>
          if chunkChecksum = crc data ∧ chunkSize.toNat = data.length then
            some { p with
              files := writeTo p.files p.directory name ((p.files p.directory name).getD [] ++ data) }
          else none
  | .closeCurrentFile => if p.openFile.isSome then some { p with openFile := none } else none
  | .startSession => some { p with directory := [] }
  | .endOfChecksumRequests | .startFileDownloads _ _ | .endSession => some p

def Player.obeyAll (p : Player) (commands : List Command) : Option Player :=
  commands.foldlM (fun p command => p.obey crc command) p

end

/-! Changes of the directory. -/

variable {crc : List UInt8 → UInt32} {c : Client} {source target : List Name}

/-- The commands that lead from a directory to another one. -/
def walk (source target : List Name) : List Command :=
  List.replicate (leave target source.reverse).1 .exitDirectory ++
    (target.drop (leave target source.reverse).2.length).map fun dir =>
      .enterDirectory (AsciiFields.encode 0x40 dir)

theorem run_send (commands : List Command) :
    (send commands).run c = .ok ⟨⟩ { c with sent := c.sent ++ commands } := rfl

theorem length_leave_le : (leave target source.reverse).2.length ≤ target.length := by
  rcases h : (leave target source.reverse).2 with _ | ⟨dir, outer⟩
  · exact Nat.zero_le _
  · have hlast := getElem?_leave h
    exact (List.getElem?_eq_some_iff.mp hlast).1

theorem run_change (h : Clear source target) :
    (sendPatchChangeToDirectory source target).run c =
      .ok target { c with sent := c.sent ++ walk source target } := by
  have hlength : ¬ (leave target source.reverse).2.reverse.length > target.length := by
    rw [List.length_reverse]
    exact Nat.not_lt.mpr length_leave_le
  have hprefix : ¬ (leave target source.reverse).2.reverse ≠
      target.take (leave target source.reverse).2.reverse.length := by
    rw [List.length_reverse]
    exact not_not_intro (leave_eq_take_iff.mpr h)
  unfold sendPatchChangeToDirectory
  dsimp only
  rw [if_neg hlength, if_neg hprefix]
  rw [run_bind_of_ok (run_send _), run_bind_of_ok (run_send _), List.length_reverse]
  dsimp only
  rw [List.append_assoc]
  rfl

theorem run_change_error (h : ¬ Clear source target) : ∃ c',
    (sendPatchChangeToDirectory source target).run c =
      .error (.logicError "intermediate path is not a prefix of final path") c' := by
  have hlength : ¬ (leave target source.reverse).2.reverse.length > target.length := by
    rw [List.length_reverse]
    exact Nat.not_lt.mpr length_leave_le
  have hprefix : (leave target source.reverse).2.reverse ≠
      target.take (leave target source.reverse).2.reverse.length := by
    rw [List.length_reverse]
    exact fun heq => h (leave_eq_take_iff.mp heq)
  refine ⟨{ c with sent := c.sent ++ List.replicate (leave target source.reverse).1 .exitDirectory }, ?_⟩
  unfold sendPatchChangeToDirectory
  dsimp only
  rw [if_neg hlength, if_pos hprefix, run_bind_of_ok (run_send _)]
  rfl

/-! What the commands mean for a player. -/

variable {p : Player}

theorem obeyAll_append (before after : List Command) :
    p.obeyAll crc (before ++ after) = (p.obeyAll crc before).bind fun p => p.obeyAll crc after :=
  List.foldlM_append

theorem obeyAll_append_of_some {before after : List Command} {p' : Player}
    (h : p.obeyAll crc before = some p') : p.obeyAll crc (before ++ after) = p'.obeyAll crc after := by
  rw [obeyAll_append, h]
  rfl

theorem obeyAll_cons_of_some {command : Command} {after : List Command} {p' : Player}
    (h : p.obey crc command = some p') : p.obeyAll crc (command :: after) = p'.obeyAll crc after := by
  rw [Player.obeyAll, List.foldlM_cons, h]
  rfl

theorem obeyAll_exit {n : Nat} (h : n ≤ p.directory.length) :
    p.obeyAll crc (List.replicate n .exitDirectory) =
      some { p with directory := p.directory.take (p.directory.length - n) } := by
  induction n generalizing p with
  | zero =>
      rw [Nat.sub_zero, List.take_length]
      rfl
  | succ n ih =>
      have hne : p.directory ≠ [] := List.ne_nil_of_length_pos (by omega)
      have hstep : p.obey crc .exitDirectory = some { p with directory := p.directory.dropLast } :=
        if_neg hne
      have hrest : n ≤ p.directory.dropLast.length := by
        rw [List.length_dropLast]
        omega
      have htake : p.directory.dropLast.take (p.directory.dropLast.length - n) =
          p.directory.take (p.directory.length - (n + 1)) := by
        rw [List.length_dropLast, List.dropLast_eq_take, List.take_take]
        congr 1
        omega
      rw [List.replicate_succ, obeyAll_cons_of_some hstep, ih hrest]
      dsimp only
      rw [htake]

theorem obeyAll_enter {dirs : List Name} (h : ∀ dir ∈ dirs, AsciiFields.Encodable 0x40 dir) :
    p.obeyAll crc (dirs.map fun dir => .enterDirectory (AsciiFields.encode 0x40 dir)) =
      some { p with directory := p.directory ++ dirs } := by
  induction dirs generalizing p with
  | nil =>
      rw [List.append_nil]
      rfl
  | cons dir dirs ih =>
      obtain ⟨hdir, hdirs⟩ := List.forall_mem_cons.mp h
      have hstep : p.obey crc (.enterDirectory (AsciiFields.encode 0x40 dir)) =
          some { p with directory := p.directory ++ [dir] } := by
        rw [Player.obey, AsciiFields.decode_encode hdir]
      rw [List.map_cons, obeyAll_cons_of_some hstep, ih hdirs]
      dsimp only
      rw [List.append_assoc, List.singleton_append]

/-- The commands between two directories lead from the one to the other. -/
theorem obeyAll_walk (hclear : Clear p.directory target)
    (hnames : ∀ dir ∈ target, AsciiFields.Encodable 0x40 dir) :
    p.obeyAll crc (walk p.directory target) = some { p with directory := target } := by
  obtain ⟨gone, hgone, hexits⟩ := leave_eq target p.directory.reverse
  have hkept := leave_eq_take_iff.mpr hclear
  have hsource : p.directory = (leave target p.directory.reverse).2.reverse ++ gone.reverse := by
    rw [← List.reverse_append, ← hgone, List.reverse_reverse]
  have htotal := congrArg List.length hsource
  rw [List.length_append, List.length_reverse, List.length_reverse] at htotal
  have htake : p.directory.take (p.directory.length - (leave target p.directory.reverse).1) =
      target.take (leave target p.directory.reverse).2.length := by
    have hsub : p.directory.length - (leave target p.directory.reverse).1 =
        (leave target p.directory.reverse).2.reverse.length := by
      rw [hexits, List.length_reverse]
      omega
    rw [hsub, ← hkept]
    calc p.directory.take (leave target p.directory.reverse).2.reverse.length
        = ((leave target p.directory.reverse).2.reverse ++ gone.reverse).take
            (leave target p.directory.reverse).2.reverse.length := congrArg _ hsource
      _ = (leave target p.directory.reverse).2.reverse := List.take_left
  have hentered : ∀ dir ∈ target.drop (leave target p.directory.reverse).2.length,
      AsciiFields.Encodable 0x40 dir := fun dir hdir => hnames dir (List.mem_of_mem_drop hdir)
  rw [walk, obeyAll_append_of_some (obeyAll_exit (by omega)), obeyAll_enter hentered]
  dsimp only
  rw [htake, List.take_append_drop]

/-! Requests for checksums. -/

/-- The texts of a file fit into the commands. -/
structure Named (file : File) : Prop where
  pathDirectories : ∀ dir ∈ file.pathDirectories, AsciiFields.Encodable 0x40 dir
  name : AsciiFields.Encodable 0x20 file.name

instance (file : File) : Decidable (Named file) :=
  decidable_of_iff ((∀ dir ∈ file.pathDirectories, AsciiFields.Encodable 0x40 dir) ∧
    AsciiFields.Encodable 0x20 file.name) ⟨fun ⟨h, h'⟩ => ⟨h, h'⟩, fun ⟨h, h'⟩ => ⟨h, h'⟩⟩

def checksumCommands (path : List Name) (id : Nat) : List File → List Command
  | [] => []
  | file :: files =>
      walk path file.pathDirectories ++
        .fileChecksumRequest (.ofNat id) (AsciiFields.encode 0x20 file.name) ::
          checksumCommands file.pathDirectories (id + 1) files

def lastDirectory (path : List Name) (files : List File) : List Name :=
  files.foldl (fun _ file => file.pathDirectories) path

variable {path : List Name} {files : List File}

theorem run_requestChecksums (h : List.IsChain Clear (path :: files.map File.pathDirectories)) :
    (requestChecksums path files).run c = .ok (lastDirectory path files)
      ⟨c.patchFileChecksumRequests ++ files.map .new,
        c.sent ++ checksumCommands path c.patchFileChecksumRequests.length files⟩ := by
  induction files generalizing path c with
  | nil =>
      rw [List.map_nil, List.append_nil, checksumCommands, List.append_nil]
      rfl
  | cons file files ih =>
      obtain ⟨hclear, hrest⟩ := List.isChain_cons_cons.mp h
      rw [requestChecksums, run_bind_of_ok (run_change hclear), run_get_bind, run_bind_of_ok (run_send _),
        run_modify_bind, ih hrest]
      dsimp only
      rw [checksumCommands, List.length_append, List.map_cons, List.append_assoc, List.append_assoc,
        List.append_assoc]
      rfl

/-- Two files in directories that are not clear end the loop. -/
theorem run_requestChecksums_error (h : ¬ List.IsChain Clear (path :: files.map File.pathDirectories)) :
    ∃ c', (requestChecksums path files).run c =
      .error (.logicError "intermediate path is not a prefix of final path") c' := by
  induction files generalizing path c with
  | nil => exact absurd (List.IsChain.singleton path) h
  | cons file files ih =>
      rw [List.map_cons, List.isChain_cons_cons] at h
      by_cases hclear : Clear path file.pathDirectories
      · rw [requestChecksums, run_bind_of_ok (run_change hclear), run_get_bind, run_bind_of_ok (run_send _),
          run_modify_bind]
        exact ih fun hrest => h ⟨hclear, hrest⟩
      · obtain ⟨c', hchange⟩ := run_change_error hclear (c := c)
        exact ⟨c', by rw [requestChecksums, run_bind_of_error hchange]⟩

/-- What a player answers to the requests. -/
def answers (crc : List UInt8 → UInt32) (disk : List Name → Name → Option (List UInt8)) (id : Nat)
    (files : List File) : List FileInformation :=
  (files.zipIdx id).map fun (file, i) =>
    fileInformation crc (.ofNat i) (disk file.pathDirectories file.name)

theorem obeyAll_checksumCommands {id : Nat}
    (h : List.IsChain Clear (p.directory :: files.map File.pathDirectories))
    (hnames : ∀ file ∈ files, Named file) :
    p.obeyAll crc (checksumCommands p.directory id files) =
      some { p with
        directory := lastDirectory p.directory files
        answers := p.answers ++ answers crc p.files id files } := by
  induction files generalizing p id with
  | nil =>
      rw [answers, List.zipIdx_nil, List.map_nil, List.append_nil]
      rfl
  | cons file files ih =>
      obtain ⟨hclear, hrest⟩ := List.isChain_cons_cons.mp h
      obtain ⟨hfile, hfiles⟩ := List.forall_mem_cons.mp hnames
      let asked : Player := { p with
        directory := file.pathDirectories
        answers := p.answers ++ [fileInformation crc (.ofNat id) (p.files file.pathDirectories file.name)] }
      have hask : { p with directory := file.pathDirectories }.obey crc
          (.fileChecksumRequest (.ofNat id) (AsciiFields.encode 0x20 file.name)) = some asked := by
        rw [Player.obey, AsciiFields.decode_encode hfile.name]
      have hstep : asked.obeyAll crc (checksumCommands asked.directory (id + 1) files) = _ := ih hrest hfiles
      rw [checksumCommands, obeyAll_append_of_some (obeyAll_walk hclear hfile.pathDirectories),
        obeyAll_cons_of_some hask, hstep, answers, answers, List.zipIdx_cons, List.map_cons]
      dsimp only [asked]
      rw [List.append_assoc, List.singleton_append]
      rfl

/-! Answers. -/

/-- The request that an answer was given to. -/
def PatchFileChecksumRequest.answered (self : PatchFileChecksumRequest) (cmd : FileInformation) :
    PatchFileChecksumRequest :=
  { self with crc32 := cmd.checksum, size := cmd.size, responseReceived := true }

theorem run_on0F {cmd : FileInformation} {req : PatchFileChecksumRequest}
    (h : c.patchFileChecksumRequests[cmd.requestId.toNat]? = some req) :
    (on0F cmd).run c = .ok ⟨⟩ { c with
      patchFileChecksumRequests :=
        c.patchFileChecksumRequests.set cmd.requestId.toNat (req.answered cmd) } := by
  rw [on0F, run_get_bind, h]
  rfl

/-- Answers with different numbers reach their requests in any order. -/
theorem run_answers {cmds : List FileInformation}
    (hknown : ∀ cmd ∈ cmds, cmd.requestId.toNat < c.patchFileChecksumRequests.length)
    (hdistinct : (cmds.map FileInformation.requestId).Nodup) :
    ∃ reqs, (cmds.forM on0F).run c = .ok ⟨⟩ { c with patchFileChecksumRequests := reqs } ∧
      reqs.length = c.patchFileChecksumRequests.length ∧
      (∀ cmd ∈ cmds, reqs[cmd.requestId.toNat]? =
        c.patchFileChecksumRequests[cmd.requestId.toNat]?.map (·.answered cmd)) ∧
      ∀ i, (∀ cmd ∈ cmds, cmd.requestId.toNat ≠ i) → reqs[i]? = c.patchFileChecksumRequests[i]? := by
  induction cmds generalizing c with
  | nil => exact ⟨_, rfl, rfl, fun _ h => absurd h List.not_mem_nil, fun _ _ => rfl⟩
  | cons cmd cmds ih =>
      obtain ⟨hcmd, hcmds⟩ := List.forall_mem_cons.mp hknown
      rw [List.map_cons, List.nodup_cons] at hdistinct
      obtain ⟨req, hreq⟩ : ∃ req, c.patchFileChecksumRequests[cmd.requestId.toNat]? = some req :=
        ⟨_, List.getElem?_eq_getElem hcmd⟩
      have hother : ∀ cmd' ∈ cmds, cmd.requestId.toNat ≠ cmd'.requestId.toNat := by
        intro cmd' hmem heq
        exact hdistinct.1 (UInt32.toNat_inj.mp heq ▸ List.mem_map_of_mem hmem)
      obtain ⟨reqs, hrun, hlength, hanswered, hsame⟩ :=
        ih (c := { c with patchFileChecksumRequests :=
          c.patchFileChecksumRequests.set cmd.requestId.toNat (req.answered cmd) })
          (fun cmd' hmem => by
            rw [List.length_set]
            exact hcmds cmd' hmem) hdistinct.2
      refine ⟨reqs, ?_, ?_, ?_, ?_⟩
      · have hcons : (cmd :: cmds).forM on0F = (on0F cmd >>= fun _ => cmds.forM on0F) := rfl
        rw [hcons, run_bind_of_ok (run_on0F hreq), hrun]
      · rw [hlength, List.length_set]
      · intro cmd' hmem
        rcases List.mem_cons.mp hmem with rfl | hmem
        · rw [hsame _ fun cmd'' hmem' heq => hother cmd'' hmem' heq.symm, hreq]
          exact List.getElem?_set_self hcmd
        · rw [hanswered cmd' hmem]
          dsimp only
          rw [List.getElem?_set_ne (hother cmd' hmem)]
      · intro i hi
        obtain ⟨hne, hrest⟩ := List.forall_mem_cons.mp hi
        rw [hsame i hrest]
        exact List.getElem?_set_ne hne

/-- The requests when the player has answered all of them. -/
def answeredRequests (crc : List UInt8 → UInt32) (disk : List Name → Name → Option (List UInt8))
    (files : List File) : List PatchFileChecksumRequest :=
  files.map fun file =>
    (PatchFileChecksumRequest.new file).answered
      (fileInformation crc 0 (disk file.pathDirectories file.name))

variable {disk : List Name → Name → Option (List UInt8)}

theorem requestId_fileInformation (id : UInt32) (data : Option (List UInt8)) :
    (fileInformation crc id data).requestId = id := by
  cases data <;> rfl

theorem answered_fileInformation (req : PatchFileChecksumRequest) (id : UInt32) (data : Option (List UInt8)) :
    req.answered (fileInformation crc id data) = req.answered (fileInformation crc 0 data) := by
  cases data <;> rfl

theorem getElem?_answers (crc : List UInt8 → UInt32) (disk : List Name → Name → Option (List UInt8)) {i : Nat}
    {file : File} (h : files[i]? = some file) :
    (answers crc disk 0 files)[i]? =
      some (fileInformation crc (.ofNat i) (disk file.pathDirectories file.name)) := by
  rw [answers, List.getElem?_map, List.getElem?_zipIdx, h, Nat.zero_add]
  rfl

theorem run_allAnswers {cmds : List FileInformation} (hcount : files.length < 2 ^ 32)
    (hperm : cmds.Perm (answers crc disk 0 files))
    (hreqs : c.patchFileChecksumRequests = files.map .new) :
    (cmds.forM on0F).run c =
      .ok ⟨⟩ { c with patchFileChecksumRequests := answeredRequests crc disk files } := by
  have hids : (answers crc disk 0 files).map FileInformation.requestId =
      (List.range files.length).map UInt32.ofNat := by
    rw [answers, List.map_map, List.range_eq_range', ← List.zipIdx_map_snd, List.map_map]
    exact List.map_congr_left fun _ _ => requestId_fileInformation _ _
  have hdistinct : (cmds.map FileInformation.requestId).Nodup := by
    rw [(hperm.map _).nodup_iff, hids]
    refine List.Nodup.map_on (fun i hi j hj h => ?_) List.nodup_range
    have hsame := congrArg UInt32.toNat h
    rwa [UInt32.toNat_ofNat_of_lt' ((List.mem_range.mp hi).trans hcount),
      UInt32.toNat_ofNat_of_lt' ((List.mem_range.mp hj).trans hcount)] at hsame
  have hknown : ∀ cmd ∈ cmds, cmd.requestId.toNat < c.patchFileChecksumRequests.length := by
    intro cmd hcmd
    have hmem : cmd.requestId ∈ (List.range files.length).map UInt32.ofNat :=
      hids ▸ List.mem_map_of_mem (hperm.mem_iff.mp hcmd)
    obtain ⟨i, hi, hid⟩ := List.mem_map.mp hmem
    rw [← hid, hreqs, List.length_map, UInt32.toNat_ofNat_of_lt' ((List.mem_range.mp hi).trans hcount)]
    exact List.mem_range.mp hi
  obtain ⟨reqs, hrun, hlength, hanswered, -⟩ := run_answers hknown hdistinct
  have hall : reqs = answeredRequests crc disk files := by
    apply List.ext_getElem?
    intro i
    rcases Nat.lt_or_ge i files.length with hi | hi
    · have hfile := List.getElem?_eq_getElem hi
      have hcmd := hperm.mem_iff.mpr (List.mem_of_getElem? (getElem?_answers crc disk hfile))
      have hreq := hanswered _ hcmd
      rw [requestId_fileInformation, UInt32.toNat_ofNat_of_lt' (hi.trans hcount), hreqs, List.getElem?_map,
        hfile] at hreq
      rw [hreq, answeredRequests, List.getElem?_map, hfile, Option.map_some, Option.map_some,
        answered_fileInformation]
      rfl
    · have hnone : files.length ≤ i := hi
      rw [hreqs, List.length_map] at hlength
      rw [List.getElem?_eq_none (hlength ▸ hnone), List.getElem?_eq_none]
      rw [answeredRequests, List.length_map]
      exact hnone
  rw [hrun, hall]

/-! Files that are sent. -/

/-- The player's file differs from the server's, as far as the answer tells. -/
def outdated (crc : List UInt8 → UInt32) (disk : List Name → Name → Option (List UInt8)) (file : File) : Bool :=
  ((PatchFileChecksumRequest.new file).answered
    (fileInformation crc 0 (disk file.pathDirectories file.name))).needsUpdate crc

theorem filter_answeredRequests :
    ((answeredRequests crc disk files).filter (·.needsUpdate crc)).map PatchFileChecksumRequest.file =
      files.filter (outdated crc disk) := by
  rw [answeredRequests, List.filter_map, List.map_map]
  exact List.map_id _

theorem startCmd_eq (crc : List UInt8 → UInt32) {reqs : List PatchFileChecksumRequest}
    (h : ∀ req ∈ reqs, req.responseReceived = true) :
    ∃ totalBytes, startCmd crc reqs = .ok (totalBytes, .ofNat (reqs.countP (·.needsUpdate crc))) := by
  induction reqs with
  | nil => exact ⟨0, rfl⟩
  | cons req reqs ih =>
      obtain ⟨hreq, hreqs⟩ := List.forall_mem_cons.mp h
      obtain ⟨totalBytes, htotal⟩ := ih hreqs
      rw [startCmd, hreq, if_neg (by decide), htotal, ok_bind]
      dsimp only
      by_cases hneeds : req.needsUpdate crc = true
      · refine ⟨req.file.size + totalBytes, ?_⟩
        rw [if_pos hneeds, List.countP_cons_of_pos hneeds, UInt32.ofNat_add, UInt32.add_comm 1]
        rfl
      · refine ⟨totalBytes, ?_⟩
        rw [if_neg hneeds, List.countP_cons_of_neg hneeds]
        rfl

def updateCommands (crc : List UInt8 → UInt32) (path : List Name) : List File → List Command
  | [] => []
  | file :: files =>
      walk path file.pathDirectories ++ (fileCommands crc file ++ updateCommands crc file.pathDirectories files)

theorem run_sendFiles {reqs : List PatchFileChecksumRequest}
    (h : List.IsChain Clear
      (path :: (((reqs.filter (·.needsUpdate crc)).map PatchFileChecksumRequest.file).map File.pathDirectories))) :
    (sendFiles crc path reqs).run c =
      .ok (lastDirectory path ((reqs.filter (·.needsUpdate crc)).map PatchFileChecksumRequest.file))
        { c with sent := c.sent ++
          updateCommands crc path ((reqs.filter (·.needsUpdate crc)).map PatchFileChecksumRequest.file) } := by
  induction reqs generalizing path c with
  | nil =>
      rw [List.filter_nil, List.map_nil, updateCommands, List.append_nil]
      rfl
  | cons req reqs ih =>
      by_cases hneeds : req.needsUpdate crc = true
      · rw [List.filter_cons_of_pos hneeds, List.map_cons, List.map_cons] at h
        obtain ⟨hclear, hrest⟩ := List.isChain_cons_cons.mp h
        rw [sendFiles, if_pos hneeds, run_bind_of_ok (run_change hclear), run_bind_of_ok (run_send _),
          ih hrest, List.filter_cons_of_pos hneeds, List.map_cons, updateCommands]
        dsimp only
        rw [List.append_assoc, List.append_assoc]
        rfl
      · rw [List.filter_cons_of_neg hneeds] at h ⊢
        rw [sendFiles, if_neg hneeds, ih h]

theorem run_sendFiles_error {reqs : List PatchFileChecksumRequest}
    (h : ¬ List.IsChain Clear
      (path :: (((reqs.filter (·.needsUpdate crc)).map PatchFileChecksumRequest.file).map File.pathDirectories))) :
    ∃ c', (sendFiles crc path reqs).run c =
      .error (.logicError "intermediate path is not a prefix of final path") c' := by
  induction reqs generalizing path c with
  | nil => exact absurd (List.IsChain.singleton path) h
  | cons req reqs ih =>
      by_cases hneeds : req.needsUpdate crc = true
      · rw [List.filter_cons_of_pos hneeds, List.map_cons, List.map_cons, List.isChain_cons_cons] at h
        by_cases hclear : Clear path req.file.pathDirectories
        · rw [sendFiles, if_pos hneeds, run_bind_of_ok (run_change hclear), run_bind_of_ok (run_send _)]
          exact ih fun hrest => h ⟨hclear, hrest⟩
        · obtain ⟨c', hchange⟩ := run_change_error hclear (c := c)
          exact ⟨c', by rw [sendFiles, if_pos hneeds, run_bind_of_error hchange]⟩
      · rw [List.filter_cons_of_neg hneeds] at h
        rw [sendFiles, if_neg hneeds]
        exact ih h

variable {file : File}

/-- The data of a chunk. -/
def chunk (file : File) (x : Nat) : List UInt8 :=
  (file.loadedData.drop (x * chunkSize)).take (min (file.size.toNat - x * chunkSize) chunkSize)

theorem toNat_size (file : File) : file.size.toNat = file.loadedData.length :=
  UInt32.toNat_ofNat_of_lt' file.size_lt

theorem zipIdx_range (n : Nat) : (List.range n).zipIdx = (List.range n).map fun x => (x, x) := by
  apply List.ext_getElem?
  intro i
  rw [List.getElem?_zipIdx, List.getElem?_map, Nat.zero_add]
  rcases Nat.lt_or_ge i n with hi | hi
  · rw [List.getElem?_range hi]
    rfl
  · rw [List.getElem?_eq_none (by rwa [List.length_range])]
    rfl

theorem writeCommands_eq (file : File) :
    writeCommands crc file =
      (List.range ((file.loadedData.length + (chunkSize - 1)) / chunkSize)).map fun x =>
        .writeFile (.ofNat x) (crc (chunk file x)) (.ofNat (chunk file x).length) (chunk file x) := by
  have hlength (x : Nat) : (chunk file x).length = min (file.size.toNat - x * chunkSize) chunkSize := by
    rw [chunk, List.length_take, List.length_drop, toNat_size]
    omega
  rw [writeCommands, File.chunkCrcs, List.zipIdx_map, zipIdx_range, List.map_map, List.map_map]
  refine List.map_congr_left fun x _ => ?_
  rw [hlength]
  rfl

theorem chunk_append (x : Nat) :
    file.loadedData.take (x * chunkSize) ++ chunk file x = file.loadedData.take ((x + 1) * chunkSize) := by
  have hchunk : chunk file x = (file.loadedData.drop (x * chunkSize)).take chunkSize := by
    rw [chunk, toNat_size, ← List.length_drop, Nat.min_comm, ← List.take_take, List.take_length]
  rw [hchunk, Nat.add_mul, Nat.one_mul, List.take_add]

theorem length_chunk_lt (x : Nat) : (chunk file x).length < 2 ^ 32 := by
  have hlt := file.size_lt
  rw [chunk, List.length_take, List.length_drop]
  omega

theorem writeTo_writeTo (directory : List Name) (name : Name) (before after : List UInt8) :
    writeTo (writeTo disk directory name before) directory name after = writeTo disk directory name after := by
  funext directory' name'
  unfold writeTo
  split_ifs <;> rfl

theorem writeTo_self (directory : List Name) (name : Name) (data : List UInt8) :
    writeTo disk directory name data directory name = some data := if_pos ⟨rfl, rfl⟩

/-- The chunks of a file are written one after another. -/
theorem obeyAll_writes {n : Nat} (hfile : p.openFile = some file.name)
    (hfiles : p.files = writeTo disk p.directory file.name []) :
    p.obeyAll crc ((List.range n).map fun x =>
      .writeFile (.ofNat x) (crc (chunk file x)) (.ofNat (chunk file x).length) (chunk file x)) =
        some { p with files := writeTo disk p.directory file.name (file.loadedData.take (n * chunkSize)) } := by
  induction n with
  | zero =>
      rw [Nat.zero_mul, List.take_zero, ← hfiles]
      rfl
  | succ n ih =>
      have hlength : (UInt32.ofNat (chunk file n).length).toNat = (chunk file n).length :=
        UInt32.toNat_ofNat_of_lt' (length_chunk_lt n)
      rw [List.range_succ, List.map_append, obeyAll_append_of_some ih]
      let before : Player :=
        { p with files := writeTo disk p.directory file.name (file.loadedData.take (n * chunkSize)) }
      let after : Player :=
        { p with files := writeTo disk p.directory file.name (file.loadedData.take ((n + 1) * chunkSize)) }
      have hwrite : before.obey crc (.writeFile (.ofNat n) (crc (chunk file n))
          (.ofNat (chunk file n).length) (chunk file n)) = some after := by
        rw [Player.obey, hfile]
        dsimp only
        rw [if_pos ⟨rfl, hlength⟩]
        dsimp only [before, after]
        rw [writeTo_self, Option.getD_some, chunk_append, writeTo_writeTo, hfile]
      exact (obeyAll_cons_of_some hwrite).trans rfl

/-- A file that is sent is in the player's directory, and nothing else has changed. -/
theorem obeyAll_fileCommands (hnamed : Named file) (hclosed : p.openFile = none) :
    p.obeyAll crc (fileCommands crc file) =
      some { p with files := writeTo p.files p.directory file.name file.loadedData } := by
  have hopen : p.obey crc (.openFile file.size (AsciiFields.encode 0x30 file.name)) =
      some { p with files := writeTo p.files p.directory file.name [], openFile := some file.name } := by
    rw [Player.obey, AsciiFields.decode_encode (hnamed.name.mono (by decide)), hclosed]
    rfl
  have hall : file.loadedData.take
      ((file.loadedData.length + (chunkSize - 1)) / chunkSize * chunkSize) = file.loadedData := by
    apply List.take_of_length_le
    unfold chunkSize
    omega
  let opened : Player :=
    { p with files := writeTo p.files p.directory file.name file.loadedData, openFile := some file.name }
  have hclose : opened.obey crc .closeCurrentFile =
      some { p with files := writeTo p.files p.directory file.name file.loadedData } := by
    change some { opened with openFile := none } = _
    rw [hclosed]
  rw [fileCommands, List.cons_append, obeyAll_cons_of_some hopen, writeCommands_eq,
    obeyAll_append_of_some (obeyAll_writes rfl rfl), hall]
  exact (obeyAll_cons_of_some hclose).trans rfl

/-- The files of a player after some of them were replaced. -/
def updated (disk : List Name → Name → Option (List UInt8)) (files : List File) :
    List Name → Name → Option (List UInt8) :=
  files.foldl (fun disk file => writeTo disk file.pathDirectories file.name file.loadedData) disk

theorem obeyAll_updateCommands (h : List.IsChain Clear (p.directory :: files.map File.pathDirectories))
    (hnames : ∀ file ∈ files, Named file) (hclosed : p.openFile = none) :
    p.obeyAll crc (updateCommands crc p.directory files) =
      some { p with directory := lastDirectory p.directory files, files := updated p.files files } := by
  induction files generalizing p with
  | nil => rfl
  | cons file files ih =>
      obtain ⟨hclear, hrest⟩ := List.isChain_cons_cons.mp h
      obtain ⟨hfile, hfiles⟩ := List.forall_mem_cons.mp hnames
      let written : Player := { p with
        directory := file.pathDirectories
        files := writeTo p.files file.pathDirectories file.name file.loadedData }
      have hwrite : { p with directory := file.pathDirectories }.obeyAll crc (fileCommands crc file) =
          some written := obeyAll_fileCommands hfile hclosed
      have hstep := ih (p := written) hrest hfiles hclosed
      rw [updateCommands, obeyAll_append_of_some (obeyAll_walk hclear hfile.pathDirectories),
        obeyAll_append_of_some hwrite, hstep]
      rfl

/-! Sessions. -/

def place (file : File) : List Name × Name := (file.pathDirectories, file.name)

theorem updated_of_not_mem {directory : List Name} {name : Name}
    (h : ∀ file ∈ files, place file ≠ (directory, name)) :
    updated disk files directory name = disk directory name := by
  induction files generalizing disk with
  | nil => rfl
  | cons file files ih =>
      obtain ⟨hfile, hfiles⟩ := List.forall_mem_cons.mp h
      have hrest : updated disk (file :: files) directory name =
          writeTo disk file.pathDirectories file.name file.loadedData directory name := ih hfiles
      rw [hrest, writeTo, if_neg]
      rintro ⟨rfl, rfl⟩
      exact hfile rfl

theorem updated_of_mem (hplaces : (files.map place).Nodup) (h : file ∈ files) :
    updated disk files file.pathDirectories file.name = some file.loadedData := by
  induction files generalizing disk with
  | nil => exact absurd h List.not_mem_nil
  | cons first files ih =>
      rw [List.map_cons, List.nodup_cons] at hplaces
      rcases List.mem_cons.mp h with rfl | hmem
      · have hother : ∀ file' ∈ files, place file' ≠ (file.pathDirectories, file.name) :=
          fun file' hfile' heq => hplaces.1 (List.mem_map.mpr ⟨file', hfile', heq⟩)
        exact (updated_of_not_mem hother).trans (writeTo_self _ _ _)
      · exact ih hplaces.2 hmem

/-- Files that differ as far as the answers tell are the server's. All others are as
they were. -/
structure Patched (crc : List UInt8 → UInt32) (disk : List Name → Name → Option (List UInt8))
    (allFiles : List File) (files : List Name → Name → Option (List UInt8)) : Prop where
  sent : ∀ file ∈ allFiles, outdated crc disk file = true →
    files file.pathDirectories file.name = some file.loadedData
  others : ∀ directory name,
    (∀ file ∈ allFiles, outdated crc disk file = true → place file ≠ (directory, name)) →
      files directory name = disk directory name

theorem patched_updated (hplaces : (files.map place).Nodup) :
    Patched crc disk files (updated disk (files.filter (outdated crc disk))) where
  sent _ hfile houtdated :=
    updated_of_mem (hplaces.sublist (List.filter_sublist.map place))
      (List.mem_filter.mpr ⟨hfile, houtdated⟩)
  others _ _ h := updated_of_not_mem fun file hfile =>
    h file (List.mem_of_mem_filter hfile) (List.of_mem_filter hfile)

theorem isChain_nil_cons (h : List.IsChain Clear (files.map File.pathDirectories)) :
    List.IsChain Clear (([] : List Name) :: files.map File.pathDirectories) :=
  List.isChain_cons.mpr ⟨fun _ _ => clear_nil _, h⟩

theorem run_on04 (h : List.IsChain Clear (files.map File.pathDirectories)) :
    (on04 (some files)).run ⟨[], []⟩ = .ok ⟨⟩ ⟨files.map .new,
      .startSession :: (checksumCommands [] 0 files ++ (walk (lastDirectory [] files) [] ++
        [.endOfChecksumRequests]))⟩ := by
  rw [on04, run_bind_of_ok (run_send _), run_bind_of_ok (run_requestChecksums (isChain_nil_cons h)),
    run_bind_of_ok (run_change (clear_to_nil _)), run_send]
  dsimp only
  rw [List.append_assoc, List.append_assoc]
  rfl

theorem obeyAll_checksums (h : List.IsChain Clear (files.map File.pathDirectories))
    (hnames : ∀ file ∈ files, Named file) :
    Player.obeyAll crc ⟨disk, [], none, []⟩ (.startSession :: (checksumCommands [] 0 files ++
      (walk (lastDirectory [] files) [] ++ [.endOfChecksumRequests]))) =
        some ⟨disk, [], none, answers crc disk 0 files⟩ := by
  have hstart : Player.obey crc ⟨disk, [], none, []⟩ .startSession = some ⟨disk, [], none, []⟩ := rfl
  have hchecks : Player.obeyAll crc ⟨disk, [], none, []⟩ (checksumCommands [] 0 files) =
      some ⟨disk, lastDirectory [] files, none, answers crc disk 0 files⟩ :=
    obeyAll_checksumCommands (isChain_nil_cons h) hnames
  have hback : Player.obeyAll crc ⟨disk, lastDirectory [] files, none, answers crc disk 0 files⟩
      (walk (lastDirectory [] files) []) = some ⟨disk, [], none, answers crc disk 0 files⟩ :=
    obeyAll_walk (clear_to_nil _) fun _ h => absurd h List.not_mem_nil
  rw [obeyAll_cons_of_some hstart, obeyAll_append_of_some hchecks, obeyAll_append_of_some hback]
  rfl

/-- What is sent behind the answers. `files` are those that are outdated. -/
def updateSession (crc : List UInt8 → UInt32) (totalBytes : UInt32) (files : List File) : List Command :=
  if files = [] then [.endSession]
  else .startFileDownloads totalBytes (.ofNat files.length) ::
    (updateCommands crc [] files ++ (walk (lastDirectory [] files) [] ++ [.endSession]))

theorem exists_startCmd (crc : List UInt8 → UInt32) (disk : List Name → Name → Option (List UInt8))
    (files : List File) :
    ∃ totalBytes, startCmd crc (answeredRequests crc disk files) =
      .ok (totalBytes, .ofNat (files.filter (outdated crc disk)).length) := by
  have hreceived : ∀ req ∈ answeredRequests crc disk files, req.responseReceived = true := by
    intro req hreq
    obtain ⟨file, -, rfl⟩ := List.mem_map.mp hreq
    rfl
  obtain ⟨totalBytes, htotal⟩ := startCmd_eq crc hreceived
  refine ⟨totalBytes, ?_⟩
  rw [htotal, List.countP_eq_length_filter, ← List.length_map (f := PatchFileChecksumRequest.file),
    filter_answeredRequests]

theorem numFiles_ne_zero_iff (hcount : files.length < 2 ^ 32) :
    UInt32.ofNat (files.filter (outdated crc disk)).length ≠ 0 ↔ files.filter (outdated crc disk) ≠ [] := by
  have hlt : (files.filter (outdated crc disk)).length < 2 ^ 32 := (List.length_filter_le _ _).trans_lt hcount
  rw [ne_eq, ne_eq, ← List.length_eq_zero_iff, ← UInt32.toNat_inj, UInt32.toNat_ofNat_of_lt' hlt]
  rfl

theorem run_on10 (sent : List Command) (hcount : files.length < 2 ^ 32)
    (h : List.IsChain Clear ((files.filter (outdated crc disk)).map File.pathDirectories)) :
    ∃ totalBytes, (on10 crc).run ⟨answeredRequests crc disk files, sent⟩ =
      .ok ⟨⟩ ⟨answeredRequests crc disk files,
        sent ++ updateSession crc totalBytes (files.filter (outdated crc disk))⟩ := by
  obtain ⟨totalBytes, htotal⟩ := exists_startCmd crc disk files
  refine ⟨totalBytes, ?_⟩
  rw [on10, run_get_bind, htotal, run_ok_bind]
  dsimp only
  by_cases hnone : files.filter (outdated crc disk) = []
  · rw [if_neg (not_not_intro (not_not.mp fun hne => (numFiles_ne_zero_iff hcount).mp hne hnone)),
      updateSession, if_pos hnone]
    rfl
  · have hchain : List.IsChain Clear (([] : List Name) ::
        (((answeredRequests crc disk files).filter (·.needsUpdate crc)).map (·.file)).map File.pathDirectories) := by
      rw [filter_answeredRequests]
      exact isChain_nil_cons h
    have hsent := run_sendFiles (c := ⟨answeredRequests crc disk files,
      sent ++ [.startFileDownloads totalBytes (.ofNat (files.filter (outdated crc disk)).length)]⟩) hchain
    rw [filter_answeredRequests] at hsent
    rw [if_pos ((numFiles_ne_zero_iff hcount).mpr hnone), updateSession, if_neg hnone,
      run_bind_of_ok (run_send _), run_bind_of_ok hsent, run_bind_of_ok (run_change (clear_to_nil _)), run_send]
    dsimp only
    rw [List.append_assoc, List.append_assoc, List.append_assoc]
    rfl

theorem run_on10_error {sent : List Command} (hcount : files.length < 2 ^ 32)
    (h : ¬ List.IsChain Clear ((files.filter (outdated crc disk)).map File.pathDirectories)) :
    ∃ c', (on10 crc).run ⟨answeredRequests crc disk files, sent⟩ =
      .error (.logicError "intermediate path is not a prefix of final path") c' := by
  obtain ⟨totalBytes, htotal⟩ := exists_startCmd crc disk files
  have hsome : files.filter (outdated crc disk) ≠ [] := by
    intro hnone
    rw [hnone] at h
    exact h List.IsChain.nil
  have hcons : ¬ List.IsChain Clear (([] : List Name) ::
      (((answeredRequests crc disk files).filter (·.needsUpdate crc)).map (·.file)).map File.pathDirectories) := by
    rw [filter_answeredRequests]
    exact fun hchain => h (List.isChain_cons.mp hchain).2
  obtain ⟨c', herror⟩ := run_sendFiles_error (c := ⟨answeredRequests crc disk files,
    sent ++ [.startFileDownloads totalBytes (.ofNat (files.filter (outdated crc disk)).length)]⟩) hcons
  refine ⟨c', ?_⟩
  rw [on10, run_get_bind, htotal, run_ok_bind]
  dsimp only
  rw [if_pos ((numFiles_ne_zero_iff hcount).mpr hsome), run_bind_of_ok (run_send _), run_bind_of_error herror]

theorem obeyAll_updateSession {totalBytes : UInt32} {replies : List FileInformation}
    (h : List.IsChain Clear (files.map File.pathDirectories)) (hnames : ∀ file ∈ files, Named file) :
    Player.obeyAll crc ⟨disk, [], none, replies⟩ (updateSession crc totalBytes files) =
      some ⟨updated disk files, [], none, replies⟩ := by
  by_cases hnone : files = []
  · rw [updateSession, if_pos hnone, hnone]
    rfl
  · have hstart : Player.obey crc ⟨disk, [], none, replies⟩
        (.startFileDownloads totalBytes (.ofNat files.length)) = some ⟨disk, [], none, replies⟩ := rfl
    have hupdate : Player.obeyAll crc ⟨disk, [], none, replies⟩ (updateCommands crc [] files) =
        some ⟨updated disk files, lastDirectory [] files, none, replies⟩ :=
      obeyAll_updateCommands (isChain_nil_cons h) hnames rfl
    have hback : Player.obeyAll crc ⟨updated disk files, lastDirectory [] files, none, replies⟩
        (walk (lastDirectory [] files) []) = some ⟨updated disk files, [], none, replies⟩ :=
      obeyAll_walk (clear_to_nil _) fun _ h => absurd h List.not_mem_nil
    rw [updateSession, if_neg hnone, obeyAll_cons_of_some hstart, obeyAll_append_of_some hupdate,
      obeyAll_append_of_some hback]
    rfl

/-- The server learns what the player's files are, whatever the order of the answers, and
replaces those that differ, unless two that follow one another are in directories of the
same name under different ones. -/
theorem session_patches (crc : List UInt8 → UInt32) (allFiles : List File)
    (disk : List Name → Name → Option (List UInt8)) (hcount : allFiles.length < 2 ^ 32)
    (hnames : ∀ file ∈ allFiles, Named file) (hplaces : (allFiles.map place).Nodup) :
    if List.IsChain Clear (allFiles.map File.pathDirectories) then
      ∃ asked checked, (on04 (some allFiles)).run ⟨[], []⟩ = .ok ⟨⟩ asked ∧
        Player.obeyAll crc ⟨disk, [], none, []⟩ asked.sent = some checked ∧
        checked.files = disk ∧ checked.directory = [] ∧
        ∀ cmds : List FileInformation, cmds.Perm checked.answers → ∃ told, (cmds.forM on0F).run asked = .ok ⟨⟩ told ∧
          if List.IsChain Clear ((allFiles.filter (outdated crc disk)).map File.pathDirectories) then
            ∃ done commands patched, (on10 crc).run told = .ok ⟨⟩ done ∧
              done.sent = asked.sent ++ commands ∧ checked.obeyAll crc commands = some patched ∧
              patched.directory = [] ∧ Patched crc disk allFiles patched.files
          else ∃ c', (on10 crc).run told =
            .error (.logicError "intermediate path is not a prefix of final path") c'
    else ∃ c', (on04 (some allFiles)).run ⟨[], []⟩ =
      .error (.logicError "intermediate path is not a prefix of final path") c' := by
  by_cases hclear : List.IsChain Clear (allFiles.map File.pathDirectories)
  · rw [if_pos hclear]
    have hanswers (cmds : List FileInformation) (hperm : cmds.Perm (answers crc disk 0 allFiles)) :=
      run_allAnswers (c := ⟨allFiles.map .new, .startSession :: (checksumCommands [] 0 allFiles ++
        (walk (lastDirectory [] allFiles) [] ++ [.endOfChecksumRequests]))⟩) hcount hperm rfl
    refine ⟨_, _, run_on04 hclear, obeyAll_checksums hclear hnames, rfl, rfl, fun cmds hperm => ?_⟩
    refine ⟨_, hanswers cmds hperm, ?_⟩
    by_cases hchain : List.IsChain Clear ((allFiles.filter (outdated crc disk)).map File.pathDirectories)
    · rw [if_pos hchain]
      obtain ⟨totalBytes, hrun⟩ := run_on10 (.startSession :: (checksumCommands [] 0 allFiles ++
        (walk (lastDirectory [] allFiles) [] ++ [.endOfChecksumRequests]))) hcount hchain
      exact ⟨_, _, _, hrun, rfl,
        obeyAll_updateSession hchain fun file hfile => hnames file (List.mem_of_mem_filter hfile), rfl,
        patched_updated hplaces⟩
    · rw [if_neg hchain]
      exact run_on10_error hcount hchain
  · rw [if_neg hclear]
    have hcons : ¬ List.IsChain Clear (([] : List Name) :: allFiles.map File.pathDirectories) :=
      fun hchain => hclear (List.isChain_cons.mp hchain).2
    obtain ⟨c', herror⟩ := run_requestChecksums_error (c := ⟨[], [.startSession]⟩) hcons
    refine ⟨c', ?_⟩
    rw [on04, run_bind_of_ok (run_send _)]
    exact run_bind_of_error herror

/-- Four files in `./a/x`, `./a`, `./b` and `./b/x`. -/
def sampleIndex : List File :=
  [⟨[[0x2E], [0x61], [0x78]], [0x66], [1], by decide⟩, ⟨[[0x2E], [0x61]], [0x67], [2], by decide⟩,
    ⟨[[0x2E], [0x62]], [0x68], [3], by decide⟩, ⟨[[0x2E], [0x62], [0x78]], [0x69], [4], by decide⟩]

/-- A player without the files gets them. One who has the second and the third does not
get the others. -/
theorem session_patches_sampleIndex :
    (∃ asked checked, (on04 (some sampleIndex)).run ⟨[], []⟩ = .ok ⟨⟩ asked ∧
      Player.obeyAll Checksums.crc32 ⟨fun _ _ => none, [], none, []⟩ asked.sent = some checked ∧
      ∃ told, (checked.answers.forM on0F).run asked = .ok ⟨⟩ told ∧
        ∃ done commands patched, (on10 Checksums.crc32).run told = .ok ⟨⟩ done ∧
          done.sent = asked.sent ++ commands ∧
          checked.obeyAll Checksums.crc32 commands = some patched ∧
          Patched Checksums.crc32 (fun _ _ => none) sampleIndex patched.files) ∧
    ∃ asked checked, (on04 (some sampleIndex)).run ⟨[], []⟩ = .ok ⟨⟩ asked ∧
      Player.obeyAll Checksums.crc32 ⟨fun _ name => if name = [0x67] then some [2] else
        if name = [0x68] then some [3] else none, [], none, []⟩ asked.sent = some checked ∧
      ∃ told, (checked.answers.forM on0F).run asked = .ok ⟨⟩ told ∧
        ∃ c', (on10 Checksums.crc32).run told =
          .error (.logicError "intermediate path is not a prefix of final path") c' := by
  constructor
  · have h := session_patches Checksums.crc32 sampleIndex (fun _ _ => none) (by decide) (by decide) (by decide)
    rw [if_pos (by decide)] at h
    obtain ⟨asked, checked, hasked, hchecked, -, -, hrest⟩ := h
    obtain ⟨told, htold, hdone⟩ := hrest checked.answers (List.Perm.refl _)
    rw [if_pos (by decide +kernel)] at hdone
    obtain ⟨done, commands, patched, hdone, hsent, hpatched, -, hfiles⟩ := hdone
    exact ⟨asked, checked, hasked, hchecked, told, htold, done, commands, patched, hdone, hsent, hpatched, hfiles⟩
  · have h := session_patches Checksums.crc32 sampleIndex (fun _ name => if name = [0x67] then some [2] else
      if name = [0x68] then some [3] else none) (by decide) (by decide) (by decide)
    rw [if_pos (by decide)] at h
    obtain ⟨asked, checked, hasked, hchecked, -, -, hrest⟩ := h
    obtain ⟨told, htold, herror⟩ := hrest checked.answers (List.Perm.refl _)
    rw [if_neg (by decide +kernel)] at herror
    exact ⟨asked, checked, hasked, hchecked, told, htold, herror⟩

end HuntersGuild.PatchSessions
