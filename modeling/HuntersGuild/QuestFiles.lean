import HuntersGuild.AsciiFields
import HuntersGuild.DownloadQuests
import HuntersGuild.KeyedLists
import HuntersGuild.SuperMaps

/-!
`encode_qst_file` and `decode_qst_data`. A QST file is the commands with which a server
sends the files of a quest: it opens all files, and then sends each of them in parts.
-/

namespace HuntersGuild.QuestFiles

open HuntersGuild.ByteStreams
open HuntersGuild.Channels (HeaderLayout resize roundUp)
open HuntersGuild.ChannelFraming (le_roundUp length_resize resize_of_le)
open HuntersGuild.DownloadQuests (decodeDlqData)
open HuntersGuild.ExceptionRules
open HuntersGuild.FuelLoop
open HuntersGuild.Items (Version)
open HuntersGuild.KeyedLists
open HuntersGuild.StringReaders
open HuntersGuild.SuperMaps (upperHex)
open HuntersGuild.WordBytes

def sizeofHeader : HeaderLayout → Nat
  | .dcv3 | .pc => 4
  | .bb => 8

/-- The structures of the commands that open files. -/
inductive OpenFile where
  | dc
  | pcGc
  | xb
  | bb
  deriving DecidableEq

namespace OpenFile

def size : OpenFile → Nat
  | .dc | .pcGc => 0x38
  | .xb | .bb => 0x50

/-- `assign_raw` is `resize` to the size of the field. -/
def put (openFile : OpenFile) (name filename xbFilename : List UInt8) (questNumber : UInt32) (fileSize : Nat) :
    List UInt8 :=
  let name := [0x50, 0x53, 0x4F, 0x2F] ++ name
  match openFile with
  | .dc => resize 0x22 name ++ ([0] ++ (AsciiFields.encode 0x11 filename ++ putU32l (.ofNat fileSize)))
  | .pcGc => resize 0x22 name ++ (putU16l 0 ++ (AsciiFields.encode 0x10 filename ++ putU32l (.ofNat fileSize)))
  | .xb => resize 0x22 name ++ (putU16l 0 ++ (AsciiFields.encode 0x10 filename ++ (putU32l (.ofNat fileSize) ++
      (AsciiFields.encode 0x10 xbFilename ++ putU32l (0x30000000 ||| questNumber) ++ List.replicate 4 0))))
  | .bb => List.replicate 0x22 0 ++ (putU16l 0 ++ (AsciiFields.encode 0x10 filename ++
      (putU32l (.ofNat fileSize) ++ resize 0x18 name)))

/-- The filename and the size of the file. -/
def get (openFile : OpenFile) : Reader (List UInt8 × UInt32) := do
  let _ ← getParray 0x22
  match openFile with
  | .dc =>
      let _ ← getU8
      let filename ← getParray 0x11
      let fileSize ← getU32l
      return (AsciiFields.decode filename.bytes, fileSize)
  | .pcGc =>
      let _ ← getU16l
      let filename ← getParray 0x10
      let fileSize ← getU32l
      return (AsciiFields.decode filename.bytes, fileSize)
  | .xb | .bb =>
      let _ ← getU16l
      let filename ← getParray 0x10
      let fileSize ← getU32l
      let _ ← getParray 0x18
      return (AsciiFields.decode filename.bytes, fileSize)

end OpenFile

/-- `S_WriteFile_13_A7`. -/
structure WriteFile where
  filename : List UInt8
  data : List UInt8
  dataSize : UInt32

namespace WriteFile

def size : Nat := 0x414

def put (filename chunk : List UInt8) : List UInt8 :=
  AsciiFields.encode 0x10 filename ++ (resize 0x400 chunk ++ putU32l (.ofNat chunk.length))

def get : Reader WriteFile := do
  let filename ← getParray 0x10
  let data ← getParray 0x400
  let dataSize ← getU32l
  return ⟨AsciiFields.decode filename.bytes, data.bytes, dataSize⟩

end WriteFile

/-! Decoding. -/

/-- `qst` stands for a format that is not known yet. -/
inductive QuestFileFormat where
  | qst
  | binDat
  | binDatDlq
  deriving DecidableEq

def mixedCommands : String := "QST file contains mixed download and non-download commands"

/-- What a command tells about the format. -/
def QuestFileFormat.next (subformat : QuestFileFormat) (command : UInt16) : Except Exception QuestFileFormat :=
  if command = 0x44 ∨ command = 0x13 then
    if subformat = .qst then return .binDat
    else if subformat ≠ .binDat then throw (.runtimeError mixedCommands)
    else return subformat
  else if command = 0xA6 ∨ command = 0xA7 then
    if subformat = .qst then return .binDatDlq
    else if subformat ≠ .binDatDlq then throw (.runtimeError mixedCommands)
    else return subformat
  else return subformat

/-- An `unordered_map` with strings for its keys, in the order of its entries. -/
abbrev StringMap (α : Type) := List (List UInt8 × α)

namespace StringMap

variable {α : Type}

/-- `emplace`, which does not replace what is there. -/
def emplace (m : StringMap α) (k : List UInt8) (v : α) : Option (StringMap α) :=
  if (lookup Prod.fst m k).isSome then none else some (m ++ [(k, v)])

/-- `at`. -/
def get (m : StringMap α) (k : List UInt8) : Except Exception α :=
  match lookup Prod.fst m k with
  | some entry => .ok entry.2
  | none => .error (.outOfRange "unordered_map::at")

/-- An assignment to what `at` refers to. -/
def set (m : StringMap α) (k : List UInt8) (v : α) : StringMap α :=
  m.map fun entry => if entry.1 = k then (k, v) else entry

end StringMap

structure QstState where
  files : StringMap (List UInt8)
  fileRemainingBytes : StringMap UInt64
  subformat : QuestFileFormat

def toText (s : List UInt8) : String := String.ofList (s.map fun c => Char.ofNat c.toNat)

def QstState.openFile (s : QstState) (filename : List UInt8) (fileSize : UInt32) : Except Exception QstState := do
  let e := Exception.runtimeError ("qst opens the same file multiple times: " ++ toText filename)
  match s.files.emplace filename [], s.fileRemainingBytes.emplace filename fileSize.toUInt64 with
  | some files, some fileRemainingBytes => return { s with files, fileRemainingBytes }
  | _, _ => throw e

def chunksOutOfOrder : String := "qst contains chunks out of order"

def QstState.writeFile (s : QstState) (flag : UInt32) (cmd : WriteFile) : Except Exception QstState :=
  if cmd.dataSize > 0x400 then throw (.runtimeError "qst contains invalid write command")
  else do
    let fileData ← s.files.get cmd.filename
    let remainingBytes ← s.fileRemainingBytes.get cmd.filename
    if fileData.length &&& 0x3FF ≠ 0 then throw (.runtimeError "qst contains uneven chunks out of order")
    else if flag.toNat ≠ fileData.length / 0x400 then throw (.runtimeError chunksOutOfOrder)
    else return { s with
      files := s.files.set cmd.filename (fileData ++ cmd.data.take cmd.dataSize.toNat)
      fileRemainingBytes := s.fileRemainingBytes.set cmd.filename (remainingBytes - cmd.dataSize.toUInt64) }

/-- One command. -/
def decodeCommand (layout : HeaderLayout) (openFile : OpenFile) (s : QstState) : Reader QstState := do
  let header ← getParray (sizeofHeader layout)
  let command := layout.command header.bytes
  let size := layout.size header.bytes
  let subformat ← s.subformat.next command
  let s := { s with subformat }
  if command = 0x44 ∨ command = 0xA6 then
    if size ≠ sizeofHeader layout + openFile.size then
      throw (.runtimeError "qst open file command has incorrect size")
    else do
      let (filename, fileSize) ← openFile.get
      s.openFile filename fileSize
  else if command = 0x13 ∨ command = 0xA7 then
    -- Larger commands are allowed.
    if size < sizeofHeader layout + WriteFile.size then
      throw (.runtimeError "qst write file command has incorrect size")
    else do
      let cmd ← WriteFile.get
      s.writeFile (layout.flag header.bytes) cmd
  else throw (.runtimeError "invalid command in qst file")

/-- `go` to the next multiple of `n`. -/
def align (n : Nat) (r : StringReader) : StringReader :=
  ⟨r.remaining.drop (roundUp n r.offset - r.offset), roundUp n r.offset⟩

/-- One pass of the loop. -/
def decodeBody (layout : HeaderLayout) (openFile : OpenFile) (s : StringReader × QstState) :
    Step (StringReader × QstState) (Except Exception QstState) :=
  let r := align (sizeofHeader layout) s.1
  if s.1.eof ∨ r.eof then .done (.ok s.2)
  else
    match decodeCommand layout openFile s.2 r with
    | .ok (s, r) => .next (r, s)
    | .error e => .done (.error e)

def decodeQstDataT (layout : HeaderLayout) (openFile : OpenFile) (data : List UInt8) :
    Except Exception (StringMap (List UInt8)) := do
  let s ← (run (decodeBody layout openFile) (data.length + 1) (.ofBytes data, ⟨[], [], .qst⟩)).getD
    (.error .nonterminating)
  s.fileRemainingBytes.forM fun (filename, remainingBytes) =>
    if remainingBytes ≠ 0 then
      throw (.runtimeError ("expected " ++ toString remainingBytes.toNat ++ " (0x" ++ upperHex 0 remainingBytes.toNat ++
        ") more bytes for file " ++ toText filename))
    else return ⟨⟩
  if s.subformat = .binDatDlq then
    s.files.mapM fun (filename, data) => do return (filename, ← decodeDlqData data)
  else return s.files

def decodeQstData (data : List UInt8) : Except Exception (StringMap (List UInt8)) := do
  let (signature, _) ← getU32b (.ofBytes data)
  if signature = 0x58004400 ∨ signature = 0x5800A600 then decodeQstDataT .bb .bb data
  else if signature &&& 0xFFFFFF00 = 0x3C004400 ∨ signature &&& 0xFFFFFF00 = 0x3C00A600 then
    decodeQstDataT .pc .pcGc data
  else if signature &&& 0xFF00FFFF = 0x44003C00 ∨ signature &&& 0xFF00FFFF = 0xA6003C00 then do
    -- The field is one byte on DC, where the filename begins in the second byte.
    let type ← pget getU16l data (4 + 0x22)
    if type > 3 then decodeQstDataT .dcv3 .dc data else decodeQstDataT .dcv3 .pcGc data
  else if signature &&& 0xFF00FFFF = 0x44005400 ∨ signature &&& 0xFF00FFFF = 0xA6005400 then
    decodeQstDataT .dcv3 .xb data
  else throw (.runtimeError "invalid qst file format")

/-! Encoding. -/

def addCommandHeader (layout : HeaderLayout) (command flag : UInt8) (size : Nat) : List UInt8 :=
  layout.write command.toUInt16 flag.toUInt32 (sizeofHeader layout + size)

def addOpenFileCommand (layout : HeaderLayout) (openFile : OpenFile) (name xbFilename : List UInt8)
    (questNumber : UInt32) (isDownload : Bool) (file : List UInt8 × List UInt8) : List UInt8 :=
  addCommandHeader layout (if isDownload then 0xA6 else 0x44) 0x00 openFile.size ++
    openFile.put name file.1 xbFilename questNumber file.2.length

/-- Part `k` of the data. -/
def chunk (data : List UInt8) (k : Nat) : List UInt8 := (data.drop (0x400 * k)).take 0x400

/-- The command that writes part `k`, whose number is cut off at a byte. -/
def addWriteFileCommand (layout : HeaderLayout) (isDownload bbAlignment : Bool) (file : List UInt8 × List UInt8)
    (k : Nat) : List UInt8 :=
  addCommandHeader layout (if isDownload then 0xA7 else 0x13) (.ofNat k) WriteFile.size ++
    (WriteFile.put file.1 (chunk file.2 k) ++ if bbAlignment then putU32l 0 else [])

def addWriteFileCommands (layout : HeaderLayout) (isDownload bbAlignment : Bool)
    (file : List UInt8 × List UInt8) : List UInt8 :=
  (List.range ((file.2.length + 0x3FF) / 0x400)).flatMap
    (addWriteFileCommand layout isDownload bbAlignment file)

/-- What the commands of a version look like. -/
structure QstFormat where
  layout : HeaderLayout
  openFile : OpenFile
  bbAlignment : Bool
  aligned : bbAlignment = decide (layout = .bb)

/-- The `switch` in `encode_qst_file`. -/
def qstFormat : Version → Option QstFormat
  | .dcNte | .dc112000 | .dcV1 | .dcV2 => some ⟨.dcv3, .dc, false, rfl⟩
  | .pcNte | .pcV2 => some ⟨.pc, .pcGc, false, rfl⟩
  | .gcNte | .gcV3 | .gcEp3Nte | .gcEp3 => some ⟨.dcv3, .pcGc, false, rfl⟩
  | .xbV3 => some ⟨.dcv3, .xb, false, rfl⟩
  | .bbV4 => some ⟨.bb, .bb, true, rfl⟩
  | .pcPatch | .bbPatch | .unknown => none

/-- `files` are in the order in which the map lists them. -/
def encodeQstFile (files : StringMap (List UInt8)) (name : List UInt8) (questNumber : UInt32)
    (xbFilename : List UInt8) (version : Version) (isDlqEncoded : Bool) : Except Exception (List UInt8) :=
  match qstFormat version with
  | some f => return files.flatMap (addOpenFileCommand f.layout f.openFile name xbFilename questNumber isDlqEncoded) ++
      files.flatMap (addWriteFileCommands f.layout isDlqEncoded f.bbAlignment)
  | none => throw (.logicError "invalid game version")

/-! The commands. -/

/-- A name that the commands hold. On DC the decoder must see that there is one. -/
structure Named (openFile : OpenFile) (filename : List UInt8) : Prop where
  encodable : AsciiFields.Encodable 0x10 filename
  ne_nil : openFile = .dc → filename ≠ []

variable {layout : HeaderLayout} {openFile : OpenFile} {filename : List UInt8}

theorem reads_bytes {size : Nat} {bytes : List UInt8} (h : bytes.length = size) :
    Reads (getParray size) bytes ⟨bytes, h⟩ :=
  reads_getParray ⟨bytes, h⟩

theorem OpenFile.reads_put (h : Named openFile filename) (name xbFilename : List UInt8) (questNumber : UInt32)
    (fileSize : Nat) :
    Reads openFile.get (openFile.put name filename xbFilename questNumber fileSize) (filename, .ofNat fileSize) := by
  have hsize := reads_getU32l (.ofNat fileSize)
  have htype := reads_getU16l 0
  have hfilename := reads_bytes (AsciiFields.length_encode 0x10 filename)
  have hname := reads_bytes (length_resize 0x22 ([0x50, 0x53, 0x4F, 0x2F] ++ name))
  have hdecode := AsciiFields.decode_encode h.encodable
  cases openFile with
  | dc =>
      have hfield := reads_bytes (AsciiFields.length_encode 0x11 filename)
      have hback := AsciiFields.decode_encode (h.encodable.mono (show 0x10 ≤ 0x11 by decide))
      refine hname.bind ((reads_getU8 0).bind (hfield.bind ?_))
      dsimp only
      rw [hback]
      exact hsize.map
  | pcGc =>
      refine hname.bind (htype.bind (hfilename.bind ?_))
      dsimp only
      rw [hdecode]
      exact hsize.map
  | xb =>
      have hrest : (AsciiFields.encode 0x10 xbFilename ++ putU32l (0x30000000 ||| questNumber) ++
          List.replicate 4 0).length = 0x18 := by
        rw [List.length_append, List.length_append, AsciiFields.length_encode]
        rfl
      refine hname.bind (htype.bind (hfilename.bind (hsize.bind ?_)))
      dsimp only
      rw [hdecode]
      exact (reads_bytes hrest).map
  | bb =>
      have hrest := length_resize 0x18 ([0x50, 0x53, 0x4F, 0x2F] ++ name)
      have hunused := reads_bytes (show (List.replicate 0x22 (0 : UInt8)).length = 0x22 from rfl)
      refine hunused.bind (htype.bind (hfilename.bind (hsize.bind ?_)))
      dsimp only
      rw [hdecode]
      exact (reads_bytes hrest).map

theorem OpenFile.length_put (name filename xbFilename : List UInt8) (questNumber : UInt32) (fileSize : Nat) :
    (openFile.put name filename xbFilename questNumber fileSize).length = openFile.size := by
  have hdword (n : UInt32) : (putU32l n).length = 4 := rfl
  have hword (n : UInt16) : (putU16l n).length = 2 := rfl
  cases openFile <;>
    simp only [OpenFile.put, OpenFile.size, List.length_append, length_resize, AsciiFields.length_encode,
      List.length_replicate, List.length_singleton, hdword, hword]

theorem WriteFile.reads_put (h : AsciiFields.Encodable 0x10 filename) (data : List UInt8) :
    Reads WriteFile.get (WriteFile.put filename data) ⟨filename, resize 0x400 data, .ofNat data.length⟩ := by
  refine (reads_bytes (AsciiFields.length_encode 0x10 filename)).bind ?_
  dsimp only
  rw [AsciiFields.decode_encode h]
  exact (reads_bytes (length_resize 0x400 data)).bind (reads_getU32l _).map

theorem WriteFile.length_put (filename data : List UInt8) : (WriteFile.put filename data).length = WriteFile.size := by
  rw [WriteFile.put, List.length_append, List.length_append, AsciiFields.length_encode, length_resize]
  rfl

theorem length_addCommandHeader (command flag : UInt8) (size : Nat) :
    (addCommandHeader layout command flag size).length = sizeofHeader layout := by
  cases layout <;> rfl

theorem fits_header (command flag : UInt8) :
    ChannelFraming.Fits layout command.toUInt16 flag.toUInt32 where
  command_lt _ := by
    rw [UInt8.toNat_toUInt16]
    exact command.toNat_lt
  flag_lt _ := by
    rw [UInt8.toNat_toUInt32]
    exact flag.toNat_lt

theorem command_addCommandHeader (command flag : UInt8) (size : Nat) :
    layout.command (addCommandHeader layout command flag size) = command.toUInt16 :=
  ChannelFraming.command_write (fits_header command flag)

theorem flag_addCommandHeader (command flag : UInt8) (size : Nat) :
    layout.flag (addCommandHeader layout command flag size) = flag.toUInt32 :=
  ChannelFraming.flag_write (fits_header command flag)

theorem size_addCommandHeader (command flag : UInt8) {size : Nat} (h : sizeofHeader layout + size < 0x10000) :
    layout.size (addCommandHeader layout command flag size) = sizeofHeader layout + size :=
  ChannelFraming.size_write h

/-- The format of the commands that `encode_qst_file` adds. -/
def formatOf (isDownload : Bool) : QuestFileFormat := if isDownload then .binDatDlq else .binDat

variable {isDownload : Bool} {s : QstState} {file : List UInt8 × List UInt8} {rest : List UInt8}

/-- The commands before were of the same kind. -/
def Follows (isDownload : Bool) (s : QstState) : Prop :=
  s.subformat = .qst ∨ s.subformat = formatOf isDownload

theorem next_open (h : Follows isDownload s) :
    s.subformat.next (if isDownload then (0xA6 : UInt8) else 0x44).toUInt16 = .ok (formatOf isDownload) := by
  cases isDownload <;> obtain h | h := h <;> rw [h] <;> rfl

theorem next_write (h : Follows isDownload s) :
    s.subformat.next (if isDownload then (0xA7 : UInt8) else 0x13).toUInt16 = .ok (formatOf isDownload) := by
  cases isDownload <;> obtain h | h := h <;> rw [h] <;> rfl

theorem decodeCommand_open (hs : Follows isDownload s) (h : Named openFile file.1) (name xbFilename : List UInt8)
    (questNumber : UInt32) (offset : Nat) :
    decodeCommand layout openFile s
      ⟨addOpenFileCommand layout openFile name xbFilename questNumber isDownload file ++ rest, offset⟩ =
      ({ s with subformat := formatOf isDownload } : QstState).openFile file.1 (.ofNat file.2.length) >>=
        fun s' => .ok (s', ⟨rest, offset + sizeofHeader layout + openFile.size⟩) := by
  have hsize : sizeofHeader layout + openFile.size < 0x10000 := by
    cases layout <;> cases openFile <;> decide
  rw [addOpenFileCommand, List.append_assoc, decodeCommand,
    bind_of_reads (reads_bytes (length_addCommandHeader _ _ _))]
  dsimp only
  rw [command_addCommandHeader, size_addCommandHeader _ _ hsize, lift_bind_of_ok (next_open hs)]
  have hopen : (if isDownload then (0xA6 : UInt8) else 0x44).toUInt16 = 0x44 ∨
      (if isDownload then (0xA6 : UInt8) else 0x44).toUInt16 = 0xA6 := by
    cases isDownload <;> decide
  rw [if_pos hopen, if_neg (not_not_intro rfl), bind_of_reads (OpenFile.reads_put h _ _ _ _),
    OpenFile.length_put, length_addCommandHeader]
  rfl

theorem decodeCommand_write (hs : Follows isDownload s) (h : AsciiFields.Encodable 0x10 filename)
    (data : List UInt8) (flag : UInt8) (offset : Nat) :
    decodeCommand layout openFile s
      ⟨addCommandHeader layout (if isDownload then 0xA7 else 0x13) flag WriteFile.size ++
        (WriteFile.put filename data ++ rest), offset⟩ =
      ({ s with subformat := formatOf isDownload } : QstState).writeFile flag.toUInt32
        ⟨filename, resize 0x400 data, .ofNat data.length⟩ >>=
        fun s' => .ok (s', ⟨rest, offset + sizeofHeader layout + WriteFile.size⟩) := by
  have hsize : sizeofHeader layout + WriteFile.size < 0x10000 := by
    cases layout <;> decide
  rw [decodeCommand, bind_of_reads (reads_bytes (length_addCommandHeader _ _ _))]
  dsimp only
  rw [command_addCommandHeader, size_addCommandHeader _ _ hsize, flag_addCommandHeader,
    lift_bind_of_ok (next_write hs)]
  have hopen : ¬ ((if isDownload then (0xA7 : UInt8) else 0x13).toUInt16 = 0x44 ∨
      (if isDownload then (0xA7 : UInt8) else 0x13).toUInt16 = 0xA6) := by
    cases isDownload <;> decide
  have hwrite : (if isDownload then (0xA7 : UInt8) else 0x13).toUInt16 = 0x13 ∨
      (if isDownload then (0xA7 : UInt8) else 0x13).toUInt16 = 0xA7 := by
    cases isDownload <;> decide
  rw [if_neg hopen, if_pos hwrite, if_neg (Nat.lt_irrefl _), bind_of_reads (WriteFile.reads_put h data),
    WriteFile.length_put, length_addCommandHeader]
  rfl

/-! One pass of the loop. -/

/-- What is left to be read from the next multiple of the alignment on. -/
def Ready (layout : HeaderLayout) (r : StringReader) (bytes : List UInt8) : Prop :=
  (align (sizeofHeader layout) r).remaining = bytes

variable {r : StringReader} {bytes : List UInt8}

theorem eof_of_ready_ne_nil (h : Ready layout r bytes) (hne : bytes ≠ []) :
    ¬ (r.eof = true ∨ (align (sizeofHeader layout) r).eof = true) := by
  rintro (heof | heof)
  · refine hne (h.symm.trans ?_)
    rw [align, List.isEmpty_iff.mp heof, List.drop_nil]
  · exact hne (h.symm.trans (List.isEmpty_iff.mp heof))

theorem decodeBody_of_ok {s' : QstState} {r' : StringReader} (h : Ready layout r bytes) (hne : bytes ≠ [])
    (hok : decodeCommand layout openFile s ⟨bytes, roundUp (sizeofHeader layout) r.offset⟩ = .ok (s', r')) :
    decodeBody layout openFile (r, s) = .next (r', s') := by
  have halign : align (sizeofHeader layout) r = ⟨bytes, roundUp (sizeofHeader layout) r.offset⟩ :=
    congrArg (StringReader.mk · _) h
  rw [decodeBody]
  dsimp only
  rw [if_neg (eof_of_ready_ne_nil h hne), halign, hok]

theorem decodeBody_of_error {e : Exception} (h : Ready layout r bytes) (hne : bytes ≠ [])
    (herror : decodeCommand layout openFile s ⟨bytes, roundUp (sizeofHeader layout) r.offset⟩ = .error e) :
    decodeBody layout openFile (r, s) = .done (.error e) := by
  have halign : align (sizeofHeader layout) r = ⟨bytes, roundUp (sizeofHeader layout) r.offset⟩ :=
    congrArg (StringReader.mk · _) h
  rw [decodeBody]
  dsimp only
  rw [if_neg (eof_of_ready_ne_nil h hne), halign, herror]

theorem decodeBody_of_ready_nil (h : Ready layout r []) :
    decodeBody layout openFile (r, s) = .done (.ok s) := by
  have heof : (align (sizeofHeader layout) r).eof = true := List.isEmpty_iff.mpr h
  exact if_pos (.inr heof)

/-- The padding of a command is skipped. -/
theorem ready_after {offset size : Nat} {padding : List UInt8}
    (hpadded : sizeofHeader layout ∣ size + padding.length) (hlt : padding.length < sizeofHeader layout) :
    Ready layout ⟨padding ++ rest, roundUp (sizeofHeader layout) offset + size⟩ rest := by
  have hround : roundUp (sizeofHeader layout) (roundUp (sizeofHeader layout) offset + size) =
      roundUp (sizeofHeader layout) offset + size + padding.length := by
    unfold roundUp
    cases layout <;> dsimp only [sizeofHeader] at hpadded hlt ⊢ <;> omega
  rw [Ready, align, hround, Nat.add_sub_cancel_left]
  exact List.drop_left

theorem emplace_of_notMem {α : Type} {m : StringMap α} {k : List UInt8} (h : k ∉ m.map Prod.fst) (v : α) :
    m.emplace k v = some (m ++ [(k, v)]) := by
  rw [StringMap.emplace, lookup_eq_none_iff.mpr h]
  rfl

/-- The value of the field `file_size`. -/
def openedSize (file : List UInt8 × List UInt8) : UInt64 := (UInt32.ofNat file.2.length).toUInt64

theorem decodeBody_open (hs : Follows isDownload s) (h : Named openFile file.1)
    (hfiles : file.1 ∉ s.files.map Prod.fst) (hremaining : file.1 ∉ s.fileRemainingBytes.map Prod.fst)
    (name xbFilename : List UInt8) (questNumber : UInt32)
    (hready : Ready layout r
      (addOpenFileCommand layout openFile name xbFilename questNumber isDownload file ++ rest)) :
    ∃ r', decodeBody layout openFile (r, s) = .next (r', ⟨s.files ++ [(file.1, [])],
      s.fileRemainingBytes ++ [(file.1, openedSize file)], formatOf isDownload⟩) ∧ Ready layout r' rest := by
  have hopen : ({ s with subformat := formatOf isDownload } : QstState).openFile file.1 (.ofNat file.2.length) =
      .ok ⟨s.files ++ [(file.1, [])], s.fileRemainingBytes ++ [(file.1, openedSize file)],
        formatOf isDownload⟩ := by
    rw [QstState.openFile]
    dsimp only
    rw [emplace_of_notMem hfiles, emplace_of_notMem hremaining]
    rfl
  have hcommand := @decodeCommand_open layout openFile isDownload s file rest hs h name xbFilename questNumber
    (roundUp (sizeofHeader layout) r.offset)
  rw [hopen, ok_bind, Nat.add_assoc] at hcommand
  have hne : addOpenFileCommand layout openFile name xbFilename questNumber isDownload file ++ rest ≠ [] := by
    cases layout <;> exact List.cons_ne_nil _ _
  refine ⟨_, decodeBody_of_ok hready hne hcommand, ?_⟩
  refine @ready_after layout rest r.offset (sizeofHeader layout + openFile.size) [] ?_ ?_
  · cases layout <;> cases openFile <;> decide
  · cases layout <;> decide

/-! All files are opened. -/

variable {files : StringMap (List UInt8)}

theorem reaches_opens (hs : Follows isDownload s) (hfiles : ∀ file ∈ files, Named openFile file.1)
    (hkeys : (s.files.map Prod.fst ++ files.map Prod.fst).Nodup)
    (hremaining : s.fileRemainingBytes.map Prod.fst = s.files.map Prod.fst)
    (name xbFilename : List UInt8) (questNumber : UInt32)
    (hready : Ready layout r
      (files.flatMap (addOpenFileCommand layout openFile name xbFilename questNumber isDownload) ++ rest)) :
    ∃ r' subformat, Reaches (decodeBody layout openFile) (r, s)
        (r', ⟨s.files ++ files.map fun file => (file.1, []),
          s.fileRemainingBytes ++ files.map fun file => (file.1, openedSize file), subformat⟩) ∧
      Ready layout r' rest ∧ (subformat = if files = [] then s.subformat else formatOf isDownload) := by
  induction files generalizing s r with
  | nil =>
      refine ⟨r, s.subformat, ?_, hready, rfl⟩
      rw [List.map_nil, List.append_nil, List.map_nil, List.append_nil]
      exact .refl
  | cons file files ih =>
      obtain ⟨hfile, hrest⟩ := List.forall_mem_cons.mp hfiles
      rw [List.flatMap_cons, List.append_assoc] at hready
      rw [List.map_cons] at hkeys
      have hnew : file.1 ∉ s.files.map Prod.fst := fun hmem =>
        List.disjoint_of_nodup_append hkeys hmem List.mem_cons_self
      obtain ⟨r₁, hbody, hready₁⟩ := decodeBody_open hs hfile hnew (hremaining ▸ hnew) name xbFilename
        questNumber hready
      let s₁ : QstState := ⟨s.files ++ [(file.1, [])], s.fileRemainingBytes ++ [(file.1, openedSize file)],
        formatOf isDownload⟩
      have hs₁ : Follows isDownload s₁ := .inr rfl
      have hkeys₁ : (s₁.files.map Prod.fst ++ files.map Prod.fst).Nodup := by
        rw [List.map_append, List.append_assoc]
        exact hkeys
      have hremaining₁ : s₁.fileRemainingBytes.map Prod.fst = s₁.files.map Prod.fst := by
        rw [List.map_append, List.map_append, hremaining]
        rfl
      obtain ⟨r', subformat, hreach, hready', hsubformat⟩ := ih hs₁ hrest hkeys₁ hremaining₁ hready₁
      refine ⟨r', subformat, .head hbody ?_, hready', ?_⟩
      · rw [List.map_cons, List.map_cons]
        dsimp only [s₁] at hreach
        rw [List.append_assoc, List.append_assoc] at hreach
        exact hreach
      · rw [hsubformat, if_neg (List.cons_ne_nil _ _), ite_self]

/-! The parts of a file are written. -/

section Maps

variable {α : Type} {before after : StringMap α} {k : List UInt8} {v w : α}

theorem get_middle (h : k ∉ before.map Prod.fst) :
    StringMap.get (before ++ (k, v) :: after) k = .ok v := by
  have hlookup : lookup Prod.fst (before ++ (k, v) :: after) k = some (k, v) := by
    induction before with
    | nil => exact (lookup_cons _ _ _).trans (if_pos rfl)
    | cons entry before ih =>
        rw [List.map_cons, List.mem_cons, not_or] at h
        rw [List.cons_append, lookup_cons, if_neg (Ne.symm h.1), ih h.2]
  rw [StringMap.get, hlookup]

theorem set_of_notMem {m : StringMap α} (h : k ∉ m.map Prod.fst) : m.set k w = m := by
  refine (List.map_congr_left fun entry hentry => ?_).trans (List.map_id m)
  have hne : entry.1 ≠ k := fun heq => h (heq ▸ List.mem_map_of_mem hentry)
  exact if_neg hne

theorem set_middle (h : k ∉ before.map Prod.fst) (h' : k ∉ after.map Prod.fst) :
    StringMap.set (before ++ (k, v) :: after) k w = before ++ (k, w) :: after := by
  have hbefore := set_of_notMem (w := w) h
  have hafter := set_of_notMem (w := w) h'
  unfold StringMap.set at hbefore hafter ⊢
  rw [List.map_append, List.map_cons, hbefore, hafter, if_pos rfl]

end Maps

/-- The bytes that are missing from a file that has been written. -/
def writtenSize (file : List UInt8 × List UInt8) : List UInt8 × UInt64 :=
  (file.1, openedSize file - .ofNat file.2.length)

/-- The files before this one have been written, and `k` parts of this one. -/
def stage (isDownload : Bool) (before : StringMap (List UInt8)) (file : List UInt8 × List UInt8)
    (after : StringMap (List UInt8)) (k : Nat) : QstState where
  files := before ++ (file.1, file.2.take (0x400 * k)) :: after.map fun file => (file.1, [])
  fileRemainingBytes := before.map writtenSize ++
    (file.1, openedSize file - .ofNat (file.2.take (0x400 * k)).length) ::
      after.map fun file => (file.1, openedSize file)
  subformat := formatOf isDownload

variable {before after : StringMap (List UInt8)} {k : Nat}

/-- The names of the files differ. -/
structure Apart (before : StringMap (List UInt8)) (file : List UInt8 × List UInt8)
    (after : StringMap (List UInt8)) : Prop where
  before : file.1 ∉ before.map Prod.fst
  after : file.1 ∉ after.map Prod.fst

theorem sub_sub_eq (a b c : UInt64) : a - b - c = a - (b + c) := by
  grind

theorem writeFile_stage (isDownload : Bool) (h : Apart before file after) (hk : 0x400 * k < file.2.length) :
    (stage isDownload before file after k).writeFile (UInt8.ofNat k).toUInt32
        ⟨file.1, resize 0x400 (chunk file.2 k), .ofNat (chunk file.2 k).length⟩ =
      if k % 0x100 = k then .ok (stage isDownload before file after (k + 1))
      else .error (.runtimeError chunksOutOfOrder) := by
  have hchunk : (chunk file.2 k).length ≤ 0x400 := List.length_take_le _ _
  have hsize : (UInt32.ofNat (chunk file.2 k).length).toNat = (chunk file.2 k).length :=
    UInt32.toNat_ofNat_of_lt' (hchunk.trans_lt (by decide))
  have hsmall : ¬ UInt32.ofNat (chunk file.2 k).length > 0x400 := by
    rw [gt_iff_lt, UInt32.lt_iff_toNat_lt, hsize]
    exact Nat.not_lt.mpr hchunk
  have htaken : (file.2.take (0x400 * k)).length = 0x400 * k := List.length_take_of_le hk.le
  have hfile : (stage isDownload before file after k).files.get file.1 = .ok (file.2.take (0x400 * k)) :=
    get_middle h.before
  have hbeforeSizes : file.1 ∉ (before.map writtenSize).map Prod.fst := by
    rw [List.map_map]
    exact h.before
  have hafterFiles : file.1 ∉ (after.map fun file => (file.1, ([] : List UInt8))).map Prod.fst := by
    rw [List.map_map]
    exact h.after
  have hafterSizes : file.1 ∉ (after.map fun file => (file.1, openedSize file)).map Prod.fst := by
    rw [List.map_map]
    exact h.after
  have hremaining : (stage isDownload before file after k).fileRemainingBytes.get file.1 = .ok _ :=
    get_middle hbeforeSizes
  have heven : ¬ (file.2.take (0x400 * k)).length &&& 0x3FF ≠ 0 := by
    rw [htaken, not_not]
    exact (Nat.and_two_pow_sub_one_eq_mod _ 10).trans (Nat.mul_mod_right _ _)
  have hflag : ((UInt8.ofNat k).toUInt32.toNat ≠ (file.2.take (0x400 * k)).length / 0x400) ↔ k % 0x100 ≠ k := by
    rw [htaken, Nat.mul_div_cancel_left _ (by decide), UInt8.toNat_toUInt32, UInt8.toNat_ofNat']
  rw [QstState.writeFile, if_neg hsmall, hfile, ok_bind]
  dsimp only
  rw [hremaining, ok_bind, if_neg heven]
  by_cases hkept : k % 0x100 = k
  · rw [if_neg (mt hflag.mp (not_not_intro hkept)), if_pos hkept, pure_eq_ok]
    have hdata : file.2.take (0x400 * k) ++ (resize 0x400 (chunk file.2 k)).take (chunk file.2 k).length =
        file.2.take (0x400 * (k + 1)) := by
      rw [resize_of_le hchunk, List.take_left, Nat.mul_succ, List.take_add, chunk]
    have hleft : openedSize file - .ofNat (file.2.take (0x400 * k)).length -
        (UInt32.ofNat (chunk file.2 k).length).toUInt64 =
          openedSize file - .ofNat (file.2.take (0x400 * (k + 1))).length := by
      have hlength : (file.2.take (0x400 * (k + 1))).length =
          (file.2.take (0x400 * k)).length + (chunk file.2 k).length := by
        rw [Nat.mul_succ, List.take_add, List.length_append, chunk]
      have hword : (UInt32.ofNat (chunk file.2 k).length).toUInt64 = .ofNat (chunk file.2 k).length := by
        apply UInt64.toNat_inj.mp
        rw [UInt32.toNat_toUInt64, hsize, UInt64.toNat_ofNat_of_lt' (hchunk.trans_lt (by decide))]
      rw [hlength, UInt64.ofNat_add, sub_sub_eq, hword]
    have hfiles := set_middle (v := file.2.take (0x400 * k)) (w := file.2.take (0x400 * (k + 1))) h.before hafterFiles
    have hsizes := set_middle (v := openedSize file - .ofNat (file.2.take (0x400 * k)).length)
      (w := openedSize file - .ofNat (file.2.take (0x400 * (k + 1))).length) hbeforeSizes hafterSizes
    rw [hsize, hdata]
    unfold stage at hfiles hsizes ⊢
    dsimp only
    rw [hfiles, hleft, hsizes]
  · rw [if_pos (hflag.mpr hkept), if_neg hkept]
    rfl

theorem decodeBody_write (openFile : OpenFile) (h : Apart before file after)
    (hencodable : AsciiFields.Encodable 0x10 file.1)
    (hk : 0x400 * k < file.2.length)
    (hready : Ready layout r
      (addWriteFileCommand layout isDownload (decide (layout = .bb)) file k ++ rest)) :
    if k % 0x100 = k then ∃ r', decodeBody layout openFile (r, stage isDownload before file after k) =
        .next (r', stage isDownload before file after (k + 1)) ∧ Ready layout r' rest
    else decodeBody layout openFile (r, stage isDownload before file after k) =
      .done (.error (.runtimeError chunksOutOfOrder)) := by
  have hfollows : Follows isDownload (stage isDownload before file after k) := .inr rfl
  let padding : List UInt8 := if decide (layout = .bb) then putU32l 0 else []
  have hcommand := @decodeCommand_write layout openFile file.1 isDownload _ (padding ++ rest) hfollows hencodable
    (chunk file.2 k) (.ofNat k) (roundUp (sizeofHeader layout) r.offset)
  have hwrite := writeFile_stage isDownload h hk
  have hne : addWriteFileCommand layout isDownload (decide (layout = .bb)) file k ++ rest ≠ [] := by
    cases layout <;> exact List.cons_ne_nil _ _
  have hbytes : addWriteFileCommand layout isDownload (decide (layout = .bb)) file k ++ rest =
      addCommandHeader layout (if isDownload then 0xA7 else 0x13) (.ofNat k) WriteFile.size ++
        (WriteFile.put file.1 (chunk file.2 k) ++ (padding ++ rest)) := by
    rw [addWriteFileCommand, List.append_assoc, List.append_assoc]
  rw [← hbytes] at hcommand
  change _ = ((stage isDownload before file after k).writeFile _ _ >>= _) at hcommand
  rw [hwrite] at hcommand
  split_ifs with hkept
  · rw [if_pos hkept, ok_bind, Nat.add_assoc] at hcommand
    refine ⟨_, decodeBody_of_ok hready hne hcommand, ready_after ?_ ?_⟩
    · cases layout <;> decide
    · cases layout <;> decide
  · rw [if_neg hkept] at hcommand
    exact decodeBody_of_error hready hne hcommand

theorem reaches_parts {n : Nat} (openFile : OpenFile) (h : Apart before file after)
    (hencodable : AsciiFields.Encodable 0x10 file.1)
    (hparts : ∀ j < k + n, j < 0x100 ∧ 0x400 * j < file.2.length)
    (hready : Ready layout r ((List.range' k n).flatMap
      (addWriteFileCommand layout isDownload (decide (layout = .bb)) file) ++ rest)) :
    ∃ r', Reaches (decodeBody layout openFile) (r, stage isDownload before file after k)
        (r', stage isDownload before file after (k + n)) ∧ Ready layout r' rest := by
  induction n generalizing k r with
  | zero => exact ⟨r, .refl, hready⟩
  | succ n ih =>
      rw [List.range'_succ, List.flatMap_cons, List.append_assoc] at hready
      obtain ⟨hbyte, hk⟩ := hparts k (Nat.lt_add_of_pos_right n.succ_pos)
      have hbody := decodeBody_write openFile h hencodable hk hready
      rw [if_pos (Nat.mod_eq_of_lt hbyte)] at hbody
      obtain ⟨r₁, hnext, hready₁⟩ := hbody
      have hshift : k + 1 + n = k + (n + 1) := by omega
      obtain ⟨r', hreach, hready'⟩ := ih (hshift ▸ hparts) hready₁
      rw [hshift] at hreach
      exact ⟨r', .head hnext hreach, hready'⟩

/-- The files of the first list have been written. -/
def written (isDownload : Bool) (before after : StringMap (List UInt8)) : QstState where
  files := before ++ after.map fun file => (file.1, [])
  fileRemainingBytes := before.map writtenSize ++ after.map fun file => (file.1, openedSize file)
  subformat := formatOf isDownload

theorem stage_zero : stage isDownload before file after 0 = written isDownload before (file :: after) := by
  rw [stage, Nat.mul_zero, List.take_zero, List.length_nil, written, List.map_cons, List.map_cons]
  congr 4
  exact UInt64.sub_zero _

theorem stage_last (hk : file.2.length ≤ 0x400 * k) :
    stage isDownload before file after k = written isDownload (before ++ [file]) after := by
  rw [stage, List.take_of_length_le hk, written, List.map_append, List.append_assoc, List.append_assoc]
  rfl

theorem run_file (openFile : OpenFile) (h : Apart before file after)
    (hencodable : AsciiFields.Encodable 0x10 file.1)
    (hready : Ready layout r (addWriteFileCommands layout isDownload (decide (layout = .bb)) file ++ rest)) :
    if file.2.length ≤ 0x40000 then
      ∃ r', Reaches (decodeBody layout openFile) (r, written isDownload before (file :: after))
        (r', written isDownload (before ++ [file]) after) ∧ Ready layout r' rest
    else ∃ t, Reaches (decodeBody layout openFile) (r, written isDownload before (file :: after)) t ∧
      decodeBody layout openFile t = .done (.error (.runtimeError chunksOutOfOrder)) := by
  rw [addWriteFileCommands, List.range_eq_range'] at hready
  rw [← stage_zero]
  split_ifs with hsize
  · obtain ⟨r', hreach, hready'⟩ := reaches_parts openFile h hencodable
      (fun j hj => ⟨by omega, by omega⟩) hready
    rw [Nat.zero_add, @stage_last isDownload file before after ((file.2.length + 0x3FF) / 0x400) (by omega)] at hreach
    exact ⟨r', hreach, hready'⟩
  · -- The number of part 256 is written as 0.
    have hcount : (file.2.length + 0x3FF) / 0x400 = 0x100 + ((file.2.length + 0x3FF) / 0x400 - 0x101 + 1) := by
      omega
    rw [hcount, ← List.range'_append_1, List.flatMap_append, List.append_assoc] at hready
    obtain ⟨r', hreach, hready'⟩ := reaches_parts openFile h hencodable
      (fun j hj => ⟨by omega, by omega⟩) hready
    rw [List.range'_succ, List.flatMap_cons, List.append_assoc] at hready'
    have hbody := decodeBody_write openFile h hencodable (by omega) hready'
    rw [if_neg (by decide)] at hbody
    exact ⟨_, hreach, hbody⟩

theorem run_writes {todo : StringMap (List UInt8)} (openFile : OpenFile)
    (hkeys : (before.map Prod.fst ++ todo.map Prod.fst).Nodup)
    (hencodable : ∀ file ∈ todo, AsciiFields.Encodable 0x10 file.1)
    (hready : Ready layout r
      (todo.flatMap (addWriteFileCommands layout isDownload (decide (layout = .bb))) ++ rest)) :
    if ∀ file ∈ todo, file.2.length ≤ 0x40000 then
      ∃ r', Reaches (decodeBody layout openFile) (r, written isDownload before todo)
        (r', written isDownload (before ++ todo) []) ∧ Ready layout r' rest
    else ∃ t, Reaches (decodeBody layout openFile) (r, written isDownload before todo) t ∧
      decodeBody layout openFile t = .done (.error (.runtimeError chunksOutOfOrder)) := by
  induction todo generalizing before r with
  | nil =>
      rw [if_pos fun _ h => absurd h List.not_mem_nil, List.append_nil]
      exact ⟨r, .refl, hready⟩
  | cons file todo ih =>
      rw [List.flatMap_cons, List.append_assoc] at hready
      rw [List.map_cons] at hkeys
      have happart : Apart before file todo :=
        ⟨fun hmem => List.disjoint_of_nodup_append hkeys hmem List.mem_cons_self,
          (List.nodup_cons.mp (List.Nodup.of_append_right hkeys)).1⟩
      obtain ⟨hfile, htodo⟩ := List.forall_mem_cons.mp hencodable
      have hrun := run_file openFile happart hfile hready
      have hall : (∀ f ∈ file :: todo, f.2.length ≤ 0x40000) ↔
          file.2.length ≤ 0x40000 ∧ ∀ file ∈ todo, file.2.length ≤ 0x40000 :=
        List.forall_mem_cons
      by_cases hsize : file.2.length ≤ 0x40000
      · rw [if_pos hsize] at hrun
        obtain ⟨r₁, hreach₁, hready₁⟩ := hrun
        have hkeys₁ : ((before ++ [file]).map Prod.fst ++ todo.map Prod.fst).Nodup := by
          rw [List.map_append, List.append_assoc]
          exact hkeys
        have hrest := ih hkeys₁ htodo hready₁
        by_cases hsizes : ∀ file ∈ todo, file.2.length ≤ 0x40000
        · rw [if_pos hsizes, List.append_assoc] at hrest
          obtain ⟨r', hreach, hready'⟩ := hrest
          rw [if_pos (hall.mpr ⟨hsize, hsizes⟩)]
          exact ⟨r', hreach₁.trans hreach, hready'⟩
        · rw [if_neg hsizes] at hrest
          obtain ⟨t, hreach, hdone⟩ := hrest
          rw [if_neg fun h => hsizes (hall.mp h).2]
          exact ⟨t, hreach₁.trans hreach, hdone⟩
      · rw [if_neg hsize] at hrun
        rw [if_neg fun h => hsize (hall.mp h).1]
        exact hrun

/-! The loop ends. -/

theorem takes_openFileGet : Takes 0 openFile.get := by
  refine (takes_parray 0x22).bind fun _ => ?_
  cases openFile with
  | dc => exact takes_getU8.bind fun _ => (takes_parray 0x11).bind fun _ => takes_getU32l.bind fun _ => takes_pure _
  | pcGc =>
      exact takes_getU16l.bind fun _ => (takes_parray 0x10).bind fun _ => takes_getU32l.bind fun _ => takes_pure _
  | xb | bb =>
      exact takes_getU16l.bind fun _ => (takes_parray 0x10).bind fun _ => takes_getU32l.bind fun _ =>
        (takes_parray 0x18).bind fun _ => takes_pure _

theorem takes_writeFileGet : Takes 0 WriteFile.get :=
  (takes_parray 0x10).bind fun _ => (takes_parray 0x400).bind fun _ => takes_getU32l.bind fun _ => takes_pure _

theorem takes_decodeCommand (s : QstState) : Takes 1 (decodeCommand layout openFile s) := by
  have hheader : 1 ≤ sizeofHeader layout := by
    cases layout <;> decide
  refine ((takes_getParray (sizeofHeader layout)).mono hheader).bind fun header => ?_
  refine (takes_lift _).bind fun subformat => ?_
  split_ifs
  · exact takes_throw 0 _
  · exact takes_openFileGet.bind fun _ => takes_lift _
  · exact takes_throw 0 _
  · exact takes_writeFileGet.bind fun _ => takes_lift _
  · exact takes_throw 0 _

theorem remaining_decodeBody {s s' : StringReader × QstState} (h : decodeBody layout openFile s = .next s') :
    s'.1.remaining.length < s.1.remaining.length := by
  rw [decodeBody] at h
  split_ifs at h
  cases hcommand : decodeCommand layout openFile s.2 (align (sizeofHeader layout) s.1) with
  | error e =>
      rw [hcommand] at h
      cases h
  | ok p =>
      rw [hcommand] at h
      obtain rfl := Step.next.inj h
      have htakes := takes_decodeCommand s.2 _ _ _ hcommand
      have hdrop : (align (sizeofHeader layout) s.1).remaining.length ≤ s.1.remaining.length :=
        (List.length_drop).trans_le (Nat.sub_le _ _)
      exact Nat.lt_of_lt_of_le htakes hdrop

theorem run_decodeBody {data : List UInt8} {t : StringReader × QstState} {result : Except Exception QstState}
    (hreach : Reaches (decodeBody layout openFile) (.ofBytes data, ⟨[], [], .qst⟩) t)
    (hdone : decodeBody layout openFile t = .done result) :
    run (decodeBody layout openFile) (data.length + 1) (.ofBytes data, ⟨[], [], .qst⟩) = some result := by
  have hends : ∃ r, run (decodeBody layout openFile) (data.length + 1) (.ofBytes data, ⟨[], [], .qst⟩) = some r :=
    exists_run_eq_some (fun _ => True) (fun s => s.1.remaining.length)
      (fun _ _ _ h => ⟨trivial, remaining_decodeBody h⟩) trivial (Nat.lt_succ_self data.length)
  obtain ⟨r, hrun⟩ := hends
  rw [hrun, run_of_reaches hreach hdone hrun]

/-! Files as a whole. -/

theorem forM_written (files : StringMap (List UInt8)) {f : List UInt8 × UInt64 → Except Exception PUnit}
    (hsizes : ∀ file ∈ files, f (writtenSize file) = .ok ⟨⟩) : (files.map writtenSize).forM f = .ok ⟨⟩ := by
  induction files with
  | nil => rfl
  | cons file files ih =>
      obtain ⟨hfile, hrest⟩ := List.forall_mem_cons.mp hsizes
      change (f (writtenSize file) >>= fun _ => (files.map writtenSize).forM f) = _
      rw [hfile, ok_bind, ih hrest]

theorem writtenSize_of_lt (hsize : file.2.length < 2 ^ 32) : (writtenSize file).2 = 0 := by
  have hopened : openedSize file = .ofNat file.2.length := by
    apply UInt64.toNat_inj.mp
    rw [openedSize, UInt32.toNat_toUInt64, UInt32.toNat_ofNat_of_lt' hsize,
      UInt64.toNat_ofNat_of_lt' (hsize.trans (by decide))]
  rw [writtenSize, hopened]
  exact UInt64.sub_self _

theorem ready_ofBytes (data : List UInt8) : Ready layout (.ofBytes data) data := by
  have hround : roundUp (sizeofHeader layout) 0 = 0 := by
    cases layout <;> decide
  change data.drop (roundUp (sizeofHeader layout) 0 - 0) = data
  rw [hround]
  rfl

/-- What the decoder finds in the commands that open files and write them. -/
theorem decodeQstDataT_encoded (layout : HeaderLayout) (openFile : OpenFile) (files : StringMap (List UInt8))
    (name xbFilename : List UInt8) (questNumber : UInt32) (isDownload : Bool) (hfiles : files ≠ [])
    (hkeys : (files.map Prod.fst).Nodup) (hnamed : ∀ file ∈ files, Named openFile file.1) :
    decodeQstDataT layout openFile
        (files.flatMap (addOpenFileCommand layout openFile name xbFilename questNumber isDownload) ++
          files.flatMap (addWriteFileCommands layout isDownload (decide (layout = .bb)))) =
      if ∀ file ∈ files, file.2.length ≤ 0x40000 then
        if isDownload then files.mapM fun (filename, data) => do return (filename, ← decodeDlqData data)
        else .ok files
      else .error (.runtimeError chunksOutOfOrder) := by
  let writes := files.flatMap (addWriteFileCommands layout isDownload (decide (layout = .bb)))
  let data := files.flatMap (addOpenFileCommand layout openFile name xbFilename questNumber isDownload) ++ writes
  have hfollows : Follows isDownload ⟨[], [], .qst⟩ := .inl rfl
  obtain ⟨r₁, subformat, hopens, hready₁, hsubformat⟩ :=
    reaches_opens hfollows hnamed hkeys rfl name xbFilename questNumber (ready_ofBytes data)
  rw [if_neg hfiles] at hsubformat
  subst hsubformat
  have hready₁' : Ready layout r₁ (writes ++ []) := by
    rw [List.append_nil]
    exact hready₁
  have hbefore : (([] : StringMap (List UInt8)).map Prod.fst ++ files.map Prod.fst).Nodup := hkeys
  have hwrites := run_writes openFile hbefore (fun file hfile => (hnamed file hfile).encodable) hready₁'
  by_cases hsizes : ∀ file ∈ files, file.2.length ≤ 0x40000
  · rw [if_pos hsizes] at hwrites ⊢
    obtain ⟨r', hreach, hready'⟩ := hwrites
    have hrun := run_decodeBody (hopens.trans hreach) (decodeBody_of_ready_nil hready')
    have hchecked (file : List UInt8 × List UInt8) (hfile : file ∈ files) : (writtenSize file).2 = 0 :=
      writtenSize_of_lt ((hsizes file hfile).trans_lt (by decide))
    have hall : (written isDownload files []).fileRemainingBytes = files.map writtenSize := List.append_nil _
    have hcontent : (written isDownload files []).files = files := List.append_nil _
    unfold decodeQstDataT
    rw [hrun, Option.getD_some, List.nil_append, ok_bind, hall, forM_written files fun file hfile =>
      if_neg (not_not_intro (hchecked file hfile)), ok_bind, hcontent]
    cases isDownload <;> rfl
  · rw [if_neg hsizes] at hwrites ⊢
    obtain ⟨t, hreach, hdone⟩ := hwrites
    unfold decodeQstDataT
    rw [run_decodeBody (hopens.trans hreach) hdone]
    rfl

/-! The format is recognized. -/

/-- What the first four bytes say. -/
theorem getU32b_addOpenFileCommand {signature : UInt32} {extra : List UInt8}
    (hheader : addCommandHeader layout (if isDownload then 0xA6 else 0x44) 0 openFile.size =
      putU32b signature ++ extra) (name xbFilename : List UInt8) (questNumber : UInt32) (rest : List UInt8) :
    ∃ r, getU32b (.ofBytes (addOpenFileCommand layout openFile name xbFilename questNumber isDownload file ++ rest)) =
      .ok (signature, r) := by
  rw [addOpenFileCommand, hheader, List.append_assoc, List.append_assoc]
  exact ⟨_, reads_getU32b signature _ 0⟩

/-- On DC and GC the bytes where the type is on GC decide. -/
theorem decodeQstData_dcv3 (isDownload : Bool) {type : UInt16} {name xbFilename tail : List UInt8}
    {questNumber : UInt32}
    (hsize : openFile.size = 0x38)
    (hput : openFile.put name file.1 xbFilename questNumber file.2.length =
      resize 0x22 ([0x50, 0x53, 0x4F, 0x2F] ++ name) ++ (putU16l type ++ tail)) (rest : List UInt8) :
    decodeQstData (addOpenFileCommand .dcv3 openFile name xbFilename questNumber isDownload file ++ rest) =
      decodeQstDataT .dcv3 (if type > 3 then .dc else .pcGc)
        (addOpenFileCommand .dcv3 openFile name xbFilename questNumber isDownload file ++ rest) := by
  have hheader : addCommandHeader .dcv3 (if isDownload then 0xA6 else 0x44) 0 openFile.size =
      putU32b (if isDownload then 0xA6003C00 else 0x44003C00) ++ [] := by
    rw [hsize]
    cases isDownload <;> decide
  obtain ⟨r, hsignature⟩ := getU32b_addOpenFileCommand hheader name xbFilename questNumber rest
  let before := addCommandHeader .dcv3 (if isDownload then 0xA6 else 0x44) 0 openFile.size ++
    resize 0x22 ([0x50, 0x53, 0x4F, 0x2F] ++ name)
  have hbefore : before.length = 4 + 0x22 := by
    rw [List.length_append, length_addCommandHeader, length_resize]
    rfl
  have hdata : addOpenFileCommand .dcv3 openFile name xbFilename questNumber isDownload file ++ rest =
      before ++ (putU16l type ++ (tail ++ rest)) := by
    rw [addOpenFileCommand, hput]
    simp only [before, List.append_assoc]
  have htype := (reads_getU16l type).pget before (tail ++ rest)
  rw [hbefore, ← hdata] at htype
  rw [decodeQstData, hsignature, ok_bind]
  dsimp only
  rw [if_neg (by cases isDownload <;> decide), if_neg (by cases isDownload <;> decide),
    if_pos (by cases isDownload <;> decide), htype, ok_bind, apply_ite (decodeQstDataT .dcv3 · _)]

/-- On DC the high byte is the first character of the name. -/
theorem decodeQstData_dc (h : Named .dc file.1) (name xbFilename : List UInt8) (questNumber : UInt32)
    (rest : List UInt8) :
    decodeQstData (addOpenFileCommand .dcv3 .dc name xbFilename questNumber isDownload file ++ rest) =
      decodeQstDataT .dcv3 .dc (addOpenFileCommand .dcv3 .dc name xbFilename questNumber isDownload file ++ rest) := by
  obtain ⟨c, filename, hfilename⟩ := List.exists_cons_of_ne_nil (h.ne_nil rfl)
  have hencoded := AsciiFields.encode_of_encodable (h.encodable.mono (show 0x10 ≤ 0x11 by decide))
  have hc : c ≠ 0 := h.encodable.ne_zero c (hfilename ▸ List.mem_cons_self)
  have hpos : 0 < c.toNat := Nat.pos_of_ne_zero fun hzero => hc (UInt8.toNat_inj.mp hzero)
  have hlt := c.toNat_lt
  have hword : (UInt16.ofNat (0x100 * c.toNat)).toNat = 0x100 * c.toNat := UInt16.toNat_ofNat_of_lt' (by
    have hsize : UInt16.size = 0x10000 := rfl
    omega)
  have htype : putU16l (.ofNat (0x100 * c.toNat)) = [0, c] := by
    have hlow : UInt8.ofNat (0x100 * c.toNat) = 0 := by
      rw [UInt8.ofNat_mul]
      exact UInt8.zero_mul
    rw [putU16l, hword, littleEndian, littleEndian, littleEndian, hlow, Nat.mul_div_cancel_left _ (by decide),
      UInt8.ofNat_toNat]
  have hlarge : UInt16.ofNat (0x100 * c.toNat) > 3 := by
    rw [gt_iff_lt, UInt16.lt_iff_toNat_lt, hword]
    exact Nat.lt_of_lt_of_le (by decide) (Nat.le_mul_of_pos_right 0x100 hpos)
  have hput : OpenFile.dc.put name file.1 xbFilename questNumber file.2.length =
      resize 0x22 ([0x50, 0x53, 0x4F, 0x2F] ++ name) ++ (putU16l (.ofNat (0x100 * c.toNat)) ++
        (filename ++ List.replicate (0x11 - file.1.length) 0 ++ putU32l (.ofNat file.2.length))) := by
    rw [htype, OpenFile.put, hencoded, hfilename]
    rfl
  rw [decodeQstData_dcv3 isDownload rfl hput, if_pos hlarge]

theorem decodeQstData_open {version : Version} {f : QstFormat} (hversion : qstFormat version = some f)
    (h : Named f.openFile file.1) (name xbFilename : List UInt8) (questNumber : UInt32) (isDownload : Bool)
    (rest : List UInt8) :
    decodeQstData (addOpenFileCommand f.layout f.openFile name xbFilename questNumber isDownload file ++ rest) =
      decodeQstDataT f.layout f.openFile
        (addOpenFileCommand f.layout f.openFile name xbFilename questNumber isDownload file ++ rest) := by
  cases version with
  | pcPatch | bbPatch | unknown => cases hversion
  | dcNte | dc112000 | dcV1 | dcV2 =>
      obtain rfl := Option.some.inj hversion
      exact decodeQstData_dc h name xbFilename questNumber rest
  | gcNte | gcV3 | gcEp3Nte | gcEp3 =>
      obtain rfl := Option.some.inj hversion
      have hput : OpenFile.pcGc.put name file.1 xbFilename questNumber file.2.length =
          resize 0x22 ([0x50, 0x53, 0x4F, 0x2F] ++ name) ++ (putU16l 0 ++
            (AsciiFields.encode 0x10 file.1 ++ putU32l (.ofNat file.2.length))) := rfl
      have hgc := decodeQstData_dcv3 isDownload rfl hput rest
      rw [if_neg (by decide)] at hgc
      exact hgc
  | pcNte | pcV2 =>
      obtain rfl := Option.some.inj hversion
      have hheader : addCommandHeader .pc (if isDownload then 0xA6 else 0x44) 0 OpenFile.pcGc.size =
          putU32b (if isDownload then 0x3C00A600 else 0x3C004400) ++ [] := by
        cases isDownload <;> decide
      obtain ⟨r, hsignature⟩ := getU32b_addOpenFileCommand hheader name xbFilename questNumber rest
      rw [decodeQstData, hsignature, ok_bind]
      dsimp only
      rw [if_neg (by cases isDownload <;> decide), if_pos (by cases isDownload <;> decide)]
  | xbV3 =>
      obtain rfl := Option.some.inj hversion
      have hheader : addCommandHeader .dcv3 (if isDownload then 0xA6 else 0x44) 0 OpenFile.xb.size =
          putU32b (if isDownload then 0xA6005400 else 0x44005400) ++ [] := by
        cases isDownload <;> decide
      obtain ⟨r, hsignature⟩ := getU32b_addOpenFileCommand hheader name xbFilename questNumber rest
      rw [decodeQstData, hsignature, ok_bind]
      dsimp only
      rw [if_neg (by cases isDownload <;> decide), if_neg (by cases isDownload <;> decide),
        if_neg (by cases isDownload <;> decide), if_pos (by cases isDownload <;> decide)]
  | bbV4 =>
      obtain rfl := Option.some.inj hversion
      have hheader : addCommandHeader .bb (if isDownload then 0xA6 else 0x44) 0 OpenFile.bb.size =
          putU32b (if isDownload then 0x5800A600 else 0x58004400) ++ [0, 0, 0, 0] := by
        cases isDownload <;> decide
      obtain ⟨r, hsignature⟩ := getU32b_addOpenFileCommand hheader name xbFilename questNumber rest
      rw [decodeQstData, hsignature, ok_bind]
      dsimp only
      rw [if_pos (by cases isDownload <;> decide)]

/-- A QST file gives the files back that it was made of, unless one of them has more than
256 parts, whose numbers do not fit into a byte. Those of a download quest are decoded. -/
theorem qst_roundTrip (files : StringMap (List UInt8)) (name xbFilename : List UInt8) (questNumber : UInt32)
    (version : Version) (isDlqEncoded : Bool) (f : QstFormat) (hversion : qstFormat version = some f)
    (hfiles : files ≠ []) (hkeys : (files.map Prod.fst).Nodup) (hnamed : ∀ file ∈ files, Named f.openFile file.1) :
    ∃ data, encodeQstFile files name questNumber xbFilename version isDlqEncoded = .ok data ∧
      decodeQstData data =
        if ∀ file ∈ files, file.2.length ≤ 0x40000 then
          if isDlqEncoded then files.mapM fun (filename, data) => do return (filename, ← decodeDlqData data)
          else .ok files
        else .error (.runtimeError chunksOutOfOrder) := by
  refine ⟨_, by rw [encodeQstFile, hversion]; rfl, ?_⟩
  rw [f.aligned, ← decodeQstDataT_encoded f.layout f.openFile files name xbFilename questNumber isDlqEncoded hfiles
    hkeys hnamed]
  obtain ⟨file, files, rfl⟩ := List.exists_cons_of_ne_nil hfiles
  rw [List.flatMap_cons, List.append_assoc]
  exact decodeQstData_open hversion (hnamed file List.mem_cons_self) name xbFilename questNumber isDlqEncoded _

/-- Two files, of which one is empty. -/
def sampleFiles : StringMap (List UInt8) :=
  [([0x71, 0x2E, 0x62, 0x69, 0x6E], [1, 2, 3]), ([0x71, 0x2E, 0x64, 0x61, 0x74], [])]

theorem qst_roundTrip_sampleFiles :
    ∃ data, encodeQstFile sampleFiles [0x71] 58 [] .dcV2 false = .ok data ∧ decodeQstData data = .ok sampleFiles := by
  have hnamed : ∀ file ∈ sampleFiles, Named .dc file.1 := by
    intro file hfile
    rcases List.mem_cons.mp hfile with rfl | hfile
    · exact ⟨by decide, fun _ => by decide⟩
    · obtain rfl := List.mem_singleton.mp hfile
      exact ⟨by decide, fun _ => by decide⟩
  obtain ⟨data, hencode, hdecode⟩ := qst_roundTrip sampleFiles [0x71] [] 58 .dcV2 false ⟨.dcv3, .dc, false, rfl⟩ rfl
    (by decide) (by decide) hnamed
  rw [if_pos (by decide)] at hdecode
  exact ⟨data, hencode, hdecode⟩

end HuntersGuild.QuestFiles
