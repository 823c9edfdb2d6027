import LastochkaServer.Source.TopicName

/-!
# Files uploaded and downloaded

The table `fileuploads` of `server/db/postgres/adapter.go:3414-3500`, the file system handler's
`Upload` of `server/media/fs/filesys.go:112-151`, and `LargeFileServe` and `LargeFileReceive` of
`server/hdl_files.go:354-577`. The times of a record, its URL and the text of a reply are left out.
-/

namespace LastochkaServer.Source

open Lib

inductive UploadStatus
  | uploadStarted | uploadCompleted | uploadFailed | uploadDeleted
  deriving DecidableEq, Repr

structure FileDef where
  id : String := ""
  status : UploadStatus := .uploadStarted
  user : String := ""
  mimeType : String := ""
  size : Int64 := 0
  location : String := ""
  etag : String := ""
  deriving DecidableEq

/-- A row of `fileuploads`; `userid` may be NULL. -/
structure FileRow where
  userid : Option Int64
  status : UploadStatus
  mimetype : String
  size : Int64
  etag : String
  location : String
  deriving DecidableEq

abbrev FileTable := GoMap Int64 FileRow

inductive FileError
  | errMalformed | driver
  deriving DecidableEq, Repr

/-- The value of `strconv.ParseInt(str, 10, 64)`, which is zero for a text that is not a number and
the nearest bound for a number out of range. -/
def parseInt64 (str : String) : Int64 :=
  let magnitude (digits : List Char) (bound : Nat) :=
    if digits.isEmpty || !digits.all Char.isDigit then 0 else min (Nat.ofDigitChars 10 digits 0) bound
  match str.toList with
  | '-' :: digits => Int64.ofInt (-(magnitude digits (2 ^ 63) : Int))
  | '+' :: digits => Int64.ofNat (magnitude digits (2 ^ 63 - 1))
  | digits => Int64.ofNat (magnitude digits (2 ^ 63 - 1))

section table

-- the cipher of the generator: `EncodeInt64` and its inverse
variable (gen : Int64 ≃ Uid)

def encodeUid (id : Int64) : Uid := if id = 0 then 0 else gen id

def decodeUid (uid : Uid) : Int64 := if uid = 0 then 0 else gen.symm uid

def encodeUidString (str : String) : Uid := encodeUid gen (parseInt64 str)

/-- The key of a record. -/
def FileDef.key (fd : FileDef) : Int64 := decodeUid gen (parseUid fd.id.toList)

/-- `FileStartUpload`: the key must be new and the texts must fit their columns. -/
def fileStartUpload (table : FileTable) (fd : FileDef) : Except FileError FileTable :=
  let user := if fd.user ≠ "" then some (decodeUid gen (parseUid fd.user.toList)) else none
  if fd.key gen ∈ table ∨ fd.mimeType.length > 255 ∨ fd.location.length > 2048 ∨
      fd.etag.length > 128 then
    .error .driver
  else .ok (table.insert (fd.key gen) ⟨user, fd.status, fd.mimeType, fd.size, fd.etag, fd.location⟩)

def fileFinishUpload (table : FileTable) (fd : FileDef) (success : Bool) (size : Int64) : FileTable :=
  if success then
    match table.lookup (fd.key gen) with
    | none => table
    | some row => table.insert (fd.key gen)
        { row with
          status := .uploadCompleted, size := size, etag := fd.etag, location := fd.location }
  else table.erase (fd.key gen)

def fileGet (table : FileTable) (fid : String) : Except FileError (Option FileDef) :=
  let id := parseUid fid.toList
  if id = 0 then .error .errMalformed
  else
    match table.lookup (decodeUid gen id) with
    | none => .ok none
    | some row =>
      -- a NULL cannot be scanned into an integer
      match row.userid with
      | none => .error .driver
      | some userId =>
        -- the id is scanned into a variable of its own, and `fd.Id` is still empty
        let fd : FileDef :=
          { status := row.status, mimeType := row.mimetype, size := row.size, etag := row.etag
            location := row.location }
        .ok (some { fd with
          id := uidText (encodeUidString gen fd.id)
          user := uidText (encodeUid gen userId) })

end table

abbrev FileBytes := List UInt8

/-- What `authFileRequest` returns. -/
inductive FileAuth
  | failed | challenge | user (uid : Uid)
  deriving DecidableEq

/-- What a request depends on. -/
structure FileEnv where
  authFileRequest : String → String → FileAuth
  /-- The status of the media handler's `Headers`; `none` is an error. -/
  headers : Option Nat
  /-- `http.DetectContentType`. -/
  detectContentType : FileBytes → String
  getUidString : String
  createFails : Bool
  /-- The space left on the disk. -/
  capacity : Nat

inductive FileReply
  | failed | challenge | status (code : Nat) | uploaded (size : Nat)
  deriving DecidableEq

/-- How a handler ends; a nil dereference panics. -/
inductive FileOutcome
  | panicked | answered (reply : FileReply)
  deriving DecidableEq

/-- The checks that both handlers start with; the sender of a request that passes them. -/
def fileRequestChecks (env : FileEnv) (auth : Option (String × String)) : Except FileOutcome Uid :=
  match auth with
  | none => .error .panicked
  | some (scheme, secret) =>
    match env.authFileRequest scheme secret with
    | .failed => .error (.answered .failed)
    | .challenge => .error (.answered .challenge)
    | .user uid =>
      if uid = 0 then .error (.answered .failed)
      else
        match env.headers with
        | none => .error (.answered .failed)
        | some 0 => .ok uid
        | some code => .error (.answered (.status code))

structure FileUpReq where
  auth : Option (String × String) := none
  /-- The MIME type in `meta`, which may be missing. -/
  info : Option String := none
  content : FileBytes := []

/-- What the client sends: its messages, and whether the stream breaks after the last one. -/
structure UploadStream where
  messages : List FileUpReq
  broken : Bool := false

/-- A read of an `io.Pipe` with a buffer of `size` bytes. Each write waits until its bytes are read;
`none` is the end of file. -/
def pipeRead (size : Nat) : List FileBytes → Option (FileBytes × List FileBytes)
  | [] => none
  | chunk :: writes =>
    if chunk.length ≤ size then some (chunk, writes)
    else some (chunk.take size, chunk.drop size :: writes)

/-- The buffer of `io.Copy`. -/
def copyBufferSize : Nat := 32 * 1024

/-- `io.Copy` of a pipe to a file: what was read, and whether all was written. -/
def copyPipe (capacity : Nat) : Nat → List FileBytes → FileBytes → FileBytes × Bool
  | 0, _, given => (given, false)
  | fuel + 1, writes, given =>
    match pipeRead copyBufferSize writes with
    | none => (given, true)
    | some (data, writes) =>
      if (given ++ data).length > capacity then (given ++ data, false)
      else copyPipe capacity fuel writes (given ++ data)

/-- Enough reads to see the end of the pipe. -/
def copyFuel (writes : List FileBytes) : Nat := writes.length + writes.flatten.length + 1

/-- The state after an upload: the table, the bytes the media handler was given, and the outcome. -/
structure Received where
  table : FileTable
  given : FileBytes := []
  outcome : FileOutcome

/-- The handler's `Upload` of what is written to the pipe; `none` is an error. -/
def uploadFile (gen : Int64 ≃ Uid) (env : FileEnv) (table : FileTable) (fdef : FileDef)
    (writes : List FileBytes) :
    FileTable × FileBytes × Option Nat :=
  if env.createFails then (table, [], none)
  else
    match fileStartUpload gen table fdef with
    | .error _ => (table, [], none)
    | .ok table =>
      let (given, copied) := copyPipe env.capacity (copyFuel writes) writes []
      (table, given, if copied then some given.length else none)

/-- The record that an upload starts with. -/
def uploadDef (env : FileEnv) (uid : Uid) (first : FileUpReq) : FileDef :=
  let detected := env.detectContentType first.content
  let given := first.info.getD ""
  { id := env.getUidString
    user := uidText uid
    mimeType := if detected = "application/octet-stream" ∧ given ≠ "" then given else detected }

/-- `LargeFileReceive`. The second goroutine writes the content of the messages after the first one
to the pipe. -/
def largeFileReceive (gen : Int64 ≃ Uid) (env : FileEnv) (table : FileTable)
    (stream : UploadStream) : Received :=
  match stream.messages with
  | [] => { table := table, outcome := .answered .failed }
  | first :: rest =>
    match fileRequestChecks env first.auth with
    | .error outcome => { table := table, outcome := outcome }
    | .ok uid =>
      let fdef := uploadDef env uid first
      match uploadFile gen env table fdef (rest.map (·.content)) with
      | (table, given, size) =>
        match if stream.broken then none else size with
        | some size => ⟨table, given, .answered (.uploaded size)⟩
        | none =>
          -- the failure is logged with `req.Meta.Name`
          if first.info.isNone then ⟨table, given, .panicked⟩
          else ⟨fileFinishUpload gen table fdef false 0, given, .answered .failed⟩

inductive ReadSignal
  | more | eof | failed
  deriving DecidableEq, Repr

/-- What one call of `Read` is ready to do: the most bytes it returns, and the error that comes with
them. -/
structure ReadStep where
  most : Nat
  signal : ReadSignal := .more

/-- The bytes returned with a buffer of `size` bytes when `left` is still to be read. The end of
file is only signalled with the last byte or after it. -/
def ReadStep.read (step : ReadStep) (size : Nat) (left : FileBytes) : FileBytes × ReadSignal :=
  let n := min (min size step.most) left.length
  (left.take n, if step.signal = .eof ∧ n < left.length then .more else step.signal)

/-- The size of the buffer that `LargeFileServe` makes. -/
def serveBufferSize : Nat := 1024 * 1024 * 2

/-- The loop of `LargeFileServe` from the call `i` of `Read` on: the chunks sent, if it ends within
`fuel` calls. The buffer is cut to the bytes that were read. -/
def serveLoop (reader : Nat → ReadStep) (sendFails : Nat → Bool) :
    Nat → Nat → Nat → FileBytes → List FileBytes → Option (List FileBytes)
  | 0, _, _, _, _ => none
  | fuel + 1, i, size, left, sent =>
    match (reader i).read size left with
    | (data, .more) =>
      if sendFails i then some sent
      else
        serveLoop reader sendFails fuel (i + 1) data.length (left.drop data.length) (sent ++ [data])
    | (_, .eof) => some sent
    | (_, .failed) => some sent

/-- `LargeFileServe` of a file that the media handler opens: the chunks sent, once it has ended. -/
def largeFileServe (env : FileEnv) (auth : Option (String × String)) (reader : Nat → ReadStep)
    (sendFails : Nat → Bool) (content : FileBytes) (fuel : Nat) :
    Except FileOutcome (Option (List FileBytes)) :=
  (fileRequestChecks env auth).map fun _ =>
    serveLoop reader sendFails fuel 0 serveBufferSize content []

end LastochkaServer.Source
