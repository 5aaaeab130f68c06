import JetKvm.Library.Log
import JetKvm.VirtualMedia.Mount
import Mathlib.Algebra.GroupWithZero.Nat

/-!
# Uploads of files

A call opens the incomplete file of a name and notes how long the file is; the handlers of the
upload, over a data channel or over HTTP, append what they receive, count it from there, and give
the file its final name when they have counted the declared size. The file is shared by all uploads
of the name, and every handler has its own count.
-/

namespace JetKvm.VirtualMedia

/-! ### Files -/

/-- Bytes that have been written at once: the name whose upload has received them, and the number
of bytes its handler has counted before. -/
structure Chunk where
  filename : String
  position : ℤ
  data : List UInt8
deriving DecidableEq, Repr

def fileSize (file : List Chunk) : ℕ :=
  (file.map fun chunk => chunk.data.length).sum

/-- All bytes have been received by uploads of the name, and each of them where the bytes before it
end. -/
def Chained (filename : String) : List Chunk → Prop :=
  Permitted fun before chunk => chunk.filename = filename ∧ chunk.position = fileSize before

def filePath (filename : String) : String :=
  imagesFolder ++ "/" ++ filename

def uploadPath (filename : String) : String :=
  filePath filename ++ ".incomplete"

/-- An entry of `pendingUploads`. The file is given by its number. It is also noted how often the
incomplete file had been changed when its size was read. -/
structure PendingUpload where
  filename : String
  File : ℕ
  Size : ℤ
  AlreadyUploadedBytes : ℤ
  changes : ℕ
deriving DecidableEq, Repr

/-- A file that has been given its final name, with its contents at that moment. -/
structure RenamedFile where
  filename : String
  Size : ℤ
  file : List Chunk
deriving DecidableEq, Repr

/-- The file has the declared size, and has been received in order by uploads of its name. -/
def RenamedFile.Complete (r : RenamedFile) : Prop :=
  (fileSize r.file : ℤ) = r.Size ∧ Chained r.filename r.file

variable {Thread : Type*} [DecidableEq Thread]

/-- The folder of the images, the pending uploads, and which of their files have been closed. The
identifier of an upload is that of the call that has started it. It is noted which threads have
changed the incomplete file of a name, and which files have been renamed. -/
structure UploadStore (Thread : Type*) where
  files : ℕ → List Chunk
  nextFile : ℕ
  folder : String → Option ℕ
  pendingUploads : Thread → Option PendingUpload
  closed : Thread → Bool
  panicked : Bool
  changes : String → List Thread
  renamed : List RenamedFile

/-! ### Threads -/

/-- Where the deferred end of a handler is. -/
inductive UploadEnd where
  | receiving
  | leaving
  | closed
  | renamed
  | deleted
deriving DecidableEq, Repr

/-- What a handler knows of its upload. -/
structure UploadHandler (Thread : Type*) where
  uploadId : Thread
  upload : PendingUpload
  totalBytesWritten : ℤ
  phase : UploadEnd
deriving DecidableEq, Repr

/-- A handler of a data channel also has a message handler, which may have written a message that
it has not counted yet, and may have closed `uploadComplete`. -/
structure ChannelHandler (Thread : Type*) extends UploadHandler Thread where
  uncounted : Option ℕ
  uploadComplete : Bool
deriving DecidableEq, Repr

inductive UploadThread (Thread : Type*) where
  | idle
  /-- The call has not found a file with the final name. -/
  | opening (filename : String) (size : ℤ)
  /-- The call has read the size of the incomplete file. -/
  | sized (filename : String) (size alreadyUploadedBytes : ℤ) (changes : ℕ)
  | returned
  | channel (h : ChannelHandler Thread)
  | http (h : UploadHandler Thread)
deriving DecidableEq, Repr

/-- A call, a message or a part of a body that arrives, or the next step of the code. -/
inductive UploadEvent (Thread : Type*) where
  | rpcStartStorageFileUpload (filename : String) (size : ℤ)
  | handleUploadChannel (uploadId : Thread)
  | handleUploadHttp (uploadId : Thread)
  | message (data : List UInt8)
  | count
  | read (data : List UInt8) (eof : Bool)
  | readError
  | next
deriving DecidableEq, Repr

namespace UploadStore

/-- Appends the bytes to the file of the upload. -/
def write (s : UploadStore Thread) (i : Thread) (h : UploadHandler Thread) (data : List UInt8) :
    UploadStore Thread :=
  if data = [] then s
  else
    { s with
      files := Function.update s.files h.upload.File
        (s.files h.upload.File ++ [⟨h.upload.filename, h.totalBytesWritten, data⟩])
      changes := Function.update s.changes h.upload.filename
        (s.changes h.upload.filename ++ [i]) }

/-- The size of the incomplete file, if there is one. -/
def alreadyUploadedBytes (s : UploadStore Thread) (filename : String) : ℤ :=
  match s.folder (uploadPath filename) with
  | some file => fileSize (s.files file)
  | none => 0

/-- Opens the incomplete file, which is created when it is missing, and enters the upload. -/
def openFile (s : UploadStore Thread) (i : Thread) (filename : String)
    (size alreadyUploadedBytes : ℤ) (changes : ℕ) : UploadStore Thread :=
  match s.folder (uploadPath filename) with
  | some file =>
      { s with
        pendingUploads := Function.update s.pendingUploads i
          (some ⟨filename, file, size, alreadyUploadedBytes, changes⟩) }
  | none =>
      { s with
        files := Function.update s.files s.nextFile []
        nextFile := s.nextFile + 1
        folder := Function.update s.folder (uploadPath filename) (some s.nextFile)
        pendingUploads := Function.update s.pendingUploads i
          (some ⟨filename, s.nextFile, size, alreadyUploadedBytes, changes⟩) }

/-- Gives the incomplete file its final name, if there is one. -/
def rename (s : UploadStore Thread) (i : Thread) (upload : PendingUpload) : UploadStore Thread :=
  match s.folder (uploadPath upload.filename) with
  | none => s
  | some file =>
      { s with
        folder := Function.update (Function.update s.folder (uploadPath upload.filename) none)
          (filePath upload.filename) (some file)
        changes := Function.update s.changes upload.filename (s.changes upload.filename ++ [i])
        renamed := s.renamed ++ [⟨upload.filename, upload.Size, s.files file⟩] }

/-- The next step of the deferred end of a handler. -/
def leave (s : UploadStore Thread) (i : Thread) (h : UploadHandler Thread) :
    Option (UploadStore Thread × UploadEnd) :=
  match h.phase with
  | .receiving => none
  | .leaving => some ({ s with closed := Function.update s.closed h.uploadId true }, .closed)
  | .closed =>
      some (if h.totalBytesWritten = h.upload.Size then s.rename i h.upload else s, .renamed)
  | .renamed =>
      some ({ s with pendingUploads := Function.update s.pendingUploads h.uploadId none }, .deleted)
  | .deleted => none

end UploadStore

namespace UploadThread

/-- Closes `uploadComplete`, which panics when it has been closed before. -/
def closeComplete (s : UploadStore Thread) (h : ChannelHandler Thread) :
    UploadStore Thread × UploadThread Thread :=
  if h.uploadComplete then ({ s with panicked := true }, .channel h)
  else (s, .channel { h with uploadComplete := true })

/-- A message is written to the file. -/
def onMessage (s : UploadStore Thread) (i : Thread) (h : ChannelHandler Thread)
    (data : List UInt8) : UploadStore Thread × UploadThread Thread :=
  if s.closed h.uploadId then closeComplete s h
  else (s.write i h.toUploadHandler data, .channel { h with uncounted := some data.length })

/-- A message that has been written is counted. -/
def onWritten (s : UploadStore Thread) (h : ChannelHandler Thread) (n : ℕ) :
    UploadStore Thread × UploadThread Thread :=
  let h := { h with totalBytesWritten := h.totalBytesWritten + n, uncounted := none }
  if h.upload.Size ≤ h.totalBytesWritten then closeComplete s h else (s, .channel h)

/-- A part of a body is written to the file, unless that fails. -/
def onRead (s : UploadStore Thread) (i : Thread) (h : UploadHandler Thread) (data : List UInt8)
    (eof : Bool) : UploadStore Thread × UploadThread Thread :=
  if data ≠ [] ∧ s.closed h.uploadId then (s, .http { h with phase := .leaving })
  else
    (s.write i h data, .http { h with
      totalBytesWritten := h.totalBytesWritten + data.length
      phase := if eof then .leaving else .receiving })

/-- A handler of an upload that is pending. -/
def handler (uploadId : Thread) (upload : PendingUpload) : UploadHandler Thread where
  uploadId := uploadId
  upload := upload
  totalBytesWritten := upload.AlreadyUploadedBytes
  phase := .receiving

/-- The next step of a thread. -/
def exec (i : Thread) (event : UploadEvent Thread) (s : UploadStore Thread)
    (l : UploadThread Thread) : Option (UploadStore Thread × UploadThread Thread) :=
  if s.panicked then none
  else
    match l, event with
    | .idle, .rpcStartStorageFileUpload filename size =>
        match sanitizeFilename filename with
        | .error _ => some (s, .returned)
        | .ok sanitized =>
            if (s.folder (filePath sanitized)).isSome then some (s, .returned)
            else some (s, .opening sanitized size)
    | .opening filename size, .next =>
        some (s, .sized filename size (s.alreadyUploadedBytes filename)
          (s.changes filename).length)
    | .sized filename size already changes, .next =>
        some (s.openFile i filename size already changes, .returned)
    | .idle, .handleUploadChannel uploadId =>
        match s.pendingUploads uploadId with
        | none => some (s, .returned)
        | some upload => some (s, .channel ⟨handler uploadId upload, none, false⟩)
    | .idle, .handleUploadHttp uploadId =>
        match s.pendingUploads uploadId with
        | none => some (s, .returned)
        | some upload => some (s, .http (handler uploadId upload))
    | .channel h, .message data => if h.uncounted = none then some (onMessage s i h data) else none
    | .channel h, .count => h.uncounted.map fun n => onWritten s h n
    | .channel h, .next =>
        if h.phase = .receiving then
          if h.uploadComplete then
            some (s, .channel { h with phase := .leaving })
          else none
        else
          (s.leave i h.toUploadHandler).map fun left =>
            (left.1, .channel { h with phase := left.2 })
    | .http h, .read data eof =>
        if h.phase = .receiving then some (onRead s i h data eof) else none
    | .http h, .readError =>
        if h.phase = .receiving then some (s, .http { h with phase := .leaving }) else none
    | .http h, .next =>
        (s.leave i h).map fun left => (left.1, .http { h with phase := left.2 })
    | _, _ => none

end UploadThread

end JetKvm.VirtualMedia
