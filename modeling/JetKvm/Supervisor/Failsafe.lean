import JetKvm.Native.Supervision
import Mathlib.Data.Int.Notation
import Mathlib.Data.List.Infix

/-!
# Failsafe mode

The program runs under a supervisor, which saves its output together with some diagnostics when it
has crashed, and lets a link point to what was saved last. The next start reads the end of that log,
removes the link, and runs without the native process when the log says that the native process was
given up. A start that is put in failsafe mode for another reason does not read the log.
-/

namespace JetKvm.Supervisor

open Native (NativeProxy ProxyAction)

/-- `FailsafeReasonNativeMaxRestartAttemptsReached`. Texts are lists of their bytes. -/
def nativeMaxRestartAttemptsReached : List Char :=
  "failsafe::native.max_restart_attempts_reached".toList

/-- The last line that is logged when the native process is given up. -/
def maxRestartsMessage : List Char :=
  "max restart attempts reached, exiting: ".toList ++ nativeMaxRestartAttemptsReached

/-- Why the program is in failsafe mode. -/
inductive FailsafeReason where
  | failsafeEnvSet
  | failsafeFileExists
  | native
  | unknown
deriving DecidableEq, Repr

/-- A crash log says whether the native process was given up. -/
def classifyCrashLog (crashLog : List Char) : FailsafeReason × Bool :=
  if nativeMaxRestartAttemptsReached <:+: crashLog then (.native, true) else (.unknown, false)

/-- `readFileTail`, on the content of the file. -/
def readFileTail (content : List Char) (maxBytes : ℕ) : List Char :=
  content.drop (content.length - maxBytes)

/-- What is found under a path. -/
inductive Entry where
  | file (content : List Char)
  | symlink (target : String)
deriving DecidableEq, Repr

/-- The files and links by their paths, and whether the file that asks for failsafe mode is
there. -/
structure Disk where
  entries : String → Option Entry
  failsafeFile : Bool

/-- The variables of `failsafe.go`. -/
structure Failsafe where
  failsafeModeActive : Bool
  failsafeModeReason : Option FailsafeReason
  failsafeCrashLog : List Char
deriving DecidableEq, Repr

/-- The path where the log of the last crash is looked for. -/
def failsafeDefaultLastCrashPath : String :=
  "/userdata/jetkvm/crashdump/last-crash.log"

/-- What a start finds: the environment variables, which are empty unless they are set, and whether
files can be read and removed. -/
structure Environment where
  forceFailsafe : String
  lastErrorPath : String
  reads : Bool
  removes : Bool
deriving DecidableEq, Repr

/-- Another path may be given. -/
def Environment.lastCrashPath (env : Environment) : String :=
  if env.lastErrorPath = "" then failsafeDefaultLastCrashPath else env.lastErrorPath

/-- What comes of `renameFile`: the log has its new name, or some of it may have been written. -/
inductive Renaming where
  | renamed
  | failed (written : Option (List Char))
deriving DecidableEq, Repr

/-- What comes of the file operations that save a crash log. -/
structure Saving where
  ensureErrorDumpDir : Bool
  renameFile : Renaming
  removes : Bool
  symlinks : Bool
deriving DecidableEq, Repr

/-- Nothing fails. -/
def Saving.success : Saving where
  ensureErrorDumpDir := true
  renameFile := .renamed
  removes := true
  symlinks := true

namespace Disk

/-- The content of the file under a path, when at most so many links lead to it. -/
def contentAt (disk : Disk) : ℕ → String → Option (List Char)
  | 0, path =>
      match disk.entries path with
      | some (.file content) => some content
      | _ => none
  | links + 1, path =>
      match disk.entries path with
      | some (.file content) => some content
      | some (.symlink target) => disk.contentAt links target
      | none => none

/-- The number of links that are followed. -/
def maxLinks : ℕ := 40

/-- The content of the file that the link under a path leads to. -/
def linkedLog (disk : Disk) (path : String) : Option (List Char) :=
  match disk.entries path with
  | some (.symlink _) => disk.contentAt maxLinks path
  | _ => none

/-- The log that a start finds unless it looks elsewhere. -/
def lastCrashLog (disk : Disk) : Option (List Char) :=
  disk.linkedLog failsafeDefaultLastCrashPath

/-- A path is made to lead to something else, or nowhere. -/
def put (disk : Disk) (path : String) (entry : Option Entry) : Disk :=
  { disk with entries := Function.update disk.entries path entry }

/-- How much of a crash log is read, from its end. -/
def maxBytes : ℕ := 50 * 1024

/-- The environment is asked first, then the failsafe file, and then the log of the last crash. -/
def checkFailsafeReason (disk : Disk) (env : Environment) : Failsafe × Disk :=
  if env.forceFailsafe = "1" then (⟨true, some .failsafeEnvSet, []⟩, disk)
  else if disk.failsafeFile then
    (⟨true, some .failsafeFileExists, []⟩,
      if env.removes then { disk with failsafeFile := false } else disk)
  else
    -- without a link, or when the log cannot be read, nothing is done
    match if env.reads then disk.linkedLog env.lastCrashPath else none with
    | none => (⟨false, none, []⟩, disk)
    | some content =>
        let log := readFileTail content maxBytes
        let judged := classifyCrashLog log
        (if judged.2 then ⟨true, some judged.1, log⟩ else ⟨false, none, log⟩,
          if env.removes then disk.put env.lastCrashPath none else disk)

/-- `ensureSymlink`. It looks at the file that a link leads to, so that it never finds a link and
always makes it anew. -/
def ensureSymlink (disk : Disk) (oldName newName : String) (saving : Saving) : Disk :=
  let cleared := if saving.removes then disk.put newName none else disk
  if saving.symlinks ∧ cleared.entries newName = none then
    cleared.put newName (some (.symlink oldName))
  else cleared

/-- The directory of the crash logs. -/
def errorDumpDir : String :=
  "/userdata/jetkvm/crashdump"

/-- A crash log has the name of its time. -/
def errorDumpPath (timestamp : String) : String :=
  errorDumpDir ++ "/jetkvm-" ++ timestamp ++ ".log"

/-- The link to the newest crash log. -/
def lastFilePath : String :=
  errorDumpDir ++ "/last-crash.log"

/-- A crash log is written and linked. What has failed is not done, and neither is what comes after
it. -/
def createErrorDump (disk : Disk) (timestamp : String) (logFile : List Char) (saving : Saving) :
    Disk :=
  if saving.ensureErrorDumpDir then
    match saving.renameFile with
    | .renamed =>
        (disk.put (errorDumpPath timestamp) (some (.file logFile))).ensureSymlink
          (errorDumpPath timestamp) lastFilePath saving
    | .failed none => disk
    | .failed (some written) => disk.put (errorDumpPath timestamp) (some (.file written))
  else disk

/-- `supervise`, when the program has ended. The crash information and the diagnostics are appended
to its output. -/
def supervise (disk : Disk) (exitCode : ℤ) (output diagnostics : List Char) (timestamp : String)
    (saving : Saving) : Disk :=
  if exitCode = 0 then disk
  else disk.createErrorDump timestamp (output ++ diagnostics) saving

end Disk

/-! ### The device -/

/-- The program, with the proxy of the native process unless that is left out. -/
structure App where
  failsafe : Failsafe
  nativeInstance : Option NativeProxy

/-- In failsafe mode the native process is not run. -/
def initNative (failsafe : Failsafe) : App where
  failsafe := failsafe
  nativeInstance := if failsafe.failsafeModeActive then none else some .new

/-- The native process has been given up, and has been started before. -/
def GivenUp (p : NativeProxy) : Prop :=
  p.monitor = .fatal ∧ p.restarts ≠ 0

instance (p : NativeProxy) : Decidable (GivenUp p) :=
  inferInstanceAs (Decidable (_ ∧ _))

/-- What the program leaves behind goes with what happened to the native process. -/
def App.Exits (app : App) (exitCode : ℤ) (output : List Char) : Prop :=
  ∀ p ∈ app.nativeInstance, (p.monitor = .fatal → exitCode = 1) ∧
    (GivenUp p → maxRestartsMessage <:+: output)

instance (app : App) (exitCode : ℤ) (output : List Char) :
    Decidable (app.Exits exitCode output) :=
  inferInstanceAs (Decidable (∀ p ∈ app.nativeInstance, (p.monitor = .fatal → exitCode = 1) ∧
    (GivenUp p → maxRestartsMessage <:+: output)))

/-- The disk, and the program when it runs. -/
structure Device where
  disk : Disk
  app : Option App

/-- What happens to the device. -/
inductive DeviceAction where
  | start (env : Environment)
  | native (a : ProxyAction)
  | exit (exitCode : ℤ) (output diagnostics : List Char) (timestamp : String) (saving : Saving)
  | powerLoss
  | touchFailsafeFile
deriving DecidableEq, Repr

/-- The start looks for the last crash log where it is linked, can read it and can remove files. -/
structure Environment.Regular (env : Environment) : Prop where
  path : env.lastCrashPath = failsafeDefaultLastCrashPath
  reads : env.reads = true
  removes : env.removes = true

/-- Crash logs are saved, and are then found by the starts. -/
def DeviceAction.Regular : DeviceAction → Prop
  | .start env => env.Regular
  | .exit exitCode _ _ _ saving => exitCode ≠ 0 → saving = .success
  | _ => True

namespace Device

/-- The program is started, and looks whether it has to be in failsafe mode. -/
def start (d : Device) (env : Environment) : Device where
  disk := (d.disk.checkFailsafeReason env).2
  app := some (initNative (d.disk.checkFailsafeReason env).1)

/-- The next state. -/
def step (maxRestarts : ℕ) (d : Device) : DeviceAction → Option Device
  | .start env => if d.app.isNone then some (d.start env) else none
  | .native a =>
      d.app.bind fun app => app.nativeInstance.bind fun p =>
        (p.step maxRestarts a).map fun p' =>
          { d with app := some { app with nativeInstance := some p' } }
  | .exit exitCode output diagnostics timestamp saving =>
      d.app.bind fun app =>
        if app.Exits exitCode output then
          some ⟨d.disk.supervise exitCode output diagnostics timestamp saving, none⟩
        else none
  | .powerLoss => some { d with app := none }
  | .touchFailsafeFile => some { d with disk := { d.disk with failsafeFile := true } }

/-- The program may crash at any time, or give the native process up. -/
def lts (maxRestarts : ℕ) : Lts Device DeviceAction :=
  Lts.ofStep (step maxRestarts)

/-- Whether the program runs in failsafe mode. -/
def failsafeModeActive (d : Device) : Bool :=
  d.app.any fun app => app.failsafe.failsafeModeActive

/-- The reason that it gives. -/
def failsafeModeReason (d : Device) : Option FailsafeReason :=
  d.app.bind fun app => app.failsafe.failsafeModeReason

/-- The program runs with the native process. -/
def runsNative (d : Device) : Bool :=
  d.app.any fun app => app.nativeInstance.isSome

/-- The program runs, and has given the native process up. -/
def HasGivenUp (d : Device) : Prop :=
  ∃ app ∈ d.app, ∃ p ∈ app.nativeInstance, GivenUp p

variable {maxRestarts : ℕ} {d d' t : Device} {a : DeviceAction}
  {tr : List (Lts.Transition Device DeviceAction)}

/-- A device that is off can be started. -/
theorem step_start {env : Environment} (happ : d.app = none) :
  (lts maxRestarts).step d (.start env) (d.start env)
  := by
  change step maxRestarts d (.start env) = some _
  rw [step, happ]
  exact if_pos Option.isNone_none

/-- A program can exit in every way that its supervisor sees. -/
theorem step_exit {app : App} {exitCode : ℤ} {output : List Char} (diagnostics : List Char)
    (timestamp : String) (saving : Saving) (happ : d.app = some app)
    (hexits : app.Exits exitCode output) :
  (lts maxRestarts).step d (.exit exitCode output diagnostics timestamp saving)
    ⟨d.disk.supervise exitCode output diagnostics timestamp saving, none⟩
  := by
  change step maxRestarts d (.exit exitCode output diagnostics timestamp saving) = some _
  rw [step, happ]
  exact if_pos hexits

/-! ### Logs that have not been read -/

/-- The log that has not been read after a transition, given the one before it. -/
def unreadAfter (log : Option (List Char)) (e : Lts.Transition Device DeviceAction) :
    Option (List Char) :=
  match e.action with
  | .exit exitCode output diagnostics _ _ =>
      if exitCode = 0 then log else some (output ++ diagnostics)
  | .start env => if env.forceFailsafe = "1" ∨ e.before.disk.failsafeFile then log else none
  | _ => log

/-- The newest crash log, unless a start has read it. A start reads it unless it is put in failsafe
mode for another reason. -/
def unread (tr : List (Lts.Transition Device DeviceAction)) : Option (List Char) :=
  tr.foldl unreadAfter none

/-- What is unread changes with the last step. -/
theorem unread_snoc (e : Lts.Transition Device DeviceAction) :
  unread (tr ++ [e]) = unreadAfter (unread tr) e
  := List.foldl_append ..

/-- No crash log is where the link is. -/
theorem errorDumpPath_ne (timestamp : String) :
  Disk.errorDumpPath timestamp ≠ Disk.lastFilePath
  := by
  intro heq
  have hlist := congrArg String.toList heq
  simp [Disk.errorDumpPath, Disk.lastFilePath, Disk.errorDumpDir] at hlist

/-- A crash log that is saved is the last one. -/
theorem lastCrashLog_createErrorDump (disk : Disk) (timestamp : String) (logFile : List Char) :
  (disk.createErrorDump timestamp logFile .success).lastCrashLog = some logFile
  := by
  have hpath : failsafeDefaultLastCrashPath = Disk.lastFilePath := by decide
  rw [Disk.lastCrashLog, hpath]
  simp [Disk.createErrorDump, Saving.success, Disk.ensureSymlink, Disk.put, Disk.linkedLog,
    Disk.maxLinks, Disk.contentAt, errorDumpPath_ne]

/-- An exit with an error saves a crash log, and any other leaves the last one. -/
theorem lastCrashLog_supervise {exitCode : ℤ} {saving : Saving} (disk : Disk)
    (output diagnostics : List Char) (timestamp : String)
    (hsaving : exitCode ≠ 0 → saving = .success) :
  (disk.supervise exitCode output diagnostics timestamp saving).lastCrashLog =
    if exitCode = 0 then disk.lastCrashLog else some (output ++ diagnostics)
  := by
  rw [Disk.supervise]
  split
  case isTrue => rfl
  case isFalse hne =>
    rw [hsaving hne]
    exact lastCrashLog_createErrorDump ..

/-- Linking leaves the failsafe file. -/
theorem failsafeFile_ensureSymlink (disk : Disk) (oldName newName : String) (saving : Saving) :
  (disk.ensureSymlink oldName newName saving).failsafeFile = disk.failsafeFile
  := by
  rw [Disk.ensureSymlink]
  split_ifs <;> rfl

/-- Saving a log does not ask for failsafe mode. -/
theorem failsafeFile_supervise (disk : Disk) (exitCode : ℤ) (output diagnostics : List Char)
    (timestamp : String) (saving : Saving) :
  (disk.supervise exitCode output diagnostics timestamp saving).failsafeFile = disk.failsafeFile
  := by
  rw [Disk.supervise]
  split
  · rfl
  · rw [Disk.createErrorDump]
    split
    · split
      · exact failsafeFile_ensureSymlink ..
      · rfl
      · rfl
    · rfl

/-- The failsafe file is on no path to a crash log. -/
theorem contentAt_failsafeFile (disk : Disk) (failsafeFile : Bool) (links : ℕ) (path : String) :
  Disk.contentAt { disk with failsafeFile := failsafeFile } links path = disk.contentAt links path
  := by
  induction links generalizing path with
  | zero => rfl
  | succ links ih =>
      rw [Disk.contentAt.eq_def, Disk.contentAt.eq_def disk]
      simp only [ih]

/-- The file that asks for failsafe mode has nothing to do with the log. -/
theorem lastCrashLog_failsafeFile (disk : Disk) (failsafeFile : Bool) :
  Disk.lastCrashLog { disk with failsafeFile := failsafeFile } = disk.lastCrashLog
  := by
  rw [Disk.lastCrashLog, Disk.linkedLog, contentAt_failsafeFile]
  rfl

/-- When the link is removed, there is no last crash log. -/
theorem lastCrashLog_put_none (disk : Disk) :
  (disk.put failsafeDefaultLastCrashPath none).lastCrashLog = none
  := by
  simp [Disk.lastCrashLog, Disk.linkedLog, Disk.put]

/-- A start that reads a log removes the link to it. -/
theorem lastCrashLog_checkFailsafeReason {env : Environment} (disk : Disk) (henv : env.Regular) :
  (disk.checkFailsafeReason env).2.lastCrashLog =
    if env.forceFailsafe = "1" ∨ disk.failsafeFile then disk.lastCrashLog else none
  := by
  rw [Disk.checkFailsafeReason, henv.path, henv.reads, henv.removes]
  by_cases hforce : env.forceFailsafe = "1"
  · rw [if_pos hforce, if_pos (Or.inl hforce)]
  · rw [if_neg hforce]
    cases hfile : disk.failsafeFile with
    | true =>
        rw [if_pos rfl, if_pos rfl, if_pos (Or.inr rfl)]
        exact lastCrashLog_failsafeFile ..
    | false =>
        have hunforced : ¬ (env.forceFailsafe = "1" ∨ false = true) := by simp [hforce]
        rw [if_neg hunforced, if_neg Bool.false_ne_true, if_pos rfl]
        cases hlog : disk.linkedLog failsafeDefaultLastCrashPath with
        | none => exact hlog
        | some content => exact lastCrashLog_put_none disk

/-- The link leads to the newest log that has not been read. -/
theorem lastCrashLog_step (hlog : d.disk.lastCrashLog = unread tr)
    (hstep : (lts maxRestarts).step d a d') (hregular : a.Regular) :
  d'.disk.lastCrashLog = unread (tr ++ [⟨d, a, d'⟩])
  := by
  rw [unread_snoc, ← hlog]
  cases a with
  | start env =>
      obtain ⟨-, hstep⟩ := Option.ite_none_right_eq_some.mp hstep
      obtain rfl := Option.some.inj hstep
      exact lastCrashLog_checkFailsafeReason _ hregular
  | native a =>
      obtain ⟨app, -, hstep⟩ := Option.bind_eq_some_iff.mp hstep
      obtain ⟨p, -, hstep⟩ := Option.bind_eq_some_iff.mp hstep
      obtain ⟨p', -, rfl⟩ := Option.map_eq_some_iff.mp hstep
      rfl
  | exit exitCode output diagnostics timestamp saving =>
      obtain ⟨app, -, hstep⟩ := Option.bind_eq_some_iff.mp hstep
      obtain ⟨-, hstep⟩ := Option.ite_none_right_eq_some.mp hstep
      obtain rfl := Option.some.inj hstep
      exact lastCrashLog_supervise _ _ _ _ hregular
  | powerLoss =>
      obtain rfl := Option.some.inj hstep
      rfl
  | touchFailsafeFile =>
      obtain rfl := Option.some.inj hstep
      exact lastCrashLog_failsafeFile ..

/-- In every run in which crash logs are saved, read and unlinked, the last crash log is the one
that is unread. -/
theorem lastCrashLog_run (hnone : d.disk.lastCrashLog = none) (run : (lts maxRestarts).Run d tr t)
    (hregular : ∀ e ∈ tr, e.action.Regular) :
  t.disk.lastCrashLog = unread tr
  := by
  induction run with
  | nil => exact hnone
  | snoc run hstep ih =>
      obtain ⟨hfront, hlast⟩ := List.forall_mem_append.mp hregular
      exact lastCrashLog_step (ih hfront) hstep (hlast _ (List.mem_singleton_self _))

/-- The end of the log says that the native process was given up. -/
def Marks (log : List Char) : Prop :=
  nativeMaxRestartAttemptsReached <:+: readFileTail log Disk.maxBytes

instance (log : List Char) : Decidable (Marks log) :=
  inferInstanceAs (Decidable (_ <:+: _))

/-- Whether a start is in failsafe mode, and whether it is so because of the native process. -/
theorem checkFailsafeReason_iff {env : Environment} (disk : Disk) (henv : env.Regular) :
  ((disk.checkFailsafeReason env).1.failsafeModeActive = true ↔
      env.forceFailsafe = "1" ∨ disk.failsafeFile = true ∨
        ∃ log ∈ disk.lastCrashLog, Marks log) ∧
    ((disk.checkFailsafeReason env).1.failsafeModeReason = some .native ↔
      env.forceFailsafe ≠ "1" ∧ disk.failsafeFile = false ∧
        ∃ log ∈ disk.lastCrashLog, Marks log)
  := by
  rw [Disk.checkFailsafeReason, henv.path, henv.reads, if_pos rfl, Disk.lastCrashLog]
  by_cases hforce : env.forceFailsafe = "1"
  · simp [hforce]
  · cases hfile : disk.failsafeFile with
    | true => simp [hforce]
    | false =>
        cases hlog : disk.linkedLog failsafeDefaultLastCrashPath with
        | none => simp [hforce]
        | some content =>
            simp only [Option.mem_some_iff, exists_eq_left', Marks]
            generalize readFileTail content Disk.maxBytes = log
            by_cases hinfix : nativeMaxRestartAttemptsReached <:+: log
            · simp [hforce, classifyCrashLog, hinfix]
            · simp [hforce, classifyCrashLog, hinfix]

/-- The first start after a crash that is not put in failsafe mode for another reason judges the log
of the newest crash, and no other start does: as long as crash logs can be saved and found, a start
is in failsafe mode because of the native process if and only if nothing else puts it there, and the
log of the newest crash has not been read by an earlier start and says near its end that the native
process was given up. -/
theorem failsafeModeReason_iff {env : Environment} (hnone : d.disk.lastCrashLog = none)
    (run : (lts maxRestarts).Run d tr t) (hregular : ∀ e ∈ tr, e.action.Regular)
    (hstart : (lts maxRestarts).step t (.start env) d') (henv : env.Regular) :
  d'.failsafeModeReason = some .native ↔
    env.forceFailsafe ≠ "1" ∧ t.disk.failsafeFile = false ∧ ∃ log ∈ unread tr, Marks log
  := by
  obtain ⟨-, hstart⟩ := Option.ite_none_right_eq_some.mp hstart
  obtain rfl := Option.some.inj hstart
  rw [← lastCrashLog_run hnone run hregular]
  exact (checkFailsafeReason_iff _ henv).2

/-- A start that looks for the log where it is linked. -/
def unforced : Environment where
  forceFailsafe := ""
  lastErrorPath := ""
  reads := true
  removes := true

/-- An environment in which everything works. -/
theorem regular_unforced :
  unforced.Regular
  := ⟨by decide, rfl, rfl⟩

/-- What happens until a crash log has been passed over by a start in failsafe mode. -/
def passedOver : List DeviceAction :=
  [.start unforced, .exit 1 maxRestartsMessage [] "20250101-000000" .success,
    .start { unforced with forceFailsafe := "1" }, .powerLoss]

/-- In the run everything works. -/
theorem regular_passedOver :
  ∀ a ∈ passedOver, a.Regular
  := by
  have hforced : Environment.Regular { unforced with forceFailsafe := "1" } := ⟨by decide, rfl, rfl⟩
  simp [passedOver, DeviceAction.Regular, regular_unforced, hforced]

/-- A crash log that was passed over by one start is judged by the next. -/
theorem failsafeModeReason_iff_passedOver :
  let off : Device := ⟨⟨fun _ => none, false⟩, none⟩
  ∃ tr t d', (lts 1).Run off tr t ∧ tr.map Lts.Transition.action = passedOver ∧
    (lts 1).step t (.start unforced) d' ∧ d'.failsafeModeReason = some .native
  := by
  intro off
  let disk := off.disk.supervise 1 maxRestartsMessage [] "20250101-000000" .success
  let t : Device := ⟨disk, none⟩
  obtain ⟨tr, run, hactions⟩ :
      ∃ tr, (lts 1).Run off tr t ∧ tr.map Lts.Transition.action = passedOver :=
    Lts.exists_run_of_play rfl
  have hregular : ∀ e ∈ tr, e.action.Regular :=
    Lts.forall_action DeviceAction.Regular hactions regular_passedOver
  have hstart : (lts 1).step t (.start unforced) _ := step_start rfl
  have hunread : some maxRestartsMessage = unread tr := by
    rw [← lastCrashLog_run rfl run hregular]
    exact (lastCrashLog_createErrorDump ..).symm
  have hmarks : Marks maxRestartsMessage := by decide +kernel
  exact ⟨tr, t, _, run, hactions, hstart,
    (failsafeModeReason_iff rfl run hregular hstart regular_unforced).mpr
      ⟨by decide, rfl, _, Option.mem_def.mpr hunread.symm, hmarks⟩⟩

/-! ### After the native process has been given up -/

/-- A text that occurs for the last time where it is followed by some other text is found at the end
if and only if both fit. -/
theorem infix_drop_iff {text after : List Char} {n : ℕ} (before : List Char)
    (hlast : ¬ text <:+: text.tail ++ after) :
  text <:+: (before ++ (text ++ after)).drop ((before ++ (text ++ after)).length - n) ↔
    (text ++ after).length ≤ n
  := by
  have hne : text ≠ [] := by
    rintro rfl
    exact hlast List.nil_infix
  constructor
  · intro hinfix
    by_contra hlt
    apply hlast
    have hlength : (before ++ (text ++ after)).length - n =
        before.length + ((text ++ after).length - n) := by
      rw [List.length_append]
      omega
    rw [hlength, List.drop_length_add_append] at hinfix
    obtain ⟨k, hk⟩ : ∃ k, (text ++ after).length - n = 1 + k :=
      ⟨(text ++ after).length - n - 1, by omega⟩
    rw [hk, ← List.drop_drop, List.drop_one, List.tail_append_of_ne_nil hne] at hinfix
    exact hinfix.trans (List.drop_suffix ..).isInfix
  · intro hle
    rw [List.drop_append_of_le_length (by rw [List.length_append]; omega)]
    exact List.infix_append' ..

/-- The device is off, and its next start is put in failsafe mode. -/
def Condemned (d : Device) : Prop :=
  d.app = none ∧ (d.disk.failsafeFile = true ∨ ∃ log ∈ d.disk.lastCrashLog, Marks log)

/-- The native process runs unless the program is in failsafe mode. -/
theorem runsNative_start (d : Device) (env : Environment) :
  (d.start env).runsNative = !(d.start env).failsafeModeActive
  := by
  have hnative : (d.start env).runsNative =
      (if (d.disk.checkFailsafeReason env).1.failsafeModeActive then none
        else some NativeProxy.new).isSome := rfl
  have hactive : (d.start env).failsafeModeActive =
      (d.disk.checkFailsafeReason env).1.failsafeModeActive := rfl
  rw [hnative, hactive]
  cases (d.disk.checkFailsafeReason env).1.failsafeModeActive <;> rfl

/-- A condemned device stays so until it is started in failsafe mode. -/
theorem Condemned.step (h : d.Condemned) (hstep : (lts maxRestarts).step d a d')
    (hregular : a.Regular) :
  d'.Condemned ∨ d'.failsafeModeActive = true
  := by
  obtain ⟨happ, hlog⟩ := h
  cases a with
  | start env =>
      obtain ⟨-, hstep⟩ := Option.ite_none_right_eq_some.mp hstep
      obtain rfl := Option.some.inj hstep
      exact Or.inr ((checkFailsafeReason_iff d.disk hregular).1.mpr (Or.inr hlog))
  | native a =>
      obtain ⟨app, hrunning, -⟩ := Option.bind_eq_some_iff.mp hstep
      simp [happ] at hrunning
  | exit exitCode output diagnostics timestamp saving =>
      obtain ⟨app, hrunning, -⟩ := Option.bind_eq_some_iff.mp hstep
      simp [happ] at hrunning
  | powerLoss =>
      obtain rfl := Option.some.inj hstep
      exact Or.inl ⟨rfl, hlog⟩
  | touchFailsafeFile =>
      obtain rfl := Option.some.inj hstep
      exact Or.inl ⟨happ, Or.inl rfl⟩

/-- Before the native process runs again, there has been a start in failsafe mode. -/
theorem Condemned.exists_failsafe (h : d.Condemned) (run : (lts maxRestarts).Run d tr t)
    (hregular : ∀ e ∈ tr, e.action.Regular) (hnative : t.runsNative = true) :
  ∃ e ∈ tr, e.after.failsafeModeActive = true
  := by
  by_contra hnone
  have hcondemned : t.Condemned := by
    apply run.invariant h
    intro e he hbefore hstep
    rcases hbefore.step hstep (hregular e he) with hafter | hfailsafe
    · exact hafter
    · exact absurd ⟨e, he, hfailsafe⟩ hnone
  rw [runsNative, hcondemned.1] at hnative
  cases hnative

/-- When the program ends because the native process has been given up, and its log is saved, the
next start that runs that process comes after a start in failsafe mode if and only if the file that
asks for it is there or what is logged from the last mention of the reason on is not longer than the
part of the log that is read. -/
theorem failsafe_first_iff {exitCode : ℤ} {output diagnostics before after : List Char}
    {timestamp : String} (hgivenUp : d.HasGivenUp)
    (hexit : (lts maxRestarts).step d (.exit exitCode output diagnostics timestamp .success) d')
    (hlog : output ++ diagnostics = before ++ (nativeMaxRestartAttemptsReached ++ after))
    (hlast :
      ¬ nativeMaxRestartAttemptsReached <:+: nativeMaxRestartAttemptsReached.tail ++ after) :
  (∀ tr t, (lts maxRestarts).Run d' tr t → (∀ e ∈ tr, e.action.Regular) → t.runsNative = true →
      ∃ e ∈ tr, e.after.failsafeModeActive = true) ↔
    d.disk.failsafeFile = true ∨ (nativeMaxRestartAttemptsReached ++ after).length ≤ 50 * 1024
  := by
  obtain ⟨app, happ, hstep⟩ := Option.bind_eq_some_iff.mp hexit
  obtain ⟨hexits, hstep⟩ := Option.ite_none_right_eq_some.mp hstep
  obtain rfl := Option.some.inj hstep
  have hcode : exitCode = 1 := by
    obtain ⟨app', happ', p, hp, hfatal, -⟩ := hgivenUp
    obtain rfl : app = app' := Option.some.inj (happ.symm.trans happ')
    exact (hexits p hp).1 hfatal
  subst hcode
  set disk := d.disk.supervise 1 output diagnostics timestamp .success with hdisk
  have hfile : disk.failsafeFile = d.disk.failsafeFile := failsafeFile_supervise ..
  have hlastLog : disk.lastCrashLog =
      some (before ++ (nativeMaxRestartAttemptsReached ++ after)) := by
    rw [hdisk, lastCrashLog_supervise _ _ _ _ fun _ => rfl, if_neg (by decide), hlog]
  have hmarks : (∃ log ∈ disk.lastCrashLog, Marks log) ↔
      (nativeMaxRestartAttemptsReached ++ after).length ≤ 50 * 1024 := by
    rw [← infix_drop_iff before hlast, hlastLog]
    simp [Marks, readFileTail, Disk.maxBytes]
  rw [← hmarks, ← hfile]
  constructor
  · intro hfirst
    by_contra hsafe
    set t := (⟨disk, none⟩ : Device).start unforced with ht
    have hactive : t.failsafeModeActive ≠ true := by
      intro hactive
      rcases (checkFailsafeReason_iff disk regular_unforced).1.mp hactive with henv | hasked
      · exact absurd henv (by decide)
      · exact hsafe hasked
    have hnative : t.runsNative = true := by
      rw [ht, runsNative_start, ← ht, Bool.eq_false_iff.mpr hactive]
      rfl
    obtain ⟨e, he, hfailsafe⟩ := hfirst _ t (Lts.Run.nil.snoc (step_start rfl))
      (List.forall_mem_singleton.mpr regular_unforced) hnative
    obtain rfl := List.mem_singleton.mp he
    exact hactive hfailsafe
  · intro hasked tr t run hregular hnative
    exact Condemned.exists_failsafe ⟨rfl, hasked⟩ run hregular hnative

/-- What happens until the native process is given up, when it is started once. -/
def givesUp : List DeviceAction :=
  [.start unforced, .native (.start true), .native (.process none .write),
    .native (.process none .copy), .native .receive, .native (.connect true),
    .native (.ready true), .native (.process none .exit), .native .wait, .native .restart]

/-- With short diagnostics, the log is found to say that the native process was given up. -/
theorem failsafe_first_iff_diagnostics :
  let off : Device := ⟨⟨fun _ => none, false⟩, none⟩
  ∃ tr d d', (lts 1).Run off tr d ∧
    (lts 1).step d
      (.exit 1 maxRestartsMessage "exit code: 1".toList "20250101-000000" .success) d' ∧
      ∀ tr t, (lts 1).Run d' tr t → (∀ e ∈ tr, e.action.Regular) → t.runsNative = true →
        ∃ e ∈ tr, e.after.failsafeModeActive = true
  := by
  intro off
  let p : NativeProxy := ⟨.fatal, some ⟨.exited, .received, true⟩, [], some 1, 1⟩
  let d : Device := ⟨off.disk, some ⟨⟨false, none, []⟩, some p⟩⟩
  obtain ⟨tr, run, -⟩ : ∃ tr, (lts 1).Run off tr d ∧ tr.map Lts.Transition.action = givesUp :=
    Lts.exists_run_of_play rfl
  have hexits : App.Exits ⟨⟨false, none, []⟩, some p⟩ 1 maxRestartsMessage := by decide +kernel
  have hexit : (lts 1).step d _ _ :=
    step_exit "exit code: 1".toList "20250101-000000" .success rfl hexits
  have hgivenUp : d.HasGivenUp := ⟨_, rfl, p, rfl, rfl, by decide⟩
  have hlength : (nativeMaxRestartAttemptsReached ++ "exit code: 1".toList).length = 57 := rfl
  exact ⟨tr, d, _, run, hexit, (failsafe_first_iff hgivenUp hexit (List.append_assoc ..)
    (by decide +kernel)).mpr (Or.inr (by omega))⟩

end Device

end JetKvm.Supervisor
