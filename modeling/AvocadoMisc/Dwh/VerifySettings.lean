import Mathlib.Tactic.SplitIfs

/-!
# Settings of dwh

The settings that the command line leaves behind and the check that admits them.
The check stops at the first setting it refuses and prints why. It admits a timeout
below one second by replacing it. `%d` prints an unsigned setting as a signed one.
-/

namespace AvocadoMisc.Dwh.VerifySettings

/-- The settings read after the command line was parsed, in the types that the source has for them.
-/
structure Settings where
  minthreads : BitVec 32
  maxthreads : BitVec 32
  iothreads : BitVec 32
  maxruntime : BitVec 32
  shortThreads : Bool
  ioFilename : String
  maxMem : BitVec 64
  maxIOSize : BitVec 64
  maxFileSize : BitVec 64
  ioTimeout : BitVec 64
  deriving DecidableEq

/-- `DEFAULT_ASYNC_IO_TIMEOUT`. -/
def defaultAsyncIOTimeout : BitVec 64 := 3

/-- The settings when the command line gives only thread counts and the file. -/
def defaults (minthreads maxthreads iothreads : BitVec 32) (ioFilename : String) : Settings where
  minthreads := minthreads
  maxthreads := maxthreads
  iothreads := iothreads
  maxruntime := 20
  shortThreads := true
  ioFilename := ioFilename
  maxMem := 0
  maxIOSize := 1024 * 1024
  maxFileSize := 0
  ioTimeout := defaultAsyncIOTimeout

/-- Why settings are refused, with what is printed. -/
inductive Refusal where
  | minThreads (minthreads : BitVec 32)
  | maxThreads (maxthreads minthreads : BitVec 32)
  | ioThreads (iothreads minthreads : BitVec 32)
  | runtime (maxruntime : BitVec 32)
  | filename
  | ioSizeOverMemory (maxIOSize maxMem : BitVec 64)
  | ioSizeLimit (maxIOSize : BitVec 64)
  deriving DecidableEq

/-- The printed line. The numbers are printed as signed or unsigned, as the formats of the source
have it. -/
def Refusal.message : Refusal → String
  | .minThreads minthreads =>
    "Not enough threads (" ++ toString minthreads.toInt ++ "), use --minthreads <num>"
  | .maxThreads maxthreads minthreads =>
    "Max threads (" ++ toString maxthreads.toInt ++
      ") must be greater than or equal to Min threads (" ++ toString minthreads.toInt ++
      "), use --maxthreads <num>"
  | .ioThreads iothreads minthreads =>
    "I/O threads (" ++ toString iothreads.toInt ++ ") must be less than Min Threads (" ++
      toString minthreads.toInt ++ "), use --iothreads <num>"
  | .runtime maxruntime =>
    "Runtime (--time <num>) must be greater than zero (" ++ toString maxruntime.toNat ++ ")"
  | .filename => "No I/O filename specified"
  | .ioSizeOverMemory maxIOSize maxMem =>
    "Maximum I/O size (" ++ toString maxIOSize.toNat ++
      ") must be no more than Maximum memory (" ++ toString maxMem.toNat ++ ")"
  | .ioSizeLimit maxIOSize =>
    "Maximum I/O size (" ++ toString maxIOSize.toNat ++ ") must be less than 2GB"

/-- `VerifySettings`: the settings to run with, or the first refusal in the order of the checks. A
timeout below one is replaced by the default and not refused. -/
def verifySettings (settings : Settings) : Except Refusal Settings :=
  if settings.minthreads = 0 then .error (.minThreads settings.minthreads)
  else if settings.maxthreads < settings.minthreads then
    .error (.maxThreads settings.maxthreads settings.minthreads)
  else if settings.iothreads ≥ settings.minthreads then
    .error (.ioThreads settings.iothreads settings.minthreads)
  else if settings.maxruntime < 1 then .error (.runtime settings.maxruntime)
  else if settings.ioFilename.length < 1 then .error .filename
  else if settings.maxMem ≠ 0 ∧ settings.maxIOSize > settings.maxMem then
    .error (.ioSizeOverMemory settings.maxIOSize settings.maxMem)
  else if settings.maxIOSize > 0x7FFFFFFF then .error (.ioSizeLimit settings.maxIOSize)
  else if settings.ioTimeout.slt 1 then
    .ok { settings with ioTimeout := defaultAsyncIOTimeout }
  else .ok settings

/-- What an admission guarantees. -/
structure Admitted (settings : Settings) : Prop where
  threads : 0 < settings.minthreads.toNat
  range : settings.minthreads.toNat ≤ settings.maxthreads.toNat
  workers : settings.iothreads.toNat < settings.minthreads.toNat
  runtime : 0 < settings.maxruntime.toNat
  filename : 0 < settings.ioFilename.length
  memory : settings.maxMem ≠ 0 → settings.maxIOSize.toNat ≤ settings.maxMem.toNat
  ioSize : settings.maxIOSize.toNat ≤ 0x7FFFFFFF
  timeout : ¬ settings.ioTimeout.slt 1

/-- Admitted settings differ from the given ones at most in the timeout, and meet
every test. -/
theorem verifySettings_ok {given settings : Settings}
    (accepted : verifySettings given = .ok settings) :
    Admitted settings ∧ settings = { given with ioTimeout := settings.ioTimeout } := by
  have kept (timeout : BitVec 64) (positive : ¬ timeout.slt 1)
      (threads : given.minthreads ≠ 0) (range : ¬ given.maxthreads < given.minthreads)
      (workers : ¬ given.iothreads ≥ given.minthreads) (runtime : ¬ given.maxruntime < 1)
      (filename : ¬ given.ioFilename.length < 1)
      (memory : ¬ (given.maxMem ≠ 0 ∧ given.maxIOSize > given.maxMem))
      (ioSize : ¬ given.maxIOSize > 0x7FFFFFFF) :
      Admitted { given with ioTimeout := timeout } := by
    constructor
    case threads => exact Nat.pos_of_ne_zero fun zero => threads (BitVec.eq_of_toNat_eq zero)
    case range => exact BitVec.not_lt.mp range
    case workers => exact BitVec.not_le.mp workers
    case runtime => exact BitVec.not_lt.mp runtime
    case filename => exact Nat.lt_of_not_le fun short => filename (Nat.lt_succ_of_le short)
    case memory => exact fun limited => BitVec.not_lt.mp fun exceeds => memory ⟨limited, exceeds⟩
    case ioSize => exact BitVec.not_lt.mp ioSize
    case timeout => exact positive
  unfold verifySettings at accepted
  split_ifs at accepted with threads range workers runtime filename memory ioSize timeout
  · obtain rfl := Except.ok.inj accepted
    exact ⟨kept _ (by decide) threads range workers runtime filename memory ioSize, rfl⟩
  · obtain rfl := Except.ok.inj accepted
    exact ⟨kept _ timeout threads range workers runtime filename memory ioSize, rfl⟩

end AvocadoMisc.Dwh.VerifySettings
