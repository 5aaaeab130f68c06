import JetKvm.Library.Transition
import Mathlib.Logic.Function.Basic

/-!
# The rate limiter of the password endpoints

Five failures in a window lock an address out, for as long as the window lasts. The first failure
after the window begins a new one, which is twice as long when the address has been locked out
before. The operations take place one at a time, at times that do not decrease, and a failure is
recorded only when the address is allowed to make an attempt. The times are in nanoseconds.
-/

namespace JetKvm.Web

def maxAttempts : ℕ := 5

/-- 15 minutes. -/
def baseWindow : ℕ := 15 * 60 * 1000000000

def maxBackoffLevel : ℕ := 3

/-- The failed attempts of an address. The zero time, which is before every time of the clock, is
`none`. -/
structure RateLimitEntry where
  attempts : ℕ
  windowStart : ℕ
  backoffLevel : ℕ
  lockedUntil : Option ℕ
deriving DecidableEq, Repr

structure RateLimiter (IP : Type*) where
  entries : IP → Option RateLimitEntry

def getWindowDuration (backoffLevel : ℕ) : ℕ :=
  let backoffLevel := if backoffLevel > maxBackoffLevel then maxBackoffLevel else backoffLevel
  baseWindow * 1 <<< backoffLevel

namespace RateLimitEntry

variable (entry : RateLimitEntry) (now : ℕ)

/-- How long the window of the entry lasts. -/
def windowDuration : ℕ :=
  getWindowDuration entry.backoffLevel

/-- The time is before `lockedUntil`. -/
def Locked : Prop :=
  match entry.lockedUntil with
  | none => False
  | some lockedUntil => now < lockedUntil

instance : Decidable (entry.Locked now) := by
  unfold Locked
  split <;> infer_instance

/-- The time is after `lockedUntil`. -/
def Unlocked : Prop :=
  match entry.lockedUntil with
  | none => True
  | some lockedUntil => lockedUntil < now

instance : Decidable (entry.Unlocked now) := by
  unfold Unlocked
  split <;> infer_instance

/-- The window of the entry is over. -/
def Expired : Prop :=
  entry.windowDuration < now - entry.windowStart

instance : Decidable (entry.Expired now) :=
  inferInstanceAs (Decidable (_ < _))

/-- The seconds after which an attempt is worth trying again. -/
def retryAfter : ℕ :=
  match entry.lockedUntil with
  | none => 0
  | some lockedUntil => (lockedUntil - now) / 1000000000 + 1

/-- What `RecordFailure` makes of an entry. -/
def recordFailure : RateLimitEntry :=
  if entry.Expired now then
    { attempts := 1
      windowStart := now
      backoffLevel :=
        if entry.backoffLevel > 0 ∨ entry.attempts ≥ maxAttempts then
          if entry.backoffLevel + 1 > maxBackoffLevel then maxBackoffLevel
          else entry.backoffLevel + 1
        else entry.backoffLevel
      lockedUntil := none }
  else if entry.attempts + 1 ≥ maxAttempts then
    { entry with
      attempts := entry.attempts + 1
      lockedUntil := some (now + entry.windowDuration) }
  else { entry with attempts := entry.attempts + 1 }

end RateLimitEntry

namespace RateLimiter

variable {IP : Type*}

/-- `NewRateLimiter`. -/
def new : RateLimiter IP where
  entries _ := none

/-- `IsAllowed`: whether an attempt may be made, and when it may be made again. -/
def isAllowed (rl : RateLimiter IP) (ip : IP) (now : ℕ) : Bool × ℕ :=
  match rl.entries ip with
  | none => (true, 0)
  | some entry =>
      if entry.Locked now then (false, entry.retryAfter now)
      -- the remaining branches, whether the window is over or not, all allow the attempt
      else (true, 0)

/-- `cleanup`. -/
def cleanup (rl : RateLimiter IP) (now : ℕ) : RateLimiter IP where
  entries ip := (rl.entries ip).filter fun entry => ¬ (entry.Unlocked now ∧ entry.Expired now)

variable [DecidableEq IP]

/-- `RecordFailure`. -/
def recordFailure (rl : RateLimiter IP) (ip : IP) (now : ℕ) : RateLimiter IP where
  entries :=
    Function.update rl.entries ip <|
      match rl.entries ip with
      | none =>
          some { attempts := 1, windowStart := now, backoffLevel := 0, lockedUntil := none }
      | some entry => some (entry.recordFailure now)

/-- `RecordSuccess`. -/
def recordSuccess (rl : RateLimiter IP) (ip : IP) : RateLimiter IP where
  entries := Function.update rl.entries ip none

end RateLimiter

/-! ### Timed histories -/

inductive RateLimiterOperation (IP : Type*) where
  | isAllowed (ip : IP)
  | recordFailure (ip : IP)
  | recordSuccess (ip : IP)
  | cleanup
deriving DecidableEq, Repr

/-- A rate limiter and the time of the last operation. -/
structure TimedLimiter (IP : Type*) where
  limiter : RateLimiter IP
  now : ℕ

namespace TimedLimiter

variable {IP : Type*} [DecidableEq IP]

def new : TimedLimiter IP where
  limiter := .new
  now := 0

/-- The operation at a time. A failure is recorded only when the attempt is allowed. -/
def step (s : TimedLimiter IP) (a : ℕ × RateLimiterOperation IP) : Option (TimedLimiter IP) :=
  if s.now ≤ a.1 then
    match a.2 with
    | .isAllowed _ => some ⟨s.limiter, a.1⟩
    | .recordFailure ip =>
        if (s.limiter.isAllowed ip a.1).1 then some ⟨s.limiter.recordFailure ip a.1, a.1⟩ else none
    | .recordSuccess ip => some ⟨s.limiter.recordSuccess ip, a.1⟩
    | .cleanup => some ⟨s.limiter.cleanup a.1, a.1⟩
  else none

/-- The timed histories of a rate limiter. -/
def lts : Lts (TimedLimiter IP) (ℕ × RateLimiterOperation IP) :=
  Lts.ofStep step

/-- The operation records a failure of the address, which begins a window. -/
def StartsWindow (ip : IP) (s : TimedLimiter IP) (a : ℕ × RateLimiterOperation IP) : Prop :=
  a.2 = .recordFailure ip ∧ ∀ entry ∈ s.limiter.entries ip, entry.Expired a.1

instance (ip : IP) (s : TimedLimiter IP) (a : ℕ × RateLimiterOperation IP) :
    Decidable (StartsWindow ip s a) :=
  inferInstanceAs (Decidable (_ ∧ _))

/-- A failure is recorded at the very instant at which a window that has had all its attempts
ends. -/
def FailsAtEnd (s : TimedLimiter IP) (a : ℕ × RateLimiterOperation IP) : Prop :=
  match a.2 with
  | .recordFailure ip =>
      ∃ entry ∈ s.limiter.entries ip,
        maxAttempts ≤ entry.attempts ∧ a.1 = entry.windowStart + entry.windowDuration
  | _ => False

instance (s : TimedLimiter IP) (a : ℕ × RateLimiterOperation IP) :
    Decidable (FailsAtEnd s a) := by
  unfold FailsAtEnd
  split <;> infer_instance

end TimedLimiter

end JetKvm.Web
