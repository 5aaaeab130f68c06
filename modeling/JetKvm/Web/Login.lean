import JetKvm.Library.ThreadCount
import JetKvm.Web.Lockout

/-!
# Logins at the same time

`handleLogin` asks the rate limiter whether an attempt is allowed, compares the password, and
records the failure, and other requests may go on between these steps. All requests come from one
address, with wrong passwords, and in one window. Beside the rate limiter, the state keeps how many
comparisons have been made.
-/

namespace JetKvm.Web

/-- The rate limiter, the time of the last step, and how many passwords have been compared. -/
structure LoginState (IP : Type*) where
  passwordRateLimiter : RateLimiter IP
  now : ℕ
  comparisons : ℕ

/-- Where `handleLogin` is. -/
inductive Login where
  /-- Before `IsAllowed`. -/
  | isAllowed
  /-- Before the comparison. -/
  | compare
  /-- Before `RecordFailure`. -/
  | recordFailure
  /-- Answered with 401. -/
  | unauthorized
  /-- Answered with 429. -/
  | tooManyRequests
deriving DecidableEq, Repr

namespace Login

variable {IP Thread : Type*} [DecidableEq IP] [DecidableEq Thread] (ip : IP)

/-- One step of `handleLogin`, with a wrong password, at the given time. -/
def exec (_ : Thread) (now : ℕ) (s : LoginState IP) (login : Login) :
    Option (LoginState IP × Login) :=
  if s.now ≤ now then
    let s := { s with now := now }
    match login with
    | isAllowed =>
        if (s.passwordRateLimiter.isAllowed ip now).1 then some (s, compare)
        else some (s, tooManyRequests)
    | compare => some ({ s with comparisons := s.comparisons + 1 }, recordFailure)
    | recordFailure =>
        some ({ s with
          passwordRateLimiter := s.passwordRateLimiter.recordFailure ip now }, unauthorized)
    | unauthorized | tooManyRequests => none
  else none

/-- The requests and what they share. -/
abbrev LoginPool (IP Thread : Type*) := Pool (LoginState IP) Login Thread

variable (Thread) in
/-- The interleavings of the requests. -/
def lts : Lts (LoginPool IP Thread) (Thread × ℕ) :=
  Pool.lts (exec ip)

/-- No failure has been recorded, and every request is at its beginning. -/
def init : LoginPool IP Thread where
  shared := { passwordRateLimiter := .new, now := 0, comparisons := 0 }
  threads _ := isAllowed

/-- The step is not after the window of the address. -/
def InWindow (c : LoginPool IP Thread) (a : Thread × ℕ) : Prop :=
  ∀ entry ∈ c.shared.passwordRateLimiter.entries ip, ¬ entry.Expired a.2

instance (c : LoginPool IP Thread) (a : Thread × ℕ) : Decidable (InWindow ip c a) :=
  inferInstanceAs (Decidable (∀ entry ∈ c.shared.passwordRateLimiter.entries ip, _))

/-- The failures that have been recorded. -/
def recorded (s : LoginState IP) : ℕ :=
  match s.passwordRateLimiter.entries ip with
  | none => 0
  | some entry => entry.attempts

variable [Fintype Thread]

/-- The requests that have been allowed an attempt, and have not recorded its failure. -/
def pending (c : LoginPool IP Thread) : ℕ :=
  Pool.count (· = compare) c.threads + Pool.count (· = recordFailure) c.threads

/-- The request asks whether it is allowed an attempt when too few failures have been recorded for a
lock, but the requests that are pending will make them enough, or at the very instant at which the
window ends. -/
def Overtakes (c : LoginPool IP Thread) (a : Thread × ℕ) : Prop :=
  c.threads a.1 = isAllowed ∧
    (recorded ip c.shared < maxAttempts ∧ maxAttempts ≤ recorded ip c.shared + pending c ∨
      ∃ entry ∈ c.shared.passwordRateLimiter.entries ip,
        maxAttempts ≤ entry.attempts ∧ a.2 = entry.windowStart + entry.windowDuration)

instance (c : LoginPool IP Thread) (a : Thread × ℕ) : Decidable (Overtakes ip c a) :=
  inferInstanceAs (Decidable (_ ∧ (_ ∨ _)))

/-! ### The attempts of a window -/

variable {ip : IP} {c c' : LoginPool IP Thread} {a : Thread × ℕ}

/-- Each comparison has been recorded or will be, and at most five requests have been allowed an
attempt. -/
structure Limited (ip : IP) (c : LoginPool IP Thread) : Prop where
  sound : ∀ entry ∈ c.shared.passwordRateLimiter.entries ip,
    TimedLimiter.Sound entry c.shared.now
  few : recorded ip c.shared + pending c ≤ maxAttempts
  comparisons : c.shared.comparisons =
    recorded ip c.shared + Pool.count (· = recordFailure) c.threads

omit [DecidableEq IP] [DecidableEq Thread] in
theorem Limited.init : Limited ip (init : LoginPool IP Thread) where
  sound := nofun
  few := by simp [pending, Pool.count, Login.init, recorded, RateLimiter.new]
  comparisons := by simp [Pool.count, Login.init, recorded, RateLimiter.new]

omit [DecidableEq IP] [DecidableEq Thread] in
/-- A request that is allowed an attempt in the window leaves at most five pending, if it does not
overtake the failures of the others. -/
theorem Limited.isAllowed (h : Limited ip c) (hcall : c.threads a.1 = Login.isAllowed)
    (hallowed : (c.shared.passwordRateLimiter.isAllowed ip a.2).1 = true)
    (window : InWindow ip c a) (hnot : ¬ Overtakes ip c a) :
  recorded ip c.shared + pending c < maxAttempts
  := by
  by_contra hmany
  apply hnot
  use hcall
  by_cases hlocked : maxAttempts ≤ recorded ip c.shared
  · right
    rw [recorded] at hlocked
    cases hentry : c.shared.passwordRateLimiter.entries ip with
    | none =>
        rw [hentry] at hlocked
        cases hlocked
    | some entry =>
        rw [hentry] at hlocked
        use entry, rfl, hlocked
        have sound := h.sound entry hentry
        rw [TimedLimiter.isAllowed_iff] at hallowed
        have hunlocked := hallowed entry hentry
        have hlive := window entry hentry
        rw [TimedLimiter.expired_iff] at hlive
        cases hlock : entry.lockedUntil with
        | none => exact absurd (sound.unlocked hlock) (Nat.not_lt.mpr hlocked)
        | some lockedUntil =>
            rw [RateLimitEntry.Locked, hlock] at hunlocked
            have hlong := (sound.locked lockedUntil hlock).2
            dsimp only at hunlocked
            omega
  · left
    omega

/-- A failure that is recorded in the window is counted. -/
theorem recorded_recordFailure {s : LoginState IP} {now : ℕ}
    (window : ∀ entry ∈ s.passwordRateLimiter.entries ip, ¬ entry.Expired now) :
  recorded ip { s with
      passwordRateLimiter := s.passwordRateLimiter.recordFailure ip now } = recorded ip s + 1
  := by
  rw [recorded, recorded, RateLimiter.recordFailure]
  dsimp only
  rw [Function.update_self]
  cases hentry : s.passwordRateLimiter.entries ip with
  | none => rfl
  | some entry =>
      dsimp only
      rw [TimedLimiter.recordFailure_of_not_expired (window entry hentry)]

/-- As long as fewer than five failures have been recorded, one more keeps the entry sound. -/
theorem sound_recordFailure {rl : RateLimiter IP} {now later : ℕ}
    (h : ∀ entry ∈ rl.entries ip, TimedLimiter.Sound entry now) (hlater : now ≤ later)
    (hfew : ∀ entry ∈ rl.entries ip, entry.attempts < maxAttempts) :
  ∀ entry ∈ (rl.recordFailure ip later).entries ip, TimedLimiter.Sound entry later
  := by
  rw [RateLimiter.recordFailure]
  dsimp only
  rw [Function.update_self]
  cases hentry : rl.entries ip with
  | none =>
      rintro _ ⟨⟩
      apply TimedLimiter.Sound.begins
  | some entry =>
      rintro _ ⟨⟩
      have hattempts := hfew entry hentry
      have sound := h entry hentry
      apply sound.recordFailure hlater
      · intro hlocked
        rw [RateLimitEntry.Locked] at hlocked
        cases hlock : entry.lockedUntil with
        | none =>
            rw [hlock] at hlocked
            exact hlocked
        | some lockedUntil => exact absurd (sound.locked lockedUntil hlock).1 (Nat.ne_of_lt hattempts)
      · exact fun hend => absurd hend.1 (Nat.not_le.mpr hattempts)

omit [DecidableEq IP] in
theorem sound_later {rl : RateLimiter IP} {now later : ℕ}
    (h : ∀ entry ∈ rl.entries ip, TimedLimiter.Sound entry now) (hlater : now ≤ later) :
  ∀ entry ∈ rl.entries ip, TimedLimiter.Sound entry later
  := by
  intro entry hentry
  have sound := h entry hentry
  exact { sound with started := Nat.le_trans sound.started hlater }

omit [DecidableEq IP] [DecidableEq Thread] in
theorem Limited.of_recorded {s : LoginState IP} {threads : Thread → Login} {n : ℕ}
    (hsound : ∀ entry ∈ s.passwordRateLimiter.entries ip, TimedLimiter.Sound entry s.now)
    (hrecorded : recorded ip s = n)
    (hfew : n + (Pool.count (· = compare) threads + Pool.count (· = recordFailure) threads) ≤
      maxAttempts)
    (hcomparisons : s.comparisons = n + Pool.count (· = recordFailure) threads) :
  Limited ip ⟨s, threads⟩
  := by
  subst hrecorded
  exact ⟨hsound, hfew, hcomparisons⟩

/-- A step in the window keeps the attempts limited, if it does not overtake the failures of the
others. -/
theorem Limited.step (h : Limited ip c) (step : (lts Thread ip).step c a c')
    (window : InWindow ip c a) (hnot : ¬ Overtakes ip c a) :
  Limited ip c'
  := by
  obtain ⟨s, l, hexec, rfl⟩ := Pool.lts_step.mp step
  obtain ⟨hnow, hexec⟩ := Option.ite_none_right_eq_some.mp hexec
  have hcompare := Pool.count_update (· = compare) c.threads a.1 l
  have hrecord := Pool.count_update (· = recordFailure) c.threads a.1 l
  have hfew := h.few
  have hcomparisons := h.comparisons
  rw [pending] at hfew
  cases hcall : c.threads a.1 with
  | isAllowed =>
      rw [hcall] at hexec hcompare hrecord
      dsimp only at hexec
      split at hexec
      · rename_i hallowed
        obtain ⟨rfl, rfl⟩ := Prod.mk.inj (Option.some.inj hexec)
        have hlimit := h.isAllowed hcall hallowed window hnot
        rw [pending] at hlimit
        simp only [reduceCtorEq, if_true, if_false] at hcompare hrecord
        apply Limited.of_recorded (n := recorded ip c.shared)
        · exact sound_later h.sound hnow
        · rfl
        · omega
        · change c.shared.comparisons = recorded ip c.shared + _
          omega
      · obtain ⟨rfl, rfl⟩ := Prod.mk.inj (Option.some.inj hexec)
        simp only [reduceCtorEq, if_false] at hcompare hrecord
        apply Limited.of_recorded (n := recorded ip c.shared)
        · exact sound_later h.sound hnow
        · rfl
        · omega
        · change c.shared.comparisons = recorded ip c.shared + _
          omega
  | compare =>
      rw [hcall] at hexec hcompare hrecord
      obtain ⟨rfl, rfl⟩ := Prod.mk.inj (Option.some.inj hexec)
      simp only [reduceCtorEq, if_true, if_false] at hcompare hrecord
      apply Limited.of_recorded (n := recorded ip c.shared)
      · exact sound_later h.sound hnow
      · rfl
      · omega
      · change c.shared.comparisons + 1 = recorded ip c.shared + _
        omega
  | recordFailure =>
      rw [hcall] at hexec hcompare hrecord
      obtain ⟨rfl, rfl⟩ := Prod.mk.inj (Option.some.inj hexec)
      simp only [reduceCtorEq, if_true, if_false] at hcompare hrecord
      have hfailures : recorded ip c.shared < maxAttempts := by
        omega
      apply Limited.of_recorded (n := recorded ip c.shared + 1)
      · apply sound_recordFailure h.sound hnow
        intro entry hentry
        rwa [recorded, hentry] at hfailures
      · exact recorded_recordFailure (s := { c.shared with now := a.2 }) window
      · omega
      · change c.shared.comparisons = recorded ip c.shared + 1 + _
        omega
  | unauthorized | tooManyRequests =>
      rw [hcall] at hexec
      cases hexec

/-- At most five passwords are compared in a window, when no request overtakes the failures of the
others. -/
theorem comparisons_le {tr : List (Lts.Transition (LoginPool IP Thread) (Thread × ℕ))}
    (run : (lts Thread ip).Run init tr c) (window : ∀ e ∈ tr, InWindow ip e.before e.action)
    (hnot : ∀ e ∈ tr, ¬ Overtakes ip e.before e.action) :
  c.shared.comparisons ≤ maxAttempts
  := by
  have h : Limited ip c := by
    apply run.invariant Limited.init
    intro e he before step
    apply before.step step (window e he) (hnot e he)
  have hfew := h.few
  have hcomparisons := h.comparisons
  rw [pending] at hfew
  omega

end Login

/-! ### Six requests -/

namespace Login

/-- The steps of six requests, each of them alone. -/
def oneAfterTheOther : List (Fin 6 × ℕ) :=
  (List.finRange 6).flatMap fun i => List.replicate (if i.val < 5 then 3 else 1) (i, i.val)

/-- Five requests are answered one after the other, and the sixth is refused. -/
theorem comparisons_le_five :
  ∃ tr c, (lts (Fin 6) ()).Run init tr c ∧ c.threads (Fin.last 5) = tooManyRequests ∧
    c.shared.comparisons ≤ maxAttempts
  := by
  obtain ⟨tr, c, run, -, hsteps, hobserve⟩ :=
    Lts.exists_run_of_restrict (Pool.advance (exec ()))
      (fun c a => InWindow () c a ∧ ¬ Overtakes () c a) (init : LoginPool Unit (Fin 6))
      oneAfterTheOther (fun c => c.threads (Fin.last 5))
      (by decide +kernel : _ = some tooManyRequests)
  exact ⟨tr, c, run, hobserve, comparisons_le run (fun e he => (hsteps e he).1)
    fun e he => (hsteps e he).2⟩

/-- Six requests are allowed an attempt before any of them records its failure. -/
theorem six_comparisons :
  ¬ ∀ (tr : List (Lts.Transition (LoginPool Unit (Fin 6)) (Fin 6 × ℕ)))
      (c : LoginPool Unit (Fin 6)),
    (lts (Fin 6) ()).Run init tr c → (∀ e ∈ tr, InWindow () e.before e.action) →
    c.shared.comparisons ≤ maxAttempts
  := by
  intro claim
  obtain ⟨tr, c, run, -, window, hobserve⟩ :=
    Lts.exists_run_of_restrict (Pool.advance (exec ())) (fun c a => InWindow () c a)
      (init : LoginPool Unit (Fin 6)) ((List.finRange 6 ++ List.finRange 6).map fun i => (i, 1))
      (fun c => c.shared.comparisons) (by decide +kernel : _ = some 6)
  have hmost := claim tr c run window
  rw [hobserve] at hmost
  exact absurd hmost (by decide)

end Login

end JetKvm.Web
