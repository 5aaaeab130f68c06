import JetKvm.Web.RateLimiter
import Mathlib.Tactic.Common

/-!
# Lockouts

A window that has had five failures locks its address out, and neither the cleanup nor what other
addresses do forgets the lock or the failures that have been counted. A window is over one
nanosecond later than a lock that began with it, so that five failures at one instant leave that
nanosecond for a sixth.
-/

namespace JetKvm.Web

/-- An operation that has taken place. -/
abbrev LimiterTransition (IP : Type*) :=
  Lts.Transition (TimedLimiter IP) (ℕ × RateLimiterOperation IP)

namespace TimedLimiter

variable {IP : Type*} [DecidableEq IP] {ip : IP} {s t : TimedLimiter IP}
  {a : ℕ × RateLimiterOperation IP} {tr : List (LimiterTransition IP)}

/-- How often the operations record a failure of the address. -/
def failures (ip : IP) (tr : List (LimiterTransition IP)) : ℕ :=
  tr.countP fun e => e.action.2 = .recordFailure ip

/-- After a failure that begins a window and four more in it, the address is not allowed another
attempt until it has been locked out for as long as the window lasts, or succeeds. -/
def EnforcesLockout (tr : List (LimiterTransition IP)) (s : TimedLimiter IP) : Prop :=
  ∀ ip earlier first during last later entry now,
    tr = earlier ++ first :: (during ++ last :: later) →
    StartsWindow ip first.before first.action →
    first.after.limiter.entries ip = some entry →
    failures ip during = 3 → last.action.2 = .recordFailure ip →
    last.action.1 ≤ first.action.1 + getWindowDuration entry.backoffLevel →
    (∀ e ∈ during ++ later, e.action.2 ≠ .recordSuccess ip) →
    s.now ≤ now → now < last.action.1 + getWindowDuration entry.backoffLevel →
    (s.limiter.isAllowed ip now).1 = false

/-- No window has more than five failures. -/
def LimitsAttempts (tr : List (LimiterTransition IP)) : Prop :=
  ∀ ip earlier first during, tr = earlier ++ first :: during →
    StartsWindow ip first.before first.action →
    (∀ e ∈ during, ¬ StartsWindow ip e.before e.action) →
    1 + failures ip during ≤ maxAttempts

/-! ### Steps -/

/-- What an operation makes of the entry of an address. -/
inductive EntryStep (ip : IP) :
    Option RateLimitEntry → ℕ × RateLimiterOperation IP → Option RateLimitEntry → Prop
  | begins (now : ℕ) :
      EntryStep ip none (now, .recordFailure ip)
        (some { attempts := 1, windowStart := now, backoffLevel := 0, lockedUntil := none })
  | fails {entry : RateLimitEntry} {now : ℕ} (h : ¬ entry.Locked now) :
      EntryStep ip (some entry) (now, .recordFailure ip) (some (entry.recordFailure now))
  | succeeds (entry : Option RateLimitEntry) (now : ℕ) :
      EntryStep ip entry (now, .recordSuccess ip) none
  | removed {entry : RateLimitEntry} {now : ℕ} (unlocked : entry.Unlocked now)
      (expired : entry.Expired now) :
      EntryStep ip (some entry) (now, .cleanup) none
  | kept (entry : Option RateLimitEntry) {a : ℕ × RateLimiterOperation IP}
      (hfailure : a.2 ≠ .recordFailure ip) (hsuccess : a.2 ≠ .recordSuccess ip) :
      EntryStep ip entry a entry

omit [DecidableEq IP] in
theorem isAllowed_iff {rl : RateLimiter IP} {now : ℕ} :
  (rl.isAllowed ip now).1 = true ↔ ∀ entry ∈ rl.entries ip, ¬ entry.Locked now
  := by
  rw [RateLimiter.isAllowed]
  cases rl.entries ip with
  | none => simp
  | some entry => by_cases h : entry.Locked now <;> simp [h]

theorem entryStep_of_step (h : lts.step s a t) (ip : IP) :
  EntryStep ip (s.limiter.entries ip) a (t.limiter.entries ip)
  := by
  obtain ⟨now, op⟩ := a
  obtain ⟨-, hstep⟩ := Option.ite_none_right_eq_some.mp h
  cases op with
  | isAllowed other =>
      obtain rfl := Option.some.inj hstep
      exact .kept _ nofun nofun
  | recordFailure other =>
      obtain ⟨hallowed, hnext⟩ := Option.ite_none_right_eq_some.mp hstep
      obtain rfl := Option.some.inj hnext
      by_cases hip : other = ip
      · subst hip
        rw [RateLimiter.recordFailure]
        dsimp only
        rw [Function.update_self]
        rw [isAllowed_iff] at hallowed
        cases hentry : s.limiter.entries other with
        | none => apply EntryStep.begins
        | some entry => exact .fails (hallowed entry hentry)
      · rw [RateLimiter.recordFailure]
        dsimp only
        rw [Function.update_of_ne (Ne.symm hip)]
        apply EntryStep.kept
        · simpa using hip
        · nofun
  | recordSuccess other =>
      obtain rfl := Option.some.inj hstep
      rw [RateLimiter.recordSuccess]
      dsimp only
      by_cases hip : other = ip
      · subst hip
        rw [Function.update_self]
        apply EntryStep.succeeds
      · rw [Function.update_of_ne (Ne.symm hip)]
        apply EntryStep.kept
        · nofun
        · simpa using hip
  | cleanup =>
      obtain rfl := Option.some.inj hstep
      rw [RateLimiter.cleanup]
      dsimp only
      cases s.limiter.entries ip with
      | none => exact .kept _ nofun nofun
      | some entry =>
          by_cases hremoved : entry.Unlocked now ∧ entry.Expired now
          · rw [Option.filter_some, if_neg (by simp [hremoved])]
            exact .removed hremoved.1 hremoved.2
          · rw [Option.filter_some, if_pos (decide_eq_true hremoved)]
            exact .kept _ nofun nofun

theorem now_of_step (h : lts.step s a t) :
  s.now ≤ a.1 ∧ t.now = a.1
  := by
  obtain ⟨now, op⟩ := a
  obtain ⟨hnow, hstep⟩ := Option.ite_none_right_eq_some.mp h
  use hnow
  cases op with
  | recordFailure other =>
      obtain ⟨-, hnext⟩ := Option.ite_none_right_eq_some.mp hstep
      obtain rfl := Option.some.inj hnext
      rfl
  | isAllowed | recordSuccess | cleanup =>
      obtain rfl := Option.some.inj hstep
      rfl

/-- The clock does not go back. -/
theorem time_le_now (run : lts.Run s tr t) :
  s.now ≤ t.now ∧ ∀ e ∈ tr, s.now ≤ e.action.1 ∧ e.action.1 ≤ t.now
  := by
  induction run with
  | nil => simp
  | @snoc tr t u a run step ih =>
      have hclock := now_of_step step
      constructor
      · omega
      · intro e he
        rcases List.mem_append.mp he with he | he
        · have := ih.2 e he
          omega
        · obtain rfl := List.mem_singleton.mp he
          dsimp only
          omega

/-! ### The lock -/

section Lock

variable {entry : RateLimitEntry} {now until_ : ℕ}

theorem expired_iff :
  entry.Expired now ↔ entry.windowStart + entry.windowDuration < now
  := by
  rw [RateLimitEntry.Expired]
  omega

/-- While the window lasts, an entry counts the failures up to the fifth, which locks it. -/
theorem recordFailure_of_not_expired (h : ¬ entry.Expired now) :
  entry.recordFailure now =
    { entry with
      attempts := entry.attempts + 1
      lockedUntil :=
        if maxAttempts ≤ entry.attempts + 1 then some (now + entry.windowDuration)
        else entry.lockedUntil }
  := by
  rw [RateLimitEntry.recordFailure, if_neg h]
  split
  · rfl
  · rfl

/-- A failure that begins a window leaves an entry that is not locked. -/
theorem entry_of_startsWindow (h : lts.step s a t) (starts : StartsWindow ip s a) :
  ∃ level, t.limiter.entries ip = some ⟨1, a.1, level, none⟩
  := by
  obtain ⟨hop, hexpired⟩ := starts
  have hentry := entryStep_of_step h ip
  obtain ⟨now, op⟩ := a
  obtain rfl : op = .recordFailure ip := hop
  generalize s.limiter.entries ip = before at hentry hexpired
  generalize t.limiter.entries ip = after at hentry
  cases hentry with
  | begins => exact ⟨_, rfl⟩
  | fails =>
      rw [RateLimitEntry.recordFailure, if_pos (hexpired _ rfl)]
      exact ⟨_, rfl⟩
  | kept _ hfailure => exact absurd rfl hfailure

theorem failures_append (tr tr' : List (LimiterTransition IP)) :
  failures ip (tr ++ tr') = failures ip tr + failures ip tr'
  := List.countP_append

theorem failures_singleton (e : LimiterTransition IP) :
  failures ip [e] = if e.action.2 = .recordFailure ip then 1 else 0
  := by
  simp [failures, List.countP_singleton]

/-- The failures of a window are counted as long as there are fewer than five. -/
theorem counts_failures (run : lts.Run s tr t) {attempts windowStart level : ℕ}
    (hentry : s.limiter.entries ip = some ⟨attempts, windowStart, level, none⟩)
    (hsuccess : ∀ e ∈ tr, e.action.2 ≠ .recordSuccess ip)
    (hwindow : ∀ e ∈ tr, e.action.1 ≤ windowStart + getWindowDuration level)
    (hfew : attempts + failures ip tr < maxAttempts) :
  t.limiter.entries ip = some ⟨attempts + failures ip tr, windowStart, level, none⟩
  := by
  induction run with
  | nil => apply hentry
  | @snoc tr t u a run step ih =>
      rw [List.forall_mem_append, List.forall_mem_singleton] at hsuccess hwindow
      rw [failures_append] at hfew ⊢
      have before := ih hsuccess.1 hwindow.1 (by omega)
      have hstep := entryStep_of_step step ip
      rw [before] at hstep
      have hlive : ¬ RateLimitEntry.Expired ⟨attempts + failures ip tr, windowStart, level, none⟩
          a.1 := by
        rw [expired_iff]
        exact Nat.not_lt.mpr hwindow.2
      generalize u.limiter.entries ip = after at hstep
      cases hstep with
      | fails =>
          rw [failures_singleton, if_pos rfl] at hfew
          rw [recordFailure_of_not_expired hlive, failures_singleton, if_pos rfl, if_neg]
          · rfl
          · exact Nat.not_le.mpr hfew
      | succeeds => exact absurd rfl hsuccess.2
      | removed _ expired => exact absurd expired hlive
      | kept _ hfailure =>
          rw [failures_singleton, if_neg hfailure, Nat.add_zero]

/-- A lock is kept until its time is over. -/
theorem keeps_lock (run : lts.Run s tr t) {lockedUntil : ℕ}
    (hentry : s.limiter.entries ip = some entry) (hlock : entry.lockedUntil = some lockedUntil)
    (hsuccess : ∀ e ∈ tr, e.action.2 ≠ .recordSuccess ip)
    (hlocked : ∀ e ∈ tr, e.action.1 < lockedUntil) :
  t.limiter.entries ip = some entry
  := by
  induction run with
  | nil => apply hentry
  | @snoc tr t u a run step ih =>
      rw [List.forall_mem_append, List.forall_mem_singleton] at hsuccess hlocked
      have hstep := entryStep_of_step step ip
      rw [ih hsuccess.1 hlocked.1] at hstep
      generalize u.limiter.entries ip = after at hstep
      cases hstep with
      | fails h =>
          rw [RateLimitEntry.Locked, hlock] at h
          exact absurd hlocked.2 h
      | succeeds => exact absurd rfl hsuccess.2
      | removed unlocked =>
          rw [RateLimitEntry.Unlocked, hlock] at unlocked
          exact absurd hlocked.2 (Nat.lt_asymm unlocked)
      | kept => rfl

/-- Every lockout is enforced. -/
theorem enforcesLockout (run : lts.Run new tr s) :
  EnforcesLockout tr s
  := by
  rintro ip earlier first during last later entry now rfl starts hentry hthree hlast hwindow
    hsuccess hnow hlocked
  obtain ⟨s₀, -, run⟩ := Lts.run_append run
  obtain ⟨rfl, hfirst, run⟩ := Lts.run_cons run
  obtain ⟨s₃, hduring, run⟩ := Lts.run_append run
  obtain ⟨rfl, hstep, hlater⟩ := Lts.run_cons run
  obtain ⟨level, hbegun⟩ := entry_of_startsWindow hfirst starts
  obtain rfl := Option.some.inj (hentry.symm.trans hbegun)
  rw [List.forall_mem_append] at hsuccess
  have hlastNow := now_of_step hstep
  have hcounted := counts_failures hduring hentry hsuccess.1
    (fun e he => Nat.le_trans ((time_le_now hduring).2 e he).2 (Nat.le_trans hlastNow.1 hwindow))
    (by rw [hthree]; decide)
  have hfifth := entryStep_of_step hstep ip
  obtain ⟨⟨t, op⟩, hop⟩ : ∃ a, last.action = a := ⟨_, rfl⟩
  rw [hop] at hlast hfifth hwindow hlocked
  obtain rfl : op = .recordFailure ip := hlast
  rw [hcounted, hthree] at hfifth
  have hlock : ∃ entry', last.after.limiter.entries ip = some entry' ∧
      entry'.lockedUntil = some (t + getWindowDuration level) := by
    generalize last.after.limiter.entries ip = after at hfifth
    cases hfifth with
    | fails =>
        rw [recordFailure_of_not_expired (by rw [expired_iff]; exact Nat.not_lt.mpr hwindow)]
        exact ⟨_, rfl, rfl⟩
    | kept _ hfailure => exact absurd rfl hfailure
  obtain ⟨entry', hafter, hlock⟩ := hlock
  have hend := keeps_lock hlater hafter hlock hsuccess.2 fun e he =>
    Nat.lt_of_le_of_lt (Nat.le_trans ((time_le_now hlater).2 e he).2 hnow) hlocked
  rw [← Bool.not_eq_true, isAllowed_iff]
  intro hallowed
  apply hallowed entry' hend
  rw [RateLimitEntry.Locked, hlock]
  apply hlocked

end Lock

/-! ### The number of attempts -/

section Attempts

/-- A window that has not been locked has attempts left, and a lock lasts at least as long as the
window. -/
structure Sound (entry : RateLimitEntry) (now : ℕ) : Prop where
  started : entry.windowStart ≤ now
  unlocked : entry.lockedUntil = none → entry.attempts < maxAttempts
  locked : ∀ lockedUntil ∈ entry.lockedUntil, entry.attempts = maxAttempts ∧
    entry.windowStart + entry.windowDuration ≤ lockedUntil

theorem Sound.begins (now level : ℕ) :
  Sound ⟨1, now, level, none⟩ now where
  started := Nat.le_refl now
  unlocked _ := (by decide : 1 < maxAttempts)
  locked := nofun

variable {entry : RateLimitEntry} {now : ℕ}

/-- A failure keeps an entry sound if it is not one too many at the end of the window. -/
theorem Sound.recordFailure (h : Sound entry now) {later : ℕ} (hlater : now ≤ later)
    (hallowed : ¬ entry.Locked later)
    (hend : ¬ (maxAttempts ≤ entry.attempts ∧
      later = entry.windowStart + entry.windowDuration)) :
  Sound (entry.recordFailure later) later
  := by
  by_cases hexpired : entry.Expired later
  · rw [RateLimitEntry.recordFailure, if_pos hexpired]
    apply Sound.begins
  · rw [recordFailure_of_not_expired hexpired]
    rw [expired_iff] at hexpired
    have hstarted := h.started
    have hfew : entry.attempts < maxAttempts := by
      cases hlock : entry.lockedUntil with
      | none => apply h.unlocked hlock
      | some lockedUntil =>
          -- the lock is over, and so is the window, unless this is its last instant
          obtain ⟨hattempts, hlong⟩ := h.locked lockedUntil hlock
          rw [RateLimitEntry.Locked, hlock] at hallowed
          exact absurd ⟨Nat.le_of_eq hattempts.symm, by omega⟩ hend
    constructor
    · exact Nat.le_trans hstarted hlater
    · dsimp only
      split
      · nofun
      · rename_i hnot
        intro _
        exact Nat.not_le.mp hnot
    · dsimp only
      split
      · rintro _ ⟨⟩
        constructor
        · omega
        · exact Nat.add_le_add_right (Nat.le_trans hstarted hlater) _
      · intro lockedUntil hlock
        obtain ⟨hattempts, -⟩ := h.locked lockedUntil hlock
        omega

/-- All entries stay sound. -/
theorem sound_step (before : ∀ entry ∈ s.limiter.entries ip, Sound entry s.now)
    (step : lts.step s a t) (timely : ¬ FailsAtEnd s a) :
  ∀ entry ∈ t.limiter.entries ip, Sound entry t.now
  := by
  obtain ⟨hle, hnow⟩ := now_of_step step
  have hstep := entryStep_of_step step ip
  obtain ⟨now, op⟩ := a
  have hend : op = .recordFailure ip → ∀ entry ∈ s.limiter.entries ip,
      ¬ (maxAttempts ≤ entry.attempts ∧ now = entry.windowStart + entry.windowDuration) := by
    rintro rfl entry hentry hlast
    exact timely ⟨entry, hentry, hlast⟩
  rw [hnow]
  generalize s.limiter.entries ip = entry at before hstep hend
  generalize t.limiter.entries ip = after at hstep
  cases hstep with
  | begins =>
      rintro _ ⟨⟩
      apply Sound.begins
  | fails hallowed =>
      rintro _ ⟨⟩
      exact (before _ rfl).recordFailure hle hallowed (hend rfl _ rfl)
  | succeeds => nofun
  | removed => nofun
  | kept =>
      intro entry hentry
      have h := before entry hentry
      exact { h with started := Nat.le_trans h.started hle }

/-- No entry has more than five attempts. -/
theorem attempts_le (run : lts.Run new tr s) (timely : ∀ e ∈ tr, ¬ FailsAtEnd e.before e.action)
    (ip : IP) :
  ∀ e ∈ tr, ∀ entry ∈ e.after.limiter.entries ip, entry.attempts ≤ maxAttempts
  := by
  have sound := run.invariant_before
    (I := fun s => ∀ entry ∈ s.limiter.entries ip, Sound entry s.now)
    nofun fun e he before step => sound_step before step (timely e he)
  intro e he entry hentry
  have h := sound_step (sound e he) (run.step_of_mem he) (timely e he) entry hentry
  cases hlock : entry.lockedUntil with
  | none => apply Nat.le_of_lt (h.unlocked hlock)
  | some lockedUntil => apply Nat.le_of_eq (h.locked lockedUntil hlock).1

/-- The entry of a window counts its failures. -/
theorem attempts_eq (run : lts.Run s tr t) {attempts : ℕ}
    (hentry : ∀ entry ∈ s.limiter.entries ip, entry.attempts = attempts)
    (hsame : ∀ e ∈ tr, ¬ StartsWindow ip e.before e.action) :
  ∀ entry ∈ t.limiter.entries ip, entry.attempts = attempts + failures ip tr
  := by
  induction run with
  | nil => apply hentry
  | @snoc tr t u a run step ih =>
      rw [List.forall_mem_append, List.forall_mem_singleton] at hsame
      have before := ih hsame.1
      have hstep := entryStep_of_step step ip
      have hnot := hsame.2
      rw [StartsWindow] at hnot
      dsimp only at hnot
      rw [failures_append, failures_singleton]
      generalize t.limiter.entries ip = entry at before hstep hnot
      generalize u.limiter.entries ip = after at hstep
      cases hstep with
      | begins => exact absurd ⟨rfl, nofun⟩ hnot
      | @fails entry now =>
          rintro _ ⟨⟩
          have hlive : ¬ entry.Expired now := by
            intro hexpired
            apply hnot
            use rfl
            rintro _ ⟨⟩
            apply hexpired
          rw [recordFailure_of_not_expired hlive, if_pos rfl, ← Nat.add_assoc, ← before _ rfl]
      | succeeds => nofun
      | removed => nofun
      | kept _ hfailure =>
          rw [if_neg hfailure]
          apply before

theorem entry_of_recordFailure (h : lts.step s a t) (hop : a.2 = .recordFailure ip) :
  ∃ entry, t.limiter.entries ip = some entry
  := by
  have hstep := entryStep_of_step h ip
  obtain ⟨now, op⟩ := a
  obtain rfl : op = .recordFailure ip := hop
  generalize s.limiter.entries ip = before at hstep
  generalize t.limiter.entries ip = after at hstep
  cases hstep with
  | begins | fails => exact ⟨_, rfl⟩
  | kept _ hfailure => exact absurd rfl hfailure

/-- When no entry has more than five attempts, no window has more than five failures. -/
theorem failures_le (run : lts.Run s tr t) {attempts : ℕ}
    (hentry : ∀ entry ∈ s.limiter.entries ip, entry.attempts = attempts)
    (hsame : ∀ e ∈ tr, ¬ StartsWindow ip e.before e.action)
    (hmost : ∀ e ∈ tr, ∀ entry ∈ e.after.limiter.entries ip, entry.attempts ≤ maxAttempts)
    (hfew : attempts ≤ maxAttempts) :
  attempts + failures ip tr ≤ maxAttempts
  := by
  induction run with
  | nil => apply hfew
  | @snoc tr t u a run step ih =>
      by_cases hop : a.2 = .recordFailure ip
      · obtain ⟨entry, hafter⟩ := entry_of_recordFailure step hop
        rw [← attempts_eq (run.snoc step) hentry hsame entry hafter]
        apply hmost _ (List.mem_append_right _ (List.mem_singleton_self _)) entry hafter
      · rw [failures_append, failures_singleton, if_neg hop]
        rw [List.forall_mem_append] at hsame hmost
        exact ih hsame.1 hmost.1

/-- No window has more than five failures, when none of them is one too many at its end. -/
theorem limitsAttempts (run : lts.Run new tr s)
    (timely : ∀ e ∈ tr, ¬ FailsAtEnd e.before e.action) :
  LimitsAttempts tr
  := by
  rintro ip earlier first during rfl starts hsame
  have hmost := attempts_le run timely ip
  rw [List.forall_mem_append, List.forall_mem_cons] at hmost
  obtain ⟨s₀, -, run⟩ := Lts.run_append run
  obtain ⟨rfl, hfirst, hduring⟩ := Lts.run_cons run
  obtain ⟨level, hbegun⟩ := entry_of_startsWindow hfirst starts
  apply failures_le hduring _ hsame hmost.2.2 (by decide)
  intro entry hentry
  rw [hbegun] at hentry
  obtain rfl := Option.some.inj hentry
  rfl

end Attempts

/-- Lockouts are enforced and windows have five failures at most, when no sixth failure is
recorded at the very end of a window. -/
theorem lockout_enforced (run : lts.Run new tr s)
    (timely : ∀ e ∈ tr, ¬ FailsAtEnd e.before e.action) :
  EnforcesLockout tr s ∧ LimitsAttempts tr
  := by
  constructor
  · apply enforcesLockout run
  · apply limitsAttempts run timely

/-- Five failures in a second. -/
theorem lockout_enforced_five :
  ∃ tr s, lts.Run (new : TimedLimiter Unit) tr s ∧ EnforcesLockout tr s ∧ LimitsAttempts tr
  := by
  obtain ⟨tr, s, run, -, timely, -⟩ :=
    Lts.exists_run_of_restrict step (fun s a => ¬ FailsAtEnd s a) (new : TimedLimiter Unit)
      ((List.range 5).map fun i => (i * 250000000, .recordFailure ())) (fun _ => ())
      (by decide +kernel : _ = some ())
  exact ⟨tr, s, run, lockout_enforced run timely⟩

/-- The window begins with five failures, and the lock that they leave is over at its last
instant. -/
theorem sixth_failure :
  ¬ ∀ (tr : List (LimiterTransition Unit)) (s : TimedLimiter Unit), lts.Run new tr s →
    EnforcesLockout tr s ∧ LimitsAttempts tr
  := by
  intro claim
  let first : LimiterTransition Unit :=
    ⟨new, (1, .recordFailure ()), ⟨RateLimiter.new.recordFailure () 1, 1⟩⟩
  obtain ⟨during, s, run, hactions, hsame, -⟩ :=
    Lts.exists_run_of_restrict step (fun s a => ¬ StartsWindow () s a) first.after
      (List.replicate 4 (1, .recordFailure ()) ++ [(1 + baseWindow, .recordFailure ())])
      (fun _ => ()) (by decide +kernel : _ = some ())
  have hfirst : lts.Run new [first] first.after := Lts.Run.snoc .nil rfl
  have hfive : failures () during = 5 := by
    have hcount : failures () during =
        (during.map Lts.Transition.action).countP fun a => a.2 = .recordFailure () := by
      rw [List.countP_map]
      rfl
    rw [hcount, hactions]
    decide
  have hlimits := (claim _ s (hfirst.append run)).2 () [] first during rfl ⟨rfl, nofun⟩ hsame
  rw [hfive] at hlimits
  exact absurd hlimits (by decide)

end TimedLimiter

end JetKvm.Web
