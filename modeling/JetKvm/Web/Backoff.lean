import JetKvm.Web.Lockout
import Mathlib.Algebra.Ring.Nat
import Mathlib.Data.List.TakeWhile

/-!
# The backoff

The first lockout of an address lasts 15 minutes. Each window that it begins afterwards, whether it
comes to a lockout or not, doubles the duration up to two hours, as long as the entry of the address
is not removed.
-/

namespace JetKvm.Web.TimedLimiter

variable {IP : Type*} [DecidableEq IP] {ip : IP} {s t : TimedLimiter IP}
  {a : ℕ × RateLimiterOperation IP} {tr : List (LimiterTransition IP)}

/-- The operation records a failure of the address that locks it out. -/
def LocksOut (ip : IP) (s : TimedLimiter IP) (a : ℕ × RateLimiterOperation IP) : Prop :=
  a.2 = .recordFailure ip ∧
    ∃ entry ∈ s.limiter.entries ip, ¬ entry.Expired a.1 ∧ maxAttempts ≤ entry.attempts + 1

instance (ip : IP) (s : TimedLimiter IP) (a : ℕ × RateLimiterOperation IP) :
    Decidable (LocksOut ip s a) :=
  inferInstanceAs (Decidable (_ ∧ _))

/-- The entry of an address that has been locked out is removed by a cleanup. -/
def Forgets (ip : IP) (s : TimedLimiter IP) (a : ℕ × RateLimiterOperation IP) : Prop :=
  a.2 = .cleanup ∧ ∃ entry ∈ s.limiter.entries ip,
    (0 < entry.backoffLevel ∨ maxAttempts ≤ entry.attempts) ∧
      (s.limiter.cleanup a.1).entries ip = none

instance (ip : IP) (s : TimedLimiter IP) (a : ℕ × RateLimiterOperation IP) :
    Decidable (Forgets ip s a) :=
  inferInstanceAs (Decidable (_ ∧ _))

/-- The lockouts of the address. -/
def lockouts (ip : IP) (tr : List (LimiterTransition IP)) : ℕ :=
  tr.countP fun e => LocksOut ip e.before e.action

/-- The windows that the address has begun since its first lockout. -/
def windowsSince (ip : IP) (tr : List (LimiterTransition IP)) : ℕ :=
  (tr.dropWhile fun e => ¬ LocksOut ip e.before e.action).countP fun e =>
    StartsWindow ip e.before e.action

/-- After the operation the address is locked out for the given time. -/
def LockedFor (ip : IP) (e : LimiterTransition IP) (duration : ℕ) : Prop :=
  ∃ entry ∈ e.after.limiter.entries ip, entry.lockedUntil = some (e.action.1 + duration)

/-! ### Counting -/

omit [DecidableEq IP] in
theorem not_startsWindow_of_locksOut (h : LocksOut ip s a) :
  ¬ StartsWindow ip s a
  := by
  obtain ⟨-, entry, hentry, hlive, -⟩ := h
  exact fun starts => hlive (starts.2 entry hentry)

theorem lockouts_append (tr : List (LimiterTransition IP)) (e : LimiterTransition IP) :
  lockouts ip (tr ++ [e]) = lockouts ip tr + if LocksOut ip e.before e.action then 1 else 0
  := by
  simp [lockouts, List.countP_append, List.countP_singleton]

theorem dropWhile_of_eq_zero (h : lockouts ip tr = 0) :
  tr.dropWhile (fun e => ¬ LocksOut ip e.before e.action) = []
  := by
  rw [List.dropWhile_eq_nil_iff]
  intro e he
  have hnot := List.countP_eq_zero.mp h e he
  simpa using hnot

/-- Before the first lockout, no window counts. -/
theorem windowsSince_of_eq_zero (h : lockouts ip tr = 0) :
  windowsSince ip tr = 0
  := by
  rw [windowsSince, dropWhile_of_eq_zero h]
  rfl

theorem windowsSince_append_of_eq_zero (h : lockouts ip tr = 0) (e : LimiterTransition IP) :
  windowsSince ip (tr ++ [e]) = 0
  := by
  rw [windowsSince, List.dropWhile_append, dropWhile_of_eq_zero h]
  by_cases hlock : LocksOut ip e.before e.action
  · simp [hlock, not_startsWindow_of_locksOut hlock]
  · simp [hlock]

/-- After the first lockout, each window counts. -/
theorem windowsSince_append_of_pos (h : 0 < lockouts ip tr) (e : LimiterTransition IP) :
  windowsSince ip (tr ++ [e]) =
    windowsSince ip tr + if StartsWindow ip e.before e.action then 1 else 0
  := by
  have hsome : tr.dropWhile (fun e => ¬ LocksOut ip e.before e.action) ≠ [] := by
    rw [Ne, List.dropWhile_eq_nil_iff]
    obtain ⟨e, he, hlock⟩ := List.countP_pos_iff.mp h
    intro hnot
    have := hnot e he
    simp_all
  rw [windowsSince, List.dropWhile_append, if_neg (by simpa using hsome), List.countP_append]
  simp [windowsSince, List.countP_singleton]

/-! ### The level -/

/-- The level of an address counts its windows since the first lockout. -/
structure CountsWindows (ip : IP) (tr : List (LimiterTransition IP)) (s : TimedLimiter IP) :
    Prop where
  before : lockouts ip tr = 0 → ∀ entry ∈ s.limiter.entries ip,
    entry.backoffLevel = 0 ∧ entry.attempts < maxAttempts
  after : 0 < lockouts ip tr → ∃ entry ∈ s.limiter.entries ip,
    entry.backoffLevel = min (windowsSince ip tr) maxBackoffLevel ∧
      (windowsSince ip tr = 0 → maxAttempts ≤ entry.attempts)

/-- When the entry of the address stays as it is, its level goes on to count the windows. -/
theorem CountsWindows.same (h : CountsWindows ip tr s)
    (hentry : t.limiter.entries ip = s.limiter.entries ip) (hop : a.2 ≠ .recordFailure ip) :
  CountsWindows ip (tr ++ [⟨s, a, t⟩]) t
  := by
  have hlock : ¬ LocksOut ip s a := fun hlock => hop hlock.1
  have hstarts : ¬ StartsWindow ip s a := fun starts => hop starts.1
  constructor
  · rw [lockouts_append, if_neg hlock, hentry]
    apply h.before
  · rw [lockouts_append, if_neg hlock, hentry]
    intro hpos
    rw [windowsSince_append_of_pos hpos, if_neg hstarts]
    apply h.after hpos

/-- The first failure that is recorded begins a window of the first level. -/
theorem CountsWindows.begins (h : CountsWindows ip tr s) {now : ℕ}
    (hbefore : s.limiter.entries ip = none)
    (hafter : t.limiter.entries ip = some ⟨1, now, 0, none⟩) :
  CountsWindows ip (tr ++ [⟨s, (now, .recordFailure ip), t⟩]) t
  := by
  have hlock : ¬ LocksOut ip s (now, .recordFailure ip) := by
    rintro ⟨-, entry, hentry, -⟩
    rw [hbefore] at hentry
    cases hentry
  constructor
  · rintro - entry hentry
    rw [hafter] at hentry
    obtain rfl := Option.some.inj hentry
    exact ⟨rfl, (by decide : 1 < maxAttempts)⟩
  · rw [lockouts_append, if_neg hlock]
    intro hpos
    obtain ⟨entry, hentry, -⟩ := h.after hpos
    rw [hbefore] at hentry
    cases hentry

/-- A failure begins a window of the next level after the first lockout, counts, or locks the
address out. -/
theorem CountsWindows.fails (h : CountsWindows ip tr s) {entry : RateLimitEntry} {now : ℕ}
    (hbefore : s.limiter.entries ip = some entry)
    (hafter : t.limiter.entries ip = some (entry.recordFailure now)) :
  CountsWindows ip (tr ++ [⟨s, (now, .recordFailure ip), t⟩]) t
  := by
  by_cases hexpired : entry.Expired now
  · have starts : StartsWindow ip s (now, .recordFailure ip) := by
      use rfl
      intro entry' hentry
      rw [hbefore] at hentry
      obtain rfl := Option.some.inj hentry
      apply hexpired
    have hlock : ¬ LocksOut ip s (now, .recordFailure ip) :=
      fun hlock => not_startsWindow_of_locksOut hlock starts
    rw [RateLimitEntry.recordFailure, if_pos hexpired] at hafter
    constructor
    · rw [lockouts_append, if_neg hlock]
      rintro hzero _ hentry
      obtain ⟨hlevel, hattempts⟩ := h.before hzero entry hbefore
      rw [hafter] at hentry
      obtain rfl := Option.some.inj hentry
      constructor
      · dsimp only
        rw [if_neg (by omega), hlevel]
      · exact (by decide : 1 < maxAttempts)
    · rw [lockouts_append, if_neg hlock]
      intro hpos
      obtain ⟨entry', hentry, hlevel, hfirst⟩ := h.after hpos
      rw [hbefore] at hentry
      obtain rfl := Option.some.inj hentry
      rw [windowsSince_append_of_pos hpos, if_pos starts]
      refine ⟨_, hafter, ?_⟩
      have hlocked : entry.backoffLevel > 0 ∨ entry.attempts ≥ maxAttempts := by
        rw [maxBackoffLevel] at hlevel
        by_cases hn : windowsSince ip tr = 0
        · exact Or.inr (hfirst hn)
        · left
          omega
      constructor
      · dsimp only
        rw [if_pos hlocked, hlevel, maxBackoffLevel]
        split <;> omega
      · intro hzero
        exact absurd hzero (Nat.succ_ne_zero _)
  · have starts : ¬ StartsWindow ip s (now, .recordFailure ip) :=
      fun starts => hexpired (starts.2 entry hbefore)
    rw [recordFailure_of_not_expired hexpired] at hafter
    constructor
    · rw [lockouts_append]
      intro hzero entry' hentry
      have hlock : ¬ LocksOut ip s (now, .recordFailure ip) := by
        intro hlock
        rw [if_pos hlock] at hzero
        cases hzero
      have hfew : ¬ maxAttempts ≤ entry.attempts + 1 :=
        fun hmany => hlock ⟨rfl, entry, hbefore, hexpired, hmany⟩
      rw [if_neg hlock] at hzero
      obtain ⟨hlevel, -⟩ := h.before hzero entry hbefore
      rw [hafter] at hentry
      obtain rfl := Option.some.inj hentry
      exact ⟨hlevel, Nat.not_le.mp hfew⟩
    · intro hpos
      refine ⟨_, hafter, ?_⟩
      by_cases hfirst : lockouts ip tr = 0
      · -- this is the first lockout
        rw [windowsSince_append_of_eq_zero hfirst]
        use (h.before hfirst entry hbefore).1
        rintro -
        rw [lockouts_append, hfirst] at hpos
        have hlock : LocksOut ip s (now, .recordFailure ip) := by
          by_contra hlock
          rw [if_neg hlock] at hpos
          exact absurd hpos (Nat.lt_irrefl 0)
        obtain ⟨-, entry', hentry, -, hmany⟩ := hlock
        rw [hbefore] at hentry
        obtain rfl := Option.some.inj hentry
        apply hmany
      · have hbeen := Nat.pos_of_ne_zero hfirst
        obtain ⟨entry', hentry, hlevel, hattempts⟩ := h.after hbeen
        rw [hbefore] at hentry
        obtain rfl := Option.some.inj hentry
        rw [windowsSince_append_of_pos hbeen, if_neg starts]
        use hlevel
        intro hzero
        exact Nat.le_succ_of_le (hattempts hzero)

/-- A cleanup removes no entry that has a level to forget. -/
theorem CountsWindows.removed (h : CountsWindows ip tr s) {now : ℕ}
    (hafter : t.limiter.entries ip = none)
    (hkept : ¬ Forgets ip s (now, .cleanup))
    (hremoved : (s.limiter.cleanup now).entries ip = none) :
  CountsWindows ip (tr ++ [⟨s, (now, .cleanup), t⟩]) t
  := by
  have hlock : ¬ LocksOut ip s (now, .cleanup) := nofun
  constructor
  · intro _
    rw [hafter]
    nofun
  · rw [lockouts_append, if_neg hlock]
    intro hpos
    obtain ⟨entry, hentry, hlevel, hfirst⟩ := h.after hpos
    apply absurd _ hkept
    have hlocked : 0 < entry.backoffLevel ∨ maxAttempts ≤ entry.attempts := by
      rw [maxBackoffLevel] at hlevel
      by_cases hn : windowsSince ip tr = 0
      · exact Or.inr (hfirst hn)
      · left
        omega
    exact ⟨rfl, entry, hentry, hlocked, hremoved⟩

theorem countsWindows (run : lts.Run new tr s)
    (hsuccess : ∀ e ∈ tr, e.action.2 ≠ .recordSuccess ip)
    (hkept : ∀ e ∈ tr, ¬ Forgets ip e.before e.action) :
  CountsWindows ip tr s
  := by
  induction run with
  | nil =>
      constructor
      · nofun
      · nofun
  | @snoc tr t u a run step ih =>
      rw [List.forall_mem_append, List.forall_mem_singleton] at hsuccess hkept
      have h := ih hsuccess.1 hkept.1
      have hstep := entryStep_of_step step ip
      generalize hbefore : t.limiter.entries ip = before at hstep
      generalize hafter : u.limiter.entries ip = after at hstep
      cases hstep with
      | begins now => exact h.begins hbefore hafter
      | fails => exact h.fails hbefore hafter
      | succeeds => exact absurd rfl hsuccess.2
      | @removed entry now unlocked expired =>
          apply h.removed hafter hkept.2
          simp [RateLimiter.cleanup, hbefore, unlocked, expired]
      | kept _ hfailure =>
          apply h.same _ hfailure
          rw [hafter, hbefore]

/-- The level is the number of windows since the first lockout, and three at most. -/
theorem CountsWindows.level (h : CountsWindows ip tr s) {entry : RateLimitEntry}
    (hentry : s.limiter.entries ip = some entry) :
  entry.backoffLevel = min (windowsSince ip tr) maxBackoffLevel
  := by
  by_cases hfirst : lockouts ip tr = 0
  · rw [windowsSince_of_eq_zero hfirst, Nat.zero_min]
    exact (h.before hfirst entry hentry).1
  · obtain ⟨entry', hentry', hlevel, -⟩ := h.after (Nat.pos_of_ne_zero hfirst)
    rw [hentry] at hentry'
    obtain rfl := Option.some.inj hentry'
    apply hlevel

theorem getWindowDuration_min (n : ℕ) :
  getWindowDuration (min n maxBackoffLevel) = baseWindow * min (2 ^ n) 8
  := by
  have hmin : (2 : ℕ) ^ min n maxBackoffLevel = min (2 ^ n) 8 := by
    rw [maxBackoffLevel]
    rcases Nat.le_total n 3 with h | h
    · have := Nat.pow_le_pow_right (by decide : 0 < 2) h
      rw [Nat.min_eq_left h, Nat.min_eq_left (by omega)]
    · have hpow : (2 : ℕ) ^ 3 = 8 := by decide
      have hle := Nat.pow_le_pow_right (by decide : 0 < 2) h
      rw [hpow] at hle
      rw [Nat.min_eq_right h, hpow, Nat.min_eq_right hle]
  rw [getWindowDuration, if_neg (Nat.not_lt.mpr (Nat.min_le_right _ _)), Nat.one_shiftLeft, hmin]

/-- A lockout lasts 15 minutes, doubled for each window that the address has begun since its first
lockout, and two hours at most. -/
theorem lockout_duration {e : LimiterTransition IP} (run : lts.Run new (tr ++ [e]) s)
    (hsuccess : ∀ e ∈ tr, e.action.2 ≠ .recordSuccess ip)
    (hkept : ∀ e ∈ tr, ¬ Forgets ip e.before e.action)
    (locks : LocksOut ip e.before e.action) :
  LockedFor ip e (baseWindow * min (2 ^ windowsSince ip tr) 8)
  := by
  obtain ⟨t, hrun, hlast⟩ := Lts.run_append run
  obtain ⟨rfl, hstep, -⟩ := Lts.run_cons hlast
  have hcounts := countsWindows hrun hsuccess hkept
  obtain ⟨s, ⟨now, op⟩, t⟩ := e
  obtain ⟨rfl, entry, hentry, hlive, hmany⟩ := locks
  have hentries := entryStep_of_step hstep ip
  dsimp only at hentry hlive hentries hcounts
  rw [LockedFor]
  dsimp only
  rw [← getWindowDuration_min, ← hcounts.level hentry]
  generalize s.limiter.entries ip = before at hentry hentries
  generalize t.limiter.entries ip = after at hentries
  cases hentries with
  | begins => cases hentry
  | fails =>
      obtain rfl := Option.some.inj hentry
      rw [recordFailure_of_not_expired hlive, if_pos hmany]
      exact ⟨_, rfl, rfl⟩
  | kept _ hfailure => exact absurd rfl hfailure

/-! ### Second lockouts -/

/-- The given number of failures at a time. -/
def failuresAt (n now : ℕ) : List (ℕ × RateLimiterOperation Unit) :=
  List.replicate n (now, .recordFailure ())

/-- What is seen of a history that ends with a lockout: whether the address has succeeded or its
level has been forgotten, the lockouts before the last one, and how long that one lasts. -/
def seen (tr : List (LimiterTransition Unit)) : Bool × Bool × ℕ × ℕ × Option ℕ :=
  (decide (∃ e ∈ tr, e.action.2 = .recordSuccess ()),
    decide (∃ e ∈ tr, Forgets () e.before e.action), lockouts () tr.dropLast,
    windowsSince () tr.dropLast,
    tr.getLast?.bind fun e =>
      if LocksOut () e.before e.action then
        (e.after.limiter.entries ()).bind fun entry =>
          entry.lockedUntil.map fun lockedUntil => lockedUntil - e.action.1
      else none)

/-- The lockout at the end of a history that is seen. -/
theorem lockout_of_seen {tr : List (LimiterTransition Unit)} {n m duration : ℕ} {forgets : Bool}
    (h : seen tr = (false, forgets, n, m, some duration)) :
  ∃ front e, tr = front ++ [e] ∧ (∀ e ∈ front, e.action.2 ≠ .recordSuccess ()) ∧
    (forgets = false → ∀ e ∈ front, ¬ Forgets () e.before e.action) ∧
    LocksOut () e.before e.action ∧ lockouts () front = n ∧ windowsSince () front = m ∧
    ∀ other, LockedFor () e other → other = duration
  := by
  simp only [seen, Prod.mk.injEq] at h
  obtain ⟨hsuccess, hforgets, hlockouts, hwindows, hlast⟩ := h
  obtain ⟨e, he, hduration⟩ := Option.bind_eq_some_iff.mp hlast
  obtain ⟨front, rfl⟩ := List.getLast?_eq_some_iff.mp he
  rw [List.dropLast_concat] at hlockouts hwindows
  obtain ⟨locks, hduration⟩ := Option.ite_none_right_eq_some.mp hduration
  obtain ⟨entry, hentry, huntil⟩ := Option.bind_eq_some_iff.mp hduration
  obtain ⟨lockedUntil, hlocked, rfl⟩ := Option.map_eq_some_iff.mp huntil
  refine ⟨front, e, rfl, ?_, ?_, locks, hlockouts, hwindows, ?_⟩
  · intro e he hop
    apply of_decide_eq_false hsuccess
    exact ⟨e, List.mem_append_left _ he, hop⟩
  · rintro rfl e he hforget
    apply of_decide_eq_false hforgets
    exact ⟨e, List.mem_append_left _ he, hforget⟩
  · rintro other ⟨entry', hentry', huntil⟩
    obtain rfl := Option.some.inj (hentry.symm.trans hentry')
    obtain rfl := Option.some.inj (hlocked.symm.trans huntil)
    omega

/-- The second lockout of an address that comes back at once lasts half an hour. -/
theorem lockout_duration_second :
  ∃ (tr : List (LimiterTransition Unit)) (e : LimiterTransition Unit) (s : TimedLimiter Unit),
    lts.Run new (tr ++ [e]) s ∧ LocksOut () e.before e.action ∧ windowsSince () tr = 1 ∧
      LockedFor () e (baseWindow * 2)
  := by
  obtain ⟨tr, s, run, -, hseen⟩ := Lts.exists_run_of_observe_transitions step new
    (failuresAt 5 1 ++ failuresAt 5 (2 + baseWindow)) seen
    (by decide +kernel : _ = some (false, false, 1, 1, some (2 * baseWindow)))
  obtain ⟨front, e, rfl, hsuccess, hkept, locks, -, hwindows, -⟩ := lockout_of_seen hseen
  have hduration := lockout_duration run hsuccess (hkept rfl) locks
  rw [hwindows] at hduration
  exact ⟨front, e, s, run, locks, hwindows, hduration⟩

/-- After its first lockout, an address begins two windows, of which only the second comes to a
lockout. -/
theorem second_lockout_hour :
  ¬ ∀ (tr : List (LimiterTransition Unit)) (e : LimiterTransition Unit) (s : TimedLimiter Unit),
    lts.Run new (tr ++ [e]) s → (∀ e ∈ tr, e.action.2 ≠ .recordSuccess ()) →
    LocksOut () e.before e.action →
    LockedFor () e (baseWindow * min (2 ^ lockouts () tr) 8)
  := by
  intro claim
  obtain ⟨tr, s, run, -, hseen⟩ := Lts.exists_run_of_observe_transitions step new
    (failuresAt 5 1 ++ failuresAt 1 (2 + baseWindow) ++ failuresAt 5 (3 + 3 * baseWindow)) seen
    (by decide +kernel : _ = some (false, false, 1, 2, some (4 * baseWindow)))
  obtain ⟨front, e, rfl, hsuccess, -, locks, hlockouts, -, hduration⟩ := lockout_of_seen hseen
  have hlocked := hduration _ (claim front e s run hsuccess locks)
  rw [hlockouts] at hlocked
  exact absurd hlocked (by decide)

/-- A cleanup after the first lockout makes the second one as short as the first. -/
theorem second_lockout_after_cleanup :
  ∃ (tr : List (LimiterTransition Unit)) (e : LimiterTransition Unit) (s : TimedLimiter Unit),
    lts.Run new (tr ++ [e]) s ∧ (∀ e ∈ tr, e.action.2 ≠ .recordSuccess ()) ∧
      LocksOut () e.before e.action ∧ lockouts () tr = 1 ∧ windowsSince () tr = 1 ∧
      ¬ LockedFor () e (baseWindow * 2)
  := by
  obtain ⟨tr, s, run, -, hseen⟩ := Lts.exists_run_of_observe_transitions step new
    (failuresAt 5 1 ++ [(2 + baseWindow, .cleanup)] ++ failuresAt 5 (3 + baseWindow)) seen
    (by decide +kernel : _ = some (false, true, 1, 1, some baseWindow))
  obtain ⟨front, e, rfl, hsuccess, -, locks, hlockouts, hwindows, hduration⟩ :=
    lockout_of_seen hseen
  refine ⟨front, e, s, run, hsuccess, locks, hlockouts, hwindows, ?_⟩
  intro hlocked
  exact absurd (hduration _ hlocked) (by decide)

end JetKvm.Web.TimedLimiter
