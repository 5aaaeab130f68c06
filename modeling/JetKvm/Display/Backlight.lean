import JetKvm.Library.Transition
import Mathlib.Data.Fintype.Pi
import Mathlib.Data.Int.Notation

/-!
# Brightness of the display

The display is dimmed some time after it was last woken and switched off after some other time, each
by a ticker that is stopped when it has ticked. Two goroutines handle the ticks, and others wake the
display, all of them without a lock, so that their steps may come in any order. A single ticker is
always handled well. With both of them, a display that was switched off is lit again when it is
dimmed afterwards, and one that is dimmed first stays lit when it is woken while it is switched off.
-/

namespace JetKvm.Display

/-- The settings as they are sent. Times are in seconds, and zero means never. An `int` has 32 bits on
the device, so that no `time.Duration` overflows. -/
structure BacklightSettings where
  MaxBrightness : ℤ
  DimAfter : ℤ
  OffAfter : ℤ
deriving DecidableEq, Repr

/-- The settings in the configuration. -/
structure DisplayConfig where
  DisplayMaxBrightness : ℕ
  DisplayDimAfterSec : ℕ
  DisplayOffAfterSec : ℕ
deriving DecidableEq, Repr

/-- What the program thinks of the display. -/
inductive BacklightState where
  | normal
  | dimmed
  | off
deriving DecidableEq, Repr

/-- A ticker with its period, and when it ticks next unless it was stopped. -/
structure Ticker where
  period : ℕ
  next : Option ℕ
deriving DecidableEq, Repr

/-- A ticker that is stopped does not tick. -/
def Ticker.stop (t : Ticker) : Ticker :=
  { t with next := none }

/-- The tick has been received. -/
def Ticker.tick (t : Ticker) : Ticker :=
  { t with next := t.next.map (· + t.period) }

/-- `dimTicker` or `offTicker`. -/
inductive TickerKind where
  | dim
  | off
deriving DecidableEq, Repr

def DisplayConfig.afterSec (config : DisplayConfig) : TickerKind → ℕ
  | .dim => config.DisplayDimAfterSec
  | .off => config.DisplayOffAfterSec

/-- The display, its brightness being that of the hardware. -/
structure Backlight where
  config : DisplayConfig
  brightness : ℕ
  backlightState : BacklightState
  dimTicker : Option Ticker
  offTicker : Option Ticker
  now : ℕ
  /-- When the display was last woken. -/
  wokenAt : ℕ
deriving DecidableEq, Repr

/-- The steps of the goroutines. -/
inductive Instruction where
  /-- Return when the display is awake, unless forced, or when it is never lit. -/
  | checkAsleep (force : Bool)
  | setDisplayBrightness (brightness : ℕ)
  | stop (kind : TickerKind)
  | reset (kind : TickerKind)
  | setBacklightState (state : BacklightState)
deriving DecidableEq, Repr

/-! ### The goroutines -/

section Goroutines

variable (config : DisplayConfig)

/-- What is done on a tick. -/
def tick (brightness : ℕ) (kind : TickerKind) (state : BacklightState) : List Instruction :=
  [.setDisplayBrightness brightness, .stop kind, .setBacklightState state]

/-- The display is dimmed to a half. -/
def tickDisplayDim : List Instruction :=
  tick (config.DisplayMaxBrightness / 2) .dim .dimmed

/-- The display is switched off. -/
def tickDisplayOff : List Instruction :=
  tick 0 .off .off

/-- What is done to wake the display after the first check. -/
def wake : List Instruction :=
  [.setDisplayBrightness config.DisplayMaxBrightness, .reset .dim, .reset .off,
    .setBacklightState .normal]

/-- The display is woken if it is not lit, or if this is forced. -/
def wakeDisplay (force : Bool) : List Instruction :=
  .checkAsleep force :: wake config

end Goroutines

namespace Backlight

def ticker (b : Backlight) : TickerKind → Option Ticker
  | .dim => b.dimTicker
  | .off => b.offTicker

def setTicker (b : Backlight) (ticker : Option Ticker) : TickerKind → Backlight
  | .dim => { b with dimTicker := ticker }
  | .off => { b with offTicker := ticker }

/-- `setDisplayBrightness`, which returns an error and changes nothing when the value is out of
bounds, or when there is no such device or it cannot be written. -/
def setDisplayBrightness (b : Backlight) (brightness : ℕ) (failure : Option String) :
    Backlight × Option String :=
  if brightness > 100 then
    (b, some "brightness value out of bounds, must be between 0 and 100")
  else
    match failure with
    | some message => (b, some message)
    | none => ({ b with brightness := brightness }, none)

/-- The goroutine returns. -/
def returns (b : Backlight) : Instruction → Bool
  | .checkAsleep force =>
      b.backlightState = .normal ∧ force = false ∨ b.config.DisplayMaxBrightness = 0
  | _ => false

/-- A step of a goroutine. An error of `setDisplayBrightness` is only logged. -/
def exec (b : Backlight) (failure : Option String) : Instruction → Backlight
  | .checkAsleep force =>
      if b.returns (.checkAsleep force) then b else { b with wokenAt := b.now }
  | .setDisplayBrightness brightness => (b.setDisplayBrightness brightness failure).1
  | .stop kind => b.setTicker ((b.ticker kind).map Ticker.stop) kind
  | .reset kind =>
      -- a ticker is reset if there is one and the time is not zero
      if b.config.afterSec kind ≠ 0 then
        b.setTicker ((b.ticker kind).map fun _ =>
          ⟨b.config.afterSec kind, some (b.now + b.config.afterSec kind)⟩) kind
      else b
  | .setBacklightState state => { b with backlightState := state }

/-- A goroutine takes its next step. -/
def advance (b : Backlight) (failure : Option String) :
    List Instruction → Option (Backlight × List Instruction)
  | [] => none
  | i :: rest => some (b.exec failure i, if b.returns i then [] else rest)

/-- A goroutine runs alone until it returns. -/
def call (b : Backlight) (failure : Option String) : List Instruction → Backlight
  | [] => b
  | i :: rest => if b.returns i then b else (b.exec failure i).call failure rest

/-- A ticker is stopped, and a new one is started if the time is not zero. -/
def start (b : Backlight) (kind : TickerKind) : Backlight :=
  b.setTicker
    (if b.config.afterSec kind ≠ 0 then
      some ⟨b.config.afterSec kind, some (b.now + b.config.afterSec kind)⟩
    else (b.ticker kind).map Ticker.stop) kind

/-- Both tickers are started anew, unless the display is never lit. -/
def startBacklightTickers (b : Backlight) (failure : Option String) : Backlight :=
  if b.config.DisplayMaxBrightness = 0 then (b.setDisplayBrightness 0 failure).1
  else (b.start .dim).start .off

/-- `rpcSetBacklightSettings`, with the error it returns. `saveConfig` is the error of saving the
configuration, and `failure` that of setting the brightness. -/
def rpcSetBacklightSettings (b : Backlight) (params : BacklightSettings)
    (saveConfig failure : Option String) : Backlight × Option String :=
  if params.MaxBrightness > 255 ∨ params.MaxBrightness < 0 then
    (b, some "maxBrightness must be between 0 and 255")
  else if params.DimAfter < 0 then (b, some "dimAfter must be a positive integer")
  else if params.OffAfter < 0 then (b, some "offAfter must be a positive integer")
  else
    let configured : Backlight :=
      { b with
        config :=
          { DisplayMaxBrightness := params.MaxBrightness.toNat
            DisplayDimAfterSec := params.DimAfter.toNat
            DisplayOffAfterSec := params.OffAfter.toNat } }
    match saveConfig with
    | some message => (configured, some ("failed to save config: " ++ message))
    | none =>
        ((configured.startBacklightTickers failure).call failure
          (wakeDisplay configured.config true), none)

/-- The ticker ticks now. -/
def Ticks (b : Backlight) (kind : TickerKind) : Prop :=
  ∃ t ∈ b.ticker kind, ∃ next ∈ t.next, next ≤ b.now

/-- The ticker does not tick before some time has passed. -/
def Quiet (b : Backlight) (seconds : ℕ) (kind : TickerKind) : Prop :=
  ∀ t ∈ b.ticker kind, ∀ next ∈ t.next, b.now + seconds ≤ next

instance (b : Backlight) (kind : TickerKind) : Decidable (b.Ticks kind) :=
  inferInstanceAs (Decidable (∃ t ∈ b.ticker kind, ∃ next ∈ t.next, next ≤ b.now))

instance (b : Backlight) (seconds : ℕ) (kind : TickerKind) : Decidable (b.Quiet seconds kind) :=
  inferInstanceAs (Decidable (∀ t ∈ b.ticker kind, ∀ next ∈ t.next, b.now + seconds ≤ next))

end Backlight

/-! ### Runs -/

/-- The display and what is left to do of the two goroutines that handle the ticks and of the calls
of `wakeDisplay`. -/
structure Panel where
  backlight : Backlight
  dimming : List Instruction
  switchingOff : List Instruction
  waking : List (List Instruction)
deriving DecidableEq, Repr

/-- What happens to the display. -/
inductive PanelAction where
  | wait (seconds : ℕ)
  /-- A tick is received. -/
  | ticks (kind : TickerKind)
  /-- `wakeDisplay` is called, by a touch or by an update of the display. -/
  | wakeDisplay
  /-- A goroutine takes a step. -/
  | ticking (kind : TickerKind) (failure : Option String)
  | waking (i : ℕ) (failure : Option String)
deriving DecidableEq, Repr

/-- The brightness can be written, if it is. -/
def PanelAction.Writes : PanelAction → Prop
  | .ticking _ failure => failure = none
  | .waking _ failure => failure = none
  | _ => True

namespace Panel

/-- The display after the settings have been changed, when nothing else is being done. -/
def ofBacklight (b : Backlight) : Panel where
  backlight := b
  dimming := []
  switchingOff := []
  waking := []

/-- What is left to do of a goroutine that handles ticks. -/
def ticking (d : Panel) : TickerKind → List Instruction
  | .dim => d.dimming
  | .off => d.switchingOff

def setTicking (d : Panel) (rest : List Instruction) : TickerKind → Panel
  | .dim => { d with dimming := rest }
  | .off => { d with switchingOff := rest }

/-- Nothing is being done. -/
def Idle (d : Panel) : Prop :=
  d.dimming = [] ∧ d.switchingOff = [] ∧ ∀ rest ∈ d.waking, rest = []

instance (d : Panel) : Decidable d.Idle :=
  inferInstanceAs (Decidable (_ ∧ _ ∧ _))

/-- The body of the loop that handles ticks. -/
def body (config : DisplayConfig) : TickerKind → List Instruction
  | .dim => tickDisplayDim config
  | .off => tickDisplayOff

/-- The next state, while the settings stay. Time passes when nothing is being done, and ticks are
received on time. -/
def step (d : Panel) : PanelAction → Option Panel
  | .wait seconds =>
      if d.Idle ∧ d.backlight.Quiet seconds .dim ∧ d.backlight.Quiet seconds .off then
        some { d with backlight := { d.backlight with now := d.backlight.now + seconds } }
      else none
  | .ticks kind =>
      if d.ticking kind = [] ∧ d.backlight.Ticks kind then
        some ({ d with
          backlight :=
            d.backlight.setTicker ((d.backlight.ticker kind).map Ticker.tick) kind }.setTicking
              (body d.backlight.config kind) kind)
      else none
  | .wakeDisplay =>
      some { d with waking := d.waking ++ [Display.wakeDisplay d.backlight.config false] }
  | .ticking kind failure =>
      (d.backlight.advance failure (d.ticking kind)).map fun next =>
        { d with backlight := next.1 }.setTicking next.2 kind
  | .waking i failure =>
      d.waking[i]?.bind fun rest =>
        (d.backlight.advance failure rest).map fun next =>
          { d with backlight := next.1, waking := d.waking.set i next.2 }

/-- The goroutines take their steps in any order. -/
def lts : Lts Panel PanelAction :=
  Lts.ofStep step

end Panel

namespace Backlight

/-- The time after which something happens has come, or has not. -/
def Passed (b : Backlight) (afterSec : ℕ) : Prop :=
  afterSec ≠ 0 ∧ b.wokenAt + afterSec < b.now

/-- The time after which something happens is still to come, or never comes. -/
def Ahead (b : Backlight) (afterSec : ℕ) : Prop :=
  afterSec = 0 ∨ b.now < b.wokenAt + afterSec

/-- The display has the brightness that the settings say, apart from the instants at which it
changes. -/
structure Follows (b : Backlight) : Prop where
  off : b.Passed b.config.DisplayOffAfterSec → b.brightness = 0
  dimmed : b.Passed b.config.DisplayDimAfterSec → b.Ahead b.config.DisplayOffAfterSec →
    b.brightness = b.config.DisplayMaxBrightness / 2
  normal : b.Ahead b.config.DisplayDimAfterSec → b.Ahead b.config.DisplayOffAfterSec →
    b.brightness = b.config.DisplayMaxBrightness

end Backlight

/-! ### One ticker -/

namespace TickerKind

/-- The other ticker. -/
def other : TickerKind → TickerKind
  | .dim => .off
  | .off => .dim

/-- There are two tickers. -/
theorem eq_or_eq_other (kind kind' : TickerKind) :
  kind' = kind ∨ kind' = kind.other
  := by
  cases kind <;> cases kind' <;> decide

/-- The state after a tick. -/
def state : TickerKind → BacklightState
  | .dim => .dimmed
  | .off => .off

/-- The brightness after a tick. -/
def level (config : DisplayConfig) : TickerKind → ℕ
  | .dim => config.DisplayMaxBrightness / 2
  | .off => 0

end TickerKind

variable {b b' : Backlight} {d d' : Panel} {kind : TickerKind} {ticker : Option Ticker}
  {rest : List Instruction} {params : BacklightSettings}

theorem Panel.body_eq (config : DisplayConfig) (kind : TickerKind) :
  Panel.body config kind = tick (kind.level config) kind kind.state
  := by
  cases kind <;> rfl

namespace Backlight

/-- A ticker that is set is there. -/
@[simp]
theorem ticker_setTicker :
  (b.setTicker ticker kind).ticker kind = ticker
  := by
  cases kind <;> rfl

/-- The other one is left. -/
@[simp]
theorem ticker_setTicker_other :
  (b.setTicker ticker kind).ticker kind.other = b.ticker kind.other
  := by
  cases kind <;> rfl

/-- So is this one when the other is set. -/
@[simp]
theorem ticker_other_setTicker :
  (b.setTicker ticker kind.other).ticker kind = b.ticker kind
  := by
  cases kind <;> rfl

/-- Changing a ticker changes nothing else. -/
@[simp]
theorem setTicker_eq :
  (b.setTicker ticker kind).config = b.config ∧
    (b.setTicker ticker kind).brightness = b.brightness ∧
    (b.setTicker ticker kind).backlightState = b.backlightState ∧
    (b.setTicker ticker kind).now = b.now ∧ (b.setTicker ticker kind).wokenAt = b.wokenAt
  := by
  cases kind <;> exact ⟨rfl, rfl, rfl, rfl, rfl⟩

/-- The ticker does not tick. -/
def Stopped (ticker : Option Ticker) : Prop :=
  ∀ t ∈ ticker, t.next = none

/-- The ticker ticks some time after the display was woken, unless the time is zero. -/
structure Set (b : Backlight) (kind : TickerKind) : Prop where
  never : b.config.afterSec kind = 0 → Stopped (b.ticker kind)
  due : b.config.afterSec kind ≠ 0 →
    b.ticker kind = some ⟨b.config.afterSec kind, some (b.wokenAt + b.config.afterSec kind)⟩ ∧
      b.now ≤ b.wokenAt + b.config.afterSec kind

/-- The time after which the ticker ticks has come. -/
structure Come (b : Backlight) (kind : TickerKind) : Prop where
  ticks : b.config.afterSec kind ≠ 0
  le : b.wokenAt + b.config.afterSec kind ≤ b.now

/-- A ticker that is stopped, if there is one, does not tick. -/
theorem stopped_map (ticker : Option Ticker) :
  Stopped (ticker.map Ticker.stop)
  := by
  intro t ht
  obtain ⟨t', -, rfl⟩ := Option.map_eq_some_iff.mp ht
  rfl

/-- What does not tick is not due. -/
theorem not_ticks_of_stopped (h : Stopped (b.ticker kind)) :
  ¬ b.Ticks kind
  := by
  rintro ⟨t, ht, next, hnext, -⟩
  rw [h t ht] at hnext
  cases hnext

/-- What ticks is due. -/
theorem Set.come (h : b.Set kind) (hticks : b.Ticks kind) :
  b.Come kind
  := by
  have hne : b.config.afterSec kind ≠ 0 := by
    intro hzero
    exact not_ticks_of_stopped (h.never hzero) hticks
  obtain ⟨hticker, -⟩ := h.due hne
  obtain ⟨t, ht, next, hnext, hle⟩ := hticks
  rw [hticker] at ht
  obtain rfl := Option.mem_some_iff.mp ht
  obtain rfl := Option.mem_some_iff.mp hnext
  exact ⟨hne, hle⟩

/-- A brightness in range is set. -/
theorem setDisplayBrightness_eq {brightness : ℕ} (h : brightness ≤ 100) :
  (b.setDisplayBrightness brightness none).1 = { b with brightness := brightness }
  := by
  rw [setDisplayBrightness, if_neg (by omega)]

/-- The tickers do not depend on the rest of the display. -/
@[simp]
theorem ticker_mk {config : DisplayConfig} {brightness now wokenAt : ℕ} {state : BacklightState} :
  Backlight.ticker ⟨config, brightness, state, b.dimTicker, b.offTicker, now, wokenAt⟩ kind =
    b.ticker kind
  := by
  cases kind <;> rfl

/-- A ticker that is quiet stays set when some time passes. -/
theorem Set.wait {seconds : ℕ} (h : b.Set kind) (hquiet : b.Quiet seconds kind) :
  Set { b with now := b.now + seconds } kind
  := by
  constructor
  · rw [ticker_mk]
    exact h.never
  · intro hne
    obtain ⟨hticker, -⟩ := h.due hne
    rw [ticker_mk]
    exact ⟨hticker, hquiet _ hticker _ rfl⟩

/-- Neither the brightness nor the state bears on the tickers. -/
theorem Set.mk_of {brightness : ℕ} {state : BacklightState} (h : b.Set kind) :
  Set { b with brightness := brightness, backlightState := state } kind
  := by
  constructor
  · rw [ticker_mk]
    exact h.never
  · rw [ticker_mk]
    exact h.due

/-- A ticker that has been reset. -/
theorem set_reset {ticker : Option Ticker} (hne : b.config.afterSec kind ≠ 0)
    (hticker : ticker ≠ none) (hwoken : b.wokenAt = b.now) :
  (b.setTicker (ticker.map fun _ =>
    ⟨b.config.afterSec kind, some (b.now + b.config.afterSec kind)⟩) kind).Set kind
  := by
  obtain ⟨t, rfl⟩ := Option.ne_none_iff_exists'.mp hticker
  constructor
  · intro hzero
    rw [setTicker_eq.1] at hzero
    exact absurd hzero hne
  · rintro -
    simp only [ticker_setTicker, setTicker_eq, Option.map_some, hwoken]
    exact ⟨trivial, Nat.le_add_right ..⟩

end Backlight

/-! ### Calls of `wakeDisplay` -/

section Calls

variable {config : DisplayConfig} {calls : List (List Instruction)} {i j : Instruction} {n : ℕ}

/-- Each call is at its first check or after it. -/
def Calls (config : DisplayConfig) (calls : List (List Instruction)) : Prop :=
  ∀ rest ∈ calls, rest = wakeDisplay config false ∨ rest <:+ wake config

/-- A call that found the display asleep has yet to take a step. -/
def Pending (config : DisplayConfig) (calls : List (List Instruction)) (i : Instruction) : Prop :=
  ∃ rest ∈ calls, rest <:+ wake config ∧ i ∈ rest

/-- The checks of a call come first, and once. -/
theorem not_wakeDisplay_suffix :
  ¬ wakeDisplay config false <:+ wake config
  := by
  intro h
  exact absurd h.length_le (by simp [wakeDisplay])

/-- A new call has yet to check. -/
theorem Calls.concat (h : Calls config calls) :
  Calls config (calls ++ [wakeDisplay config false])
  := by
  intro rest hrest
  rcases List.mem_append.mp hrest with hrest | hrest
  · exact h rest hrest
  · exact .inl (List.mem_singleton.mp hrest)

/-- A call that has not passed its checks has nothing to do yet. -/
theorem pending_concat :
  Pending config (calls ++ [wakeDisplay config false]) i ↔ Pending config calls i
  := by
  constructor
  · rintro ⟨rest, hrest, hsuffix, hi⟩
    rcases List.mem_append.mp hrest with hrest | hrest
    · exact ⟨rest, hrest, hsuffix, hi⟩
    · obtain rfl := List.mem_singleton.mp hrest
      exact absurd hsuffix not_wakeDisplay_suffix
  · rintro ⟨rest, hrest, hsuffix, hi⟩
    exact ⟨rest, List.mem_append_left _ hrest, hsuffix, hi⟩

/-- A call goes on. -/
theorem Calls.set (h : Calls config calls) (hrest : rest <:+ wake config) :
  Calls config (calls.set n rest)
  := by
  intro rest' hmem
  rcases List.mem_or_eq_of_mem_set hmem with hmem | rfl
  · exact h rest' hmem
  · exact .inr hrest

/-- When a call takes a step, what else it or another call has yet to do is left. -/
theorem Pending.set (h : Pending config calls i) (hcall : calls[n]? = some (j :: rest))
    (hne : i ≠ j) :
  Pending config (calls.set n rest) i
  := by
  obtain ⟨rest', hmem, hsuffix, hi⟩ := h
  obtain ⟨m, hm⟩ := List.mem_iff_getElem?.mp hmem
  have hn : n < calls.length := (List.getElem?_eq_some_iff.mp hcall).1
  by_cases hnm : n = m
  · obtain rfl := hnm
    obtain rfl : j :: rest = rest' := Option.some.inj (hcall.symm.trans hm)
    have hmem' : i ∈ rest := (List.mem_cons.mp hi).resolve_left hne
    exact ⟨rest, List.mem_set hn .., (List.suffix_cons j rest).trans hsuffix, hmem'⟩
  · refine ⟨rest', List.mem_iff_getElem?.mpr ⟨m, ?_⟩, hsuffix, hi⟩
    rw [List.getElem?_set_ne hnm]
    exact hm

/-- A call that takes a step after its check has nothing new to do. -/
theorem Pending.of_set (h : Pending config (calls.set n rest) i)
    (hcall : calls[n]? = some (j :: rest)) (hsuffix : j :: rest <:+ wake config) :
  Pending config calls i
  := by
  obtain ⟨rest', hmem, hsuffix', hi⟩ := h
  rcases List.mem_or_eq_of_mem_set hmem with hmem | rfl
  · exact ⟨rest', hmem, hsuffix', hi⟩
  · exact ⟨j :: rest', List.mem_of_getElem? hcall, hsuffix, List.mem_cons_of_mem j hi⟩

/-- A call that finds the display awake has nothing to do. -/
theorem pending_set_nil (hcall : calls[n]? = some (wakeDisplay config false)) :
  Pending config (calls.set n []) i ↔ Pending config calls i
  := by
  constructor
  · rintro ⟨rest, hmem, hsuffix, hi⟩
    rcases List.mem_or_eq_of_mem_set hmem with hmem | rfl
    · exact ⟨rest, hmem, hsuffix, hi⟩
    · cases hi
  · rintro ⟨rest, hmem, hsuffix, hi⟩
    obtain ⟨m, hm⟩ := List.mem_iff_getElem?.mp hmem
    have hnm : n ≠ m := by
      rintro rfl
      obtain rfl := Option.some.inj (hcall.symm.trans hm)
      exact not_wakeDisplay_suffix hsuffix
    refine ⟨rest, List.mem_iff_getElem?.mpr ⟨m, ?_⟩, hsuffix, hi⟩
    rw [List.getElem?_set_ne hnm]
    exact hm

/-- A call that finds the display asleep has everything to do. -/
theorem pending_set_wake (hcall : calls[n]? = some (wakeDisplay config false))
    (hi : i ∈ wake config) :
  Pending config (calls.set n (wake config)) i
  := by
  have hn : n < calls.length := (List.getElem?_eq_some_iff.mp hcall).1
  exact ⟨wake config, List.mem_set hn .., List.suffix_rfl, hi⟩

/-- When all calls have returned, nothing is pending. -/
theorem not_pending_of_forall (h : ∀ rest ∈ calls, rest = []) :
  ¬ Pending config calls i
  := by
  rintro ⟨rest, hmem, -, hi⟩
  rw [h rest hmem] at hi
  cases hi

/-- What a call does after its check. -/
theorem mem_wake (hi : i ∈ wake config) :
  i = .setDisplayBrightness config.DisplayMaxBrightness ∨ (∃ kind, i = .reset kind) ∨
    i = .setBacklightState .normal
  := by
  rw [wake] at hi
  simp only [List.mem_cons, List.not_mem_nil, or_false] at hi
  rcases hi with rfl | rfl | rfl | rfl
  · exact .inl rfl
  · exact .inr (.inl ⟨.dim, rfl⟩)
  · exact .inr (.inl ⟨.off, rfl⟩)
  · exact .inr (.inr rfl)

/-- A call that wakes the display resets both tickers. -/
theorem reset_mem_wake (kind : TickerKind) :
  Instruction.reset kind ∈ wake config
  := by
  cases kind <;> simp [wake]

end Calls

namespace Backlight

variable {failure : Option String} {i : Instruction}

/-- The brightness is set or everything stays. -/
theorem setDisplayBrightness_cases (b : Backlight) (brightness : ℕ) (failure : Option String) :
  (b.setDisplayBrightness brightness failure).1 = b ∨
    (b.setDisplayBrightness brightness failure).1 = { b with brightness := brightness }
  := by
  rw [setDisplayBrightness.eq_def]
  split
  · exact .inl rfl
  · cases failure
    · exact .inr rfl
    · exact .inl rfl

/-- No instruction changes the settings. -/
theorem exec_config :
  (b.exec failure i).config = b.config
  := by
  cases i with
  | checkAsleep force =>
      rw [exec]
      split <;> rfl
  | setDisplayBrightness brightness =>
      rw [exec]
      rcases b.setDisplayBrightness_cases brightness failure with heq | heq <;> rw [heq]
  | stop kind => simp [exec]
  | reset kind =>
      rw [exec]
      split <;> simp
  | setBacklightState state => rfl

/-- The steps on the tickers are those that stop or reset them. -/
theorem exec_ticker (hstop : ∀ kind, i ≠ .stop kind) (hreset : ∀ kind, i ≠ .reset kind) :
  (b.exec failure i).ticker kind = b.ticker kind
  := by
  cases i with
  | checkAsleep force =>
      rw [exec]
      split <;> cases kind <;> rfl
  | setDisplayBrightness brightness =>
      rw [exec]
      rcases b.setDisplayBrightness_cases brightness failure with heq | heq <;> rw [heq]
      cases kind <;> rfl
  | stop kind => exact absurd rfl (hstop kind)
  | reset kind => exact absurd rfl (hreset kind)
  | setBacklightState state => cases kind <;> rfl

/-- A ticker is neither made nor lost by a step. -/
theorem exec_ticker_ne_none (h : b.ticker kind ≠ none) :
  (b.exec failure i).ticker kind ≠ none
  := by
  cases i with
  | stop kind' =>
      rw [exec]
      rcases kind.eq_or_eq_other kind' with rfl | rfl
      · simpa using h
      · simpa using h
  | reset kind' =>
      rw [exec]
      split
      · rcases kind.eq_or_eq_other kind' with rfl | rfl
        · simpa using h
        · simpa using h
      · exact h
  | _ =>
      rw [exec_ticker (by simp) (by simp)]
      exact h

/-- A ticker whose time is zero stays stopped. -/
theorem exec_stopped (h : Stopped (b.ticker kind)) (hzero : b.config.afterSec kind = 0) :
  Stopped ((b.exec failure i).ticker kind)
  := by
  cases i with
  | stop kind' =>
      rw [exec]
      rcases kind.eq_or_eq_other kind' with rfl | rfl
      · rw [ticker_setTicker]
        exact stopped_map _
      · rw [ticker_other_setTicker]
        exact h
  | reset kind' =>
      rw [exec]
      split
      case isTrue hne =>
        rcases kind.eq_or_eq_other kind' with rfl | rfl
        · exact absurd hzero hne
        · rw [ticker_other_setTicker]
          exact h
      case isFalse => exact h
  | _ =>
      rw [exec_ticker (by simp) (by simp)]
      exact h

end Backlight

namespace Panel

open Backlight

variable {a : PanelAction} {failure : Option String} {n : ℕ}

/-- The goroutine of a ticker goes on. -/
@[simp]
theorem ticking_setTicking :
  (d.setTicking rest kind).ticking kind = rest
  := by
  cases kind <;> rfl

/-- The goroutine of the other ticker is left. -/
@[simp]
theorem ticking_setTicking_other :
  (d.setTicking rest kind).ticking kind.other = d.ticking kind.other
  := by
  cases kind <;> rfl

/-- A step of one goroutine changes nothing of the others. -/
@[simp]
theorem setTicking_eq :
  (d.setTicking rest kind).backlight = d.backlight ∧ (d.setTicking rest kind).waking = d.waking
  := by
  cases kind <;> exact ⟨rfl, rfl⟩

/-- Nothing is being done when no goroutine has anything left to do. -/
theorem idle_iff :
  d.Idle ↔ (∀ kind, d.ticking kind = []) ∧ ∀ rest ∈ d.waking, rest = []
  := by
  constructor
  · rintro ⟨hdim, hoff, hwaking⟩
    refine ⟨?_, hwaking⟩
    intro kind
    cases kind
    · exact hdim
    · exact hoff
  · rintro ⟨hticking, hwaking⟩
    exact ⟨hticking .dim, hticking .off, hwaking⟩

/-- Time passes while nothing is being done, up to the next tick. -/
theorem step_wait {seconds : ℕ} (h : d.step (.wait seconds) = some d') :
  d.Idle ∧ (∀ kind, d.backlight.Quiet seconds kind) ∧
    d' = { d with backlight := { d.backlight with now := d.backlight.now + seconds } }
  := by
  rw [step, Option.ite_none_right_eq_some] at h
  obtain ⟨⟨hidle, hdim, hoff⟩, hd'⟩ := h
  refine ⟨hidle, ?_, (Option.some.inj hd').symm⟩
  intro kind
  cases kind
  · exact hdim
  · exact hoff

/-- A tick that is due begins to be handled. -/
theorem step_ticks (h : d.step (.ticks kind) = some d') :
  d.ticking kind = [] ∧ d.backlight.Ticks kind ∧
    d' = { d with
      backlight :=
        d.backlight.setTicker ((d.backlight.ticker kind).map Ticker.tick) kind }.setTicking
          (body d.backlight.config kind) kind
  := by
  rw [step, Option.ite_none_right_eq_some] at h
  obtain ⟨⟨hticking, hticks⟩, hd'⟩ := h
  exact ⟨hticking, hticks, (Option.some.inj hd').symm⟩

/-- The goroutine of a ticker executes its next instruction. -/
theorem step_ticking (h : d.step (.ticking kind failure) = some d') :
  ∃ i rest, d.ticking kind = i :: rest ∧
    d' = { d with backlight := d.backlight.exec failure i }.setTicking
      (if d.backlight.returns i then [] else rest) kind
  := by
  rw [step] at h
  cases hticking : d.ticking kind with
  | nil =>
      rw [hticking] at h
      cases h
  | cons i rest =>
      rw [hticking] at h
      exact ⟨i, rest, rfl, (Option.some.inj h).symm⟩

/-- So does a call. -/
theorem step_waking (h : d.step (.waking n failure) = some d') :
  ∃ i rest, d.waking[n]? = some (i :: rest) ∧
    d' = { d with
      backlight := d.backlight.exec failure i
      waking := d.waking.set n (if d.backlight.returns i then [] else rest) }
  := by
  rw [step] at h
  cases hcall : d.waking[n]? with
  | none =>
      rw [hcall] at h
      cases h
  | some call =>
      rw [hcall] at h
      cases call with
      | nil => cases h
      | cons i rest => exact ⟨i, rest, rfl, (Option.some.inj h).symm⟩

/-- The ticker is the only one, and the display is lit at a brightness that can be set. -/
structure Alone (d : Panel) (kind : TickerKind) : Prop where
  lit : d.backlight.config.DisplayMaxBrightness ≠ 0
  bounded : d.backlight.config.DisplayMaxBrightness ≤ 100
  never : d.backlight.config.afterSec kind.other = 0
  stopped : Stopped (d.backlight.ticker kind.other)
  quiet : d.ticking kind.other = []
  equipped : d.backlight.config.afterSec kind ≠ 0 → d.backlight.ticker kind ≠ none
  calls : Calls d.backlight.config d.waking

/-- Only the ticker that there is ticks. -/
theorem Alone.eq_of_ticks {kind' : TickerKind} (h : d.Alone kind)
    (hticks : d.backlight.Ticks kind') :
  kind' = kind
  := by
  rcases kind.eq_or_eq_other kind' with rfl | rfl
  · rfl
  · exact absurd hticks (not_ticks_of_stopped h.stopped)

/-- Only this ticker ticks. -/
theorem Alone.eq_of_ticking {kind' : TickerKind} {i : Instruction} (h : d.Alone kind)
    (hticking : d.ticking kind' = i :: rest) :
  kind' = kind
  := by
  rcases kind.eq_or_eq_other kind' with rfl | rfl
  · rfl
  · rw [h.quiet] at hticking
    cases hticking

/-- What else does not change when a goroutine takes a step. -/
theorem Alone.exec {i : Instruction} (h : d.Alone kind)
    (hbacklight : d'.backlight = d.backlight.exec failure i)
    (hquiet : d'.ticking kind.other = d.ticking kind.other)
    (hcalls : Calls d.backlight.config d'.waking) :
  d'.Alone kind
  := by
  have hconfig : d'.backlight.config = d.backlight.config := by rw [hbacklight, exec_config]
  constructor
  · rw [hconfig]
    exact h.lit
  · rw [hconfig]
    exact h.bounded
  · rw [hconfig]
    exact h.never
  · rw [hbacklight]
    exact exec_stopped h.stopped h.never
  · rw [hquiet]
    exact h.quiet
  · rw [hconfig, hbacklight]
    intro hne
    exact exec_ticker_ne_none (h.equipped hne)
  · rw [hconfig]
    exact hcalls

/-- A call that takes a step goes on after its check, or has returned. -/
theorem Alone.calls_set {i : Instruction} (h : d.Alone kind)
    (hcall : d.waking[n]? = some (i :: rest)) :
  Calls d.backlight.config
    (d.waking.set n (if d.backlight.returns i then [] else rest))
  := by
  apply h.calls.set
  split
  · exact List.nil_suffix
  · rcases h.calls _ (List.mem_of_getElem? hcall) with heq | hsuffix
    · obtain ⟨-, rfl⟩ := List.cons_eq_cons.mp heq
      exact List.suffix_rfl
    · exact (List.suffix_cons i rest).trans hsuffix

/-- It stays the only one. -/
theorem Alone.step (h : d.Alone kind) (hstep : d.step a = some d') :
  d'.Alone kind
  := by
  cases a with
  | wait seconds =>
      obtain ⟨-, -, rfl⟩ := step_wait hstep
      refine ⟨h.lit, h.bounded, h.never, ?_, ?_, ?_, h.calls⟩
      · rw [ticker_mk]
        exact h.stopped
      · cases kind <;> exact h.quiet
      · rw [ticker_mk]
        exact h.equipped
  | ticks kind' =>
      obtain ⟨-, hticks, rfl⟩ := step_ticks hstep
      obtain rfl := h.eq_of_ticks hticks
      refine ⟨?_, ?_, ?_, ?_, ?_, ?_, ?_⟩
      · simpa using h.lit
      · simpa using h.bounded
      · simpa using h.never
      · simpa using h.stopped
      · rw [ticking_setTicking_other]
        cases kind' <;> exact h.quiet
      · simpa using h.equipped
      · simpa using h.calls
  | wakeDisplay =>
      obtain rfl := Option.some.inj hstep
      refine ⟨h.lit, h.bounded, h.never, h.stopped, ?_, h.equipped, h.calls.concat⟩
      cases kind <;> exact h.quiet
  | ticking kind' failure =>
      obtain ⟨i, rest, hticking, rfl⟩ := step_ticking hstep
      obtain rfl := h.eq_of_ticking hticking
      apply h.exec
      · exact setTicking_eq.1
      · rw [ticking_setTicking_other]
        cases kind' <;> rfl
      · simpa using h.calls
  | waking n failure =>
      obtain ⟨i, rest, hcall, rfl⟩ := step_waking hstep
      apply h.exec rfl
      · cases kind <;> rfl
      · exact h.calls_set hcall

/-! ### Phases -/

/-- The display is awake, or calls that found it asleep have yet to make it so. -/
structure Woken (d : Panel) (kind : TickerKind) : Prop where
  ticking : d.ticking kind = []
  brightness : d.backlight.brightness = d.backlight.config.DisplayMaxBrightness ∨
    Pending d.backlight.config d.waking
      (.setDisplayBrightness d.backlight.config.DisplayMaxBrightness)
  ticker : d.backlight.Set kind ∨
    Stopped (d.backlight.ticker kind) ∧ Pending d.backlight.config d.waking (.reset kind)
  state : d.backlight.backlightState = .normal ∨
    Pending d.backlight.config d.waking (.setBacklightState .normal)
  pending : ∀ i, Pending d.backlight.config d.waking i →
    d.backlight.wokenAt = d.backlight.now

/-- A tick is being handled. -/
structure Ticked (d : Panel) (kind : TickerKind) : Prop where
  come : d.backlight.Come kind
  state : d.backlight.backlightState = .normal
  pending : ∀ i, ¬ Pending d.backlight.config d.waking i
  ticking : d.ticking kind ≠ []
  suffix : d.ticking kind <:+ body d.backlight.config kind
  brightness : d.ticking kind = body d.backlight.config kind ∨
    d.backlight.brightness = kind.level d.backlight.config
  ticker : .stop kind ∈ d.ticking kind ∨ Stopped (d.backlight.ticker kind)

/-- A tick has been handled. -/
structure Asleep (d : Panel) (kind : TickerKind) : Prop where
  come : d.backlight.Come kind
  state : d.backlight.backlightState = kind.state
  pending : ∀ i, ¬ Pending d.backlight.config d.waking i
  ticking : d.ticking kind = []
  brightness : d.backlight.brightness = kind.level d.backlight.config
  ticker : Stopped (d.backlight.ticker kind)

/-- The display is in one of the phases. -/
def Phase (d : Panel) (kind : TickerKind) : Prop :=
  d.Woken kind ∨ d.Ticked kind ∨ d.Asleep kind

variable {j : Instruction}

/-- The goroutines of the tickers do not depend on the display and the calls. -/
@[simp]
theorem ticking_mk {backlight : Backlight} {waking : List (List Instruction)} :
  Panel.ticking ⟨backlight, d.dimming, d.switchingOff, waking⟩ kind = d.ticking kind
  := by
  cases kind <;> rfl

/-- Time passes while nothing is being done. -/
theorem Phase.wait {seconds : ℕ} (h : d.Phase kind) (hidle : d.Idle)
    (hquiet : d.backlight.Quiet seconds kind) :
  Phase { d with backlight := { d.backlight with now := d.backlight.now + seconds } } kind
  := by
  obtain ⟨hticking, hwaking⟩ := idle_iff.mp hidle
  have hnone : ∀ i, ¬ Pending d.backlight.config d.waking i :=
    fun i => not_pending_of_forall hwaking
  rcases h with h | h | h
  · left
    refine ⟨?_, .inl (h.brightness.resolve_right (hnone _)), .inl ?_,
      .inl (h.state.resolve_right (hnone _)), fun i hpending => absurd hpending (hnone i)⟩
    · rw [ticking_mk]
      exact h.ticking
    · exact (h.ticker.resolve_right fun hreset => hnone _ hreset.2).wait hquiet
  · exact absurd (hticking kind) h.ticking
  · right
    right
    refine ⟨⟨h.come.ticks, Nat.le_add_right_of_le h.come.le⟩, h.state, hnone, ?_, h.brightness, ?_⟩
    · rw [ticking_mk]
      exact h.ticking
    · rw [ticker_mk]
      exact h.ticker

/-- A tick finds the display awake. -/
theorem Phase.ticks (h : d.Phase kind) (hticking : d.ticking kind = [])
    (hticks : d.backlight.Ticks kind) :
  Phase ({ d with
    backlight :=
      d.backlight.setTicker ((d.backlight.ticker kind).map Ticker.tick) kind }.setTicking
        (body d.backlight.config kind) kind) kind
  := by
  rcases h with h | h | h
  · obtain hset : d.backlight.Set kind :=
      h.ticker.resolve_right fun hreset => not_ticks_of_stopped hreset.1 hticks
    have hcome := hset.come hticks
    have hnone : ∀ i, ¬ Pending d.backlight.config d.waking i := by
      intro i hpending
      have hwoken := h.pending i hpending
      have hticks := hcome.ticks
      have hle := hcome.le
      omega
    right
    left
    refine ⟨⟨?_, ?_⟩, ?_, ?_, ?_, ?_, ?_, ?_⟩
    · simpa using hcome.ticks
    · simpa using hcome.le
    · simpa using h.state.resolve_right (hnone _)
    · simpa using hnone
    · rw [ticking_setTicking, body_eq]
      simp [tick]
    · simp
    · simp
    · rw [ticking_setTicking, body_eq]
      simp [tick]
  · exact absurd hticking h.ticking
  · exact absurd hticks (not_ticks_of_stopped h.ticker)

/-- Calls bear on the phase only through what they have yet to do. -/
theorem Phase.of_pending_iff {waking : List (List Instruction)} (h : d.Phase kind)
    (hiff : ∀ i, Pending d.backlight.config waking i ↔ Pending d.backlight.config d.waking i) :
  Phase { d with waking := waking } kind
  := by
  rcases h with h | h | h
  · left
    refine ⟨?_, ?_, ?_, ?_, ?_⟩
    · simpa using h.ticking
    · simpa only [hiff] using h.brightness
    · simpa only [hiff] using h.ticker
    · simpa only [hiff] using h.state
    · simpa only [hiff] using h.pending
  · right
    left
    refine ⟨h.come, h.state, ?_, ?_, ?_, ?_, ?_⟩
    · simpa only [hiff] using h.pending
    · simpa using h.ticking
    · simpa using h.suffix
    · simpa using h.brightness
    · simpa using h.ticker
  · right
    right
    refine ⟨h.come, h.state, ?_, ?_, h.brightness, h.ticker⟩
    · simpa only [hiff] using h.pending
    · simpa using h.ticking

/-- The brightness after a tick is in range. -/
theorem level_le (h : d.Alone kind) :
  kind.level d.backlight.config ≤ 100
  := by
  have hmax := h.bounded
  cases kind
  · rw [TickerKind.level]
    omega
  · exact Nat.zero_le _

/-- What is left to do on a tick. -/
theorem suffix_tick {brightness : ℕ} {state : BacklightState} {l : List Instruction}
    (h : l <:+ tick brightness kind state) (hne : l ≠ []) :
  l = tick brightness kind state ∨ l = [.stop kind, .setBacklightState state] ∨
    l = [.setBacklightState state]
  := by
  simpa [tick, List.suffix_cons_iff, hne] using h

/-- An instruction of the ticker goes on with its phase. -/
theorem Phase.ticking {i : Instruction} (h : d.Phase kind) (halone : d.Alone kind)
    (hticking : d.ticking kind = i :: rest) :
  Phase ({ d with backlight := d.backlight.exec none i }.setTicking
    (if d.backlight.returns i then [] else rest) kind) kind
  := by
  obtain h | h | h := h
  · rw [h.ticking] at hticking
    cases hticking
  · have hsuffix := h.suffix
    rw [body_eq] at hsuffix
    rcases suffix_tick hsuffix h.ticking with hleft | hleft | hleft
    · obtain ⟨rfl, rfl⟩ := List.cons_eq_cons.mp (hticking.symm.trans hleft)
      right
      left
      rw [Backlight.exec, setDisplayBrightness_eq (level_le halone)]
      refine ⟨?_, ?_, ?_, ?_, ?_, ?_, ?_⟩
      · simpa using ⟨h.come.ticks, h.come.le⟩
      · simpa using h.state
      · simpa using h.pending
      · simp [returns]
      · simp [returns, body_eq, tick]
      · simp
      · simp [returns]
    · obtain ⟨rfl, rfl⟩ := List.cons_eq_cons.mp (hticking.symm.trans hleft)
      have hlevel := h.brightness.resolve_left (by rw [hleft, body_eq]; simp [tick])
      right
      left
      rw [Backlight.exec]
      refine ⟨⟨?_, ?_⟩, ?_, ?_, ?_, ?_, ?_, ?_⟩
      · simpa using h.come.ticks
      · simpa using h.come.le
      · simpa using h.state
      · simpa using h.pending
      · simp [returns]
      · simp [returns, body_eq, tick, List.suffix_cons_iff]
      · simpa using .inr hlevel
      · right
        simpa using stopped_map _
    · obtain ⟨rfl, rfl⟩ := List.cons_eq_cons.mp (hticking.symm.trans hleft)
      have hlevel := h.brightness.resolve_left (by rw [hleft, body_eq]; simp [tick])
      have hstopped := h.ticker.resolve_left (by rw [hleft]; simp)
      right
      right
      rw [Backlight.exec]
      refine ⟨⟨?_, ?_⟩, ?_, ?_, ?_, ?_, ?_⟩
      · simpa using h.come.ticks
      · simpa using h.come.le
      · simp
      · simpa using h.pending
      · simp
      · simpa using hlevel
      · simpa using hstopped
  · rw [h.ticking] at hticking
    cases hticking

/-- A check that finds the display awake. -/
theorem returns_check (failure : Option String) (h : b.backlightState = .normal) :
  b.returns (.checkAsleep false) = true ∧ b.exec failure (.checkAsleep false) = b
  := by
  have hreturns : b.returns (.checkAsleep false) = true := by simp [returns, h]
  rw [exec, if_pos hreturns]
  exact ⟨hreturns, rfl⟩

/-- A check that does not. -/
theorem goes_on_check (failure : Option String) (h : b.backlightState ≠ .normal)
    (hlit : b.config.DisplayMaxBrightness ≠ 0) :
  b.returns (.checkAsleep false) = false ∧
    b.exec failure (.checkAsleep false) = { b with wokenAt := b.now }
  := by
  have hreturns : b.returns (.checkAsleep false) = false := by simp [returns, h, hlit]
  rw [exec, if_neg (by simp [hreturns])]
  exact ⟨hreturns, rfl⟩

/-- A call takes a step after its check. -/
theorem Woken.exec (h : d.Woken kind) (halone : d.Alone kind) {i : Instruction}
    (hcall : d.waking[n]? = some (i :: rest)) (hsuffix : i :: rest <:+ wake d.backlight.config) :
  Woken { d with backlight := d.backlight.exec none i, waking := d.waking.set n rest } kind
  := by
  have hwoken := h.pending i ⟨_, List.mem_of_getElem? hcall, hsuffix, List.mem_cons_self⟩
  rcases mem_wake (hsuffix.subset List.mem_cons_self) with rfl | ⟨kind', rfl⟩ | rfl
  · rw [Backlight.exec, setDisplayBrightness_eq halone.bounded]
    refine ⟨?_, .inl rfl, ?_, ?_, ?_⟩
    · rw [ticking_mk]
      exact h.ticking
    · rcases h.ticker with hset | ⟨hstopped, hpending⟩
      · exact .inl hset.mk_of
      · rw [ticker_mk]
        exact .inr ⟨hstopped, hpending.set hcall (by simp)⟩
    · exact h.state.imp_right fun hpending => hpending.set hcall (by simp)
    · exact fun i hpending => h.pending i (hpending.of_set hcall hsuffix)
  · by_cases hzero : d.backlight.config.afterSec kind' = 0
    · rw [Backlight.exec, if_neg (by simp [hzero])]
      refine ⟨?_, ?_, ?_, ?_, ?_⟩
      · rw [ticking_mk]
        exact h.ticking
      · exact h.brightness.imp_right fun hpending => hpending.set hcall (by simp)
      · rcases h.ticker with hset | ⟨hstopped, hpending⟩
        · exact .inl hset
        · rcases kind.eq_or_eq_other kind' with rfl | rfl
          · exact .inl ⟨fun _ => hstopped, fun hne => absurd hzero hne⟩
          · refine .inr ⟨hstopped, hpending.set hcall ?_⟩
            cases kind <;> simp [TickerKind.other]
      · exact h.state.imp_right fun hpending => hpending.set hcall (by simp)
      · exact fun i hpending => h.pending i (hpending.of_set hcall hsuffix)
    · rcases kind.eq_or_eq_other kind' with rfl | rfl
      · rw [Backlight.exec, if_pos hzero]
        refine ⟨?_, ?_, .inl (set_reset hzero (halone.equipped hzero) hwoken), ?_, ?_⟩
        · rw [ticking_mk]
          exact h.ticking
        · simpa using h.brightness.imp_right fun hpending => hpending.set hcall (by simp)
        · simpa using h.state.imp_right fun hpending => hpending.set hcall (by simp)
        · intro i hpending
          simp only [setTicker_eq] at hpending ⊢
          exact h.pending i (hpending.of_set hcall hsuffix)
      · exact absurd halone.never hzero
  · rw [Backlight.exec]
    refine ⟨?_, ?_, ?_, .inl rfl, ?_⟩
    · rw [ticking_mk]
      exact h.ticking
    · exact h.brightness.imp_right fun hpending => hpending.set hcall (by simp)
    · rcases h.ticker with hset | ⟨hstopped, hpending⟩
      · exact .inl hset.mk_of
      · rw [ticker_mk]
        exact .inr ⟨hstopped, hpending.set hcall (by simp)⟩
    · exact fun i hpending => h.pending i (hpending.of_set hcall hsuffix)

/-- A call that finds the display asleep has everything to do, as others may have. -/
theorem woken_of_check (hticking : d.ticking kind = [])
    (hticker : d.backlight.Set kind ∧ d.backlight.wokenAt = d.backlight.now ∨
      Stopped (d.backlight.ticker kind))
    (hcall : d.waking[n]? = some (Display.wakeDisplay d.backlight.config false)) :
  Woken { d with
    backlight := { d.backlight with wokenAt := d.backlight.now }
    waking := d.waking.set n (wake d.backlight.config) } kind
  := by
  have hpending : ∀ i ∈ wake d.backlight.config,
      Pending d.backlight.config (d.waking.set n (wake d.backlight.config)) i :=
    fun i hi => pending_set_wake hcall hi
  refine ⟨?_, .inr (hpending _ (by simp [wake])), ?_, .inr (hpending _ (by simp [wake])),
    fun i _ => rfl⟩
  · rw [ticking_mk]
    exact hticking
  · rcases hticker with ⟨hset, hwoken⟩ | hstopped
    · left
      rw [← hwoken]
      exact hset
    · right
      rw [ticker_mk]
      exact ⟨hstopped, hpending _ (reset_mem_wake kind)⟩

/-- So does one of a call. -/
theorem Phase.waking {i : Instruction} (h : d.Phase kind) (halone : d.Alone kind)
    (hcall : d.waking[n]? = some (i :: rest)) :
  Phase { d with
    backlight := d.backlight.exec none i
    waking := d.waking.set n (if d.backlight.returns i then [] else rest) } kind
  := by
  rcases halone.calls _ (List.mem_of_getElem? hcall) with heq | hsuffix
  · obtain ⟨rfl, rfl⟩ := List.cons_eq_cons.mp heq
    by_cases hnormal : d.backlight.backlightState = .normal
    · obtain ⟨hreturns, hexec⟩ := returns_check none hnormal
      rw [hreturns, hexec, if_pos rfl]
      exact h.of_pending_iff fun i => pending_set_nil hcall
    · obtain ⟨hgoes, hexec⟩ := goes_on_check none hnormal halone.lit
      rw [hgoes, hexec, if_neg Bool.false_ne_true]
      left
      rcases h with h | h | h
      · have hwoken := h.pending _ (h.state.resolve_left hnormal)
        exact woken_of_check h.ticking
          (h.ticker.imp (fun hset => ⟨hset, hwoken⟩) And.left) hcall
      · exact absurd h.state hnormal
      · exact woken_of_check h.ticking (.inr h.ticker) hcall
  · have hpending : Pending d.backlight.config d.waking i :=
      ⟨_, List.mem_of_getElem? hcall, hsuffix, List.mem_cons_self⟩
    have hgoes : d.backlight.returns i = false := by
      rcases mem_wake (hsuffix.subset List.mem_cons_self) with rfl | ⟨kind', rfl⟩ | rfl <;> rfl
    rw [hgoes, if_neg Bool.false_ne_true]
    rcases h with h | h | h
    · exact .inl (h.exec halone hcall hsuffix)
    · exact absurd hpending (h.pending i)
    · exact absurd hpending (h.pending i)

/-- Every step keeps to the phases. -/
theorem Phase.step (h : d.Phase kind) (halone : d.Alone kind) (hstep : d.step a = some d')
    (hwrites : a.Writes) :
  d'.Phase kind
  := by
  cases a with
  | wait seconds =>
      obtain ⟨hidle, hquiet, rfl⟩ := step_wait hstep
      exact h.wait hidle (hquiet kind)
  | ticks kind' =>
      obtain ⟨hticking, hticks, rfl⟩ := step_ticks hstep
      obtain rfl := halone.eq_of_ticks hticks
      exact h.ticks hticking hticks
  | wakeDisplay =>
      obtain rfl := Option.some.inj hstep
      exact h.of_pending_iff fun i => pending_concat
  | ticking kind' failure =>
      obtain ⟨i, rest, hticking, rfl⟩ := step_ticking hstep
      obtain rfl := halone.eq_of_ticking hticking
      obtain rfl : failure = none := hwrites
      exact h.ticking halone hticking
  | waking n failure =>
      obtain ⟨i, rest, hcall, rfl⟩ := step_waking hstep
      obtain rfl : failure = none := hwrites
      exact h.waking halone hcall

variable {tr : List (Lts.Transition Panel PanelAction)}

/-- So does every run. -/
theorem Phase.run (h : d.Phase kind) (halone : d.Alone kind) (run : lts.Run d tr d')
    (hwrites : ∀ e ∈ tr, e.action.Writes) :
  d'.Phase kind ∧ d'.Alone kind
  := by
  apply run.invariant (I := fun d => d.Phase kind ∧ d.Alone kind) ⟨h, halone⟩
  rintro e he ⟨hphase, hsingle⟩ hstep
  exact ⟨hphase.step hsingle hstep (hwrites e he), hsingle.step hstep⟩

/-- In each phase the display follows the settings when nothing is being done. -/
theorem Phase.follows (h : d.Phase kind) (halone : d.Alone kind) (hidle : d.Idle) :
  d.backlight.Follows
  := by
  obtain ⟨hticking, hwaking⟩ := idle_iff.mp hidle
  have hnone : ∀ i, ¬ Pending d.backlight.config d.waking i :=
    fun i => not_pending_of_forall hwaking
  have hsingle : ∀ kind', d.backlight.config.afterSec kind' ≠ 0 → kind' = kind := by
    intro kind' hne
    rcases kind.eq_or_eq_other kind' with rfl | rfl
    · rfl
    · exact absurd halone.never hne
  rcases h with h | h | h
  · have hset := h.ticker.resolve_right fun hreset => hnone _ hreset.2
    have hahead : ∀ kind', ¬ d.backlight.Passed (d.backlight.config.afterSec kind') := by
      rintro kind' ⟨hne, hpassed⟩
      obtain rfl := hsingle kind' hne
      have hdue := (hset.due hne).2
      omega
    exact {
      off := fun hpassed => absurd hpassed (hahead .off)
      dimmed := fun hpassed _ => absurd hpassed (hahead .dim)
      normal := fun _ _ => h.brightness.resolve_right (hnone _) }
  · exact absurd (hticking kind) h.ticking
  · have hcome : ¬ d.backlight.Ahead (d.backlight.config.afterSec kind) := by
      rintro (hzero | hlt)
      · exact h.come.ticks hzero
      · have hle := h.come.le
        omega
    constructor
    · rintro ⟨hne, -⟩
      obtain rfl : TickerKind.off = kind := hsingle .off hne
      exact h.brightness
    · rintro ⟨hne, -⟩ -
      obtain rfl : TickerKind.dim = kind := hsingle .dim hne
      exact h.brightness
    · intro hdim hoff
      cases kind
      · exact absurd hdim hcome
      · exact absurd hoff hcome

end Panel

/-! ### New settings -/

namespace Backlight

variable {config : DisplayConfig}

/-- What accepted settings lead to when they can be saved. -/
theorem rpcSetBacklightSettings_ok (h : b.rpcSetBacklightSettings params none none = (b', none)) :
  ∃ config : DisplayConfig,
    params = ⟨config.DisplayMaxBrightness, config.DisplayDimAfterSec, config.DisplayOffAfterSec⟩ ∧
      b' = (({ b with config := config } : Backlight).startBacklightTickers none).call none
        (wakeDisplay config true)
  := by
  rw [rpcSetBacklightSettings] at h
  split at h
  · simp at h
  · split at h
    · simp at h
    · split at h
      · simp at h
      · refine ⟨_, ?_, (congrArg Prod.fst h).symm⟩
        obtain ⟨max, dim, off⟩ := params
        dsimp only at *
        congr 1 <;> omega

end Backlight

namespace Panel

open Backlight

/-- A call of `wakeDisplay` that runs alone after its check leaves the display awake. -/
theorem Woken.call (h : Woken ⟨b, [], [], [rest]⟩ kind) (halone : Alone ⟨b, [], [], [rest]⟩ kind)
    (hsuffix : rest <:+ wake b.config) :
  Woken ⟨b.call none rest, [], [], [[]]⟩ kind ∧ Alone ⟨b.call none rest, [], [], [[]]⟩ kind
  := by
  induction rest generalizing b with
  | nil => exact ⟨h, halone⟩
  | cons i rest ih =>
      have hgoes : b.returns i = false := by
        rcases mem_wake (hsuffix.subset List.mem_cons_self) with rfl | ⟨kind', rfl⟩ | rfl <;> rfl
      rw [Backlight.call, if_neg (by simp [hgoes])]
      have hexec : Panel.backlight ⟨b.exec none i, [], [], [rest]⟩ = b.exec none i := rfl
      have hcalls : Calls b.config [rest] := by
        have hset := halone.calls_set (n := 0) rfl
        rwa [hgoes] at hset
      apply ih
      · exact h.exec (n := 0) halone rfl hsuffix
      · apply halone.exec hexec _ hcalls
        cases kind <;> rfl
      · rw [exec_config]
        exact (List.suffix_cons i rest).trans hsuffix

/-- The check of a forced call does not return. -/
theorem call_wakeDisplay_true (hlit : b.config.DisplayMaxBrightness ≠ 0) :
  b.call none (Display.wakeDisplay b.config true) =
    Backlight.call { b with wokenAt := b.now } none (wake b.config)
  := by
  have hgoes : b.returns (.checkAsleep true) = false := by simp [returns, hlit]
  rw [Display.wakeDisplay, Backlight.call, if_neg (by simp [hgoes]), Backlight.exec,
    if_neg (by simp [hgoes])]

end Panel

namespace Backlight

/-- The tickers are started one after the other. -/
theorem startBacklightTickers_eq (hlit : b.config.DisplayMaxBrightness ≠ 0) :
  b.startBacklightTickers none = (b.start .dim).start .off
  := if_neg hlit

/-- Starting a ticker leaves the display. -/
@[simp]
theorem start_eq :
  (b.start kind).config = b.config ∧ (b.start kind).brightness = b.brightness ∧
    (b.start kind).backlightState = b.backlightState ∧ (b.start kind).now = b.now ∧
    (b.start kind).wokenAt = b.wokenAt
  := setTicker_eq

/-- Tickers are started or stopped each for itself. -/
theorem ticker_start_start (kind : TickerKind) :
  ((b.start .dim).start .off).ticker kind = (b.start kind).ticker kind
  := by
  cases kind <;> rfl

/-- A ticker that is never to tick is not started. -/
theorem start_never (hzero : b.config.afterSec kind = 0) :
  Stopped ((b.start kind).ticker kind)
  := by
  rw [start, ticker_setTicker, if_neg (by simp [hzero])]
  exact stopped_map _

/-- A ticker that is started ticks after its time. -/
theorem start_due (hne : b.config.afterSec kind ≠ 0) :
  (b.start kind).ticker kind =
    some ⟨b.config.afterSec kind, some (b.now + b.config.afterSec kind)⟩
  := by
  rw [start, ticker_setTicker, if_pos hne]

end Backlight

namespace Panel

open Backlight

/-- New settings with one ticker leave the display awake. -/
theorem phase_of_settings (hlit : b.config.DisplayMaxBrightness ≠ 0)
    (hbounded : b.config.DisplayMaxBrightness ≤ 100) (hnever : b.config.afterSec kind.other = 0) :
  let b' := (b.startBacklightTickers none).call none (Display.wakeDisplay b.config true)
  (ofBacklight b').Phase kind ∧ (ofBacklight b').Alone kind
  := by
  rw [startBacklightTickers_eq hlit]
  set started := (b.start .dim).start .off with hstarted
  have hconfig : started.config = b.config := by simp [hstarted]
  have hnow : started.now = b.now := by simp [hstarted]
  set asked : Backlight := { started with wokenAt := started.now } with hasked
  have hcall : started.call none (Display.wakeDisplay b.config true) =
      asked.call none (wake b.config) := by
    rw [← hconfig]
    exact call_wakeDisplay_true (by rwa [hconfig])
  have hticker : ∀ kind', asked.ticker kind' = (b.start kind').ticker kind' := by
    intro kind'
    rw [hasked, ticker_mk, hstarted, ticker_start_start]
  have halone : Alone ⟨asked, [], [], [wake b.config]⟩ kind := by
    refine ⟨?_, ?_, ?_, ?_, ?_, ?_, ?_⟩
    · rwa [hasked, hconfig]
    · rwa [hasked, hconfig]
    · rwa [hasked, hconfig]
    · dsimp only
      rw [hticker]
      exact start_never hnever
    · cases kind <;> rfl
    · dsimp only
      rw [hticker]
      intro hne
      rw [hasked, hconfig] at hne
      rw [start_due hne]
      exact Option.some_ne_none _
    · intro rest hrest
      obtain rfl := List.mem_singleton.mp hrest
      right
      rw [hasked, hconfig]
  have hwoken : Woken ⟨asked, [], [], [wake b.config]⟩ kind := by
    have hpending : ∀ i ∈ wake b.config, Pending asked.config [wake b.config] i := by
      intro i hi
      rw [hasked, hconfig]
      exact ⟨_, List.mem_singleton_self _, List.suffix_rfl, hi⟩
    have hset : asked.Set kind := by
      have hafter : asked.config.afterSec kind = b.config.afterSec kind := by rw [hasked, hconfig]
      constructor
      · intro hzero
        rw [hticker]
        exact start_never (hafter ▸ hzero)
      · intro hne
        rw [hticker, start_due (hafter ▸ hne), hafter, hasked, hnow]
        exact ⟨rfl, Nat.le_add_right ..⟩
    refine ⟨?_, .inr (hpending _ ?_), .inl hset, .inr (hpending _ ?_), fun i _ => rfl⟩
    · cases kind <;> rfl
    · simp [hasked, hconfig, wake]
    · simp [wake]
  obtain ⟨hwoken', halone'⟩ := hwoken.call halone (by rw [hasked, hconfig])
  rw [hcall]
  constructor
  · exact Phase.of_pending_iff (.inl hwoken') fun i => by simp [Pending]
  · exact ⟨halone'.lit, halone'.bounded, halone'.never, halone'.stopped, halone'.quiet,
      halone'.equipped, by simp [Calls, ofBacklight]⟩

variable {max dim off now : ℕ}

/-- The display after it was woken, with both tickers running. -/
def fresh (max dim off now : ℕ) : Backlight where
  config := ⟨max, dim, off⟩
  brightness := max
  backlightState := .normal
  dimTicker := some ⟨dim, some (now + dim)⟩
  offTicker := some ⟨off, some (now + off)⟩
  now := now
  wokenAt := now

/-- A display that is switched off before it is dimmed is lit again when it is dimmed. -/
theorem exists_lit_of_le (hle : off ≤ dim) (hbounded : max ≤ 100) :
  ∃ tr c, lts.Run (ofBacklight (fresh max dim off now)) tr c ∧ (∀ e ∈ tr, e.action.Writes) ∧
    c.Idle ∧ c.backlight.wokenAt + off < c.backlight.now ∧ c.backlight.config = ⟨max, dim, off⟩ ∧
    c.backlight.brightness = max / 2
  := by
  have hhalf : ¬ max / 2 > 100 := by omega
  have hreach : now + off + (dim - off) = now + dim := by omega
  have hplay : Lts.play step (ofBacklight (fresh max dim off now))
      [.wait off, .ticks .off, .ticking .off none, .ticking .off none, .ticking .off none,
        .wait (dim - off), .ticks .dim, .ticking .dim none, .ticking .dim none, .ticking .dim none,
        .wait 1] =
      some (ofBacklight ⟨⟨max, dim, off⟩, max / 2, .dimmed, some ⟨dim, none⟩, some ⟨off, none⟩,
        now + dim + 1, now⟩) := by
    simp [Lts.play, step, ofBacklight, fresh, Idle, Quiet, Ticks, ticking, setTicking, body,
      tickDisplayDim, tickDisplayOff, tick, Backlight.ticker, Backlight.setTicker, Ticker.tick,
      Ticker.stop, advance, Backlight.exec, returns, setDisplayBrightness.eq_def, hhalf, hreach,
      hle]
  obtain ⟨tr, run, hactions⟩ := Lts.exists_run_of_play hplay
  refine ⟨tr, _, run, Lts.forall_action PanelAction.Writes hactions ?_, ?_, ?_, rfl, rfl⟩
  · simp [PanelAction.Writes]
  · simp [Idle, ofBacklight]
  · simp only [ofBacklight]
    omega

/-- The dim ticker ticks, and some time passes. -/
theorem play_dim (now dim off brightness wokenAt seconds : ℕ) (state : BacklightState)
    (offTicker : Option Ticker) (waking : List (List Instruction))
    (hwaking : ∀ rest ∈ waking, rest = []) (hbounded : max ≤ 100)
    (hoff : ∀ t, offTicker = some t → ∀ next, t.next = some next → now + dim + seconds ≤ next) :
  Lts.play step
    ⟨⟨⟨max, dim, off⟩, brightness, state, some ⟨dim, some (now + dim)⟩, offTicker, now, wokenAt⟩,
      [], [], waking⟩
    [.wait dim, .ticks .dim, .ticking .dim none, .ticking .dim none, .ticking .dim none,
      .wait seconds] =
    some ⟨⟨⟨max, dim, off⟩, max / 2, .dimmed, some ⟨dim, none⟩, offTicker, now + dim + seconds,
      wokenAt⟩, [], [], waking⟩
  := by
  have hhalf : ¬ max / 2 > 100 := by omega
  have hfirst : ∀ t, offTicker = some t → ∀ next, t.next = some next → now + dim ≤ next :=
    fun t ht next hnext => Nat.le_of_add_right_le (hoff t ht next hnext)
  simp [Lts.play, step, Idle, Quiet, Ticks, ticking, setTicking, body, tickDisplayDim, tick,
    Backlight.ticker, Backlight.setTicker, Ticker.tick, Ticker.stop, advance, Backlight.exec,
    returns, setDisplayBrightness.eq_def, hhalf, eq_true hfirst, eq_true hoff, eq_true hwaking]

/-- The off ticker ticks, and the display is woken after its brightness was set to zero. -/
theorem play_off (now brightness wokenAt : ℕ) (hdim : dim ≠ 0) (hoff : off ≠ 0) (hlit : max ≠ 0)
    (hbounded : max ≤ 100) :
  Lts.play step
    ⟨⟨⟨max, dim, off⟩, brightness, .dimmed, some ⟨dim, none⟩, some ⟨off, some now⟩, now, wokenAt⟩,
      [], [], []⟩
    [.ticks .off, .ticking .off none,
      .wakeDisplay, .waking 0 none, .waking 0 none, .waking 0 none, .waking 0 none, .waking 0 none,
      .ticking .off none, .ticking .off none] =
    some ⟨⟨⟨max, dim, off⟩, max, .off, some ⟨dim, some (now + dim)⟩, some ⟨off, none⟩, now, now⟩,
      [], [], [[]]⟩
  := by
  have hmax : ¬ max > 100 := by omega
  simp [Lts.play, step, Ticks, ticking, setTicking, body, tickDisplayOff, tick,
    Display.wakeDisplay, wake, Backlight.ticker, Backlight.setTicker, Ticker.tick, Ticker.stop,
    advance, Backlight.exec, returns, DisplayConfig.afterSec, setDisplayBrightness.eq_def, hmax,
    hdim, hoff, hlit]

/-- A display that is dimmed, then woken while it is being switched off, is not switched off. -/
theorem exists_lit_of_lt (hlt : dim < off) (hdim : dim ≠ 0) (hlit : max ≠ 0)
    (hbounded : max ≤ 100) :
  ∃ tr c, lts.Run (ofBacklight (fresh max dim off now)) tr c ∧ (∀ e ∈ tr, e.action.Writes) ∧
    c.Idle ∧ c.backlight.wokenAt + off < c.backlight.now ∧ c.backlight.config = ⟨max, dim, off⟩ ∧
    c.backlight.brightness = max / 2
  := by
  have hreach : now + dim + (off - dim) = now + off := by omega
  have hdimmed := play_dim now dim off max now (off - dim) .normal (some ⟨off, some (now + off)⟩)
    [] (by simp) hbounded (by simp [hreach])
  rw [hreach] at hdimmed
  have hwoken := play_off (now + off) (max / 2) now hdim (by omega : off ≠ 0) hlit hbounded
  have hlate := play_dim (now + off) dim off max (now + off) (off - dim + 1) .off (some ⟨off, none⟩)
    [[]] (by simp) hbounded (by simp)
  obtain ⟨tr₁, run₁, hactions₁⟩ := Lts.exists_run_of_play hdimmed
  obtain ⟨tr₂, run₂, hactions₂⟩ := Lts.exists_run_of_play hwoken
  obtain ⟨tr₃, run₃, hactions₃⟩ := Lts.exists_run_of_play hlate
  refine ⟨_, _, (run₁.append run₂).append run₃, ?_, ?_, ?_, rfl, rfl⟩
  · rw [List.forall_mem_append, List.forall_mem_append]
    refine ⟨⟨?_, ?_⟩, ?_⟩
    · exact Lts.forall_action PanelAction.Writes hactions₁ (by simp [PanelAction.Writes])
    · exact Lts.forall_action PanelAction.Writes hactions₂ (by simp [PanelAction.Writes])
    · exact Lts.forall_action PanelAction.Writes hactions₃ (by simp [PanelAction.Writes])
  · simp [Idle]
  · dsimp only
    omega

end Panel

namespace Backlight

open Panel

variable {max dim off : ℕ}

/-- New settings with two tickers. -/
theorem call_eq_fresh (hconfig : b.config = ⟨max, dim, off⟩) (hlit : max ≠ 0) (hbounded : max ≤ 100)
    (hdim : dim ≠ 0) (hoff : off ≠ 0) :
  (b.startBacklightTickers none).call none (wakeDisplay ⟨max, dim, off⟩ true) =
    fresh max dim off b.now
  := by
  have hmax : ¬ max > 100 := by omega
  obtain ⟨config, brightness, state, dimTicker, offTicker, now, wokenAt⟩ := b
  obtain rfl : config = ⟨max, dim, off⟩ := hconfig
  rw [startBacklightTickers_eq hlit]
  simp [start, setTicker, ticker, DisplayConfig.afterSec, wakeDisplay, wake, call, returns, exec,
    setDisplayBrightness.eq_def, fresh, hmax, hdim, hoff, hlit]

/-- A brightness that cannot be set leaves the display as it is. -/
theorem call_bright (hlit : b.config.DisplayMaxBrightness ≠ 0)
    (hmax : 100 < b.config.DisplayMaxBrightness) :
  let b' := (b.startBacklightTickers none).call none (wakeDisplay b.config true)
  b'.brightness = b.brightness ∧ b'.wokenAt = b'.now ∧ b'.config = b.config
  := by
  obtain ⟨config, brightness, state, dimTicker, offTicker, now, wokenAt⟩ := b
  dsimp only at hlit hmax
  rw [startBacklightTickers_eq hlit]
  by_cases hdim : config.DisplayDimAfterSec = 0 <;>
    by_cases hoff : config.DisplayOffAfterSec = 0 <;>
    simp [start, setTicker, ticker, DisplayConfig.afterSec, wakeDisplay, wake, call, returns, exec,
      setDisplayBrightness.eq_def, hmax, hlit, hdim, hoff]

/-- Suppose that the brightness of the display is at most 100, and that settings whose brightness
does not vanish when it is halved have been accepted while nothing else was being done. Then, as
long as the brightness can be written, the display has the brightness that the settings say whenever
nothing is being done, if and only if that brightness can be set and the display is only dimmed or
only switched off. -/
theorem follows_iff (h : b.rpcSetBacklightSettings params none none = (b', none))
    (hbrightness : b.brightness ≤ 100) (hlit : 2 ≤ params.MaxBrightness) :
  (∀ tr d, Panel.lts.Run (Panel.ofBacklight b') tr d → (∀ e ∈ tr, e.action.Writes) → d.Idle →
      d.backlight.Follows) ↔
    params.MaxBrightness ≤ 100 ∧ (params.DimAfter = 0 ∨ params.OffAfter = 0)
  := by
  obtain ⟨config, rfl, rfl⟩ := rpcSetBacklightSettings_ok h
  obtain ⟨max, dim, off⟩ := config
  dsimp only at hlit ⊢
  have hne : max ≠ 0 := by omega
  constructor
  · intro hfollows
    have hmax : max ≤ 100 := by
      by_contra hgt
      obtain ⟨hkept, hwoken, hconfig⟩ := call_bright (b := { b with config := ⟨max, dim, off⟩ }) hne
        (by dsimp only; omega)
      have hahead : ∀ {c : Backlight} (afterSec : ℕ), c.wokenAt = c.now → c.Ahead afterSec := by
        intro c afterSec hnow
        rw [Ahead]
        omega
      have hstart := (hfollows [] _ .nil (by simp) (by simp [Idle, ofBacklight])).normal
        (hahead _ hwoken) (hahead _ hwoken)
      rw [ofBacklight, hconfig, hkept] at hstart
      dsimp only at hstart
      omega
    refine ⟨by omega, ?_⟩
    by_contra hboth
    have hfresh := call_eq_fresh (b := { b with config := ⟨max, dim, off⟩ }) rfl hne hmax
      (by omega : dim ≠ 0) (by omega : off ≠ 0)
    rw [hfresh] at hfollows
    obtain ⟨tr, d, run, hwrites, hidle, hpassed, hconfig, hlevel⟩ :
        ∃ tr d, lts.Run (ofBacklight (fresh max dim off b.now)) tr d ∧
          (∀ e ∈ tr, e.action.Writes) ∧ d.Idle ∧ d.backlight.wokenAt + off < d.backlight.now ∧
          d.backlight.config = ⟨max, dim, off⟩ ∧ d.backlight.brightness = max / 2 := by
      rcases Nat.lt_or_ge dim off with hlt | hle
      · exact exists_lit_of_lt hlt (by omega) hne hmax
      · exact exists_lit_of_le hle hmax
    have hdark := (hfollows tr d run hwrites hidle).off
    rw [hconfig, hlevel] at hdark
    have hzero := hdark ⟨by dsimp only; omega, hpassed⟩
    omega
  · rintro ⟨hmax, hone⟩ tr d run hwrites hidle
    obtain ⟨kind, hnever⟩ : ∃ kind : TickerKind,
        DisplayConfig.afterSec ⟨max, dim, off⟩ kind.other = 0 := by
      rcases hone with hdim | hoff
      · exact ⟨.off, by simpa [TickerKind.other, DisplayConfig.afterSec] using hdim⟩
      · exact ⟨.dim, by simpa [TickerKind.other, DisplayConfig.afterSec] using hoff⟩
    obtain ⟨hphase, halone⟩ := phase_of_settings (b := { b with config := ⟨max, dim, off⟩ })
      hne (by dsimp only; omega) hnever
    obtain ⟨hphase', halone'⟩ := hphase.run halone run hwrites
    exact hphase'.follows halone' hidle

/-- A display that is only switched off follows its settings. -/
theorem follows_iff_offOnly :
  let b : Backlight := ⟨⟨64, 120, 1800⟩, 64, .normal, none, none, 0, 0⟩
  ∃ b', b.rpcSetBacklightSettings ⟨100, 0, 60⟩ none none = (b', none) ∧
    ∀ tr d, Panel.lts.Run (Panel.ofBacklight b') tr d → (∀ e ∈ tr, e.action.Writes) → d.Idle →
      d.backlight.Follows
  := by
  intro b
  have h : b.rpcSetBacklightSettings ⟨100, 0, 60⟩ none none = (_, none) := rfl
  exact ⟨_, h, (follows_iff h (by decide) (by decide)).mpr (by decide)⟩

end Backlight

end JetKvm.Display
