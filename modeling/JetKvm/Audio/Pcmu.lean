import JetKvm.Library.Companding
import JetKvm.Library.Word
import Mathlib.Data.Fin.VecNotation
import Mathlib.Data.List.FinRange
import Mathlib.Tactic.Ring

/-!
# The mu-law encoder

The captured sound has two channels and 48000 samples a second. Twelve samples at a time are replaced
by their mean, which is encoded in eight bits by the mu-law of G.711: a sign, one of eight segments,
and one of sixteen intervals of the segment, all of whose bits are inverted.
-/

namespace JetKvm.Audio

open Companding

/-! ### The encoder -/

def pcmuBias : ℕ := 0x84

def pcmuClip : ℕ := 32635

/-- The loop that looks for the segment, with the values of `segment` and `expMask`. -/
def pcmuSegment (pcm : ℕ) : ℕ → ℕ → ℕ
  | 0, _ => 0
  | segment + 1, expMask =>
      if pcm &&& expMask = 0 then pcmuSegment pcm segment (expMask >>> 1) else segment + 1

/-- The operations on the bits agree with those on bytes. -/
def linearToPCMU (sample : Int16) : UInt8 :=
  let mask : UInt8 := if sample.toInt < 0 then 0x7f else 0xff
  let pcm := min sample.toInt.natAbs pcmuClip + pcmuBias
  let segment := pcmuSegment pcm 7 0x4000
  let quantized :=
    if segment = 0 then (pcm >>> 4) &&& 0x0f else (pcm >>> (segment + 3)) &&& 0x0f
  ~~~(UInt8.ofNat (segment <<< 4 ||| quantized)) &&& mask

def captureChannels : ℕ := 2

def captureFrameSize : ℕ := 960

def pcmuFrameSize : ℕ := 160

def pairsPerSample : ℕ := 6

/-- The samples that are captured at a time. -/
abbrev Pcm16 :=
  Vector Int16 (captureFrameSize * captureChannels)

theorem sample_lt (i : Fin pcmuFrameSize) (j : Fin (pairsPerSample * captureChannels)) :
  i.val * pairsPerSample * captureChannels + j.val < captureFrameSize * captureChannels
  := by
  have hi := i.isLt
  have hj := j.isLt
  simp only [pcmuFrameSize, pairsPerSample, captureChannels, captureFrameSize] at hi hj ⊢
  omega

/-- The samples from which a byte is made. -/
def samplesAt (pcm16 : Pcm16) (i : Fin pcmuFrameSize) : List Int16 :=
  (List.finRange (pairsPerSample * captureChannels)).map fun j => pcm16.get ⟨_, sample_lt i j⟩

/-- The sum is an integer of 32 bits. -/
def encodeSample (samples : List Int16) : UInt8 :=
  let sum := samples.foldl (fun sum sample => Word.wrap32 (sum + sample.toInt)) 0
  linearToPCMU (Int16.ofInt (sum.tdiv (pairsPerSample * captureChannels)))

def encodePCMU (pcm16 : Pcm16) : Vector UInt8 pcmuFrameSize :=
  Vector.ofFn fun i => encodeSample (samplesAt pcm16 i)

/-! ### What a byte says -/

/-- The bit of the sign is set for the samples that are not negative. -/
def pcmuNegative (code : UInt8) : Bool :=
  code < 0x80

def pcmuSegmentOf (code : UInt8) : ℕ :=
  ((~~~code >>> 4) &&& 7).toNat

def pcmuIntervalOf (code : UInt8) : ℕ :=
  (~~~code &&& 15).toNat

/-- The sample that a byte stands for. -/
def pcmuToLinear (code : UInt8) : ℤ :=
  let magnitude : ℤ := (2 * (2 ^ 4 + pcmuIntervalOf code) + 1) * 2 ^ (pcmuSegmentOf code + 2) - pcmuBias
  if pcmuNegative code then -magnitude else magnitude

/-- The byte is the one for a sample in G.711. -/
def IsCode (sample : ℤ) (code : UInt8) : Prop :=
  (pcmuNegative code = true ↔ sample < 0) ∧
    Cell 4 (pcmuSegmentOf code + 3) (pcmuIntervalOf code) (min sample.natAbs pcmuClip + pcmuBias)

/-- A sample that is not clipped differs from what its byte stands for by half of the width of the
interval at most. -/
theorem IsCode.dist {sample : ℤ} {code : UInt8} (h : IsCode sample code)
    (hclip : sample.natAbs ≤ pcmuClip) :
  |pcmuToLinear code - sample| ≤ 2 ^ (pcmuSegmentOf code + 2)
  := by
  have hdist := h.2.dist_middle
  rw [min_eq_left hclip, Nat.cast_add] at hdist
  rw [pcmuToLinear]
  split
  case isTrue hnegative =>
    have hsample : (sample.natAbs : ℤ) = -sample := by
      have hlt := h.1.mp hnegative
      omega
    rw [hsample] at hdist
    rw [← abs_neg]
    convert hdist using 2
    ring
  case isFalse hnegative =>
    have hsample : (sample.natAbs : ℤ) = sample := by
      have hle := mt h.1.mpr hnegative
      omega
    rw [hsample] at hdist
    convert hdist using 2
    ring

/-! ### A sample -/

theorem and_two_pow_eq_zero {n k : ℕ} (h : n < 2 ^ (k + 1)) :
  n &&& 2 ^ k = 0 ↔ n < 2 ^ k
  := by
  rw [Nat.and_two_pow, mul_eq_zero, or_iff_left (Nat.two_pow_pos k).ne', Bool.toNat_eq_zero,
    Nat.testBit_eq_decide_div_mod_eq, decide_eq_false_iff_not]
  have hdiv : n / 2 ^ k < 2 := by
    rw [Nat.div_lt_iff_lt_mul (Nat.two_pow_pos k), ← Nat.pow_succ']
    exact h
  rw [← Nat.div_eq_zero_iff_lt (Nat.two_pow_pos k)]
  generalize n / 2 ^ k = d at hdiv ⊢
  omega

/-- The loop finds the position of the leading bit. -/
theorem pcmuSegment_leading {pcm segment : ℕ} (hlow : 2 ^ 7 ≤ pcm)
    (hhigh : pcm < 2 ^ (segment + 7 + 1)) :
  pcmuSegment pcm segment (2 ^ (segment + 7)) ≤ segment ∧
    2 ^ (4 + (pcmuSegment pcm segment (2 ^ (segment + 7)) + 3)) ≤ pcm ∧
    pcm < 2 ^ (4 + (pcmuSegment pcm segment (2 ^ (segment + 7)) + 3) + 1)
  := by
  induction segment with
  | zero => exact ⟨Nat.le_refl _, hlow, hhigh⟩
  | succ segment ih =>
      rw [pcmuSegment]
      split
      case isTrue hzero =>
        have hlt : pcm < 2 ^ (segment + 7 + 1) := (and_two_pow_eq_zero hhigh).mp hzero
        have hmask : 2 ^ (segment + 1 + 7) >>> 1 = 2 ^ (segment + 7) := by
          rw [Nat.add_right_comm, Nat.shiftRight_one, Nat.pow_succ,
            Nat.mul_div_cancel _ Nat.two_pos]
        obtain ⟨hle, hleading⟩ := ih hlt
        rw [hmask]
        exact ⟨hle.trans (Nat.le_succ _), hleading⟩
      case isFalse hset =>
        have hle := mt (and_two_pow_eq_zero hhigh).mpr hset
        have hexponent : 4 + (segment + 1 + 3) = segment + 1 + 7 := by omega
        rw [hexponent]
        exact ⟨Nat.le_refl _, Nat.le_of_not_lt hle, hhigh⟩

/-- The number that is encoded has at most fifteen bits, and the loop finds its leading bit. -/
theorem pcmuSegment_sample (sample : ℤ) :
  let pcm := min sample.natAbs pcmuClip + pcmuBias
  let segment := pcmuSegment pcm 7 0x4000
  pcmuBias ≤ pcm ∧ segment ≤ 7 ∧ 2 ^ (4 + (segment + 3)) ≤ pcm ∧ pcm < 2 ^ (4 + (segment + 3) + 1)
  := by
  intro pcm segment
  have hlow : pcmuBias ≤ pcm := Nat.le_add_left _ _
  have hhigh : pcm < 2 ^ (7 + 7 + 1) := by
    simp only [pcm, pcmuClip, pcmuBias]
    omega
  exact ⟨hlow, pcmuSegment_leading ((by decide : 2 ^ 7 ≤ pcmuBias).trans hlow) hhigh⟩

/-- The byte is put together from its parts. -/
theorem pcmu_parts :
  ∀ segment : Fin 8, ∀ quantized : Fin 16, ∀ mask ∈ [(0x7f : UInt8), 0xff],
    let code := ~~~(UInt8.ofNat (segment.val <<< 4 ||| quantized.val)) &&& mask
    pcmuSegmentOf code = segment ∧ pcmuIntervalOf code = quantized ∧
      pcmuNegative code = (mask == 0x7f)
  := by
  decide +kernel

/-- The interval that is given to a number of a segment. -/
def pcmuQuantized (pcm segment : ℕ) : ℕ :=
  if segment = 0 then pcm / 2 ^ 4 % 2 ^ 4 else pcm / 2 ^ (segment + 3) % 2 ^ 4

/-- What the byte of a sample says. -/
theorem linearToPCMU_parts (sample : Int16) :
  let pcm := min sample.toInt.natAbs pcmuClip + pcmuBias
  let segment := pcmuSegment pcm 7 0x4000
  pcmuSegmentOf (linearToPCMU sample) = segment ∧
    pcmuIntervalOf (linearToPCMU sample) = pcmuQuantized pcm segment ∧
    (pcmuNegative (linearToPCMU sample) = true ↔ sample.toInt < 0)
  := by
  intro pcm segment
  have hsegment : segment < 8 := Nat.lt_succ_of_le (pcmuSegment_sample sample.toInt).2.1
  have hquantized : pcmuQuantized pcm segment < 16 := by
    rw [pcmuQuantized]
    split <;> exact Nat.mod_lt _ (by decide)
  have hshift : (if segment = 0 then (pcm >>> 4) &&& 0x0f else (pcm >>> (segment + 3)) &&& 0x0f) =
      pcmuQuantized pcm segment := by
    have hmask : (0x0f : ℕ) = 2 ^ 4 - 1 := rfl
    rw [pcmuQuantized, hmask, Nat.and_two_pow_sub_one_eq_mod, Nat.and_two_pow_sub_one_eq_mod,
      Nat.shiftRight_eq_div_pow, Nat.shiftRight_eq_div_pow]
  have hcode : linearToPCMU sample =
      ~~~(UInt8.ofNat (segment <<< 4 ||| pcmuQuantized pcm segment)) &&&
        (if sample.toInt < 0 then 0x7f else 0xff) := by
    rw [← hshift]
    rfl
  rw [hcode]
  obtain ⟨hsegmentOf, hintervalOf, hnegative⟩ :=
    pcmu_parts ⟨segment, hsegment⟩ ⟨_, hquantized⟩ (if sample.toInt < 0 then 0x7f else 0xff)
      (by split <;> simp)
  refine ⟨hsegmentOf, hintervalOf, ?_⟩
  rw [hnegative]
  split
  case isTrue hlt => simpa using hlt
  case isFalse hge => simpa using hge

/-- A sample gets its byte if it is not among those near to zero. -/
theorem isCode_linearToPCMU_iff (sample : Int16) :
  IsCode sample.toInt (linearToPCMU sample) ↔ 116 ≤ sample.toInt.natAbs
  := by
  obtain ⟨hsegment, hinterval, hnegative⟩ := linearToPCMU_parts sample
  obtain ⟨hlow, -, hleading, hhigh⟩ := pcmuSegment_sample sample.toInt
  rw [IsCode, hsegment, hinterval, and_iff_right hnegative, pcmuQuantized]
  split
  case isTrue hzero =>
    rw [hzero] at hhigh
    rw [hzero, cell_iff]
    simp only [pcmuClip, pcmuBias] at hhigh ⊢
    omega
  case isFalse hpos =>
    apply iff_of_true (cell_of_leading hleading hhigh)
    have hge := (Nat.pow_le_pow_right Nat.two_pos (by omega : 8 ≤ _)).trans hleading
    simp only [pcmuClip, pcmuBias] at hge
    omega

/-- No sample is heard as silence. -/
theorem le_linearToPCMU (sample : Int16) :
  64 ≤ |pcmuToLinear (linearToPCMU sample)|
  := by
  obtain ⟨hsegment, hinterval, -⟩ := linearToPCMU_parts sample
  obtain ⟨hlow, -, -, hhigh⟩ := pcmuSegment_sample sample.toInt
  have hmagnitude : (64 : ℤ) ≤ (2 * (2 ^ 4 + pcmuIntervalOf (linearToPCMU sample)) + 1) *
      2 ^ (pcmuSegmentOf (linearToPCMU sample) + 2) - pcmuBias := by
    rw [hsegment, hinterval, pcmuQuantized]
    generalize min sample.toInt.natAbs pcmuClip + pcmuBias = pcm at hlow hhigh
    generalize pcmuSegment pcm 7 0x4000 = segment at hhigh
    rw [pcmuBias] at hlow ⊢
    split
    case isTrue hzero =>
      rw [hzero] at hhigh ⊢
      push_cast
      omega
    case isFalse hpos =>
      have hpow : (2 : ℤ) ^ 3 ≤ 2 ^ (segment + 2) := by
        apply pow_le_pow_right₀ one_le_two
        omega
      generalize pcm / 2 ^ (segment + 3) % 2 ^ 4 = quantized
      have hproduct : (0 : ℤ) ≤ quantized * 2 ^ (segment + 2) := by positivity
      push_cast
      linarith
  rw [pcmuToLinear]
  split
  case isTrue => rwa [abs_neg, abs_of_nonneg (by omega)]
  case isFalse => rwa [abs_of_nonneg (by omega)]

example : pcmuToLinear (linearToPCMU 0) = 64 := by decide +kernel

/-! ### The samples that are captured -/

/-- The mean of some samples, rounded towards zero. -/
def mean (samples : List Int16) : ℤ :=
  (samples.map Int16.toInt).sum.tdiv samples.length

theorem sum_mem (samples : List Int16) :
  -(samples.length * 2 ^ 15) ≤ (samples.map Int16.toInt).sum ∧
    (samples.map Int16.toInt).sum ≤ samples.length * (2 ^ 15 - 1)
  := by
  induction samples with
  | nil => simp
  | cons sample samples ih =>
      have hle := sample.le_toInt
      have hlt := sample.toInt_lt
      rw [List.map_cons, List.sum_cons, List.length_cons]
      push_cast
      omega

theorem tdiv_mem {sum : ℤ} (hlow : -(12 * 2 ^ 15) ≤ sum) (hhigh : sum < 12 * 2 ^ 15) :
  -2 ^ 15 ≤ sum.tdiv 12 ∧ sum.tdiv 12 < 2 ^ 15
  := by
  rcases le_total 0 sum with hnonneg | hneg
  · rw [Int.tdiv_eq_ediv_of_nonneg hnonneg]
    omega
  · have htdiv := Int.tdiv_eq_ediv_of_nonneg (b := 12) (Int.neg_nonneg_of_nonpos hneg)
    rw [Int.neg_tdiv] at htdiv
    omega

/-- The sum of a few samples does not wrap around. -/
theorem foldl_wrap32 (samples : List Int16) (sum : ℤ)
    (h : sum.natAbs + samples.length * 2 ^ 15 < 2 ^ 31) :
  samples.foldl (fun sum sample => Word.wrap32 (sum + sample.toInt)) sum =
    sum + (samples.map Int16.toInt).sum
  := by
  induction samples generalizing sum with
  | nil => simp
  | cons sample samples ih =>
      have hle := sample.le_toInt
      have hlt := sample.toInt_lt
      rw [List.length_cons] at h
      rw [List.foldl_cons, Word.wrap32_of_mem (by omega) (by omega), ih _ (by omega), List.map_cons,
        List.sum_cons, Int.add_assoc]

/-- A byte is that of the mean of its samples. -/
theorem encodeSample_eq {samples : List Int16}
    (hlength : samples.length = pairsPerSample * captureChannels) :
  ∃ sample : Int16, sample.toInt = mean samples ∧ encodeSample samples = linearToPCMU sample
  := by
  use Int16.ofInt (mean samples)
  have hlength' : samples.length = 12 := hlength
  obtain ⟨hlow, hhigh⟩ := sum_mem samples
  rw [hlength'] at hlow hhigh
  constructor
  · obtain ⟨hle, hlt⟩ := tdiv_mem hlow (by omega)
    rw [mean, hlength']
    exact Int16.toInt_ofInt_of_le hle hlt
  · rw [encodeSample, foldl_wrap32 _ _ (by rw [hlength']; decide), zero_add, mean, hlength]
    rfl

/-- Whatever is captured, a byte is the one of G.711 for the mean of its samples if and only if that
mean is not among the values near to zero. Then it stands for the mean up to half of the width of an
interval, unless the mean is clipped. No byte stands for silence, not even that of silence. -/
theorem encodePCMU_isCode_iff (pcm16 : Pcm16) (i : Fin pcmuFrameSize) :
  (IsCode (mean (samplesAt pcm16 i)) ((encodePCMU pcm16).get i) ↔
      116 ≤ (mean (samplesAt pcm16 i)).natAbs) ∧
    (116 ≤ (mean (samplesAt pcm16 i)).natAbs → (mean (samplesAt pcm16 i)).natAbs ≤ pcmuClip →
      |pcmuToLinear ((encodePCMU pcm16).get i) - mean (samplesAt pcm16 i)| ≤
        2 ^ (pcmuSegmentOf ((encodePCMU pcm16).get i) + 2)) ∧
    64 ≤ |pcmuToLinear ((encodePCMU pcm16).get i)|
  := by
  have hlength : (samplesAt pcm16 i).length = pairsPerSample * captureChannels := by
    rw [samplesAt, List.length_map, List.length_finRange]
  obtain ⟨sample, hmean, hencode⟩ := encodeSample_eq hlength
  have hget : (encodePCMU pcm16).get i = linearToPCMU sample := by
    rw [encodePCMU, ← hencode]
    exact Vector.getElem_ofFn _
  rw [hget, ← hmean]
  refine ⟨isCode_linearToPCMU_iff sample, ?_, le_linearToPCMU sample⟩
  intro hge hclip
  exact ((isCode_linearToPCMU_iff sample).mpr hge).dist hclip

end JetKvm.Audio
