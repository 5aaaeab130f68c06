import JetKvm.Audio.G722
import Mathlib.Algebra.Order.Group.Abs
import Mathlib.Algebra.Order.Ring.Int
import Mathlib.Data.Int.ConditionallyCompleteOrder
import Mathlib.Order.ConditionallyCompleteLattice.Basic

/-!
# The range of the G.722 encoder

Whatever is encoded, no operation of the encoder faults, and the state of both bands stays in
bounds.
-/

namespace JetKvm.Audio

open Checked

/-- The range of 16 bits. -/
def int16Range : Set ℤ :=
  Set.Icc (-32768) 32767

/-- The coefficients of the poles are in bounds, the first ones in those of the second ones. -/
def Poles (a : Vector ℤ 3) : Prop :=
  |a.get (Fin.last 2)| ≤ 12288 ∧
    |a.get (Fin.last 1).castSucc| ≤ (15360 : ℤ) - a.get (Fin.last 2)

/-- The state of a band is in bounds. The logarithm of the scale factor has a limit, and the scale
factor is not too low. -/
structure Band.InRange (limit low : ℤ) (band : Band) : Prop where
  s : band.s ∈ int16Range
  sp : band.sp ∈ int16Range
  sz : band.sz ∈ int16Range
  r : Every (fun r => r ∈ int16Range) band.r
  p : Every (fun p => p ∈ int16Range) band.p
  d : Every (fun d => d ∈ int16Range) band.d
  b : Every (fun c => c ∈ int16Range) band.b
  bp : Every (fun c => c ∈ int16Range) band.bp
  poles : Poles band.a
  nb : band.nb ∈ Set.Icc 0 limit
  det : band.det ∈ Set.Icc low 16384

variable {limit low d det wd nb : ℤ} {b : Band}

/-- What is saturated fits into 16 bits. -/
theorem g722Saturate_mem (v : ℤ) :
  g722Saturate v ∈ int16Range
  := by
  rw [g722Saturate, int16Range, Set.mem_Icc]
  split
  · omega
  · split
    · omega
    · omega

/-- The sign of a number is changed without overflow. -/
theorem negateIf_returns {c : Prop} [Decidable c] {v m : ℤ} (h : |v| ≤ m) (hm : m < 2 ^ 31) :
  Returns (negateIf c v) fun w => |w| ≤ m
  := by
  rw [abs_le] at h
  rw [negateIf, returns_ite, returns_neg, returns_pure, Fits, abs_neg]
  simp only [abs_le]
  omega

/-- What is clamped lies between the limits. -/
theorem clamp_mem {low high : ℤ} (h : low ≤ high) (v : ℤ) :
  clamp low high v ∈ Set.Icc low high
  := by
  rw [clamp, Set.mem_Icc]
  split
  · omega
  · split
    · omega
    · omega

/-! ### The predictor -/

/-- The reconstructed signal is in range. -/
theorem reconstruct_returns (h : b.InRange limit low) (hd : d ∈ int16Range) :
  Returns (reconstruct b d) (Band.InRange limit low)
  := by
  have hs := h.s
  have hsz := h.sz
  rw [int16Range, Set.mem_Icc] at hs hsz hd
  simp only [reconstruct, returns_bind, returns_add, returns_pure, Fits]
  refine ⟨by omega, by omega, { h with r := ?_, p := ?_, d := ?_ }⟩
  · apply h.r.set 0 (g722Saturate_mem _)
  · apply h.p.set 0 (g722Saturate_mem _)
  · apply h.d.set 0 hd

/-- So are the signs that are taken of it. -/
theorem signs_inRange (h : b.InRange limit low) :
  (signs b).InRange limit low
  := { h with }

/-- The second pole is clamped, so that it stays well away from one. -/
theorem pole2_returns (h : b.InRange limit low) :
  Returns (pole2 b) fun b' => b'.InRange limit low ∧ |b'.ap.get (Fin.last 2)| ≤ 12288
  := by
  obtain ⟨(ha2 : |b.a[2]| ≤ 12288), (ha1 : |b.a[1]| ≤ (15360 : ℤ) - b.a[2])⟩ := h.poles
  rw [abs_le] at ha1 ha2
  have hwd1 : |g722Saturate (b.a[1] * 2 ^ 2)| ≤ 32768 := by
    have hmem := g722Saturate_mem (b.a[1] * 2 ^ 2)
    rw [int16Range, Set.mem_Icc] at hmem
    rw [abs_le]
    omega
  simp only [pole2, returns_bind, returns_shl, Fits]
  refine ⟨by omega, ?_⟩
  apply (negateIf_returns hwd1 (by omega)).mono
  intro wd2 hwd2
  have hwd3 : Returns
      (if b.sg[0] = b.sg[2] then add (shr (if wd2 > 32767 then 32767 else wd2) 7) 128
        else sub (shr (if wd2 > 32767 then 32767 else wd2) 7) 128) fun wd3 => |wd3| ≤ 384 := by
    rw [abs_le] at hwd2
    simp only [returns_ite, returns_add, returns_sub, Fits, shr, abs_le]
    split
    · omega
    · omega
  apply hwd3.mono
  intro wd3 hwd3
  rw [abs_le] at hwd3
  simp only [returns_mul, returns_add, returns_pure, Fits, shr]
  refine ⟨by omega, by omega, { h with }, ?_⟩
  change |(Vector.set _ 2 _ _)[2]| ≤ 12288
  rw [Vector.getElem_set_self, abs_le]
  apply clamp_mem (by omega)

/-- The first pole is clamped by what the second leaves. -/
theorem pole1_returns (h : b.InRange limit low) (hap : |b.ap.get (Fin.last 2)| ≤ 12288) :
  Returns (pole1 b) fun b' => b'.InRange limit low ∧ Poles b'.ap
  := by
  obtain ⟨(ha2 : |b.a[2]| ≤ 12288), (ha1 : |b.a[1]| ≤ (15360 : ℤ) - b.a[2])⟩ := h.poles
  replace hap : |b.ap[2]| ≤ 12288 := hap
  rw [abs_le] at ha1 ha2 hap
  have hwd3 : g722Saturate ((15360 : ℤ) - b.ap[2]) = (15360 : ℤ) - b.ap[2] := by
    rw [g722Saturate, if_neg (by omega), if_neg (by omega)]
  have hwd1 : |if shr b.p[0] 15 = shr b.p[1] 15 then (192 : ℤ) else -192| ≤ 192 := by
    split
    · decide
    · decide
  rw [abs_le] at hwd1
  simp only [pole1, returns_bind, returns_mul, returns_add, returns_sub, returns_neg, returns_pure,
    Fits, hwd3]
  rw [shr.eq_def (b.a[1] * 32640)]
  refine ⟨by omega, by omega, by omega, by omega, { h with }, ?_⟩
  change |(Vector.set _ 1 _ _)[2]| ≤ 12288 ∧
    |(Vector.set _ 1 _ _)[1]| ≤ (15360 : ℤ) - (Vector.set _ 1 _ _)[2]
  rw [Vector.getElem_set_self, Vector.getElem_set_ne, abs_le, abs_le]
  constructor
  · apply hap
  · apply clamp_mem (by omega)
  all_goals omega

/-- The zeros are saturated. -/
theorem zeros_returns (h : b.InRange limit low) (hap : Poles b.ap) :
  Returns (zeros b d) fun b' => b'.InRange limit low ∧ Poles b'.ap
  := by
  rw [zeros]
  apply Returns.foldlM
  · exact ⟨{ h with }, hap⟩
  · rintro b i ⟨h, hap⟩
    have hb := h.b i
    have hwd1 : |if d ≠ 0 then (128 : ℤ) else 0| ≤ 128 := by
      split
      · decide
      · decide
    rw [int16Range, Set.mem_Icc] at hb
    simp only [returns_bind]
    apply (negateIf_returns hwd1 (by omega)).mono
    intro wd2 hwd2
    rw [abs_le] at hwd2
    simp only [returns_mul, returns_add, returns_pure, Fits, shr]
    refine ⟨by omega, by omega, { h with bp := ?_ }, hap⟩
    apply h.bp.set i (g722Saturate_mem _)

/-- The delay line of the zeros holds what was in range. -/
theorem delayZeros_inRange (h : b.InRange limit low) (hap : Poles b.ap) :
  (delayZeros b).InRange limit low ∧ Poles (delayZeros b).ap
  := by
  have hkeeps : ∀ (b : Band) (i : Fin 7), b.InRange limit low ∧ Poles b.ap →
      Band.InRange limit low { b with d := b.d.set i b.d[i - 1], b := b.b.set i b.bp[i] } ∧
        Poles b.ap := by
    rintro b i ⟨h, hap⟩
    refine ⟨{ h with d := ?_, b := ?_ }, hap⟩
    · apply h.d.set i (h.d (i - 1))
    · apply h.b.set i (h.bp i)
  apply foldl_keeps (P := fun b : Band => b.InRange limit low ∧ Poles b.ap) ⟨h, hap⟩ hkeeps

/-- So does that of the poles. -/
theorem delayPoles_inRange (h : b.InRange limit low) (hap : Poles b.ap) :
  (delayPoles b).InRange limit low
  := by
  refine { h with r := ?_, p := ?_, poles := ?_ }
  · apply (h.r.set 2 (h.r 1)).set 1
    apply (h.r.set 2 (h.r 1)) 0
  · apply (h.p.set 2 (h.p 1)).set 1
    apply (h.p.set 2 (h.p 1)) 0
  · replace hap : |b.ap[2]| ≤ 12288 ∧ |b.ap[1]| ≤ (15360 : ℤ) - b.ap[2] := hap
    change |(delayPoles b).a[2]| ≤ 12288 ∧ |(delayPoles b).a[1]| ≤ (15360 : ℤ) - (delayPoles b).a[2]
    simpa [delayPoles] using hap

/-- A saturated number may be doubled without overflow. -/
theorem natAbs_saturate_le (v : ℤ) :
  (g722Saturate v).natAbs ≤ 32768
  := by
  have h := g722Saturate_mem v
  rw [int16Range, Set.mem_Icc] at h
  omega

/-- Two products of 16 bits can be added. -/
theorem predictPoles_returns (h : b.InRange limit low) :
  Returns (predictPoles b) (Band.InRange limit low)
  := by
  obtain ⟨(ha2 : |b.a[2]| ≤ 12288), (ha1 : |b.a[1]| ≤ (15360 : ℤ) - b.a[2])⟩ := h.poles
  have hr1 : b.r[1] ∈ int16Range := h.r 1
  have hr2 : b.r[2] ∈ int16Range := h.r 2
  rw [int16Range, Set.mem_Icc] at hr1 hr2
  rw [abs_le] at ha1 ha2
  have hwd1 : (b.a[1] * g722Saturate (b.r[1] + b.r[1])).natAbs ≤ 27648 * 32768 :=
    natAbs_mul_le (by omega) (natAbs_saturate_le _)
  have hwd2 : (b.a[2] * g722Saturate (b.r[2] + b.r[2])).natAbs ≤ 12288 * 32768 :=
    natAbs_mul_le (by omega) (natAbs_saturate_le _)
  simp only [predictPoles, returns_bind, returns_mul, returns_add, returns_pure, Fits, shr]
  refine ⟨by omega, by omega, by omega, by omega, by omega, { h with sp := g722Saturate_mem _ }⟩

/-- Six products are saturated after each addition. -/
theorem predictZeros_returns (h : b.InRange limit low) :
  Returns (predictZeros b) (Band.InRange limit low)
  := by
  have hsz : Returns (([6, 5, 4, 3, 2, 1] : List (Fin 7)).foldlM
      (fun sz (i : Fin 7) => do
        let wd1 := g722Saturate (← add b.d[i] b.d[i])
        add sz (shr (← mul b.b[i] wd1) 15)) 0) fun _ => True := by
    apply (returns_foldlM
      (fun items (sz : ℤ) => |sz| ≤ (6 - (items.length : ℤ)) * 32768) _ _).mono
    · intro _ _
      trivial
    · decide
    · intro sz i rest hsz
      have hd := h.d i
      have hb := h.b i
      rw [int16Range, Set.mem_Icc] at hd hb
      have hwd1 : (b.b[i] * g722Saturate (b.d[i] + b.d[i])).natAbs ≤ 32768 * 32768 :=
        natAbs_mul_le (by omega) (natAbs_saturate_le _)
      simp only [returns_bind, returns_add, returns_mul, Fits, shr, abs_le, List.length_cons,
        Nat.cast_add, Nat.cast_one] at hsz ⊢
      omega
  simp only [predictZeros, returns_bind]
  apply hsz.mono
  intro sz _
  have hs := h.sp
  have hsz := g722Saturate_mem sz
  rw [int16Range, Set.mem_Icc] at hs hsz
  simp only [returns_add, returns_pure, Fits]
  refine ⟨by omega, { h with sz := g722Saturate_mem _, s := g722Saturate_mem _ }⟩

/-- The adaptation of the predictor keeps a band in range. -/
theorem block4_returns (h : b.InRange limit low) (hd : d ∈ int16Range) :
  Returns (block4 b d) (Band.InRange limit low)
  := by
  apply (reconstruct_returns h hd).bind
  intro b h
  apply (pole2_returns (signs_inRange h)).bind
  rintro b ⟨h, hap⟩
  apply (pole1_returns h hap).bind
  rintro b ⟨h, hap⟩
  apply (zeros_returns h hap).bind
  rintro b ⟨h, hap⟩
  obtain ⟨h, hap⟩ := delayZeros_inRange h hap
  apply (predictPoles_returns (delayPoles_inRange h hap)).bind
  intro b h
  apply predictZeros_returns h

/-! ### The quantizers -/

/-- The magnitude of a difference of 16 bits can be taken. -/
theorem magnitude_returns {el : ℤ} (h : el ∈ int16Range) :
  Returns (magnitude el) fun _ => True
  := by
  rw [int16Range, Set.mem_Icc] at h
  simp only [magnitude, returns_ite, returns_bind, returns_add, returns_neg, returns_pure, Fits,
    and_true]
  constructor
  · intro _
    omega
  · intro _
    trivial

/-- The level is one of the table. -/
theorem level_returns (hdet : det ∈ Set.Icc 0 16384) {levels : ℕ} {i : ℤ} (hi : 0 ≤ i)
    (hlevels : i + levels < 32) :
  Returns (level det wd levels i) fun j => i ≤ j ∧ j ≤ i + levels
  := by
  induction levels generalizing i with
  | zero =>
      rw [level, returns_pure]
      omega
  | succ levels ih =>
      rw [level, returns_bind]
      have hentry : ∀ q ∈ (g722Q6.take 32).drop 0, q.natAbs ≤ 2919 := by decide
      apply (returns_index 0 32 hi (by omega) (by decide) hentry).mono
      intro q hq
      rw [Set.mem_Icc] at hdet
      have hproduct : (q * det).natAbs ≤ 2919 * 16384 := natAbs_mul_le hq (by omega)
      simp only [returns_bind, returns_mul, returns_ite, returns_pure, Fits]
      refine ⟨by omega, ?_, ?_⟩
      · intro _
        omega
      · intro _
        apply (ih (by omega) (by omega)).mono
        intro j hj
        omega

/-- The logarithm of the step stays between zero and its limit. -/
theorem adapt_returns {weight : ℤ} (hnb : nb ∈ Set.Icc 0 limit) (hlimit : limit ≤ 22528)
    (hweight : weight.natAbs ≤ 3042) :
  Returns (adapt nb weight limit) fun nb => nb ∈ Set.Icc 0 limit
  := by
  rw [Set.mem_Icc] at hnb
  simp only [adapt, returns_bind, returns_mul, returns_add, returns_pure, Fits, shr, Set.mem_Icc]
  refine ⟨by omega, by omega, ?_⟩
  split
  · omega
  · split
    · omega
    · omega

/-- A scale factor that is shifted to the right. -/
theorem shr_mem {v : ℤ} {offset k : ℕ} (hv : v ∈ Set.Icc 2048 4008) (hk : k ≤ offset) :
  shr v k ∈ Set.Icc (2048 / 2 ^ offset) 4008
  := by
  rw [Set.mem_Icc] at hv
  rw [shr]
  have hpos : ∀ n, (0 : ℤ) < 2 ^ n := fun n => pow_pos (by decide) n
  constructor
  · rw [Int.le_ediv_iff_mul_le (hpos k)]
    calc (2048 : ℤ) / 2 ^ offset * 2 ^ k
        ≤ 2048 / 2 ^ offset * 2 ^ offset := by
          apply Int.mul_le_mul_of_nonneg_left
          · apply pow_le_pow_right₀ (by decide) hk
          · apply Int.ediv_nonneg (by decide) (hpos offset).le
      _ ≤ 2048 := Int.ediv_mul_le _ (hpos offset).ne'
      _ ≤ v := hv.1
  · apply (Int.ediv_le_self _ (by omega)).trans hv.2

/-- The scale factor of a logarithm that is at most one step of the shift above the offset. -/
theorem scaleFactor_returns {offset : ℕ} (hoffset : offset ≤ 10)
    (hnb : nb ∈ Set.Icc 0 (((offset : ℤ) + 1) * 2048)) :
  Returns (scaleFactor offset nb) fun det : ℤ =>
    det ∈ Set.Icc (4 * (2048 / 2 ^ offset)) 16384
  := by
  rw [Set.mem_Icc] at hnb
  have hmask : Word.and32 (shr nb 6) 31 = shr nb 6 % 32 := by
    have h := Word.and32_mask (shr nb 6) (by decide : 5 ≤ 31)
    simpa using h
  have hlow : (2048 : ℤ) / 2 ^ offset ≤ 2048 := Int.ediv_le_self _ (by decide)
  have hnonneg : (0 : ℤ) ≤ 2048 / 2 ^ offset :=
    Int.ediv_nonneg (by decide) (pow_pos (by decide) offset).le
  simp only [scaleFactor, returns_bind, returns_sub, Fits, hmask]
  refine ⟨by rw [shr]; omega, ?_⟩
  by_cases hstep : (offset : ℤ) - shr nb 11 < 0
  · have hnb' : nb = ((offset : ℤ) + 1) * 2048 := by
      rw [shr] at hstep
      omega
    have hentry : ∀ v ∈ (g722ILB.take 1).drop 0, v = 2048 := by decide
    apply (returns_index 0 1 _ _ (by decide) hentry).mono
    · rintro v rfl
      rw [if_pos hstep]
      simp only [returns_bind, returns_neg, Fits]
      refine ⟨by rw [shr]; omega, ?_⟩
      apply returns_amount
      · omega
      · rw [shr]
        omega
      · have hone : (-((offset : ℤ) - shr nb 11)).toNat = 1 := by
          rw [shr]
          omega
        rw [hone]
        simp only [returns_shl, Fits, Set.mem_Icc]
        omega
    · rw [shr]
      omega
    · rw [shr]
      omega
  · have hentry : ∀ v ∈ (g722ILB.take 32).drop 0, v ∈ Set.Icc 2048 4008 := by
      simp only [Set.mem_Icc]
      decide
    apply (returns_index 0 32 _ _ (by decide) hentry).mono
    · intro v hv
      rw [if_neg hstep]
      simp only [returns_bind]
      apply returns_amount
      · omega
      · rw [shr]
        omega
      · have hk : ((offset : ℤ) - shr nb 11).toNat ≤ offset := by
          rw [shr]
          omega
        have hmem := shr_mem hv hk
        rw [Set.mem_Icc] at hmem
        simp only [returns_pure, returns_shl, Fits, Set.mem_Icc]
        omega
    · omega
    · omega

/-! ### The bands -/

/-- The scale factor is adapted, and the predictor works on the quantized error. -/
theorem adapted_returns (offset : ℕ) {weight : ℤ} {Q : Band → Prop} (hoffset : offset ≤ 10)
    (h : b.InRange (((offset : ℤ) + 1) * 2048) (4 * (2048 / 2 ^ offset)))
    (hweight : weight.natAbs ≤ 3042) (hd : d ∈ int16Range)
    (hQ : ∀ b : Band, b.InRange (((offset : ℤ) + 1) * 2048) (4 * (2048 / 2 ^ offset)) → Q b) :
  Returns (adapt b.nb weight (((offset : ℤ) + 1) * 2048)) fun nb =>
    Returns (scaleFactor offset nb) fun det =>
      Returns (block4 { b with nb := nb, det := det } d) Q
  := by
  apply (adapt_returns h.nb (by omega) hweight).mono
  intro nb hnb
  apply (scaleFactor_returns hoffset hnb).mono
  intro det hdet
  apply Returns.mono (block4_returns _ hd) hQ
  exact { h with nb := hnb, det := hdet }

/-- A sample of the lower band is coded by a number that is at least four, as the lowest codes are
not used. -/
theorem encodeLow_returns {xlow : ℤ} (h : b.InRange 18432 32) (hx : |xlow| ≤ 2 ^ 30) :
  Returns (encodeLow b xlow) fun coded =>
    coded.1.InRange 18432 32 ∧ coded.2 ∈ Set.Icc 4 63
  := by
  have hs := h.s
  have hdet := h.det
  rw [int16Range, Set.mem_Icc] at hs
  rw [Set.mem_Icc] at hdet
  rw [abs_le] at hx
  have hILP : ∀ v ∈ (g722ILP.take 31).drop 1, v ∈ Set.Icc 4 63 := by
    simp only [Set.mem_Icc]
    decide
  have hILN : ∀ v ∈ (g722ILN.take 31).drop 1, v ∈ Set.Icc 4 63 := by
    simp only [Set.mem_Icc]
    decide
  have hQM4 : ∀ v ∈ (g722QM4.take 16).drop 1, v.natAbs ≤ 20456 := by decide
  have hRL42 : ∀ v ∈ (g722RL42.take 16).drop 1, 0 ≤ v ∧ v < 8 := by decide
  have hWL : ∀ v ∈ (g722WL.take 8).drop 0, v.natAbs ≤ 3042 := by decide
  simp only [encodeLow, returns_bind, returns_sub, Fits]
  refine ⟨by omega, ?_⟩
  apply (magnitude_returns (g722Saturate_mem _)).mono
  intro wd _
  apply (level_returns (Set.mem_Icc.mpr ⟨by omega, hdet.2⟩) (by decide) (by decide)).mono
  rintro i ⟨hi, hi'⟩
  apply (returns_index 1 31 hi (by omega) (by decide) hILP).mono
  intro ilow hilow
  have hcode : ∀ c [Decidable c], Returns (if c then index g722ILN i else pure ilow) fun ilow =>
      ilow ∈ Set.Icc 4 63 := by
    intro c _
    rw [returns_ite]
    constructor
    · intro _
      apply returns_index 1 31 hi (by omega) (by decide) hILN
    · intro _
      rw [returns_pure]
      apply hilow
  apply (hcode _).mono
  intro ilow hilow
  have hril : 1 ≤ shr ilow 2 ∧ shr ilow 2 < 16 := by
    rw [Set.mem_Icc] at hilow
    rw [shr]
    omega
  apply (returns_index 1 16 hril.1 hril.2 (by decide) hQM4).mono
  intro step hstep
  have hproduct : (b.det * step).natAbs ≤ 16384 * 20456 := natAbs_mul_le (by omega) hstep
  have hdlow : shr (b.det * step) 15 ∈ int16Range := by
    rw [shr, int16Range, Set.mem_Icc]
    omega
  simp only [returns_mul, Fits]
  refine ⟨by omega, ?_⟩
  apply (returns_index 1 16 hril.1 hril.2 (by decide) hRL42).mono
  rintro il4 ⟨hil4, hil4'⟩
  apply (returns_index 0 8 hil4 hil4' (by decide) hWL).mono
  intro weight hweight
  apply adapted_returns 8 (by decide) h hweight hdlow
  intro b h
  rw [returns_pure]
  exact ⟨h, hilow⟩

/-- A sample of the upper band is coded in two bits. -/
theorem encodeHigh_returns {xhigh : ℤ} (h : b.InRange 22528 8) (hx : |xhigh| ≤ 2 ^ 30) :
  Returns (encodeHigh b xhigh) fun coded =>
    coded.1.InRange 22528 8 ∧ coded.2 ∈ Set.Icc 0 3
  := by
  have hs := h.s
  have hdet := h.det
  rw [int16Range, Set.mem_Icc] at hs
  rw [Set.mem_Icc] at hdet
  rw [abs_le] at hx
  have hIHP : ∀ v ∈ (g722IHP.take 3).drop 1, v ∈ Set.Icc 0 3 := by
    simp only [Set.mem_Icc]
    decide
  have hIHN : ∀ v ∈ (g722IHN.take 3).drop 1, v ∈ Set.Icc 0 3 := by
    simp only [Set.mem_Icc]
    decide
  have hQM2 : ∀ v ∈ (g722QM2.take 4).drop 0, v.natAbs ≤ 7408 := by decide
  have hRH2 : ∀ v ∈ (g722RH2.take 4).drop 0, 1 ≤ v ∧ v < 3 := by decide
  have hWH : ∀ v ∈ (g722WH.take 3).drop 1, v.natAbs ≤ 3042 := by decide
  simp only [encodeHigh, returns_bind, returns_sub, returns_mul, Fits]
  refine ⟨by omega, ?_⟩
  apply (magnitude_returns (g722Saturate_mem _)).mono
  intro wd _
  refine ⟨by omega, ?_⟩
  have hmih : ∀ c [Decidable c], ((1 : ℕ) : ℤ) ≤ (if c then 2 else 1) ∧
      (if c then (2 : ℤ) else 1) < (3 : ℕ) := by
    intro c _
    split
    · decide
    · decide
  apply (returns_index 1 3 (hmih _).1 (hmih _).2 (by decide) hIHP).mono
  intro ihigh hihigh
  have hcode : ∀ c [Decidable c] i, ((1 : ℕ) : ℤ) ≤ i ∧ i < (3 : ℕ) →
      Returns (if c then index g722IHN i else pure ihigh) fun ihigh => ihigh ∈ Set.Icc 0 3 := by
    rintro c _ i ⟨hi, hi'⟩
    rw [returns_ite]
    constructor
    · intro _
      apply returns_index 1 3 hi hi' (by decide) hIHN
    · intro _
      rw [returns_pure]
      apply hihigh
  apply (hcode _ _ (hmih _)).mono
  intro ihigh hihigh
  have hlow : ((0 : ℕ) : ℤ) ≤ ihigh ∧ ihigh < (4 : ℕ) := by
    rw [Set.mem_Icc] at hihigh
    omega
  apply (returns_index 0 4 hlow.1 hlow.2 (by decide) hQM2).mono
  intro step hstep
  have hproduct : (b.det * step).natAbs ≤ 16384 * 7408 := natAbs_mul_le (by omega) hstep
  have hdhigh : shr (b.det * step) 15 ∈ int16Range := by
    rw [shr, int16Range, Set.mem_Icc]
    omega
  refine ⟨by omega, ?_⟩
  apply (returns_index 0 4 hlow.1 hlow.2 (by decide) hRH2).mono
  rintro ih2 ⟨hih2, hih2'⟩
  apply (returns_index 1 3 hih2 hih2' (by decide) hWH).mono
  intro weight hweight
  apply adapted_returns 10 (by decide) h hweight hdhigh
  intro b h
  rw [returns_pure]
  exact ⟨h, hihigh⟩

/-! ### Samples -/

/-- The state of the encoder is in bounds. -/
structure G722Encoder.InRange (e : G722Encoder) : Prop where
  x : Every (fun x => x ∈ int16Range) e.x
  band0 : e.band0.InRange 18432 32
  band1 : e.band1.InRange 22528 8

/-- Two samples are shifted into the filter. -/
theorem receive_every {x : Vector ℤ 24} (h : Every (fun x => x ∈ int16Range) x)
    (first second : Int16) :
  Every (fun x => x ∈ int16Range) (receive x first second)
  := by
  have hsample : ∀ sample : Int16, sample.toInt ∈ int16Range := by
    intro sample
    have hlow := sample.le_toInt
    have hhigh := sample.toInt_lt
    rw [int16Range, Set.mem_Icc]
    omega
  rw [receive]
  apply Every.set _ 23 (hsample second)
  apply Every.set _ 22 (hsample first)
  intro i
  rw [Fin.getElem_fin, Vector.getElem_ofFn]
  split
  · rename_i hi
    apply h ⟨i.val + 2, Nat.add_lt_add_right hi 2⟩
  · apply h i

/-- An entry of the filter. -/
def tap (i : Fin 12) : ℤ :=
  g722QMF.get i

/-- The coefficients of the filter are used once forwards and once backwards. -/
theorem index_tap (i : Fin 12) :
  index g722QMF i.val = some (tap i) ∧ index g722QMF (11 - i.val) = some (tap i.rev)
  := by
  revert i
  decide

/-- The sums of the filter are far from an overflow. -/
theorem split_returns {x : Vector ℤ 24} (h : Every (fun x => x ∈ int16Range) x) :
  Returns (split x) fun sums => |sums.1| ≤ 32768 * 6482 ∧ |sums.2| ≤ 32768 * 6482
  := by
  apply (returns_foldlM (fun items (sums : ℤ × ℤ) =>
    sums.1.natAbs + 32768 * (items.map fun i => (tap i).natAbs).sum ≤ 32768 * 6482 ∧
      sums.2.natAbs + 32768 * (items.map fun i : Fin 12 => (tap i.rev).natAbs).sum ≤
        32768 * 6482) _ _).mono
  · intro sums hsums
    rw [abs_le, abs_le]
    simp only [List.map_nil, List.sum_nil] at hsums
    omega
  · decide
  · intro sums i rest hsums
    obtain ⟨hodd, heven⟩ := index_tap i
    have hx : ∀ j : Fin 24, (x[j.val]).natAbs ≤ 32768 := by
      intro j
      have hj := h j
      rw [int16Range, Set.mem_Icc, Fin.getElem_fin] at hj
      omega
    have hmul := natAbs_mul_le (hx ⟨2 * i.val, by omega⟩) (le_refl (tap i).natAbs)
    have hmul' := natAbs_mul_le (hx ⟨2 * i.val + 1, by omega⟩) (le_refl (tap i.rev).natAbs)
    dsimp only at hmul hmul'
    simp only [List.map_cons, List.sum_cons] at hsums
    simp only [hodd, heven, returns_bind, returns_some, returns_mul, returns_add, returns_pure,
      Fits]
    omega

/-- The byte that is written ends with the code of the low band. -/
theorem code_mod (ihigh : Fin 4) (ilow : Fin 64) :
  (Word.toByte (Word.or32 ((ihigh.val : ℤ) * 2 ^ 6) ilow.val)).toNat % 64 = ilow.val
  := by
  revert ihigh ilow
  decide +kernel

/-- The code of the lower band is in the lower six bits. -/
theorem le_code_mod {ihigh ilow : ℤ} (hihigh : ihigh ∈ Set.Icc 0 3) (hilow : ilow ∈ Set.Icc 4 63) :
  4 ≤ (Word.toByte (Word.or32 (ihigh * 2 ^ 6) ilow)).toNat % 64
  := by
  rw [Set.mem_Icc] at hihigh hilow
  have hcode := code_mod ⟨ihigh.toNat, by omega⟩ ⟨ilow.toNat, by omega⟩
  dsimp only at hcode
  rw [Int.toNat_of_nonneg hihigh.1, Int.toNat_of_nonneg (by omega)] at hcode
  rw [hcode]
  omega

/-- The code of two samples leaves the encoder in bounds. -/
theorem encodePair_returns {e : G722Encoder} (h : e.InRange) (first second : Int16) :
  Returns (encodePair e first second) fun coded =>
    coded.encoder.InRange ∧ 4 ≤ coded.byte.toNat % 64
  := by
  have hx := receive_every h.x first second
  simp only [encodePair, returns_bind]
  apply (split_returns hx).mono
  rintro ⟨sumOdd, sumEven⟩ ⟨hodd, heven⟩
  dsimp only at hodd heven ⊢
  rw [abs_le] at hodd heven
  simp only [returns_add, returns_sub, Fits]
  refine ⟨by omega, by omega, ?_⟩
  have hxlow : |shr (sumEven + sumOdd) 14| ≤ 2 ^ 30 := by
    rw [abs_le, shr]
    omega
  have hxhigh : |shr (sumEven - sumOdd) 14| ≤ 2 ^ 30 := by
    rw [abs_le, shr]
    omega
  apply (encodeLow_returns h.band0 hxlow).mono
  rintro ⟨band0, ilow⟩ ⟨hband0, hilow⟩
  apply (encodeHigh_returns h.band1 hxhigh).mono
  rintro ⟨band1, ihigh⟩ ⟨hband1, hihigh⟩
  dsimp only at hband0 hband1 hilow hihigh ⊢
  have hbyte := le_code_mod hihigh hilow
  rw [Set.mem_Icc] at hihigh
  simp only [returns_shl, returns_pure, Fits]
  exact ⟨by omega, ⟨hx, hband0, hband1⟩, hbyte⟩

/-- So does each call. -/
theorem encodeFrom_returns {e : G722Encoder} (h : e.InRange) (dst : List UInt8) (out : ℕ)
    (samples : List Int16) :
  Returns (encodeFrom e dst out samples) fun encoded => encoded.encoder.InRange ∧
    ∀ coded ∈ encoded.coded, coded.encoder.InRange ∧ 4 ≤ coded.byte.toNat % 64
  := by
  induction samples using List.twoStepInduction generalizing e dst out with
  | nil =>
      rw [encodeFrom, returns_pure]
      · exact ⟨h, List.forall_mem_nil _⟩
      · intro _ _ _ hsamples
        cases hsamples
  | singleton sample =>
      rw [encodeFrom, returns_pure]
      · exact ⟨h, List.forall_mem_nil _⟩
      · intro _ _ _ hsamples
        cases hsamples
  | cons_cons first second samples ih _ =>
      rw [encodeFrom]
      split
      · simp only [returns_bind]
        apply (encodePair_returns h first second).mono
        rintro coded ⟨hcoded, hbyte⟩
        apply (ih hcoded _ _).mono
        rintro rest ⟨hrest, hall⟩
        rw [returns_pure]
        exact ⟨hrest, List.forall_mem_cons.mpr ⟨⟨hcoded, hbyte⟩, hall⟩⟩
      · rw [returns_pure]
        exact ⟨h, List.forall_mem_nil _⟩

/-- A new band is in range. -/
theorem newBand_inRange {limit low det : ℤ} (hlimit : 0 ≤ limit) (hdet : det ∈ Set.Icc low 16384) :
  (newBand det).InRange limit low
  := by
  have hzero : (0 : ℤ) ∈ int16Range := by
    rw [int16Range, Set.mem_Icc]
    decide
  have hevery : ∀ n, Every (fun v => v ∈ int16Range) (Vector.replicate n (0 : ℤ)) := by
    intro n i
    rw [Fin.getElem_fin, Vector.getElem_replicate]
    apply hzero
  have hpoles : Poles (Vector.replicate 3 0) := by
    rw [Poles]
    decide
  constructor
  · apply hzero
  · apply hzero
  · apply hzero
  · apply hevery
  · apply hevery
  · apply hevery
  · apply hevery
  · apply hevery
  · apply hpoles
  · exact ⟨le_refl 0, hlimit⟩
  · apply hdet

/-- A whole stream is encoded without a panic, and every byte is one of G.722. -/
theorem encodeAll_returns {e : G722Encoder} (h : e.InRange)
    (calls : List (List UInt8 × List Int16)) :
  Returns (encodeAll e calls) fun all =>
    ∀ coded ∈ all, coded.encoder.InRange ∧ 4 ≤ coded.byte.toNat % 64
  := by
  induction calls generalizing e with
  | nil =>
      rw [encodeAll, returns_pure]
      apply List.forall_mem_nil
  | cons call calls ih =>
      rw [encodeAll, returns_bind]
      apply (encodeFrom_returns h call.1 0 call.2).mono
      rintro encoded ⟨hencoded, hfirst⟩
      rw [returns_bind]
      apply (ih hencoded).mono
      intro coded hrest
      rw [returns_pure, List.forall_mem_append]
      exact ⟨hfirst, hrest⟩

/-- No operation of the encoder faults in any sequence of calls, and its state is in bounds after
each two samples. -/
theorem encodeAll_inRange (calls : List (List UInt8 × List Int16)) :
  Returns (encodeAll NewG722Encoder calls) fun all =>
    ∀ coded ∈ all, coded.encoder.InRange ∧ 4 ≤ coded.byte.toNat % 64
  := by
  apply encodeAll_returns
  constructor
  · intro i
    rw [NewG722Encoder, Fin.getElem_fin, Vector.getElem_replicate, int16Range, Set.mem_Icc]
    decide
  · apply newBand_inRange (by decide)
    rw [Set.mem_Icc]
    decide
  · apply newBand_inRange (by decide)
    rw [Set.mem_Icc]
    decide

end JetKvm.Audio
