import JetKvm.Library.Checked
import JetKvm.Library.Word

/-!
# The G.722 encoder

Two samples at a time are split into a low and a high band, each of which is predicted and the
error of the prediction quantized. All arithmetic is on signed integers of 32 bits, and faults when
a result is out of range.
-/

namespace JetKvm.Audio

open Checked

/-! ### Tables -/

def g722Q6 : List ℤ :=
  [0, 35, 72, 110, 150, 190, 233, 276,
    323, 370, 422, 473, 530, 587, 650, 714,
    786, 858, 940, 1023, 1121, 1219, 1339, 1458,
    1612, 1765, 1980, 2195, 2557, 2919, 0, 0]

def g722ILN : List ℤ :=
  [0, 63, 62, 31, 30, 29, 28, 27,
    26, 25, 24, 23, 22, 21, 20, 19,
    18, 17, 16, 15, 14, 13, 12, 11,
    10, 9, 8, 7, 6, 5, 4, 0]

def g722ILP : List ℤ :=
  [0, 61, 60, 59, 58, 57, 56, 55,
    54, 53, 52, 51, 50, 49, 48, 47,
    46, 45, 44, 43, 42, 41, 40, 39,
    38, 37, 36, 35, 34, 33, 32, 0]

def g722WL : List ℤ :=
  [-60, -30, 58, 172, 334, 538, 1198, 3042]

def g722RL42 : List ℤ :=
  [0, 7, 6, 5, 4, 3, 2, 1,
    7, 6, 5, 4, 3, 2, 1, 0]

def g722ILB : List ℤ :=
  [2048, 2093, 2139, 2186, 2233, 2282, 2332, 2383,
    2435, 2489, 2543, 2599, 2656, 2714, 2774, 2834,
    2896, 2960, 3025, 3091, 3158, 3228, 3298, 3371,
    3444, 3520, 3597, 3676, 3756, 3838, 3922, 4008]

def g722QM4 : List ℤ :=
  [0, -20456, -12896, -8968,
    -6288, -4240, -2584, -1200,
    20456, 12896, 8968, 6288,
    4240, 2584, 1200, 0]

def g722QM2 : List ℤ :=
  [-7408, -1616, 7408, 1616]

def g722QMF : List ℤ :=
  [3, -11, 12, 32, -210, 951, 3876, -805, 362, -156, 53, -11]

def g722IHN : List ℤ :=
  [0, 1, 0]

def g722IHP : List ℤ :=
  [0, 3, 2]

def g722WH : List ℤ :=
  [0, -214, 798]

def g722RH2 : List ℤ :=
  [2, 1, 2, 1]

/-! ### The state -/

/-- The state of a band. -/
structure Band where
  s : ℤ
  sp : ℤ
  sz : ℤ
  r : Vector ℤ 3
  a : Vector ℤ 3
  ap : Vector ℤ 3
  p : Vector ℤ 3
  d : Vector ℤ 7
  b : Vector ℤ 7
  bp : Vector ℤ 7
  sg : Vector ℤ 7
  nb : ℤ
  det : ℤ
deriving DecidableEq, Repr

structure G722Encoder where
  x : Vector ℤ 24
  band0 : Band
  band1 : Band
deriving DecidableEq, Repr

/-- A band with zeros everywhere but in the scale factor. -/
def newBand (det : ℤ) : Band where
  s := 0
  sp := 0
  sz := 0
  r := .replicate 3 0
  a := .replicate 3 0
  ap := .replicate 3 0
  p := .replicate 3 0
  d := .replicate 7 0
  b := .replicate 7 0
  bp := .replicate 7 0
  sg := .replicate 7 0
  nb := 0
  det := det

def NewG722Encoder : G722Encoder where
  x := .replicate 24 0
  band0 := newBand 32
  band1 := newBand 8

def g722Saturate (v : ℤ) : ℤ :=
  if v > 32767 then 32767 else if v < -32768 then -32768 else v

/-- The number, with its sign changed when the condition holds. -/
def negateIf (c : Prop) [Decidable c] (v : ℤ) : Option ℤ :=
  if c then neg v else pure v

/-- The number, or the bound that it is beyond. -/
def clamp (low high v : ℤ) : ℤ :=
  if v > high then high else if v < low then low else v

/-! ### The predictor

The parts of `block4`, in the order of the source. -/

/-- The reconstructed signals. -/
def reconstruct (b : Band) (d : ℤ) : Option Band := do
  let r ← add b.s d
  let p ← add b.sz d
  pure { b with
    d := b.d.set 0 d
    r := b.r.set 0 (g722Saturate r)
    p := b.p.set 0 (g722Saturate p) }

/-- The signs of the partially reconstructed signals. -/
def signs (b : Band) : Band :=
  ([0, 1, 2] : List (Fin 3)).foldl
    (fun b (i : Fin 3) => { b with sg := b.sg.set (i.castLE (by decide) : Fin 7) (shr b.p[i] 15) }) b

/-- The second coefficient of the poles. -/
def pole2 (b : Band) : Option Band := do
  let wd1 := g722Saturate (← shl b.a[1] 2)
  let wd2 ← negateIf (b.sg[0] = b.sg[1]) wd1
  let wd2 := if wd2 > 32767 then 32767 else wd2
  let wd3 := shr wd2 7
  let wd3 ← (if b.sg[0] = b.sg[2] then add wd3 128 else sub wd3 128)
  let wd3 ← add wd3 (shr (← mul b.a[2] 32512) 15)
  pure { b with ap := b.ap.set 2 (clamp (-12288) 12288 wd3) }

/-- The first coefficient of the poles. -/
def pole1 (b : Band) : Option Band := do
  let sg0 := shr b.p[0] 15
  let sg1 := shr b.p[1] 15
  let wd1 : ℤ := if sg0 = sg1 then 192 else -192
  let wd2 := shr (← mul b.a[1] 32640) 15
  let ap1 := g722Saturate (← add wd1 wd2)
  let wd3 := g722Saturate (← sub 15360 b.ap[2])
  pure { b with
    ap := b.ap.set 1 (clamp (← neg wd3) wd3 ap1)
    sg := (b.sg.set 0 sg0).set 1 sg1 }

/-- The coefficients of the zeros. -/
def zeros (b : Band) (d : ℤ) : Option Band :=
  let wd1 : ℤ := if d ≠ 0 then 128 else 0
  ([1, 2, 3, 4, 5, 6] : List (Fin 7)).foldlM
    (fun b (i : Fin 7) => do
      let sg := shr b.d[i] 15
      let wd2 ← negateIf (sg ≠ b.sg[0]) wd1
      let wd3 := shr (← mul b.b[i] 32640) 15
      let bp ← add wd2 wd3
      pure { b with sg := b.sg.set i sg, bp := b.bp.set i (g722Saturate bp) })
    { b with sg := b.sg.set 0 (shr d 15) }

/-- The differences and the coefficients of the zeros are moved on. -/
def delayZeros (b : Band) : Band :=
  ([6, 5, 4, 3, 2, 1] : List (Fin 7)).foldl
    (fun b (i : Fin 7) => { b with d := b.d.set i b.d[i - 1], b := b.b.set i b.bp[i] }) b

/-- The reconstructed signals and the coefficients of the poles are moved on. -/
def delayPoles (b : Band) : Band :=
  ([2, 1] : List (Fin 3)).foldl
    (fun b (i : Fin 3) =>
      { b with r := b.r.set i b.r[i - 1], p := b.p.set i b.p[i - 1], a := b.a.set i b.ap[i] }) b

/-- The signal that is expected from the poles. -/
def predictPoles (b : Band) : Option Band := do
  let wd1 := g722Saturate (← add b.r[1] b.r[1])
  let wd1 := shr (← mul b.a[1] wd1) 15
  let wd2 := g722Saturate (← add b.r[2] b.r[2])
  let wd2 := shr (← mul b.a[2] wd2) 15
  let sp ← add wd1 wd2
  pure { b with sp := g722Saturate sp }

/-- The signal that is expected from the zeros. -/
def predictZeros (b : Band) : Option Band := do
  let sz ← ([6, 5, 4, 3, 2, 1] : List (Fin 7)).foldlM
    (fun sz (i : Fin 7) => do
      let wd1 := g722Saturate (← add b.d[i] b.d[i])
      add sz (shr (← mul b.b[i] wd1) 15)) 0
  let s ← add b.sp (g722Saturate sz)
  pure { b with sz := g722Saturate sz, s := g722Saturate s }

def block4 (b : Band) (d : ℤ) : Option Band := do
  let b ← reconstruct b d
  let b ← pole2 (signs b)
  let b ← pole1 b
  let b ← zeros b d
  let b ← predictPoles (delayPoles (delayZeros b))
  predictZeros b

/-! ### The quantizers -/

/-- What an error is compared with. -/
def magnitude (el : ℤ) : Option ℤ :=
  if el < 0 then do
    neg (← add el 1)
  else pure el

/-- The first level above the error, from a level on. -/
def level (det wd : ℤ) : (levels : ℕ) → (i : ℤ) → Option ℤ
  | 0, i => pure i
  | levels + 1, i => do
      let product ← mul (← index g722Q6 i) det
      if wd < shr product 12 then pure i else level det wd levels (i + 1)

/-- The logarithm of the scale factor. -/
def adapt (nb weight limit : ℤ) : Option ℤ := do
  let wd := shr (← mul nb 127) 7
  let nb ← add wd weight
  pure (if nb < 0 then 0 else if nb > limit then limit else nb)

/-- The scale factor of a logarithm. -/
def scaleFactor (offset nb : ℤ) : Option ℤ := do
  let wd1 := Word.and32 (shr nb 6) 31
  let wd2 ← sub offset (shr nb 11)
  let wd3 ← index g722ILB wd1
  let wd3 ← (if wd2 < 0 then do shl wd3 (← amount (← neg wd2))
    else do pure (shr wd3 (← amount wd2)))
  shl wd3 2

/-- A band and the code of a signal. -/
def encodeLow (b : Band) (xlow : ℤ) : Option (Band × ℤ) := do
  let el := g722Saturate (← sub xlow b.s)
  let wd ← magnitude el
  let i ← level b.det wd 29 1
  let ilow ← index g722ILP i
  let ilow ← (if el < 0 then index g722ILN i else pure ilow)
  let ril := shr ilow 2
  let dlow := shr (← mul b.det (← index g722QM4 ril)) 15
  let il4 ← index g722RL42 ril
  let nb ← adapt b.nb (← index g722WL il4) 18432
  let det ← scaleFactor 8 nb
  let b ← block4 { b with nb := nb, det := det } dlow
  pure (b, ilow)

def encodeHigh (b : Band) (xhigh : ℤ) : Option (Band × ℤ) := do
  let eh := g722Saturate (← sub xhigh b.s)
  let wd ← magnitude eh
  let mih := if wd ≥ shr (← mul 564 b.det) 12 then 2 else 1
  let ihigh ← index g722IHP mih
  let ihigh ← (if eh < 0 then index g722IHN mih else pure ihigh)
  let dhigh := shr (← mul b.det (← index g722QM2 ihigh)) 15
  let ih2 ← index g722RH2 ihigh
  let nb ← adapt b.nb (← index g722WH ih2) 22528
  let det ← scaleFactor 10 nb
  let b ← block4 { b with nb := nb, det := det } dhigh
  pure (b, ihigh)

/-! ### Samples -/

/-- Two samples come after the others. -/
def receive (x : Vector ℤ 24) (first second : Int16) : Vector ℤ 24 :=
  let x := Vector.ofFn fun i : Fin 24 => if h : i.val < 22 then x[i.val + 2] else x[i]
  (x.set 22 first.toInt).set 23 second.toInt

/-- The sums over the odd and the even samples. -/
def split (x : Vector ℤ 24) : Option (ℤ × ℤ) :=
  (List.finRange 12).foldlM
    (fun sums i => do
      let sumOdd ← add sums.1 (← mul x[2 * i.val] (← index g722QMF i.val))
      let sumEven ← add sums.2 (← mul x[2 * i.val + 1] (← index g722QMF (11 - i.val)))
      pure (sumOdd, sumEven))
    (0, 0)

/-- What has become of two samples: the byte that is written, and the encoder. -/
structure Coded where
  byte : UInt8
  encoder : G722Encoder
deriving DecidableEq, Repr

/-- The code of two samples. -/
def encodePair (e : G722Encoder) (first second : Int16) : Option Coded := do
  let x := receive e.x first second
  let sums ← split x
  let xlow := shr (← add sums.2 sums.1) 14
  let xhigh := shr (← sub sums.2 sums.1) 14
  let low ← encodeLow e.band0 xlow
  let high ← encodeHigh e.band1 xhigh
  let code := Word.or32 (← shl high.2 6) low.2
  pure ⟨Word.toByte code, ⟨x, low.1, high.1⟩⟩

/-- What a call leaves: the encoder, the buffer, the number of bytes that have been written, and
what has become of each two samples. -/
structure Encoded where
  encoder : G722Encoder
  dst : List UInt8
  out : ℕ
  coded : List Coded
deriving DecidableEq, Repr

/-- The rest of the samples, when a number of bytes has been written. -/
def encodeFrom (e : G722Encoder) (dst : List UInt8) (out : ℕ) : List Int16 → Option Encoded
  | first :: second :: samples =>
      if out < dst.length then do
        let coded ← encodePair e first second
        let rest ← encodeFrom coded.encoder (dst.set out coded.byte) (out + 1) samples
        pure { rest with coded := coded :: rest.coded }
      else pure ⟨e, dst, out, []⟩
  | _ => pure ⟨e, dst, out, []⟩

def Encode (e : G722Encoder) (dst : List UInt8) (samples : List Int16) : Option Encoded :=
  encodeFrom e dst 0 samples

/-- One call after the other, with what has become of each two samples. -/
def encodeAll (e : G722Encoder) : List (List UInt8 × List Int16) → Option (List Coded)
  | [] => pure []
  | (dst, samples) :: calls => do
      let encoded ← Encode e dst samples
      let coded ← encodeAll encoded.encoder calls
      pure (encoded.coded ++ coded)

end JetKvm.Audio
