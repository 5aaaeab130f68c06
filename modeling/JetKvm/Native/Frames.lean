import JetKvm.Library.Framing
import JetKvm.Library.Word

/-!
# Video frames between the processes

The native process writes each video frame to a socket, its length in front. `handleVideoFrame`
reads the frames in the other process, in whatever pieces the socket hands them over, and leaves the
connection at the first length that is zero or too large. Of the frames that were written, the ones
before it are delivered, each once it has arrived in full.
-/

namespace JetKvm.Native

/-! ### The writer -/

/-- `binary.LittleEndian.PutUint32`. -/
def putUint32 (n : UInt32) : List UInt8 :=
  Word.littleEndianBytes 4 n.toNat

/-- What `OnVideoFrameReceived` writes for a frame. -/
def writeFrame (frame : List UInt8) : List UInt8 :=
  putUint32 (UInt32.ofNat frame.length) ++ frame

/-! ### The reader -/

def maxFrameSize : ℕ := 1920 * 1080 / 2

inductive ReadError where
  | eof
  | unexpectedEOF
deriving DecidableEq, Repr

/-- `io.ReadFull` of some bytes. Each `Read` finds the next chunk, and what it does not take of it is
left for the next one. -/
def readFull : ℕ → List (List UInt8) → Except ReadError (List UInt8) × List (List UInt8)
  | size, [] => (if size = 0 then .ok [] else .error .eof, [])
  | size, chunk :: conn =>
      if size ≤ chunk.length then (.ok (chunk.take size), chunk.drop size :: conn)
      else
        match readFull (size - chunk.length) conn with
        | (.ok rest, conn) => (.ok (chunk ++ rest), conn)
        | (.error err, conn) => (.error (if chunk.length = 0 then err else .unexpectedEOF), conn)

/-- `binary.LittleEndian.Uint32`. -/
def uint32 (bytes : List UInt8) : UInt32 :=
  UInt32.ofNat (Word.littleEndian bytes)

/-- Why the loop is left, the first of which is not logged. -/
inductive LoopEnd where
  | eof
  | readFrameSize
  | invalidFrameSize
  | readFrame
deriving DecidableEq, Repr

/-- The frames that are delivered in so many turns of the loop at most, and why it is left. -/
def frameLoop : ℕ → List (List UInt8) → List (List UInt8) × LoopEnd
  | 0, _ => ([], .eof)
  | n + 1, conn =>
      match readFull 4 conn with
      | (.error .eof, _) => ([], .eof)
      | (.error .unexpectedEOF, _) => ([], .readFrameSize)
      | (.ok frameSizeBuffer, conn) =>
          let frameSize := (uint32 frameSizeBuffer).toNat
          if frameSize = 0 ∨ frameSize > maxFrameSize then ([], .invalidFrameSize)
          else
            match readFull frameSize conn with
            | (.error _, _) => ([], .readFrame)
            | (.ok frame, conn) => (frame :: (frameLoop n conn).1, (frameLoop n conn).2)

/-- The frames that are delivered from a connection, and why they end. The loop has no more turns
than there are bytes. -/
def handleVideoFrame (conn : List (List UInt8)) : List (List UInt8) × LoopEnd :=
  frameLoop conn.flatten.length conn

/-! ### The format -/

/-- A frame that is delivered. -/
def Deliverable (frame : List UInt8) : Prop :=
  frame.length ≠ 0 ∧ frame.length ≤ maxFrameSize

instance (frame : List UInt8) : Decidable (Deliverable frame) :=
  inferInstanceAs (Decidable (_ ∧ _))

/-- The frames of the socket, whose length is four bytes and neither zero nor too large. -/
def videoFraming : Framing UInt8 where
  width := 4
  width_pos := by decide
  size header :=
    if (uint32 header).toNat = 0 ∨ (uint32 header).toNat > maxFrameSize then none
    else some (uint32 header).toNat

/-- What is logged when there are no more frames. -/
def loopEnd : Framing.Stop → LoopEnd
  | .ended => .eof
  | .headerCut => .readFrameSize
  | .invalid => .invalidFrameSize
  | .bodyCut => .readFrame

variable {frame header rest : List UInt8} {frames : List (List UInt8)}
  {conn conn' : List (List UInt8)} {size n : ℕ}

/-- The length that is read is the one that was written. -/
theorem uint32_putUint32 (n : UInt32) :
  uint32 (putUint32 n) = n
  := by
  have hlt : n.toNat < 256 ^ 4 := n.toNat_lt
  rw [uint32, putUint32, Word.littleEndian_littleEndianBytes, Nat.mod_eq_of_lt hlt]
  exact UInt32.ofNat_toNat

/-- The bytes of a length are determined by it. -/
theorem putUint32_uint32 (h : header.length = 4) :
  putUint32 (uint32 header) = header
  := by
  have hlt : Word.littleEndian header < 2 ^ 32 := by
    have hspell := Word.littleEndian_littleEndianBytes 4 (Word.littleEndian header)
    rw [← h, Word.littleEndianBytes_littleEndian, h] at hspell
    omega
  rw [putUint32, uint32, UInt32.toNat_ofNat_of_lt' hlt, ← h, Word.littleEndianBytes_littleEndian]

theorem length_putUint32 (n : UInt32) :
  (putUint32 n).length = 4
  := Word.length_littleEndianBytes 4 _

theorem size_eq_some :
  videoFraming.size header = some n ↔ (uint32 header).toNat = n ∧ n ≠ 0 ∧ n ≤ maxFrameSize
  := by
  change (if _ then _ else _) = _ ↔ _
  split
  · simp
    omega
  · simp
    omega

/-- The frames of the format are the deliverable ones as they are written. -/
theorem isFrame_iff :
  videoFraming.IsFrame header frame ↔
    Deliverable frame ∧ header = putUint32 (UInt32.ofNat frame.length)
  := by
  constructor
  · rintro ⟨hlength, hsize⟩
    obtain ⟨hsize, hdeliverable⟩ := size_eq_some.mp hsize
    use hdeliverable
    rw [← hsize, UInt32.ofNat_toNat, putUint32_uint32 hlength]
  · rintro ⟨hdeliverable, rfl⟩
    use length_putUint32 _
    rw [size_eq_some, uint32_putUint32]
    have hlt : frame.length < 2 ^ 32 := Nat.lt_of_le_of_lt hdeliverable.2 (by decide)
    exact ⟨UInt32.toNat_ofNat_of_lt' hlt, hdeliverable⟩

/-! ### Chunks -/

/-- What is read does not depend on the chunks, and the rest is left. -/
theorem readFull_ok (h : size ≤ conn.flatten.length) :
  ∃ conn', readFull size conn = (.ok (conn.flatten.take size), conn') ∧
    conn'.flatten = conn.flatten.drop size
  := by
  induction conn generalizing size with
  | nil =>
      obtain rfl := Nat.le_zero.mp h
      exact ⟨[], rfl, rfl⟩
  | cons chunk conn ih =>
      rw [readFull, List.flatten_cons]
      rw [List.flatten_cons, List.length_append] at h
      by_cases hle : size ≤ chunk.length
      · rw [if_pos hle, List.take_append_of_le_length hle, List.drop_append_of_le_length hle]
        exact ⟨_, rfl, rfl⟩
      · have hless : chunk.length ≤ size := by
          omega
        have hmore : size - chunk.length ≤ conn.flatten.length := by
          omega
        obtain ⟨conn', hread, hrest⟩ := ih hmore
        rw [if_neg hle, hread, List.take_append, List.drop_append, List.take_of_length_le hless,
          List.drop_of_length_le hless, List.nil_append]
        exact ⟨conn', rfl, hrest⟩

/-- The connection ends before so many bytes. -/
theorem readFull_error (h : conn.flatten.length < size) :
  (readFull size conn).1 = .error (if conn.flatten.length = 0 then .eof else .unexpectedEOF)
  := by
  induction conn generalizing size with
  | nil => exact if_neg (Nat.ne_of_gt h)
  | cons chunk conn ih =>
      rw [List.flatten_cons, List.length_append] at h
      have hfew : conn.flatten.length < size - chunk.length := by
        omega
      have hrest := ih hfew
      rw [readFull, if_neg (by omega)]
      cases hread : readFull (size - chunk.length) conn with
      | mk result conn' =>
          rw [hread] at hrest
          dsimp only at hrest
          subst hrest
          dsimp only
          rw [List.flatten_cons, List.length_append]
          by_cases hempty : chunk.length = 0
          · rw [if_pos hempty, hempty, Nat.zero_add]
          · rw [if_neg hempty, if_neg (by omega)]

/-- The loop reads the frames of the format. -/
theorem frameLoop_eq (n : ℕ) (conn : List (List UInt8)) :
  frameLoop n conn =
    ((videoFraming.readUpTo n conn.flatten).1, loopEnd (videoFraming.readUpTo n conn.flatten).2)
  := by
  induction n generalizing conn with
  | zero => rfl
  | succ n ih =>
      rw [frameLoop]
      by_cases hwidth : conn.flatten.length < 4
      · have hread := readFull_error hwidth
        cases hresult : readFull 4 conn with
        | mk result conn' =>
            rw [hresult] at hread
            dsimp only at hread
            subst hread
            by_cases hempty : conn.flatten.length = 0
            · rw [if_pos hempty, Framing.readUpTo_of_error (Framing.next_of_empty hempty)]
              rfl
            · rw [if_neg hempty,
                Framing.readUpTo_of_error (Framing.next_of_headerCut hempty hwidth)]
              rfl
      · obtain ⟨conn', hread, hrest⟩ := readFull_ok (Nat.not_lt.mp hwidth)
        rw [hread]
        dsimp only
        by_cases hsize : (uint32 (conn.flatten.take 4)).toNat = 0 ∨
            (uint32 (conn.flatten.take 4)).toNat > maxFrameSize
        · have hinvalid : videoFraming.size (conn.flatten.take 4) = none := if_pos hsize
          rw [if_pos hsize, Framing.readUpTo_of_error
            (Framing.next_of_invalid (Nat.not_lt.mp hwidth) hinvalid)]
          rfl
        · have hvalid : videoFraming.size (conn.flatten.take 4) = some _ := if_neg hsize
          rw [if_neg hsize]
          by_cases hbody : conn'.flatten.length < (uint32 (conn.flatten.take 4)).toNat
          · have hcut := readFull_error hbody
            cases hresult : readFull (uint32 (conn.flatten.take 4)).toNat conn' with
            | mk result conn'' =>
                rw [hresult] at hcut
                dsimp only at hcut
                subst hcut
                rw [hrest] at hbody
                rw [Framing.readUpTo_of_error
                  (Framing.next_of_bodyCut (Nat.not_lt.mp hwidth) hvalid hbody)]
                rfl
          · obtain ⟨conn'', hframe, hleft⟩ := readFull_ok (Nat.not_lt.mp hbody)
            rw [hframe]
            rw [hrest] at hbody hleft
            rw [Framing.readUpTo_of_ok
              (Framing.next_of_whole (Nat.not_lt.mp hwidth) hvalid (Nat.not_lt.mp hbody))]
            dsimp only
            rw [ih, hleft, hrest]
            rfl

theorem handleVideoFrame_eq (conn : List (List UInt8)) :
  handleVideoFrame conn =
    ((videoFraming.read conn.flatten).1, loopEnd (videoFraming.read conn.flatten).2)
  := frameLoop_eq _ _

/-! ### What was sent -/

/-- The frames that are whole in the first bytes of a stream. -/
def arrived : ℕ → List (List UInt8) → List (List UInt8)
  | _, [] => []
  | n, frame :: frames =>
      if (writeFrame frame).length ≤ n then
        frame :: arrived (n - (writeFrame frame).length) frames
      else []

variable {stream : List UInt8}

theorem length_writeFrame (frame : List UInt8) :
  (writeFrame frame).length = 4 + frame.length
  := by
  rw [writeFrame, List.length_append, length_putUint32]

theorem writeFrame_append (frame rest : List UInt8) :
  writeFrame frame ++ rest = putUint32 (UInt32.ofNat frame.length) ++ (frame ++ rest)
  := List.append_assoc _ _ _

/-- The size that is read in front of a frame. -/
theorem size_of_prefix (hlength : frame.length < 2 ^ 32) (hwidth : 4 ≤ stream.length)
    (h : stream <+: writeFrame frame ++ rest) :
  videoFraming.size (stream.take 4) = if Deliverable frame then some frame.length else none
  := by
  have htake : stream.take 4 = putUint32 (UInt32.ofNat frame.length) := by
    have hsame := List.prefix_iff_eq_take.mp h
    rw [hsame, List.take_take, Nat.min_eq_left hwidth, writeFrame_append,
      List.take_left' (length_putUint32 _)]
  have hnumber : (uint32 (stream.take 4)).toNat = frame.length := by
    rw [htake, uint32_putUint32, UInt32.toNat_ofNat_of_lt' hlength]
  by_cases hdeliverable : Deliverable frame
  · rw [if_pos hdeliverable, size_eq_some]
    exact ⟨hnumber, hdeliverable⟩
  · rw [if_neg hdeliverable]
    apply if_pos
    rw [hnumber]
    by_contra hnot
    apply hdeliverable
    rw [Deliverable]
    omega

/-- Nothing is read before the first frame has arrived. -/
theorem read_of_short (hlength : frame.length < 2 ^ 32) (h : stream <+: writeFrame frame ++ rest)
    (hshort : stream.length < (writeFrame frame).length) :
  (videoFraming.read stream).1 = []
  := by
  by_cases hempty : stream.length = 0
  · rw [Framing.read_of_error (Framing.next_of_empty hempty)]
  · by_cases hwidth : stream.length < 4
    · rw [Framing.read_of_error (Framing.next_of_headerCut hempty hwidth)]
    · have hsize := size_of_prefix hlength (Nat.not_lt.mp hwidth) h
      by_cases hdeliverable : Deliverable frame
      · rw [if_pos hdeliverable] at hsize
        have hcut : (stream.drop 4).length < frame.length := by
          rw [length_writeFrame] at hshort
          rw [List.length_drop]
          omega
        rw [Framing.read_of_error (Framing.next_of_bodyCut (Nat.not_lt.mp hwidth) hsize hcut)]
      · rw [if_neg hdeliverable] at hsize
        rw [Framing.read_of_error (Framing.next_of_invalid (Nat.not_lt.mp hwidth) hsize)]

/-- Of the frames that have arrived, those before the first that cannot be delivered are read. -/
theorem read_prefix (hlength : ∀ frame ∈ frames, frame.length < 2 ^ 32)
    (h : stream <+: frames.flatMap writeFrame) :
  (videoFraming.read stream).1 =
    (arrived stream.length frames).takeWhile fun frame => Deliverable frame
  := by
  induction frames generalizing stream with
  | nil =>
      obtain rfl := List.prefix_nil.mp h
      rfl
  | cons frame frames ih =>
      rw [List.forall_mem_cons] at hlength
      rw [List.flatMap_cons] at h
      rw [arrived]
      by_cases hwhole : (writeFrame frame).length ≤ stream.length
      · rw [if_pos hwhole]
        obtain ⟨left, rfl⟩ := List.prefix_of_prefix_length_le (List.prefix_append _ _) h hwhole
        have hleft := (List.prefix_append_right_inj _).mp h
        rw [List.length_append, Nat.add_sub_cancel_left, List.takeWhile_cons]
        by_cases hdeliverable : Deliverable frame
        · rw [if_pos (decide_eq_true hdeliverable), writeFrame_append,
            Framing.read_frame (isFrame_iff.mpr ⟨hdeliverable, rfl⟩), ih hlength.2 hleft]
        · have hwidth : 4 ≤ (writeFrame frame ++ left).length := by
            rw [List.length_append, length_writeFrame]
            omega
          have hsize := size_of_prefix hlength.1 hwidth h
          rw [if_neg hdeliverable] at hsize
          rw [Framing.read_of_error (Framing.next_of_invalid hwidth hsize), if_neg]
          simpa using hdeliverable
      · rw [if_neg hwhole, read_of_short hlength.1 h (Nat.not_le.mp hwhole)]
        rfl

/-- Whatever has arrived of the frames that were written, and in whatever chunks, those that are
whole are delivered in order, up to the first one that is empty or too large. -/
theorem handleVideoFrame_sent (hlength : ∀ frame ∈ frames, frame.length < 2 ^ 32)
    (h : conn.flatten <+: frames.flatMap writeFrame) :
  (handleVideoFrame conn).1 =
    (arrived conn.flatten.length frames).takeWhile fun frame => Deliverable frame
  := by
  rw [handleVideoFrame_eq]
  exact read_prefix hlength h

/-- Two frames, the second without its last byte, in three chunks. -/
def cutChunks : List (List UInt8) :=
  [[3, 0], [0, 0, 7, 8, 9, 2], [0, 0, 0, 5]]

theorem handleVideoFrame_sent_cut :
  (handleVideoFrame cutChunks).1 = [[7, 8, 9]]
  := by
  have h : (handleVideoFrame cutChunks).1 =
      (arrived cutChunks.flatten.length [[7, 8, 9], [5, 6]]).takeWhile fun frame =>
        Deliverable frame :=
    handleVideoFrame_sent (by decide) (by decide)
  rw [h]
  decide

/-! ### What was received -/

/-- Why no frame is read from the bytes that are left. -/
def Remains (rest : List UInt8) : LoopEnd → Prop
  | .eof => rest = []
  | .readFrameSize => rest ≠ [] ∧ rest.length < 4
  | .invalidFrameSize =>
      4 ≤ rest.length ∧
        ((uint32 (rest.take 4)).toNat = 0 ∨ (uint32 (rest.take 4)).toNat > maxFrameSize)
  | .readFrame =>
      4 ≤ rest.length ∧ (uint32 (rest.take 4)).toNat ≠ 0 ∧
        (uint32 (rest.take 4)).toNat ≤ maxFrameSize ∧
        rest.length < 4 + (uint32 (rest.take 4)).toNat

theorem remains_of_next {stop : Framing.Stop} (h : videoFraming.next rest = .error stop) :
  Remains rest (loopEnd stop)
  := by
  rw [Framing.next] at h
  split at h
  case isTrue hempty =>
    obtain rfl := Except.error.inj h
    exact List.eq_nil_of_length_eq_zero hempty
  case isFalse hempty =>
    split at h
    case isTrue hwidth =>
      obtain rfl := Except.error.inj h
      exact ⟨fun hnil => hempty (congrArg List.length hnil), hwidth⟩
    case isFalse hwidth =>
      split at h
      case h_1 hsize =>
        obtain rfl := Except.error.inj h
        use Nat.not_lt.mp hwidth
        by_contra hnot
        exact absurd hsize (by rw [videoFraming] at *; simp [hnot])
      case h_2 size hsize =>
        split at h
        case isTrue hcut =>
          obtain rfl := Except.error.inj h
          obtain ⟨rfl, hdeliverable⟩ := size_eq_some.mp hsize
          use Nat.not_lt.mp hwidth, hdeliverable.1, hdeliverable.2
          rw [List.length_drop] at hcut
          change ¬ rest.length < 4 at hwidth
          change rest.length - 4 < (uint32 (rest.take 4)).toNat at hcut
          omega
        case isFalse => cases h

/-- Whatever bytes are received, every frame that is delivered is neither empty nor too large, and
the bytes are those of the frames that are delivered and of a rest in which no frame is whole. -/
theorem handleVideoFrame_received (conn : List (List UInt8)) :
  (∀ frame ∈ (handleVideoFrame conn).1, Deliverable frame) ∧
    ∃ rest, conn.flatten = (handleVideoFrame conn).1.flatMap writeFrame ++ rest ∧
      Remains rest (handleVideoFrame conn).2
  := by
  obtain ⟨frames, rest, hframes, hstream, hbodies, hstop⟩ :=
    videoFraming.exists_frames conn.flatten
  rw [handleVideoFrame_eq, hbodies]
  constructor
  · intro frame hframe
    obtain ⟨f, hf, rfl⟩ := List.mem_map.mp hframe
    exact (isFrame_iff.mp (hframes f hf)).1
  · use rest
    constructor
    · rw [hstream, List.flatMap_map]
      congr 1
      apply List.flatMap_congr
      intro f hf
      rw [writeFrame, ← (isFrame_iff.mp (hframes f hf)).2]
    · exact remains_of_next hstop

end JetKvm.Native
