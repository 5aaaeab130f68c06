import JetKvm.Network.NetworkConfig
import JetKvm.TimeSync.Servers
import Mathlib.Tactic.Ring

/-!
# Asking the servers for the time

The servers that are left by the filter are asked in chunks, the servers of a chunk at the same
time. The size of the chunks is a field of the configuration that is not checked for its sign. When
it is zero the loop over the chunks makes no progress, and when it is negative the first slice is
out of bounds.
-/

namespace JetKvm.TimeSync

open ConfParser

/-- `null.Int.ValueOr`. -/
def valueOr (n : NullInt) (v : ℤ) : ℤ :=
  if n.valid then n.int64 else v

/-- `ntp.Response`, as far as it is read. -/
structure Response where
  time : ℤ
  clockOffset : ℤ
  isKissOfDeath : Bool

/-- `ntpResult`. -/
structure NtpResult where
  now : ℤ
  offset : ℤ
deriving DecidableEq

/-- What the network, the scheduler and the random numbers decide: the order of the servers, the
reply to each query, by the position of the server in that order, and the order in which the
results of a chunk arrive. -/
structure World where
  shuffle : List String → List String
  shuffle_perm : ∀ servers, (shuffle servers).Perm servers
  queryNtpServer : ℕ → String → Except String Response
  arrival : ℕ → List (Option NtpResult) → List (Option NtpResult)
  arrival_perm : ∀ position results, (arrival position results).Perm results

/-- What `queryNetworkTime` returns, and the chunks whose servers it has queried. -/
structure Answer where
  result : Option NtpResult
  queried : List (List String)
deriving DecidableEq

namespace World

variable (world : World)

/-- What the goroutine of a query sends. -/
def result (query : String × ℕ) : Option NtpResult :=
  match world.queryNtpServer query.2 query.1 with
  | .error _ => none
  | .ok response =>
      if response.isKissOfDeath then none else some ⟨response.time, response.clockOffset⟩

/-- The servers are those from a position on. -/
def queryMultipleNTP (position : ℕ) (servers : List String) : Option NtpResult :=
  (world.arrival position ((servers.zipIdx position).map world.result)).findSome? id

/-- A slice whose bounds have a sign. -/
def slice (servers : List String) (i j : ℤ) : Outcome (List String) :=
  if 0 ≤ i ∧ 0 ≤ j then Outcome.slice servers i.toNat j.toNat else .fault

/-- The loop of `queryNetworkTime`, for a number of rounds. The sum of `i` and the size is formed
for an `i` that is zero or at least the size, so that it does not wrap around. -/
def queryChunks (chunkSize : ℤ) (ntpServers : List String) :
    ℕ → ℤ → List (List String) → Option (Outcome Answer)
  | 0, _, _ => none
  | rounds + 1, i, queried =>
      if i < ntpServers.length then
        match slice ntpServers i (min (i + chunkSize) ntpServers.length) with
        | .value chunk =>
            match world.queryMultipleNTP i.toNat chunk with
            | some result => some (.value ⟨some result, queried ++ [chunk]⟩)
            | none => queryChunks chunkSize ntpServers rounds (i + chunkSize) (queried ++ [chunk])
        | .error message => some (.error message)
        | .fault => some .fault
      else some (.value ⟨none, queried⟩)

/-- The size of the chunks, an integer of `intSize` bits. -/
def chunkSize (intSize : ℕ) (timeSyncParallel : NullInt) : ℤ :=
  (valueOr timeSyncParallel 4).bmod (2 ^ intSize)

/-- `queryNetworkTime`, for a number of rounds of its loop. -/
def queryNetworkTime (intSize : ℕ) (networkConfig : NetworkConfig)
    (preCheckIPv4 preCheckIPv6 : Except String Bool) (ntpServers : List String) (rounds : ℕ) :
    Option (Outcome Answer) :=
  match filterNTPServers preCheckIPv4 preCheckIPv6 ntpServers with
  | .error _ => some (.value ⟨none, []⟩)
  | .ok filtered =>
      world.queryChunks (chunkSize intSize networkConfig.timeSyncParallel) (world.shuffle filtered)
        rounds 0 []

end World

/-- The servers that are left, none when a check failed. -/
def filteredServers (preCheckIPv4 preCheckIPv6 : Except String Bool) (ntpServers : List String) :
    List String :=
  (filterNTPServers preCheckIPv4 preCheckIPv6 ntpServers).toOption.getD []

/-- The call returns, and when it returns no time it has queried every server that is left once, in
chunks that are not longer than the configuration says. -/
def World.ComesToAnEnd (world : World) (intSize : ℕ) (networkConfig : NetworkConfig)
    (preCheckIPv4 preCheckIPv6 : Except String Bool) (ntpServers : List String) : Prop :=
  ∃ rounds answer,
    world.queryNetworkTime intSize networkConfig preCheckIPv4 preCheckIPv6 ntpServers rounds =
      some (.value answer) ∧
    (answer.result = none →
      answer.queried.flatten.Perm (filteredServers preCheckIPv4 preCheckIPv6 ntpServers) ∧
      ∀ chunk ∈ answer.queried, (chunk.length : ℤ) ≤ valueOr networkConfig.timeSyncParallel 4)

/-! ### The loop -/

namespace World

variable {world : World} {size k rounds : ℕ} {servers : List String}
  {queried : List (List String)} {answer : Answer}

/-- There is no time in a chunk when no query of it has one. -/
theorem queryMultipleNTP_eq_none (world : World) {position : ℕ} :
  world.queryMultipleNTP position servers = none ↔
    ∀ query ∈ servers.zipIdx position, world.result query = none
  := by
  rw [queryMultipleNTP, List.findSome?_eq_none_iff]
  have hperm := world.arrival_perm position ((servers.zipIdx position).map world.result)
  constructor
  · intro h query hquery
    apply h
    apply hperm.mem_iff.mpr
    apply List.mem_map_of_mem hquery
  · intro h result hresult
    obtain ⟨query, hquery, rfl⟩ := List.mem_map.mp (hperm.mem_iff.mp hresult)
    apply h query hquery

/-- The chunk of a round. -/
theorem slice_chunk (size : ℕ) (h : k < servers.length) :
  slice servers k (min (k + size) servers.length) = .value ((servers.drop k).take size)
  := by
  have hbound : min ((k : ℤ) + size) servers.length = (min (k + size) servers.length : ℕ) := by
    omega
  have htake : (servers.drop k).take (min (k + size) servers.length - k) =
      (servers.drop k).take size := by
    rw [List.take_eq_take_iff, List.length_drop]
    omega
  rw [slice, if_pos (by omega), hbound, Int.toNat_natCast, Int.toNat_natCast,
    Outcome.slice_of_le (by omega) (by omega), List.drop_take, htake]

/-- The servers from a position on are those of a chunk and those after it. -/
theorem zipIdx_drop (size : ℕ) :
  (servers.drop k).zipIdx k =
    ((servers.drop k).take size).zipIdx k ++ (servers.drop (k + size)).zipIdx (k + size)
  := by
  conv => left; rw [← List.take_append_drop size (servers.drop k), List.zipIdx_append]
  rw [List.drop_drop]
  by_cases h : k + size ≤ servers.length
  · rw [List.length_take, List.length_drop, Nat.min_eq_left (by omega)]
  · have hnil : servers.drop (k + size) = [] := List.drop_eq_nil_of_le (by omega)
    rw [hnil, List.zipIdx_nil, List.zipIdx_nil]

/-- What an answer says about the servers from a position on, after some chunks. -/
structure Asked (world : World) (size : ℕ) (servers : List String) (k : ℕ)
    (queried : List (List String)) (answer : Answer) : Prop where
  noTime : answer.result = none ↔ ∀ query ∈ (servers.drop k).zipIdx k, world.result query = none
  chunks : answer.result = none → ∃ chunks, answer.queried = queried ++ chunks ∧
    chunks.flatten = servers.drop k ∧ ∀ chunk ∈ chunks, chunk.length ≤ size

/-- What has been asked when the loop ends. -/
theorem asked_of_queryChunks
    (h : world.queryChunks size servers rounds k queried = some (.value answer)) :
  Asked world size servers k queried answer
  := by
  induction rounds generalizing k queried with
  | zero => cases h
  | succ rounds ih =>
      rw [queryChunks] at h
      split at h
      case isFalse hend =>
        obtain rfl := Outcome.value.inj (Option.some.inj h)
        have hnil : servers.drop k = [] := List.drop_eq_nil_of_le (by omega)
        constructor
        · rw [hnil]
          exact iff_of_true rfl nofun
        · intro _
          exact ⟨[], (List.append_nil queried).symm, hnil.symm, nofun⟩
      case isTrue hk =>
        rw [slice_chunk size (by omega), Int.toNat_natCast] at h
        dsimp only at h
        split at h
        case h_1 result hresult =>
          obtain rfl := Outcome.value.inj (Option.some.inj h)
          constructor
          · apply iff_of_false (Option.some_ne_none result)
            intro hnone
            have hchunk := (queryMultipleNTP_eq_none world).mpr fun query hquery => by
              apply hnone query
              rw [zipIdx_drop size]
              exact List.mem_append_left _ hquery
            rw [hresult] at hchunk
            cases hchunk
          · nofun
        case h_2 hresult =>
          have hasked := ih (k := k + size) h
          have hnone := (queryMultipleNTP_eq_none world).mp hresult
          constructor
          · rw [hasked.noTime, zipIdx_drop (k := k) size, List.forall_mem_append,
              and_iff_right hnone]
          · intro hanswer
            obtain ⟨chunks, hqueried, hflatten, hlength⟩ := hasked.chunks hanswer
            refine ⟨(servers.drop k).take size :: chunks, ?_, ?_, ?_⟩
            · rw [hqueried, List.append_assoc, List.singleton_append]
            · rw [List.flatten_cons, hflatten, ← List.drop_drop, List.take_append_drop]
            · rw [List.forall_mem_cons, List.length_take]
              exact ⟨Nat.min_le_left size _, hlength⟩

/-- The loop ends when the chunks are not empty. -/
theorem exists_queryChunks (world : World) (servers : List String) (k : ℕ)
    (queried : List (List String)) (hsize : 0 < size) :
  ∃ rounds answer, world.queryChunks size servers rounds k queried = some (.value answer)
  := by
  induction hleft : servers.length - k using Nat.strongRecOn generalizing k queried with
  | _ left ih =>
      by_cases hk : k < servers.length
      · have hstep : ∀ rounds, world.queryChunks size servers (rounds + 1) k queried =
            match world.queryMultipleNTP k ((servers.drop k).take size) with
            | some result =>
                some (.value ⟨some result, queried ++ [(servers.drop k).take size]⟩)
            | none => world.queryChunks size servers rounds (k + size : ℕ)
                (queried ++ [(servers.drop k).take size]) := by
          intro rounds
          rw [queryChunks, if_pos (by omega), slice_chunk size hk, Int.toNat_natCast]
          rfl
        cases hresult : world.queryMultipleNTP k ((servers.drop k).take size) with
        | some result =>
            use 1, ⟨some result, queried ++ [(servers.drop k).take size]⟩
            rw [hstep, hresult]
        | none =>
            obtain ⟨rounds, answer, hanswer⟩ := ih (servers.length - (k + size)) (by omega)
              (k + size) (queried ++ [(servers.drop k).take size]) rfl
            use rounds + 1, answer
            rw [hstep, hresult]
            exact hanswer
      · use 1, ⟨none, queried⟩
        rw [queryChunks, if_neg (by omega)]

/-- Without progress the loop does not end. -/
theorem queryChunks_zero (hne : servers ≠ []) :
  world.queryChunks 0 servers rounds 0 queried = none
  := by
  have hpos := List.length_pos_iff.mpr hne
  induction rounds generalizing queried with
  | zero => rfl
  | succ rounds ih =>
      have hempty : world.queryMultipleNTP 0 [] = none :=
        (queryMultipleNTP_eq_none world).mpr nofun
      have hslice := slice_chunk 0 hpos
      rw [Nat.cast_zero, List.take_zero] at hslice
      rw [queryChunks, if_pos (by omega), hslice]
      dsimp only
      rw [Int.toNat_zero, hempty]
      exact ih

/-- The first slice of a negative size is out of bounds. -/
theorem queryChunks_neg {chunkSize : ℤ} (hneg : chunkSize < 0) (hne : servers ≠ []) :
  world.queryChunks chunkSize servers (rounds + 1) 0 queried = some .fault
  := by
  have hpos := List.length_pos_iff.mpr hne
  rw [queryChunks, if_pos (by omega), slice, if_neg (by omega)]

/-- Whatever the size is, there is nothing to do without servers. -/
theorem queryChunks_nil {chunkSize : ℤ} :
  world.queryChunks chunkSize [] (rounds + 1) 0 queried = some (.value ⟨none, queried⟩)
  := rfl

end World

/-! ### The calls -/

section

variable {world : World} {intSize : ℕ} {parsers : TextParsers} {order : RangeOrder}
  {c c' : NetworkConfig} {preCheckIPv4 preCheckIPv6 : Except String Bool}
  {ntpServers : List String}

/-- The field that the size is taken from, after the checks. -/
theorem valueOr_timeSyncParallel (h : c.setDefaultsAndValidate parsers order = .value c') :
  valueOr c'.timeSyncParallel 4 = valueOr c.timeSyncParallel 4
  := by
  rw [NetworkConfig.setDefaultsAndValidate] at h
  obtain ⟨s', hpasses, hs'⟩ := Outcome.bind_eq_value.mp h
  obtain rfl := Outcome.value.inj hs'
  have hint := validInt_of_value "TimeSyncParallel" c.names_nodup hpasses rfl rfl
  change valueOr (intAt s' "TimeSyncParallel") 4 = _
  cases hvalid : c.timeSyncParallel.valid with
  | true => rw [hint.keeps (Or.inl hvalid)]
  | false =>
      have hne : "4" ≠ "" := by decide
      have hfour : atoi "4" = some 4 := by decide
      obtain ⟨hdefault, hvalid'⟩ := hint.default hvalid hne
      have hdefault := Option.some.inj (hdefault.trans hfour)
      rw [valueOr, hvalid', hdefault, valueOr, hvalid]
      rfl

/-- An integer of fewer bits is not larger than a positive number. -/
theorem bmod_le (intSize : ℕ) {n : ℤ} (h : 0 < n) :
  n.bmod (2 ^ intSize) ≤ n
  := by
  have hmod : n % (2 ^ intSize : ℕ) ≤ n := by
    obtain ⟨k, rfl⟩ := Int.eq_ofNat_of_zero_le h.le
    rw [← Int.natCast_mod, Int.ofNat_le]
    exact Nat.mod_le k (2 ^ intSize)
  rw [Int.bmod_def]
  split
  · exact hmod
  · omega

/-- A server that is left has a time. -/
def World.Answers (world : World) (servers : List String) : Prop :=
  ∃ query ∈ (world.shuffle servers).zipIdx, world.result query ≠ none

/-- A loop that has servers ends as promised when the size of the chunks is positive, and so is the
bound `n` unless a server has a time. -/
theorem endsAsPromised_iff {servers : List String} {n : ℤ} (hne : servers ≠ []) :
  (∃ rounds answer,
    world.queryChunks (n.bmod (2 ^ intSize)) servers rounds 0 [] = some (.value answer) ∧
    (answer.result = none → answer.queried.flatten.Perm servers ∧
      ∀ chunk ∈ answer.queried, (chunk.length : ℤ) ≤ n)) ↔
    0 < n.bmod (2 ^ intSize) ∧
      (0 < n ∨ ∃ query ∈ servers.zipIdx, world.result query ≠ none)
  := by
  have hanswers : (∃ query ∈ servers.zipIdx, world.result query ≠ none) ↔
      ¬ ∀ query ∈ servers.zipIdx, world.result query = none := by
    simp only [not_forall, exists_prop]
  rw [hanswers]
  constructor
  · rintro ⟨rounds, answer, hvalue, hpromise⟩
    obtain hneg | hzero | hpos := lt_trichotomy (n.bmod (2 ^ intSize)) 0
    · cases rounds with
      | zero => cases hvalue
      | succ rounds =>
          rw [World.queryChunks_neg hneg hne] at hvalue
          cases hvalue
    · rw [hzero, World.queryChunks_zero hne] at hvalue
      cases hvalue
    · use hpos
      obtain ⟨size, hsize⟩ := Int.eq_ofNat_of_zero_le hpos.le
      rw [hsize] at hvalue
      have hasked := World.asked_of_queryChunks (k := 0) hvalue
      by_contra hnot
      obtain ⟨hn, hnone⟩ := not_or.mp hnot
      obtain ⟨hflatten, hlength⟩ := hpromise (hasked.noTime.mpr (not_not.mp hnone))
      -- some server has been queried, in a chunk that is not empty
      obtain ⟨server, rest, rfl⟩ := List.exists_cons_of_ne_nil hne
      obtain ⟨chunk, hchunk, hserver⟩ :=
        List.mem_flatten.mp (hflatten.mem_iff.mpr List.mem_cons_self)
      have hpositive := List.length_pos_of_mem hserver
      have hbound := hlength chunk hchunk
      omega
  · rintro ⟨hpos, hor⟩
    obtain ⟨size, hsize⟩ := Int.eq_ofNat_of_zero_le hpos.le
    rw [hsize]
    obtain ⟨rounds, answer, hvalue⟩ :=
      World.exists_queryChunks world servers 0 [] (Int.natCast_pos.mp (hsize ▸ hpos))
    refine ⟨rounds, answer, hvalue, ?_⟩
    intro hresult
    have hasked := World.asked_of_queryChunks (k := 0) hvalue
    have hn : 0 < n := hor.resolve_right (not_not.mpr (hasked.noTime.mp hresult))
    obtain ⟨chunks, hqueried, hflatten, hlength⟩ := hasked.chunks hresult
    rw [List.nil_append] at hqueried
    rw [hqueried, hflatten]
    use List.Perm.refl servers
    intro chunk hchunk
    have hbound := hlength chunk hchunk
    have hle := bmod_le intSize hn
    omega

/-- The call comes to an end as promised when there is nothing to query, or the size of the chunks
is positive, and so is the number that it is taken from unless a server has a time. -/
theorem comesToAnEnd_iff (h : c.setDefaultsAndValidate parsers order = .value c') :
  world.ComesToAnEnd intSize c' preCheckIPv4 preCheckIPv6 ntpServers ↔
    filteredServers preCheckIPv4 preCheckIPv6 ntpServers = [] ∨
      0 < (valueOr c.timeSyncParallel 4).bmod (2 ^ intSize) ∧
        (0 < valueOr c.timeSyncParallel 4 ∨
          world.Answers (filteredServers preCheckIPv4 preCheckIPv6 ntpServers))
  := by
  rw [World.ComesToAnEnd, filteredServers]
  simp only [World.queryNetworkTime, World.chunkSize, valueOr_timeSyncParallel h]
  cases filterNTPServers preCheckIPv4 preCheckIPv6 ntpServers with
  | error err =>
      apply iff_of_true _ (Or.inl rfl)
      exact ⟨0, _, rfl, fun _ => ⟨List.Perm.refl [], nofun⟩⟩
  | ok filtered =>
      change (∃ rounds answer, world.queryChunks _ _ rounds 0 [] = some (.value answer) ∧
          (answer.result = none → answer.queried.flatten.Perm filtered ∧ _)) ↔
        filtered = [] ∨ _ ∧ (_ ∨ world.Answers filtered)
      have hperm := world.shuffle_perm filtered
      by_cases hnil : filtered = []
      · apply iff_of_true _ (Or.inl hnil)
        obtain rfl := hnil
        rw [List.perm_nil.mp hperm]
        exact ⟨1, ⟨none, []⟩, World.queryChunks_nil, fun _ => ⟨List.Perm.refl [], nofun⟩⟩
      · have hne : world.shuffle filtered ≠ [] := by
          intro hshuffle
          rw [hshuffle, List.nil_perm] at hperm
          exact hnil hperm
        rw [or_iff_right hnil, World.Answers, ← endsAsPromised_iff hne]
        have hpermEq : ∀ chunks : List (List String), chunks.flatten.Perm filtered ↔
            chunks.flatten.Perm (world.shuffle filtered) := fun chunks =>
          ⟨fun h => h.trans hperm.symm, fun h => h.trans hperm⟩
        simp only [hpermEq]

end

/-- No server replies. -/
def World.silent : World where
  shuffle := fun servers => servers
  shuffle_perm := List.Perm.refl
  queryNtpServer := fun _ _ => .error "i/o timeout"
  arrival := fun _ results => results
  arrival_perm := fun _ => List.Perm.refl

/-- A configuration in which the size of the chunks is zero passes its checks, and the call does not
come to an end. -/
theorem not_comesToAnEnd_silent :
  NetworkConfig.setDefaultsAndValidate noParsers writtenOrder
      { NetworkConfig.zero with timeSyncParallel := ⟨0, true⟩ } =
    .value { NetworkConfig.withDefaults with timeSyncParallel := ⟨0, true⟩ } ∧
  ¬ World.silent.ComesToAnEnd 32 { NetworkConfig.withDefaults with timeSyncParallel := ⟨0, true⟩ }
    (.ok true) (.ok true) DefaultNTPServerHostnames
  := by
  constructor
  · decide +kernel
  · rintro ⟨rounds, answer, hvalue, -⟩
    have hfilter : filterNTPServers (.ok true) (.ok true) DefaultNTPServerHostnames =
        .ok DefaultNTPServerHostnames := by
      decide +kernel
    have hsize : World.chunkSize 32 ⟨0, true⟩ = 0 := by decide
    rw [World.queryNetworkTime, hfilter] at hvalue
    dsimp only at hvalue
    rw [hsize, World.silent, World.queryChunks_zero (by decide)] at hvalue
    cases hvalue

/-- The servers are queried two at a time, and the call comes to an end though none replies. -/
theorem comesToAnEnd_iff_two :
  filteredServers (.ok true) (.ok false) DefaultNTPServerHostnames ≠ [] ∧
    World.silent.ComesToAnEnd 32 { NetworkConfig.withDefaults with timeSyncParallel := ⟨2, true⟩ }
      (.ok true) (.ok false) DefaultNTPServerHostnames
  := by
  have hpasses : NetworkConfig.setDefaultsAndValidate noParsers writtenOrder
      { NetworkConfig.zero with timeSyncParallel := ⟨2, true⟩ } =
    .value { NetworkConfig.withDefaults with timeSyncParallel := ⟨2, true⟩ } := by decide +kernel
  use by decide +kernel
  apply (comesToAnEnd_iff hpasses).mpr
  exact Or.inr ⟨by decide, Or.inl (by decide)⟩

end JetKvm.TimeSync
