import JetKvm.Library.Numeral
import Mathlib.Data.List.TakeWhile

/-!
# Addresses and their texts

The parts of the package `net` that the program uses. An address is a list of bytes, an IPv4
address either of four bytes or of sixteen with a fixed prefix. Texts are lists of characters. The
text of an address determines it, up to the two forms of an IPv4 address.
-/

namespace JetKvm.Network

/-- `net.IP`. -/
abbrev IP :=
  List UInt8

namespace IP

/-- The prefix of an IPv4 address in sixteen bytes. -/
def v4InV6Prefix : List UInt8 :=
  [0, 0, 0, 0, 0, 0, 0, 0, 0, 0, 0xff, 0xff]

/-- The four bytes of an IPv4 address. -/
def to4 (ip : IP) : Option IP :=
  if ip.length = 4 then some ip
  else if ip.length = 16 ∧ ip.take 12 = v4InV6Prefix then some (ip.drop 12)
  else none

/-- The same address, whatever form it has. -/
def equal (ip x : IP) : Bool :=
  if ip.length = x.length then ip = x
  else if ip.length = 4 ∧ x.length = 16 then x.take 12 = v4InV6Prefix ∧ ip = x.drop 12
  else if ip.length = 16 ∧ x.length = 4 then ip.take 12 = v4InV6Prefix ∧ ip.drop 12 = x
  else false

/-- Whether an address belongs to the link. -/
def isLinkLocalUnicast (ip : IP) : Bool :=
  match to4 ip with
  | some ip4 => ip4.take 2 = [169, 254]
  | none =>
      match ip with
      | a :: b :: _ => ip.length = 16 && a = 0xfe && b &&& 0xc0 = 0x80
      | _ => false

/-- Two digits for each byte. -/
def hexString (bytes : List UInt8) : List Char :=
  bytes.flatMap fun b => [(b.toNat / 16).digitChar, (b.toNat % 16).digitChar]

/-- Four numbers with dots in between. -/
def string4 (ip : IP) : List Char :=
  ['.'].intercalate (ip.map fun b => Nat.toDigits 10 b.toNat)

/-- The groups of two bytes. -/
def groups : IP → List ℕ
  | a :: b :: rest => (a.toNat * 256 + b.toNat) :: groups rest
  | _ => []

/-- The number of zeros from a position on. -/
def zerosAt (groups : List ℕ) (i : ℕ) : ℕ :=
  ((groups.drop i).takeWhile fun group => group = 0).length

/-- The first of the longest runs of two zeros or more, by its first position and the one after
its last. There is none if these are 255. -/
def zeroRun (groups : List ℕ) : ℕ × ℕ :=
  (List.range 8).foldl
    (fun run i =>
      if 2 ≤ zerosAt groups i ∧ run.2 - run.1 < zerosAt groups i then
        (i, i + zerosAt groups i)
      else run)
    (255, 255)

/-- The groups in hexadecimal, with colons in between. -/
def joinGroups (groups : List ℕ) : List Char :=
  [':'].intercalate (groups.map fun group => Nat.toDigits 16 group)

/-- The text of an IPv6 address, with `::` for its longest run of zeros. -/
def string6 (ip : IP) : List Char :=
  match zeroRun (groups ip) with
  | (start, stop) =>
      if start = 255 then joinGroups (groups ip)
      else joinGroups ((groups ip).take start) ++ [':', ':'] ++ joinGroups ((groups ip).drop stop)

/-- `IP.String`. -/
def string (ip : IP) : List Char :=
  if ip.length = 0 then ['<', 'n', 'i', 'l', '>']
  else if ip.length ≠ 4 ∧ ip.length ≠ 16 then '?' :: hexString ip
  else
    match to4 ip with
    | some ip4 => string4 ip4
    | none => string6 ip

/-! ### Forms -/

/-- The shorter form of the address. -/
def normal (ip : IP) : IP :=
  (to4 ip).getD ip

variable {ip x : IP} {bytes bytes' : List UInt8} {g g' : List ℕ}

/-- An address of IPv4 has four bytes. -/
theorem length_of_to4 (h : to4 ip = some x) :
  x.length = 4
  := by
  rw [to4] at h
  split at h
  · obtain rfl := Option.some.inj h
    assumption
  · split at h
    · rename_i h16
      obtain rfl := Option.some.inj h
      rw [List.length_drop, h16.1]
    · cases h

/-- An IPv4 address has one of two forms. -/
theorem to4_eq_some :
  to4 ip = some x ↔ x.length = 4 ∧ (ip = x ∨ ip = v4InV6Prefix ++ x)
  := by
  constructor
  · intro h
    use length_of_to4 h
    rw [to4] at h
    split at h
    · obtain rfl := Option.some.inj h
      left
      rfl
    · obtain ⟨h16, h⟩ := Option.ite_none_right_eq_some.mp h
      obtain rfl := Option.some.inj h
      right
      rw [← h16.2, List.take_append_drop]
  · rintro ⟨hlength, rfl | rfl⟩
    · apply if_pos hlength
    · have hfixed : (v4InV6Prefix : List UInt8).length = 12 := rfl
      rw [to4, if_neg, if_pos]
      · rw [List.drop_left' hfixed]
      · rw [List.length_append, hlength, List.take_left' hfixed]
        exact ⟨rfl, rfl⟩
      · rw [List.length_append, hlength]
        decide

/-- The form of an address that has no form of four bytes. -/
theorem normal_of_none (h : to4 ip = none) :
  normal ip = ip
  := by
  rw [normal, h, Option.getD_none]

/-- An address of IPv4 is written with four bytes. -/
theorem normal_of_some (h : to4 ip = some x) :
  normal ip = x
  := by
  rw [normal, h, Option.getD_some]

/-- Only those are. -/
theorem length_normal_eq_four_iff :
  (normal ip).length = 4 ↔ (to4 ip).isSome
  := by
  cases h : to4 ip with
  | none =>
      rw [normal_of_none h]
      simp only [Option.isSome_none, Bool.false_eq_true, iff_false]
      intro hlength
      rw [to4, if_pos hlength] at h
      cases h
  | some ip4 =>
      rw [normal_of_some h]
      simp [length_of_to4 h]

/-- An address of IPv4 may be written with a prefix of twelve bytes. -/
theorem take_drop_prefix_iff :
  ip.take 12 = v4InV6Prefix ∧ ip.drop 12 = x ↔ ip = v4InV6Prefix ++ x
  := by
  constructor
  · rintro ⟨htake, rfl⟩
    rw [← htake, List.take_append_drop]
  · rintro rfl
    exact ⟨List.take_left' rfl, List.drop_left' rfl⟩

/-- Equal addresses are the same bytes, or the two forms of an IPv4 address. -/
theorem equal_iff :
  equal ip x = true ↔
    ip = x ∨ ip.length = 4 ∧ x = v4InV6Prefix ++ ip ∨ x.length = 4 ∧ ip = v4InV6Prefix ++ x
  := by
  have hfixed : ∀ y : IP, (v4InV6Prefix ++ y).length = 12 + y.length := fun _ =>
    List.length_append
  rw [equal]
  split
  · rename_i hlength
    rw [decide_eq_true_iff]
    constructor
    · apply Or.inl
    · rintro (h | ⟨-, rfl⟩ | ⟨-, rfl⟩)
      · apply h
      · have := hfixed ip
        omega
      · have := hfixed x
        omega
  · rename_i hlength
    have hne : ip ≠ x := by
      rintro rfl
      exact hlength rfl
    split
    · rename_i h4
      rw [decide_eq_true_iff, eq_comm (a := ip), take_drop_prefix_iff]
      constructor
      · intro h
        exact Or.inr (Or.inl ⟨h4.1, h⟩)
      · rintro (h | ⟨-, h⟩ | ⟨h, -⟩)
        · exact absurd h hne
        · apply h
        · omega
    · split
      · rename_i h4
        rw [decide_eq_true_iff, take_drop_prefix_iff]
        constructor
        · intro h
          exact Or.inr (Or.inr ⟨h4.2, h⟩)
        · rintro (h | ⟨h, -⟩ | ⟨-, h⟩)
          · exact absurd h hne
          · omega
          · apply h
      · rename_i hforth hback
        simp only [Bool.false_eq_true, false_iff]
        rintro (h | ⟨h4, rfl⟩ | ⟨h4, rfl⟩)
        · exact hne h
        · exact hforth ⟨h4, by rw [hfixed, h4]⟩
        · exact hback ⟨by rw [hfixed, h4], h4⟩

/-- Equal addresses have the same shorter form. -/
theorem equal_iff_normal :
  equal ip x = true ↔ normal ip = normal x
  := by
  rw [equal_iff]
  constructor
  · rintro (rfl | ⟨h4, rfl⟩ | ⟨h4, rfl⟩)
    · rfl
    · rw [normal_of_some (to4_eq_some.mpr ⟨h4, Or.inl rfl⟩),
        normal_of_some (to4_eq_some.mpr ⟨h4, Or.inr rfl⟩)]
    · rw [normal_of_some (to4_eq_some.mpr ⟨h4, Or.inl rfl⟩),
        normal_of_some (to4_eq_some.mpr ⟨h4, Or.inr rfl⟩)]
  · intro h
    have hsome : (to4 ip).isSome ↔ (to4 x).isSome := by
      rw [← length_normal_eq_four_iff, h, length_normal_eq_four_iff]
    cases hip : to4 ip with
    | none =>
        cases hx : to4 x with
        | none =>
            rw [normal_of_none hip, normal_of_none hx] at h
            apply Or.inl h
        | some x4 => simp [hip, hx] at hsome
    | some ip4 =>
        cases hx : to4 x with
        | none => simp [hip, hx] at hsome
        | some x4 =>
            rw [normal_of_some hip, normal_of_some hx] at h
            subst h
            obtain ⟨h4, rfl | rfl⟩ := to4_eq_some.mp hip
            · obtain ⟨-, rfl | rfl⟩ := to4_eq_some.mp hx
              · apply Or.inl rfl
              · exact Or.inr (Or.inl ⟨h4, rfl⟩)
            · obtain ⟨-, rfl | rfl⟩ := to4_eq_some.mp hx
              · exact Or.inr (Or.inr ⟨h4, rfl⟩)
              · apply Or.inl rfl

/-! ### The text determines the address -/

/-- No two byte sequences have the same hexadecimal text. -/
theorem hexString_injective (h : hexString bytes = hexString bytes') :
  bytes = bytes'
  := by
  induction bytes generalizing bytes' with
  | nil =>
      cases bytes' with
      | nil => rfl
      | cons b rest => cases h
  | cons b rest ih =>
      cases bytes' with
      | nil => cases h
      | cons b' rest' =>
          rw [hexString, hexString, List.flatMap_cons, List.flatMap_cons] at h
          obtain ⟨hdigits, hrest⟩ := List.append_inj h rfl
          obtain ⟨hhigh, hdigits⟩ := List.cons.inj hdigits
          have hlow := List.singleton_inj.mp hdigits
          have hlt := b.toNat_lt
          have hlt' := b'.toNat_lt
          have hhigh' := Numeral.digitChar_injective (by omega) (by omega) hhigh
          have hlow' := Numeral.digitChar_injective (by omega) (by omega) hlow
          rw [ih hrest, UInt8.toNat_inj.mp (by omega : b.toNat = b'.toNat)]

/-- No two addresses of IPv4 have the same text. -/
theorem string4_injective (hne : ip ≠ []) (hne' : x ≠ []) (h : string4 ip = string4 x) :
  ip = x
  := by
  have hdot : ∀ (bytes : IP), ∀ text ∈ bytes.map fun b => Nat.toDigits 10 b.toNat, '.' ∉ text := by
    intro bytes text htext
    obtain ⟨b, -, rfl⟩ := List.mem_map.mp htext
    apply Numeral.notMem_toDigits
    · decide
    · decide
    · decide
  have hinjective : Function.Injective fun b : UInt8 => Nat.toDigits 10 b.toNat := by
    intro b b' hb
    apply UInt8.toNat_inj.mp
    apply Numeral.toDigits_injective _ _ hb
    · decide
    · decide
  apply List.map_injective_iff.mpr hinjective
  apply Numeral.intercalate_injective _ _ (hdot ip) (hdot x) h
  · simpa using hne
  · simpa using hne'

/-- No two addresses have the same groups. -/
theorem groups_injective {n : ℕ} (hip : ip.length = 2 * n) (hx : x.length = 2 * n)
    (h : groups ip = groups x) :
  ip = x
  := by
  induction n generalizing ip x with
  | zero => rw [List.length_eq_zero_iff.mp hip, List.length_eq_zero_iff.mp hx]
  | succ n ih =>
      match ip, x with
      | a :: b :: rest, a' :: b' :: rest' =>
          rw [groups, groups, List.cons.injEq] at h
          have hb := b.toNat_lt
          have hb' := b'.toNat_lt
          rw [UInt8.toNat_inj.mp (by omega : a.toNat = a'.toNat),
            UInt8.toNat_inj.mp (by omega : b.toNat = b'.toNat)]
          rw [ih _ _ h.2]
          · simpa [Nat.mul_succ] using hip
          · simpa [Nat.mul_succ] using hx
      | [], _ => simp at hip
      | [_], _ =>
          rw [List.length_singleton] at hip
          omega
      | _ :: _ :: _, [] => simp at hx
      | _ :: _ :: _, [_] =>
          rw [List.length_singleton] at hx
          omega

/-- What is left out of the text are zeros. -/
def LeavesOutZeros (g : List ℕ) (run : ℕ × ℕ) : Prop :=
  run.1 ≠ 255 → g = g.take run.1 ++ List.replicate (run.2 - run.1) 0 ++ g.drop run.2

/-- A run of zeros may be left out. -/
theorem leavesOutZeros_zerosAt (g : List ℕ) (i : ℕ) :
  LeavesOutZeros g (i, i + zerosAt g i)
  := by
  intro _
  have hzeros : List.replicate (zerosAt g i) 0 = (g.drop i).takeWhile fun group => group = 0 := by
    symm
    apply List.eq_replicate_of_mem
    intro group hgroup
    simpa using List.mem_takeWhile_imp hgroup
  have hrest : g.drop (i + zerosAt g i) = (g.drop i).dropWhile fun group => group = 0 := by
    rw [← List.drop_drop, zerosAt]
    have hwhole : ((g.drop i).takeWhile fun group => group = 0) ++
        (g.drop i).drop ((g.drop i).takeWhile fun group => group = 0).length = g.drop i := by
      apply List.prefix_iff_eq_append.mp
      apply List.takeWhile_prefix
    apply List.append_cancel_left
    apply hwhole.trans List.takeWhile_append_dropWhile.symm
  rw [Nat.add_sub_cancel_left, hzeros, hrest, List.append_assoc, List.takeWhile_append_dropWhile,
    List.take_append_drop]

/-- So may the longest. -/
theorem leavesOutZeros_zeroRun (g : List ℕ) :
  LeavesOutZeros g (zeroRun g)
  := by
  have hfold : ∀ (positions : List ℕ) (run : ℕ × ℕ), LeavesOutZeros g run →
      LeavesOutZeros g (positions.foldl
        (fun run i =>
          if 2 ≤ zerosAt g i ∧ run.2 - run.1 < zerosAt g i then (i, i + zerosAt g i) else run)
        run) := by
    intro positions
    induction positions with
    | nil =>
        intro run hrun
        apply hrun
    | cons i positions ih =>
        intro run hrun
        apply ih
        dsimp only
        split
        · apply leavesOutZeros_zerosAt
        · apply hrun
  apply hfold
  intro h
  exact absurd rfl h

/-- The texts of the groups. -/
def hexGroups (g : List ℕ) : List (List Char) :=
  g.map (Nat.toDigits 16)

/-- The texts of the groups on one side of `::`, or the empty text when there are none. -/
def side (g : List ℕ) : List (List Char) :=
  if g = [] then [[]] else hexGroups g

/-- What is between the colons of the text of an IPv6 address. -/
def tokens (g : List ℕ) (run : ℕ × ℕ) : List (List Char) :=
  if run.1 = 255 then hexGroups g else side (g.take run.1) ++ [] :: side (g.drop run.2)

/-- There is text on each side of the gap, if only an empty one. -/
theorem side_ne_nil :
  side g ≠ []
  := by
  rw [side]
  split
  · apply List.cons_ne_nil
  · simpa [hexGroups]

/-- The groups of a side are joined by colons. -/
theorem joinGroups_eq :
  joinGroups g = [':'].intercalate (side g)
  := by
  rw [side]
  split
  · rename_i h
    rw [h]
    rfl
  · rfl

/-- No group has a colon. -/
theorem colon_notMem_hexGroups {text : List Char} (h : text ∈ hexGroups g) :
  ':' ∉ text
  := by
  obtain ⟨group, -, rfl⟩ := List.mem_map.mp h
  apply Numeral.notMem_toDigits
  · decide
  · decide
  · decide

/-- No group is empty. -/
theorem nil_notMem_hexGroups :
  [] ∉ hexGroups g
  := by
  intro h
  obtain ⟨group, -, hgroup⟩ := List.mem_map.mp h
  exact Nat.toDigits_ne_nil hgroup

/-- No token has a colon. -/
theorem colon_notMem_tokens {run : ℕ × ℕ} {text : List Char} (h : text ∈ tokens g run) :
  ':' ∉ text
  := by
  have hside : ∀ g, text ∈ side g → ':' ∉ text := by
    intro g hmem
    rw [side] at hmem
    split at hmem
    · obtain rfl := List.mem_singleton.mp hmem
      apply List.not_mem_nil
    · apply colon_notMem_hexGroups hmem
  rw [tokens] at h
  split at h
  · apply colon_notMem_hexGroups h
  · rcases List.mem_append.mp h with h | h
    · apply hside _ h
    · rcases List.mem_cons.mp h with rfl | h
      · apply List.not_mem_nil
      · apply hside _ h

/-- Two joined texts are joined by a colon. -/
theorem intercalate_append {texts texts' : List (List Char)} (hne : texts ≠ [])
    (hne' : texts' ≠ []) :
  [':'].intercalate (texts ++ texts') =
    [':'].intercalate texts ++ ':' :: [':'].intercalate texts'
  := by
  induction texts with
  | nil => exact absurd rfl hne
  | cons text texts ih =>
      cases texts with
      | nil =>
          rw [List.singleton_append, List.intercalate_cons_of_ne_nil hne',
            List.intercalate_singleton, List.append_assoc]
          rfl
      | cons next rest =>
          rw [List.cons_append, List.intercalate_cons_of_ne_nil (by simp),
            List.intercalate_cons_of_ne_nil (by simp), ih (by simp)]
          simp

/-- The text of an IPv6 address is that of its tokens. -/
theorem string6_eq :
  string6 ip = [':'].intercalate (tokens (groups ip) (zeroRun (groups ip)))
  := by
  rw [string6, tokens]
  dsimp only
  split
  · rfl
  · rw [intercalate_append side_ne_nil (by simp), List.intercalate_cons_of_ne_nil side_ne_nil,
      ← joinGroups_eq, ← joinGroups_eq]
    simp

/-- The groups before the first empty token. -/
theorem takeWhile_side (g : List ℕ) (rest : List (List Char)) :
  (side g ++ [] :: rest).takeWhile (fun text => text ≠ []) = hexGroups g
  := by
  rw [side]
  split
  · rename_i h
    rw [h]
    rfl
  · rw [List.takeWhile_append_of_pos]
    · simp
    · intro text htext
      rw [decide_eq_true_iff]
      rintro rfl
      exact nil_notMem_hexGroups htext

/-- The groups after the last empty token. -/
theorem takeWhile_reverse_side (g : List ℕ) (rest : List (List Char)) :
  ((rest ++ [] :: side g).reverse.takeWhile fun text => text ≠ []).reverse = hexGroups g
  := by
  rw [List.reverse_append, List.reverse_cons, List.append_assoc, List.singleton_append, side]
  split
  · rename_i h
    rw [h]
    rfl
  · rw [List.takeWhile_append_of_pos]
    · simp
    · intro text htext
      rw [decide_eq_true_iff]
      rintro rfl
      exact nil_notMem_hexGroups (List.mem_reverse.mp htext)

/-- No two lists of groups have the same texts. -/
theorem hexGroups_injective (h : hexGroups g = hexGroups g') :
  g = g'
  := by
  apply List.map_injective_iff.mpr _ h
  apply Numeral.toDigits_injective
  · decide
  · decide

/-- The tokens determine as many groups as are known to be. -/
theorem tokens_injective {run run' : ℕ × ℕ} (hlength : g.length = g'.length)
    (hzeros : LeavesOutZeros g run) (hzeros' : LeavesOutZeros g' run')
    (h : tokens g run = tokens g' run') :
  g = g'
  := by
  have hnil : ∀ {g g' : List ℕ} {run' : ℕ × ℕ},
      hexGroups g ≠ side (g'.take run'.1) ++ [] :: side (g'.drop run'.2) := by
    intro g g' run' heq
    apply nil_notMem_hexGroups (g := g)
    rw [heq]
    simp
  rw [tokens, tokens] at h
  split at h
  · split at h
    · apply hexGroups_injective h
    · exact absurd h hnil
  · rename_i hrun
    split at h
    · exact absurd h.symm hnil
    · rename_i hrun'
      have hleft : g.take run.1 = g'.take run'.1 := by
        apply hexGroups_injective
        rw [← takeWhile_side _ (side (g.drop run.2)), h, takeWhile_side]
      have hright : g.drop run.2 = g'.drop run'.2 := by
        apply hexGroups_injective
        rw [← takeWhile_reverse_side _ (side (g.take run.1)), h, takeWhile_reverse_side]
      have hg := hzeros hrun
      have hg' := hzeros' hrun'
      have hcount : run.2 - run.1 = run'.2 - run'.1 := by
        have hcount := congrArg List.length hg
        have hcount' := congrArg List.length hg'
        rw [List.length_append, List.length_append, List.length_replicate] at hcount hcount'
        rw [hleft, hright] at hcount
        omega
      rw [hg, hg', hleft, hright, hcount]

/-- A group has two bytes. -/
theorem length_groups {n : ℕ} (h : ip.length = 2 * n) :
  (groups ip).length = n
  := by
  induction n generalizing ip with
  | zero =>
      rw [List.length_eq_zero_iff.mp h]
      rfl
  | succ n ih =>
      match ip with
      | a :: b :: rest =>
          rw [groups, List.length_cons, ih]
          simpa [Nat.mul_succ] using h
      | [] => simp at h
      | [_] =>
          rw [List.length_singleton] at h
          omega

/-- No two addresses of IPv6 have the same text. -/
theorem string6_injective (hip : ip.length = 16) (hx : x.length = 16)
    (h : string6 ip = string6 x) :
  ip = x
  := by
  have hgroups : (groups ip).length = 8 := length_groups hip
  have hgroups' : (groups x).length = 8 := length_groups hx
  have hne : ∀ {g : List ℕ} {run : ℕ × ℕ}, g.length = 8 → tokens g run ≠ [] := by
    intro g run hlength
    rw [tokens]
    split
    · rintro hnil
      rw [hexGroups, List.map_eq_nil_iff] at hnil
      rw [hnil] at hlength
      cases hlength
    · simp
  rw [string6_eq, string6_eq] at h
  apply groups_injective (n := 8) hip hx
  apply tokens_injective
  · rw [hgroups, hgroups']
  · apply leavesOutZeros_zeroRun
  · apply leavesOutZeros_zeroRun
  · apply Numeral.intercalate_injective (hne hgroups) (hne hgroups') _ _ h
    · intro text
      apply colon_notMem_tokens
    · intro text
      apply colon_notMem_tokens

/-- The text of an address of each kind. -/
theorem string_cases (ip : IP) :
  ip = [] ∧ string ip = ['<', 'n', 'i', 'l', '>'] ∨
    to4 ip = none ∧ string ip = '?' :: hexString ip ∨
    (∃ ip4, to4 ip = some ip4 ∧ string ip = string4 ip4) ∨
    ip.length = 16 ∧ to4 ip = none ∧ string ip = string6 ip
  := by
  rw [string]
  split
  · rename_i h
    exact Or.inl ⟨List.length_eq_zero_iff.mp h, rfl⟩
  · split
    · rename_i h
      right
      left
      rw [to4, if_neg h.1, if_neg (fun h16 => h.2 h16.1)]
      exact ⟨rfl, rfl⟩
    · rename_i h
      right
      right
      cases h4 : to4 ip with
      | some ip4 => exact Or.inl ⟨ip4, rfl, rfl⟩
      | none =>
          right
          have hne : ip.length ≠ 4 := by
            intro hlength
            rw [to4, if_pos hlength] at h4
            cases h4
          have h16 : ip.length = 16 := by
            by_contra h16
            exact h ⟨hne, h16⟩
          exact ⟨h16, rfl, rfl⟩

/-- A character of a list of texts is the separator or is in one of them. -/
theorem mem_intercalate {separator c : Char} {texts : List (List Char)}
    (h : c ∈ [separator].intercalate texts) :
  c = separator ∨ ∃ text ∈ texts, c ∈ text
  := by
  induction texts with
  | nil => cases h
  | cons text texts ih =>
      cases texts with
      | nil =>
          rw [List.intercalate_singleton] at h
          exact Or.inr ⟨text, List.mem_singleton_self text, h⟩
      | cons next rest =>
          rw [List.intercalate_cons_of_ne_nil (by simp), List.append_assoc] at h
          rcases List.mem_append.mp h with h | h
          · exact Or.inr ⟨text, List.mem_cons_self, h⟩
          · rcases List.mem_append.mp h with h | h
            · apply Or.inl (List.mem_singleton.mp h)
            · rcases ih h with h | ⟨text', htext, h⟩
              · apply Or.inl h
              · exact Or.inr ⟨text', List.mem_cons_of_mem _ htext, h⟩

/-- A character of a numeral. -/
def IsDigit (c : Char) : Prop :=
  ∃ d < 16, c = d.digitChar

/-- The text of an address of IPv4 has dots and digits. -/
theorem mem_string4 {c : Char} (h : c ∈ string4 ip) :
  c = '.' ∨ IsDigit c
  := by
  rcases mem_intercalate h with h | ⟨text, htext, h⟩
  · apply Or.inl h
  · obtain ⟨b, -, rfl⟩ := List.mem_map.mp htext
    obtain ⟨d, hd, rfl⟩ := Numeral.exists_digit_of_mem (by decide) h
    exact Or.inr ⟨d, by omega, rfl⟩

/-- The text of an address of IPv6 has colons and digits. -/
theorem mem_string6 {c : Char} (h : c ∈ string6 ip) :
  c = ':' ∨ IsDigit c
  := by
  have hgroups : ∀ {g}, c ∈ joinGroups g → c = ':' ∨ IsDigit c := by
    intro g h
    rcases mem_intercalate h with h | ⟨text, htext, h⟩
    · apply Or.inl h
    · obtain ⟨group, -, rfl⟩ := List.mem_map.mp htext
      exact Or.inr (Numeral.exists_digit_of_mem (by decide) h)
  rw [string6] at h
  dsimp only at h
  split at h
  · apply hgroups h
  · simp only [List.mem_append, List.mem_cons, List.not_mem_nil, or_false, or_self] at h
    rcases h with (h | h) | h
    · apply hgroups h
    · apply Or.inl h
    · apply hgroups h

/-- It always has a dot. -/
theorem dot_mem_string4 (h : ip.length = 4) :
  '.' ∈ string4 ip
  := by
  match ip with
  | a :: b :: rest =>
      rw [string4, List.map_cons, List.intercalate_cons_of_ne_nil (by simp)]
      simp
  | [_] => cases h
  | [] => cases h

instance : DecidablePred IsDigit :=
  fun _ => inferInstanceAs (Decidable (∃ _, _ ∧ _))

/-- Nothing else is in it. -/
theorem notMem_string4 {c : Char} (hdot : c ≠ '.') (hdigit : ¬ IsDigit c) :
  c ∉ string4 ip
  := by
  intro h
  rcases mem_string4 h with h | h
  · exact hdot h
  · exact hdigit h

/-- Nothing else is in it. -/
theorem notMem_string6 {c : Char} (hcolon : c ≠ ':') (hdigit : ¬ IsDigit c) :
  c ∉ string6 ip
  := by
  intro h
  rcases mem_string6 h with h | h
  · exact hcolon h
  · exact hdigit h

/-- Only the missing address is written like this. -/
theorem string_eq_nil_iff :
  string ip = ['<', 'n', 'i', 'l', '>'] ↔ ip = []
  := by
  constructor
  · intro h
    have hmem : '<' ∈ string ip := by
      rw [h]
      apply List.mem_cons_self
    rcases string_cases ip with ⟨hip, -⟩ | ⟨-, hs⟩ | ⟨ip4, -, hs⟩ | ⟨-, -, hs⟩
    · apply hip
    · rw [hs] at h
      cases h
    · rw [hs] at hmem
      exact absurd hmem (notMem_string4 (by decide) (by decide))
    · rw [hs] at hmem
      exact absurd hmem (notMem_string6 (by decide) (by decide))
  · rintro rfl
    rfl

/-- The text of the shorter form is the same. -/
theorem string_normal (ip : IP) :
  string (normal ip) = string ip
  := by
  cases h : to4 ip with
  | none => rw [normal_of_none h]
  | some ip4 =>
      have h4 := length_of_to4 h
      obtain ⟨-, hforms⟩ := to4_eq_some.mp h
      have hself : to4 ip4 = some ip4 := if_pos h4
      have hlength : ip.length = 4 ∨ ip.length = 16 := by
        rcases hforms with rfl | rfl
        · apply Or.inl h4
        · right
          rw [List.length_append, h4]
          rfl
      have hstring : ∀ {y : IP}, y.length = 4 ∨ y.length = 16 → to4 y = some ip4 →
          string y = string4 ip4 := by
        intro y hy hy4
        rw [string, if_neg (by omega), if_neg (by omega), hy4]
      rw [normal_of_some h, hstring (Or.inl h4) hself, hstring hlength h]

/-- The text determines the address, up to its form. -/
theorem string_eq_iff :
  string ip = string x ↔ equal ip x = true
  := by
  rw [equal_iff_normal]
  constructor
  · intro h
    rcases string_cases ip with ⟨rfl, hs⟩ | ⟨h4, hs⟩ | ⟨ip4, h4, hs⟩ | ⟨h16, h4, hs⟩
    · rw [string_eq_nil_iff.mp (h.symm.trans hs)]
    · rcases string_cases x with ⟨rfl, hs'⟩ | ⟨h4', hs'⟩ | ⟨x4, h4', hs'⟩ | ⟨h16', h4', hs'⟩
      · rw [string_eq_nil_iff.mp (h.trans hs')]
      · rw [hs, hs', List.cons.injEq] at h
        rw [normal_of_none h4, normal_of_none h4', hexString_injective h.2]
      · have hmem : '?' ∈ string4 x4 := by
          rw [← hs', ← h, hs]
          apply List.mem_cons_self
        exact absurd hmem (notMem_string4 (by decide) (by decide))
      · have hmem : '?' ∈ string6 x := by
          rw [← hs', ← h, hs]
          apply List.mem_cons_self
        exact absurd hmem (notMem_string6 (by decide) (by decide))
    · rcases string_cases x with ⟨rfl, hs'⟩ | ⟨h4', hs'⟩ | ⟨x4, h4', hs'⟩ | ⟨h16', h4', hs'⟩
      · rw [string_eq_nil_iff.mp (h.trans hs')]
      · have hmem : '?' ∈ string4 ip4 := by
          rw [← hs, h, hs']
          apply List.mem_cons_self
        exact absurd hmem (notMem_string4 (by decide) (by decide))
      · rw [normal_of_some h4, normal_of_some h4']
        have hlength := length_of_to4 h4
        have hlength' := length_of_to4 h4'
        apply string4_injective
        · rintro rfl
          cases hlength
        · rintro rfl
          cases hlength'
        · rw [← hs, h, hs']
      · have hmem : '.' ∈ string6 x := by
          rw [← hs', ← h, hs]
          apply dot_mem_string4 (length_of_to4 h4)
        exact absurd hmem (notMem_string6 (by decide) (by decide))
    · rcases string_cases x with ⟨rfl, hs'⟩ | ⟨h4', hs'⟩ | ⟨x4, h4', hs'⟩ | ⟨h16', h4', hs'⟩
      · rw [string_eq_nil_iff.mp (h.trans hs')]
      · have hmem : '?' ∈ string6 ip := by
          rw [← hs, h, hs']
          apply List.mem_cons_self
        exact absurd hmem (notMem_string6 (by decide) (by decide))
      · have hmem : '.' ∈ string6 ip := by
          rw [← hs, h, hs']
          apply dot_mem_string4 (length_of_to4 h4')
        exact absurd hmem (notMem_string6 (by decide) (by decide))
      · rw [normal_of_none h4, normal_of_none h4']
        apply string6_injective h16 h16'
        rw [← hs, h, hs']
  · intro h
    rw [← string_normal, h, string_normal]

/-- The normal form of an address is normal. -/
theorem normal_normal (ip : IP) :
  normal (normal ip) = normal ip
  := by
  cases h : to4 ip with
  | none =>
      rw [normal_of_none h, normal_of_none h]
  | some ip4 =>
      rw [normal_of_some h]
      apply normal_of_some
      apply if_pos (length_of_to4 h)

end IP

end JetKvm.Network
