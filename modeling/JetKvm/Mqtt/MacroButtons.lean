import JetKvm.Library.Joining
import JetKvm.Mqtt.Discovery
import JetKvm.Mqtt.MacroRunning
import Mathlib.Data.List.Forall2

/-!
# Buttons of macros

The button of a macro sends its payload to a topic that contains the identifier of the macro as it
was stored, whereas the button itself has a name in which other characters are replaced. The manager
subscribes to the topics of all macros at once. A macro runs when its button is pressed unless its
identifier does not make up one level of a topic to which a message can be published, or is the one
that is used for cancelling. What is delivered is up to the broker and the client library.
-/

namespace JetKvm.Mqtt

open Macro (KeyboardMacro)

/-! ### Topics -/

/-- A fully qualified topic. -/
def topic (baseTopic : String) (parts : List String) : String :=
  baseTopic ++ "/" ++ "/".intercalate parts

/-- The levels of a topic. -/
def levels (topic : String) : List String :=
  (topic.toList.splitOn '/').map String.ofList

/-- The longest topic and the longest filter that a packet can hold, in bytes. -/
def maxTopicSize : ℕ :=
  65535

/-- A message can be published to the topic, which has no wildcards. -/
def IsTopicName (topic : String) : Prop :=
  topic ≠ "" ∧ (∀ c ∈ topic.toList, c ≠ '+' ∧ c ≠ '#' ∧ c ≠ '\x00') ∧
    topic.utf8ByteSize ≤ maxTopicSize

instance (topic : String) : Decidable (IsTopicName topic) :=
  -- the characters of the topic are looked at, and not all characters that there are
  haveI : Decidable (∀ c ∈ topic.toList, c ≠ '+' ∧ c ≠ '#' ∧ c ≠ '\x00') := List.decidableBAll _ _
  inferInstanceAs (Decidable (_ ∧ _ ∧ _))

/-- A filter matches the topics with its own levels, where a `+` stands for any one level. -/
def LevelsMatch (filters levels : List String) : Prop :=
  List.Forall₂ (fun filter level => filter = "+" ∨ filter = level) filters levels

instance (filters levels : List String) : Decidable (LevelsMatch filters levels) :=
  inferInstanceAs (Decidable (List.Forall₂ _ _ _))

/-- Which messages are delivered to a subscription, from its filter and their topics, as the
protocol has it. Nothing is said here about filters with `#` and filters that begin with `+` or
with `$`. -/
structure DeliversAsDocumented (delivers : String → String → Bool) : Prop where
  isTopicName : ∀ filter topic, delivers filter topic = true → IsTopicName topic
  levelsMatch : ∀ filter topic, '#' ∉ filter.toList → filter.toList.head? ≠ some '+' →
    filter.toList.head? ≠ some '$' → filter.utf8ByteSize ≤ maxTopicSize → IsTopicName topic →
    (delivers filter topic = true ↔ LevelsMatch (levels filter) (levels topic))

/-- The macro that is run by a message, which is handled if it is delivered to the subscription to
the topics of all macros. -/
def onMessage (delivers : String → String → Bool) (unmarshal : String → Option String)
    (actionsAllowed : Bool) (baseTopic messageTopic payload : String) : Option MacroID :=
  if delivers (topic baseTopic ["macro", "+", "set"]) messageTopic then
    handleMacroCommand unmarshal actionsAllowed messageTopic payload
  else none

/-- The identifier is one level of a topic to which messages can be published, and is not the one
for cancelling. -/
def Pressable (baseTopic id : String) : Prop :=
  id ≠ "" ∧ id ≠ "cancel" ∧ (∀ c ∈ id.toList, c ≠ '/' ∧ c ≠ '+' ∧ c ≠ '#') ∧
    IsTopicName (topic baseTopic ["macro", id, "set"])

instance (baseTopic id : String) : Decidable (Pressable baseTopic id) :=
  haveI : Decidable (∀ c ∈ id.toList, c ≠ '/' ∧ c ≠ '+' ∧ c ≠ '#') := List.decidableBAll _ _
  inferInstanceAs (Decidable (_ ∧ _ ∧ _ ∧ _))

variable {baseTopic id : String} {delivers : String → String → Bool}

theorem levels_topic (kind id last : String) :
  levels (topic baseTopic [kind, id, last]) =
    levels baseTopic ++ (levels kind ++ (levels id ++ levels last))
  := by
  have hjoined : (topic baseTopic [kind, id, last]).toList =
      baseTopic.toList ++ [kind.toList, id.toList, last.toList].flatMap ('/' :: ·) := by
    simp [topic]
  rw [levels, hjoined, Joining.splitOn_append_flatMap]
  simp [levels]

theorem levels_eq_singleton (h : '/' ∉ id.toList) :
  levels id = [id]
  := by
  rw [levels, List.splitOn_eq_singleton h, List.map_singleton, String.ofList_toList]

/-- A text that has a separator has several levels. -/
theorem one_lt_length_levels (h : '/' ∈ id.toList) :
  1 < (levels id).length
  := by
  obtain ⟨before, after, hid⟩ := List.mem_iff_append.mp h
  rw [levels, List.length_map, hid, List.splitOn_append_cons_self, List.length_append]
  have hbefore := List.length_pos_iff.mpr (List.splitOn_ne_nil '/' before)
  have hafter := List.length_pos_iff.mpr (List.splitOn_ne_nil '/' after)
  omega

theorem levelsMatch_append (base : List String) {filters levels : List String} :
  LevelsMatch (base ++ filters) (base ++ levels) ↔ LevelsMatch filters levels
  := by
  induction base with
  | nil => exact Iff.rfl
  | cons level base ih =>
      rw [List.cons_append, List.cons_append, LevelsMatch, List.forall₂_cons]
      exact (and_iff_right (Or.inr rfl)).trans ih

/-- The macro topics that match the filter are those in which the identifier is one level. -/
theorem levelsMatch_command (baseTopic id : String) :
  LevelsMatch (levels (topic baseTopic ["macro", "+", "set"]))
      (levels (topic baseTopic ["macro", id, "set"])) ↔
    '/' ∉ id.toList
  := by
  have hplus : levels "macro" ++ (levels "+" ++ levels "set") = ["macro", "+", "set"] := by decide
  have hlevel : levels "macro" = ["macro"] := by decide
  have hset : levels "set" = ["set"] := by decide
  rw [levels_topic, levels_topic, levelsMatch_append, hplus]
  constructor
  · intro hmatches hmem
    have hlength := hmatches.length_eq
    have hlevels := one_lt_length_levels hmem
    simp [hlevel, hset] at hlength
    omega
  · intro hmem
    rw [levels_eq_singleton hmem, hlevel, hset]
    simp [LevelsMatch]

theorem topic_command :
  topic baseTopic ["macro", id, "set"] = baseTopic ++ "/macro/" ++ id ++ "/set"
  := by
  apply String.toList_injective
  simp [topic]

/-- A filter whose topics can be published to is one that the protocol says something about. -/
theorem delivers_command (documented : DeliversAsDocumented delivers)
    (hbase : baseTopic.toList.head? ≠ some '$') (hid : id ≠ "")
    (hname : IsTopicName (topic baseTopic ["macro", id, "set"])) :
  delivers (topic baseTopic ["macro", "+", "set"]) (topic baseTopic ["macro", id, "set"]) = true ↔
    '/' ∉ id.toList
  := by
  have ⟨_, hchars, hsize⟩ := hname
  have hbaseChars : ∀ c ∈ baseTopic.toList, c ≠ '+' ∧ c ≠ '#' := by
    intro c hc
    have hmem : c ∈ (topic baseTopic ["macro", id, "set"]).toList := by
      rw [topic_command]
      simp [hc]
    exact ⟨(hchars c hmem).1, (hchars c hmem).2.1⟩
  have hhead : ∀ c, baseTopic.toList.head? ≠ some c → c ≠ '/' →
      (topic baseTopic ["macro", "+", "set"]).toList.head? ≠ some c := by
    intro c hne hslash
    rw [topic_command, String.toList_append, String.toList_append, String.toList_append]
    cases hlist : baseTopic.toList with
    | nil => simpa using Ne.symm hslash
    | cons first rest =>
        rw [hlist] at hne
        simpa using hne
  rw [← levelsMatch_command baseTopic]
  apply documented.levelsMatch _ _ _ _ _ _ hname
  · rw [topic_command]
    simpa using fun hmem => (hbaseChars '#' hmem).2 rfl
  · apply hhead '+' _ (by decide)
    intro hplus
    exact (hbaseChars '+' (List.mem_of_mem_head? hplus)).1 rfl
  · exact hhead '$' hbase (by decide)
  · have hpos : 0 < id.utf8ByteSize := by
      rw [Nat.pos_iff_ne_zero, ne_eq, String.utf8ByteSize_eq_zero_iff]
      exact hid
    have hplus : "+".utf8ByteSize = 1 := by decide
    rw [topic_command] at hsize ⊢
    simp only [String.utf8ByteSize_append] at hsize ⊢
    omega

/-- The identifier is read back from the topic. -/
theorem extractMacroIDFromTopic_topic (baseTopic : String) (hmem : '/' ∉ id.toList) :
  extractMacroIDFromTopic (topic baseTopic ["macro", id, "set"]) =
    if h : id ≠ "" then some ⟨id, h⟩ else none
  := by
  have hlevel : levels "macro" = ["macro"] := by decide
  have hset : levels "set" = ["set"] := by decide
  have hlevels : levels (topic baseTopic ["macro", id, "set"]) =
      levels baseTopic ++ ["macro", id, "set"] := by
    rw [levels_topic, levels_eq_singleton hmem, hlevel, hset]
    rfl
  rw [extractMacroIDFromTopic, ← levels, hlevels]
  simp

/-- What is run when the button of a macro is pressed. -/
theorem onMessage_press (documented : DeliversAsDocumented delivers)
    (hbase : baseTopic.toList.head? ≠ some '$') (unmarshal : String → Option String) :
  (onMessage delivers unmarshal true baseTopic (topic baseTopic ["macro", id, "set"])
      "PRESS").map Subtype.val = if Pressable baseTopic id then some id else none
  := by
  have htrim : trimSpace "PRESS" = "PRESS" := by decide
  have hpress : equalFoldPress "PRESS" = true := by decide
  by_cases hname : IsTopicName (topic baseTopic ["macro", id, "set"])
  · by_cases hid : id = ""
    · -- the levels of the topic are known, whether it is delivered or not
      have hextract := extractMacroIDFromTopic_topic baseTopic
        (show '/' ∉ id.toList by simp [hid])
      rw [if_neg fun h => h.1 hid, onMessage, handleMacroCommand, hextract,
        dif_neg (not_not.mpr hid)]
      simp
    · by_cases hslash : '/' ∈ id.toList
      · rw [if_neg fun h => (h.2.2.1 _ hslash).1 rfl, onMessage,
          if_neg fun h => (delivers_command documented hbase hid hname).mp h hslash]
        rfl
      · rw [onMessage, if_pos ((delivers_command documented hbase hid hname).mpr hslash),
          handleMacroCommand, extractMacroIDFromTopic_topic baseTopic hslash, htrim, hpress,
          dif_pos hid]
        by_cases hcancel : id = "cancel"
        · have hnot : ¬ Pressable baseTopic "cancel" := fun h => h.2.1 rfl
          simp [hcancel, hnot]
        · have hchars : ∀ c ∈ id.toList, c ≠ '/' ∧ c ≠ '+' ∧ c ≠ '#' := by
            intro c hc
            have hmem : c ∈ (topic baseTopic ["macro", id, "set"]).toList := by
              rw [topic_command]
              simp [hc]
            obtain ⟨hplus, hhash, -⟩ := hname.2.1 c hmem
            exact ⟨fun h => hslash (h ▸ hc), hplus, hhash⟩
          have hpressable : Pressable baseTopic id := ⟨hid, hcancel, hchars, hname⟩
          simp [hcancel, hpressable]
  · rw [if_neg fun h => hname h.2.2.2, onMessage,
      if_neg fun h => hname (documented.isTopicName _ _ h)]
    rfl

variable {env : Env} {keyboardMacro : KeyboardMacro}

/-- What is delivered to a subscription without `#`. -/
def deliversLevels (filter topic : String) : Bool :=
  IsTopicName topic ∧ LevelsMatch (levels filter) (levels topic)

theorem deliversLevels_documented :
  DeliversAsDocumented deliversLevels
  := by
  constructor
  · intro filter topic h
    exact (of_decide_eq_true h).1
  · intro filter topic _ _ _ _ hname
    rw [deliversLevels, decide_eq_true_eq]
    exact and_iff_right hname

end JetKvm.Mqtt
