import SChatCore.Data.Quoted
import SChatCore.Transport.Onion

namespace SChatCore.Transport

open Data Data.Quoted

/-! Circumvention settings and the control-port command that applies them. -/

def maxBridges : Nat := 24

def maxBridgeLineChars : Nat := 512

structure CircumventionConfig where
  useBridges : Bool
  bridges : List String
  fascistFirewall : Bool
  preferIpv6 : Bool
  useIpv4 : Bool
  useIpv6 : Bool
  ptAvailable : Bool
  deriving DecidableEq

namespace CircumventionConfig

/-- IPv4 and IPv6 cannot both be disabled. -/
def normalized (config : CircumventionConfig) : CircumventionConfig :=
  if ¬ config.useIpv4 ∧ ¬ config.useIpv6 then
    { config with useIpv4 := true, useIpv6 := true }
  else config

def validate (config : CircumventionConfig) : Except TransportError Unit :=
  let count := config.bridges.length
  if count > maxBridges then
    .error (.control s!"too many bridges: {count} > {maxBridges}")
  else if config.bridges.any (fun bridge =>
      bridge.length > maxBridgeLineChars) then
    .error (.control "bridge line too long")
  else .ok ()

def bit (on : Bool) : String := if on then "1" else "0"

def setconfPairs (config : CircumventionConfig) : List (String × String) :=
  let cfg := config.normalized
  [("FascistFirewall", bit cfg.fascistFirewall), ("ClientPreferIPv6ORPort", bit cfg.preferIpv6),
    ("ClientUseIPv4", bit cfg.useIpv4),
    ("ClientUseIPv6", bit cfg.useIpv6)] ++
  if cfg.useBridges ∧ ¬ cfg.bridges.isEmpty then
    ("UseBridges", "1") :: cfg.bridges.map (("Bridge", ·))
  else [("UseBridges", "0")]

end CircumventionConfig

/-- What `setconf` writes to the control port: the values go between quotes as
they are. -/
def setconf (pairs : List (String × String)) : String :=
  if pairs.isEmpty then ""
  else
    let args := " ".intercalate (pairs.map fun (key, value) => key ++ "=\"" ++ value ++ "\"")
    "SETCONF " ++ args ++ "\r\n"

def OneLine (text : String) : Prop :=
  ∃ body, text.toList = body ++ ['\r', '\n'] ∧ body.any isBreak = false

def readSetconf (text : String) : Option (List (String × String)) :=
  let chars := text.toList
  let body := chars.take (chars.length - 2)
  if chars.drop (chars.length - 2) = ['\r', '\n'] ∧ body.take 7 = "SETCONF".toList then
    (readPairs body.length (body.drop 7)).map fun pairs =>
      pairs.map fun (key, value) => (String.ofList key, String.ofList value)
  else none

def chars (pair : String × String) : List Char × List Char := (pair.1.toList, pair.2.toList)

theorem cons_intercalate (words : List (List Char)) (content : words ≠ []) :
    ' ' :: [' '].intercalate words = words.flatMap (' ' :: ·) := by
  induction words with
  | nil => exact absurd rfl content
  | cons word words ih =>
    cases words with
    | nil => simp
    | cons next words =>
      rw [List.intercalate_cons_cons, List.flatMap_cons, ← ih nofun]
      simp

theorem toList_setconf (content : pairs ≠ []) : (setconf pairs).toList =
      "SETCONF".toList ++ write (pairs.map chars) ++ ['\r', '\n'] := by
  have command : "SETCONF ".toList = "SETCONF".toList ++ [' '] := by decide
  have ending : "\r\n".toList = ['\r', '\n'] := by decide
  have space : " ".toList = [' '] := by decide
  have words := cons_intercalate (pairs.map fun pair => (pair.1 ++ "=\"" ++ pair.2 ++ "\"").toList)
    (by simpa using content)
  have written : (pairs.map fun pair => (pair.1 ++ "=\"" ++ pair.2 ++
      "\"").toList).flatMap (' ' :: ·) = write (pairs.map chars) := by
    simp [write, writePair, chars, List.flatMap_map]
  unfold setconf
  rw [if_neg (by simpa using content)]
  simp only [String.toList_append, String.toList_intercalate, command, ending, space, List.map_map]
  rw [← written, ← words]
  simp [Function.comp_def]

def texts (pair : List Char × List Char) : String × String :=
  (String.ofList pair.1, String.ofList pair.2)

theorem texts_chars (pairs : List (String × String)) : (pairs.map chars).map texts = pairs := by
  simp [chars, texts, Function.comp_def]

theorem chars_texts (pairs : List (List Char × List Char)) :
    (pairs.map texts).map chars = pairs := by
  simp [chars, texts, Function.comp_def]

theorem readSetconf_setconf (content : pairs ≠ []) : readSetconf (setconf pairs) =
      (readPairs ("SETCONF".toList ++ write (pairs.map chars)).length
        (write (pairs.map chars))).map (·.map texts) := by
  have name : "SETCONF".toList.length = 7 := by decide
  unfold readSetconf
  rw [toList_setconf content]
  generalize write (pairs.map chars) = args
  have length : ("SETCONF".toList ++ args ++ ['\r', '\n']).length - 2 =
      ("SETCONF".toList ++ args).length := by
    simp
  simp only [length, List.take_left', List.drop_left']
  rw [if_pos ⟨trivial, List.take_left' name⟩, List.drop_left' name]
  rfl

theorem readSetconf_iff (content : pairs ≠ []) (keys : ∀ pair ∈ pairs, pair.1.toList ≠ [] ∧
      pair.1.toList.all isKey = true) :
    readSetconf (setconf pairs) = some pairs ↔
      ∀ pair ∈ pairs, pair.2.toList.all isPlain = true := by
  have enough : (pairs.map chars).length ≤
      ("SETCONF".toList ++ write (pairs.map chars)).length := by
    rw [List.length_append]
    exact (length_le_write _).trans (Nat.le_add_left _ _)
  have exact := readPairs_write_iff (List.forall_mem_map.mpr keys) enough
  rw [readSetconf_setconf content, Option.map_eq_some_iff]
  constructor
  · rintro ⟨read, parsed, same⟩
    have equal : read = pairs.map chars := by rw [← same, chars_texts]
    rw [equal] at parsed
    exact List.forall_mem_map.mp (exact.mp parsed)
  · intro plain
    exact ⟨pairs.map chars, exact.mpr (List.forall_mem_map.mpr plain), texts_chars pairs⟩

theorem oneLine_setconf (content : pairs ≠ [])
    (keys : ∀ pair ∈ pairs, pair.1.toList.any isBreak = false)
    (plain : ∀ pair ∈ pairs, pair.2.toList.all isPlain = true) :
    OneLine (setconf pairs) := by
  have name : "SETCONF".toList.any isBreak = false := by decide
  have text : ∀ value : List Char, value.all isPlain = true → value.any isBreak = false := by
    intro value
    rw [List.all_eq_true, List.any_eq_false]
    intro plain char mem broken
    have stands := plain char mem
    rw [isPlain, broken, Bool.or_true] at stands
    cases stands
  refine ⟨_, toList_setconf content, ?_⟩
  rw [List.any_append, name, Bool.false_or, write, List.any_flatMap, List.any_eq_false]
  intro written mem
  obtain ⟨pair, listed, rfl⟩ := List.mem_map.mp mem
  have value := text _ (plain pair listed)
  have space : isBreak ' ' = false := by decide
  have equals : isBreak '=' = false := by decide
  have quote : isBreak '"' = false := by decide
  simp only [writePair, chars, List.any_cons, List.any_append, List.any_nil,
    keys pair listed, value, space, equals, quote, Bool.or_self,
    Bool.false_eq_true, not_false_eq_true]

namespace CircumventionConfig

variable {config : CircumventionConfig}

theorem bridges_normalized : config.normalized.bridges = config.bridges ∧
    config.normalized.useBridges = config.useBridges := by
  unfold normalized
  split
  · exact ⟨rfl, rfl⟩
  · exact ⟨rfl, rfl⟩

theorem mem_setconfPairs (mem : pair ∈ config.setconfPairs) :
    (pair.1 ∈ ["FascistFirewall", "ClientPreferIPv6ORPort", "ClientUseIPv4",
        "ClientUseIPv6", "UseBridges"] ∧ pair.2 ∈ ["0", "1"]) ∨
      pair.1 = "Bridge" ∧ config.useBridges = true ∧ pair.2 ∈ config.bridges := by
  obtain ⟨bridges, useBridges⟩ := @bridges_normalized config
  have bits : ∀ on, bit on ∈ ["0", "1"] := by decide
  unfold setconfPairs at mem
  simp only [bridges, useBridges] at mem
  rcases List.mem_append.mp mem with fixed | rest
  · simp only [List.mem_cons, List.not_mem_nil, or_false] at fixed
    rcases fixed with rfl | rfl | rfl | rfl
    · exact .inl ⟨by simp, bits _⟩
    · exact .inl ⟨by simp, bits _⟩
    · exact .inl ⟨by simp, bits _⟩
    · exact .inl ⟨by simp, bits _⟩
  · split at rest
    · rename_i bridged
      rcases List.mem_cons.mp rest with rfl | listed
      · exact .inl ⟨by simp, by simp⟩
      · obtain ⟨bridge, chosen, rfl⟩ := List.mem_map.mp listed
        exact .inr ⟨rfl, bridged.1, chosen⟩
    · cases List.mem_singleton.mp rest
      exact .inl ⟨by simp, by simp⟩

theorem bridge_mem_setconfPairs (used : config.useBridges = true)
    (listed : bridge ∈ config.bridges) :
    ("Bridge", bridge) ∈ config.setconfPairs := by
  obtain ⟨bridges, useBridges⟩ := @bridges_normalized config
  have content : config.bridges.isEmpty = false :=
    List.isEmpty_eq_false_iff.mpr (List.ne_nil_of_mem listed)
  unfold setconfPairs
  simp only [bridges, useBridges, used, content]
  exact List.mem_append_right _ (List.mem_cons_of_mem _ (List.mem_map_of_mem listed))

theorem setconfPairs_ne_nil : config.setconfPairs ≠ [] := nofun

theorem key_setconfPairs {pair : String × String} (mem : pair ∈ config.setconfPairs) :
    (pair.1.toList ≠ [] ∧ pair.1.toList.all isKey = true) ∧ pair.1.toList.any isBreak = false := by
  have listed : pair.1 ∈ ["FascistFirewall", "ClientPreferIPv6ORPort",
      "ClientUseIPv4", "ClientUseIPv6", "UseBridges", "Bridge"] := by
    rcases mem_setconfPairs mem with ⟨fixed, -⟩ | ⟨bridge, -⟩
    · exact List.mem_append_left ["Bridge"] fixed
    · simp [bridge]
  have keys : (["FascistFirewall", "ClientPreferIPv6ORPort", "ClientUseIPv4",
      "ClientUseIPv6", "UseBridges", "Bridge"].all fun key =>
        !key.toList.isEmpty && key.toList.all isKey && !key.toList.any isBreak) = true := by decide
  have key := List.all_eq_true.mp keys _ listed
  simpa [and_assoc] using key

/-- The command is one line that reads back as its pairs exactly if no bridge
line in use has a quote, a backslash or a line break. -/
theorem setconf_reads_back_iff : (OneLine (setconf config.setconfPairs) ∧
      readSetconf (setconf config.setconfPairs) = some config.setconfPairs) ↔
      (config.useBridges = true → ∀ bridge ∈ config.bridges, bridge.toList.all isPlain = true) := by
  have exact := readSetconf_iff setconfPairs_ne_nil
    fun pair mem => (@key_setconfPairs config pair mem).1
  constructor
  · rintro ⟨-, read⟩ used bridge listed
    exact exact.mp read _ (bridge_mem_setconfPairs used listed)
  · intro clean
    have plain : ∀ pair ∈ config.setconfPairs, pair.2.toList.all isPlain = true := by
      intro pair mem
      rcases mem_setconfPairs mem with ⟨-, flag⟩ | ⟨-, used, listed⟩
      · have flags : (["0", "1"].all fun flag =>
            flag.toList.all isPlain) = true := by decide
        exact List.all_eq_true.mp flags _ flag
      · exact clean used _ listed
    exact ⟨oneLine_setconf setconfPairs_ne_nil (fun pair mem => (key_setconfPairs mem).2) plain,
      exact.mpr plain⟩

/-- A bridge line that closes its quotes and sets another option. -/
def injecting : CircumventionConfig where
  useBridges := true
  bridges := ["1.2.3.4:443\" SocksPort=\"0.0.0.0:9050"]
  fascistFirewall := false
  preferIpv6 := false
  useIpv4 := true
  useIpv6 := true
  ptAvailable := false

theorem bridge_injects_option : injecting.validate = .ok () ∧
      readSetconf (setconf injecting.setconfPairs) = some [
        ("FascistFirewall", "0"), ("ClientPreferIPv6ORPort", "0"),
        ("ClientUseIPv4", "1"), ("ClientUseIPv6", "1"), ("UseBridges", "1"),
        ("Bridge", "1.2.3.4:443"), ("SocksPort", "0.0.0.0:9050")] ∧
      readSetconf (setconf injecting.setconfPairs) ≠ some injecting.setconfPairs := by
  decide +kernel

end CircumventionConfig

end SChatCore.Transport
