import SChatCore.Data.Base32
import SChatCore.Wire.Bin
import Mathlib.Data.List.DropRight

namespace SChatCore.Transport

open Data Wire

inductive TransportError
  | io (reason : String)
  | control (reason : String)
  | controlReply (code : Nat) (message : String)
  | controlClosed
  | socks (message : String)
  | connectFailed (dest : String) (attempts : Nat) (reason : String)
  | killSwitch
  | daemonDead (reason : String)
  | offline
  | timeout (what : String)
  | invalidOnion (reason : String)
  | keyStore (reason : String)
  | malformedFrame (reason : String)
  deriving DecidableEq

namespace TransportError

def text : TransportError → String
  | io reason => s!"io: {reason}"
  | control reason => s!"control port: {reason}"
  | controlReply code message => s!"control port replied {code}: {message}"
  | controlClosed => "control connection closed"
  | socks message => s!"socks: {message}"
  | connectFailed dest attempts reason =>
    s!"connect to {dest} failed after {attempts} attempts: {reason}"
  | killSwitch => "kill switch engaged; send refused"
  | daemonDead reason => s!"daemon is dead: {reason}"
  | offline => "transport is not online"
  | timeout what => s!"timeout: {what}"
  | invalidOnion reason => s!"invalid onion address: {reason}"
  | keyStore reason => s!"key store: {reason}"
  | malformedFrame reason => s!"malformed frame: {reason}"

end TransportError

/-! Version 3 onion addresses: a public key, two bytes of its checksum and the
version, in base 32. -/

def onionRawBytes : Nat := 35

def onionVersion : UInt8 := 3

def onionHostnameLen : Nat := 56

abbrev OnionRaw := List.Vector UInt8 onionRawBytes

def base32Lower (bytes : Bytes) : String := String.ofList (Base32.encodeLower bytes)

def base32Decode (text : List Char) : Except TransportError Bytes :=
  match Base32.decode (text.map Char.toUpper) with
  | some bytes => .ok bytes
  | none => .error (.invalidOnion "base32")

variable (sha3 : Bytes → Array32)

def onionChecksum (pubkey : Array32) : List.Vector UInt8 2 :=
  ⟨(sha3 (asBytes ".onion checksum" ++ pubkey.toList ++ [onionVersion])).toList.take 2, by simp⟩

def onionRaw (pubkey : Array32) : OnionRaw :=
  ⟨pubkey.toList ++ (onionChecksum sha3 pubkey).toList ++ [onionVersion], by simp [onionRawBytes]⟩

def hostnameFromPubkey (pubkey : Array32) : String := base32Lower (onionRaw sha3 pubkey).toList

def isWhite (char : Char) : Bool :=
  9 ≤ char.toNat && char.toNat ≤ 13 || [0x20, 0x85, 0xa0, 0x1680, 0x2028, 0x2029, 0x202f, 0x205f,
      0x3000].contains char.toNat ||
    0x2000 ≤ char.toNat && char.toNat ≤ 0x200a

def trim (text : List Char) : List Char :=
  ((text.dropWhile isWhite).reverse.dropWhile isWhite).reverse

/-- `trim_end_matches(".onion")`, on the reversed text. -/
def stripOnion : List Char → List Char
  | 'n' :: 'o' :: 'i' :: 'n' :: 'o' :: '.' :: rest => stripOnion rest
  | text => text

def bareHost (hostname : String) : List Char :=
  (stripOnion ((trim hostname.toList).map Char.toLower).reverse).reverse

def OnionRaw.pubkey (raw : OnionRaw) : Array32 :=
  ⟨raw.toList.take 32, by rw [List.length_take, raw.toList_length]; rfl⟩

/-- The key of a raw address, if the address carries the version and the
checksum of the key. -/
def checkedPubkey (raw : OnionRaw) (version checksum : String) : Except TransportError Array32 :=
  let pubkey := OnionRaw.pubkey raw
  if raw.toList.getLast? ≠ some onionVersion then
    .error (.invalidOnion version)
  else if (raw.toList.drop 32).take 2 ≠ (onionChecksum sha3 pubkey).toList then
    .error (.invalidOnion checksum)
  else .ok pubkey

def pubkeyFromHostname (hostname : String) : Except TransportError Array32 :=
  let host := bareHost hostname
  let len := (host.map Char.utf8Size).sum
  if len ≠ onionHostnameLen then
    .error (.invalidOnion s!"hostname length {len} != {onionHostnameLen}")
  else
    match base32Decode host with
    | .error error => .error error
    | .ok raw =>
      if length : raw.length = onionRawBytes then
        checkedPubkey sha3 ⟨raw, length⟩ "bad version byte" "checksum mismatch"
      else
        let decoded := raw.length
        .error (.invalidOnion s!"decoded length {decoded} != {onionRawBytes}")

def normalizeHostname (hostname : String) : Except TransportError String :=
  let bare := String.ofList (bareHost hostname)
  match pubkeyFromHostname sha3 bare with
  | .error error => .error error
  | .ok _ => .ok (bare ++ ".onion")

def rawFromHostname (hostname : String) : Except TransportError OnionRaw :=
  match pubkeyFromHostname sha3 hostname with
  | .error error => .error error
  | .ok pubkey => .ok (onionRaw sha3 pubkey)

def hostnameFromRaw (raw : OnionRaw) : Except TransportError String :=
  match checkedPubkey sha3 raw "raw address: bad version" "raw address: checksum mismatch" with
  | .error error => .error error
  | .ok pubkey => .ok (hostnameFromPubkey sha3 pubkey)

variable {sha3}

theorem checkedPubkey_onionRaw (pubkey : Array32) (version checksum : String) :
    checkedPubkey sha3 (onionRaw sha3 pubkey) version checksum =
      .ok pubkey := by
  have list : (onionRaw sha3 pubkey).toList = pubkey.toList ++
      (onionChecksum sha3 pubkey).toList ++ [onionVersion] := rfl
  have key : OnionRaw.pubkey (onionRaw sha3 pubkey) = pubkey := by
    apply List.Vector.toList_injective
    show (onionRaw sha3 pubkey).toList.take 32 = pubkey.toList
    rw [list, List.append_assoc, List.take_left' pubkey.toList_length]
  have last : ¬ (onionRaw sha3 pubkey).toList.getLast? ≠ some onionVersion := by
    rw [list, List.getLast?_concat]
    exact not_not.mpr rfl
  have sum : ¬ ((onionRaw sha3 pubkey).toList.drop 32).take 2 ≠
      (onionChecksum sha3 pubkey).toList := by
    rw [list, List.append_assoc, List.drop_left' pubkey.toList_length,
      List.take_left' (onionChecksum sha3 pubkey).toList_length]
    exact not_not.mpr rfl
  simp only [checkedPubkey, key]
  rw [if_neg last, if_neg sum]

theorem hostnameFromRaw_onionRaw (pubkey : Array32) : hostnameFromRaw sha3 (onionRaw sha3 pubkey) =
      .ok (hostnameFromPubkey sha3 pubkey) := by
  rw [hostnameFromRaw, checkedPubkey_onionRaw]

/-! The addresses we host come back from their hostnames. -/

theorem trim_eq_self (front : ∀ char rest, text = char :: rest → isWhite char = false)
    (back : ∀ char, text.getLast? = some char → isWhite char = false) :
    trim text = text := by
  have start : text.dropWhile isWhite = text := by
    cases text with
    | nil => rfl
    | cons char rest => rw [List.dropWhile_cons, if_neg (by simp [front char rest rfl])]
  rw [trim, start]
  refine List.rdropWhile_eq_self_iff.mpr fun some => ?_
  simp [back _ (List.getLast?_eq_some_getLast some)]

theorem stripOnion_eq_self (dotless : '.' ∉ text) : stripOnion text = text := by
  unfold stripOnion
  split
  · simp at dotless
  · rfl

theorem symbol_plain (digit : Fin 32) : isWhite (Base32.symbol digit) = false ∧
      (Base32.symbol digit).toLower = Base32.symbol digit ∧
      Base32.symbol digit ≠ '.' ∧ (Base32.symbol digit).utf8Size = 1 := by
  revert digit
  decide

theorem bareHost_onion (plain : ∀ char ∈ host, ∃ digit : Fin 32, char = Base32.symbol digit) :
    bareHost (String.ofList host ++ ".onion") = host := by
  have text : (String.ofList host ++ ".onion").toList = host ++ ".onion".toList := by simp
  have plainEnding : ".onion".toList.all (fun char => !isWhite char) = true := by decide
  have ending : ∀ char ∈ ".onion".toList, isWhite char = false := by
    intro char mem
    simpa using List.all_eq_true.mp plainEnding char mem
  have solid : ∀ char ∈ host ++ ".onion".toList, isWhite char = false := by
    intro char mem
    rcases List.mem_append.mp mem with own | suffix
    · obtain ⟨digit, rfl⟩ := plain char own
      exact (symbol_plain digit).1
    · exact ending char suffix
  have lower : host.map Char.toLower = host := by
    refine (List.map_congr_left fun char mem => ?_).trans (List.map_id _)
    obtain ⟨digit, rfl⟩ := plain char mem
    exact (symbol_plain digit).2.1
  have dotless : '.' ∉ host.reverse := by
    intro mem
    obtain ⟨digit, dot⟩ := plain '.' (List.mem_reverse.mp mem)
    exact (symbol_plain digit).2.2.1 dot.symm
  have suffix : (".onion".toList.map Char.toLower).reverse =
      ['n', 'o', 'i', 'n', 'o', '.'] := by decide
  have trimmed : trim (host ++ ".onion".toList) = host ++ ".onion".toList :=
    trim_eq_self (fun char rest all => solid char (all ▸ List.mem_cons_self))
      fun char last => solid char (List.mem_of_getLast? last)
  rw [bareHost, text, trimmed, List.map_append, lower, List.reverse_append, suffix]
  show (stripOnion host.reverse).reverse = host
  rw [stripOnion_eq_self dotless, List.reverse_reverse]

theorem pubkeyFromHostname_onion (pubkey : Array32) :
    pubkeyFromHostname sha3 (hostnameFromPubkey sha3 pubkey ++ ".onion") =
      .ok pubkey := by
  generalize raw : onionRaw sha3 pubkey = address
  have bare : bareHost (base32Lower address.toList ++ ".onion") =
      Base32.encodeLower address.toList :=
    bareHost_onion fun char => Base32.mem_encodeLower
  have ones : (Base32.encodeLower address.toList).map Char.utf8Size = List.replicate 56 1 := by
    have length := Base32.length_encodeLower address.toList
    rw [address.toList_length] at length
    rw [List.eq_replicate_iff, List.length_map, length]
    refine ⟨rfl, fun size mem => ?_⟩
    obtain ⟨char, listed, rfl⟩ := List.mem_map.mp mem
    obtain ⟨digit, rfl⟩ := Base32.mem_encodeLower listed
    exact (symbol_plain digit).2.2.2
  have decoded : base32Decode (Base32.encodeLower address.toList) = .ok address.toList := by
    rw [base32Decode, Base32.decode_encodeLower]
  unfold pubkeyFromHostname hostnameFromPubkey
  simp only [raw, bare, ones, decoded]
  rw [if_neg (by decide), dif_pos address.toList_length, ← raw]
  exact checkedPubkey_onionRaw pubkey _ _

theorem rawFromHostname_onion (pubkey : Array32) :
    rawFromHostname sha3 (hostnameFromPubkey sha3 pubkey ++ ".onion") =
      .ok (onionRaw sha3 pubkey) := by
  rw [rawFromHostname, pubkeyFromHostname_onion]

/-! The spelling of an address that names its worker. -/

theorem stripOnion_suffix (text : List Char) : stripOnion text <:+ text := by
  fun_induction stripOnion text with
  | case1 rest ih => exact ih.trans (List.suffix_append ['n', 'o', 'i', 'n', 'o', '.'] rest)
  | case2 => exact List.suffix_rfl

theorem stripOnion_stripOnion (text : List Char) :
    stripOnion (stripOnion text) = stripOnion text := by
  fun_induction stripOnion text with
  | case1 rest ih => exact ih
  | case2 text other => rw [stripOnion.eq_2 text other]

theorem isWhite_toLower (solid : isWhite char = false) : isWhite char.toLower = false := by
  rcases Base32.ascii_or_caseless char with ⟨code, rfl⟩ | ⟨-, lower, -⟩
  · have all : ∀ code : Fin 128, isWhite (Char.ofNat code) = false →
        isWhite (Char.ofNat code).toLower = false := by decide +kernel
    exact all code solid
  · rwa [lower]

theorem bareHost_within (hostname : String) : bareHost hostname <+:
    (trim hostname.toList).map Char.toLower := by
  have strip := stripOnion_suffix ((trim hostname.toList).map Char.toLower).reverse
  rwa [← List.reverse_prefix, List.reverse_reverse] at strip

theorem bareHost_solid (all : bareHost hostname = char :: rest) : isWhite char = false := by
  obtain ⟨stripped, text⟩ := bareHost_within hostname
  obtain ⟨cut, trimmed⟩ : trim hostname.toList <+:
      hostname.toList.dropWhile isWhite := List.rdropWhile_prefix isWhite _
  rw [all] at text
  obtain ⟨first, others, start, rfl, -⟩ := List.map_eq_cons_iff.mp text.symm
  have kept := List.head?_dropWhile_not isWhite hostname.toList
  rw [← trimmed, start] at kept
  exact isWhite_toLower kept

theorem bareHost_lower (mem : char ∈ bareHost hostname) : char.toLower = char := by
  obtain ⟨char, -, rfl⟩ := List.mem_map.mp ((bareHost_within hostname).subset mem)
  rcases Base32.ascii_or_caseless char with ⟨code, rfl⟩ | ⟨-, lower, -⟩
  · have all : ∀ code : Fin 128, (Char.ofNat code).toLower.toLower =
        (Char.ofNat code).toLower := by decide +kernel
    exact all code
  · rw [lower, lower]

theorem bareHost_bareHost (back : ∀ char,
      (bareHost hostname).getLast? = some char → isWhite char = false) :
    bareHost (String.ofList (bareHost hostname)) = bareHost hostname := by
  have lower : (bareHost hostname).map Char.toLower = bareHost hostname :=
    (List.map_congr_left fun char => bareHost_lower).trans (List.map_id _)
  conv_lhs => rw [bareHost, String.toList_ofList,
    trim_eq_self (fun char rest => bareHost_solid) back, lower]
  unfold bareHost
  rw [List.reverse_reverse, stripOnion_stripOnion]

theorem checkedPubkey_eq_ok (checked : checkedPubkey sha3 raw version checksum =
    .ok pubkey) : raw = onionRaw sha3 pubkey := by
  unfold checkedPubkey at checked
  dsimp only at checked
  split at checked
  · cases checked
  · rename_i last
    split at checked
    · cases checked
    · rename_i sum
      cases checked
      obtain ⟨front, all⟩ := List.getLast?_eq_some_iff.mp (not_not.mp last)
      have length := raw.toList_length
      rw [all, List.length_append, List.length_singleton] at length
      have front_length : front.length = 34 := Nat.succ.inj length
      apply List.Vector.toList_injective
      show raw.toList = raw.toList.take 32 ++ (onionChecksum sha3 _).toList ++ [onionVersion]
      rw [← not_not.mp sum, all, List.take_append_of_le_length (by omega),
        List.drop_append_of_le_length (by omega),
        List.take_left' (by rw [List.length_drop, front_length]), List.take_append_drop]

theorem bareHost_of_pubkey (found : pubkeyFromHostname sha3 hostname = .ok pubkey) :
    bareHost hostname = Base32.encodeLower (onionRaw sha3 pubkey).toList := by
  unfold pubkeyFromHostname base32Decode at found
  dsimp only at found
  split at found
  · cases found
  · split at found
    · cases found
    · rename_i raw decoded
      split at found
      · rename_i length
        rw [← checkedPubkey_eq_ok found]
        split at decoded
        · rename_i bytes read
          cases decoded
          exact (Base32.encodeLower_of_decode (fun char => bareHost_lower) read ⟨7, length⟩).symm
        · cases decoded
      · cases found

theorem pubkeyFromHostname_congr (same : bareHost first = bareHost second) :
    pubkeyFromHostname sha3 first = pubkeyFromHostname sha3 second := by
  simp only [pubkeyFromHostname, same]

theorem normalizeHostname_eq_ok : normalizeHostname sha3 hostname = .ok normal ↔
    (∃ pubkey, pubkeyFromHostname sha3 (String.ofList (bareHost hostname)) =
      .ok pubkey) ∧ String.ofList (bareHost hostname) ++ ".onion" = normal := by
  unfold normalizeHostname
  dsimp only
  cases pubkeyFromHostname sha3 (String.ofList (bareHost hostname)) with
  | error error => simp
  | ok pubkey => simp

/-- An accepted spelling is brought to the one form of its address exactly if no
white space is left in front of its `.onion` endings. -/
theorem normalizeHostname_canonical_iff {hostname normal : String}
    (accepted : normalizeHostname sha3 hostname = .ok normal) :
    (∃ pubkey, pubkeyFromHostname sha3 hostname = .ok pubkey ∧
      normal = hostnameFromPubkey sha3 pubkey ++ ".onion" ∧
      normalizeHostname sha3 normal = .ok normal) ↔
    ∀ char, (bareHost hostname).getLast? = some char → isWhite char = false := by
  obtain ⟨⟨pubkey, found⟩, rfl⟩ := normalizeHostname_eq_ok.mp accepted
  constructor
  · rintro ⟨pubkey, -, same, -⟩ char last
    have text := congrArg String.toList same
    simp only [hostnameFromPubkey, base32Lower, String.toList_append,
      String.toList_ofList, List.append_left_inj] at text
    rw [text] at last
    obtain ⟨digit, rfl⟩ := Base32.mem_encodeLower (List.mem_of_getLast? last)
    exact (symbol_plain digit).1
  · intro back
    have fixed := bareHost_bareHost back
    have bare := (fixed.symm.trans (bareHost_of_pubkey found))
    have own : bareHost (String.ofList (bareHost hostname) ++ ".onion") =
        bareHost hostname :=
      bareHost_onion fun char mem => Base32.mem_encodeLower (bare ▸ mem)
    refine ⟨pubkey, ?_, ?_, normalizeHostname_eq_ok.mpr ⟨⟨pubkey, ?_⟩, ?_⟩⟩
    · exact (pubkeyFromHostname_congr fixed).symm.trans found
    · exact congrArg (String.ofList · ++ ".onion") bare
    · exact (congrArg (pubkeyFromHostname sha3 <| String.ofList ·) own).trans found
    · exact congrArg (String.ofList · ++ ".onion") own

def nullAddress : String := "aaaaaaaaaaaaaaaaaaaaaaaaaaaaaaaaaaaaaaaaaaaaaaaaaaaaaaad"

def nullSha3 (_ : Bytes) : Array32 := List.Vector.replicate 32 0

theorem shouted_address_canonical : ∃ pubkey,
    pubkeyFromHostname nullSha3 (" " ++ nullAddress ++ ".ONION.onion ") =
      .ok pubkey ∧ nullAddress ++ ".onion" = hostnameFromPubkey nullSha3 pubkey ++ ".onion" := by
  have last : (bareHost (" " ++ nullAddress ++ ".ONION.onion ")).getLast? =
      some 'd' := by decide +kernel
  obtain ⟨pubkey, found, same, -⟩ := (@normalizeHostname_canonical_iff nullSha3
    (" " ++ nullAddress ++ ".ONION.onion ") (nullAddress ++ ".onion")
    (by decide +kernel)).mpr fun char is => by
      rw [last] at is
      cases is
      decide
  exact ⟨pubkey, found, same⟩

/-- The blank in front of the ending is passed on to the worker. -/
theorem blank_before_ending_kept : normalizeHostname nullSha3 (nullAddress ++ " .onion") =
      .ok (nullAddress ++ " .onion") ∧
    ∀ pubkey, pubkeyFromHostname nullSha3 (nullAddress ++ " .onion") ≠
      .ok pubkey := by
  refine ⟨by decide +kernel, fun pubkey found => ?_⟩
  have refused : (pubkeyFromHostname nullSha3 (nullAddress ++
    " .onion")).toOption = none := by decide +kernel
  rw [found] at refused
  cases refused

end SChatCore.Transport
