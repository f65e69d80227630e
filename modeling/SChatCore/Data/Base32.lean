import Mathlib.Data.List.Basic
import Mathlib.Data.Nat.Bitwise
import Mathlib.Tactic.Ring

namespace SChatCore.Data

/-! Numbers as bits, the most significant first. -/

def toBits : Nat → Nat → List Bool
  | 0, _ => []
  | width + 1, value => value.testBit width :: toBits width value

def fromBits (bits : List Bool) : Nat := bits.foldl (fun value bit => 2 * value + bit.toNat) 0

@[simp] theorem length_toBits (width value : Nat) : (toBits width value).length = width := by
  induction width with
  | zero => rfl
  | succ width ih => rw [toBits, List.length_cons, ih]

theorem fromBits_cons (bit : Bool) (rest : List Bool) :
    fromBits (bit :: rest) = bit.toNat * 2 ^ rest.length + fromBits rest := by
  have general : ∀ (rest : List Bool) (start : Nat),
      rest.foldl (fun value bit => 2 * value + bit.toNat) start =
        start * 2 ^ rest.length + fromBits rest := by
    intro rest
    induction rest with
    | nil => simp [fromBits]
    | cons bit rest ih =>
      intro start
      rw [fromBits, List.foldl_cons, List.foldl_cons, ih, ih (2 * 0 + bit.toNat), List.length_cons]
      ring
  rw [fromBits, List.foldl_cons, general]
  simp

theorem fromBits_lt (bits : List Bool) : fromBits bits < 2 ^ bits.length := by
  induction bits with
  | nil => decide
  | cons bit rest ih =>
    have bound : bit.toNat ≤ 1 := bit.toNat_le
    calc fromBits (bit :: rest) = bit.toNat * 2 ^ rest.length + fromBits rest :=
          fromBits_cons bit rest
      _ < 1 * 2 ^ rest.length + 2 ^ rest.length :=
          Nat.add_lt_add_of_le_of_lt (Nat.mul_le_mul_right _ bound) ih
      _ = 2 ^ (bit :: rest).length := by rw [List.length_cons]; ring

theorem toBits_mul_add (width factor value : Nat) :
    toBits width (factor * 2 ^ width + value) = toBits width value := by
  have general : ∀ low, low ≤ width →
      toBits low (factor * 2 ^ width + value) = toBits low value := by
    intro low
    induction low with
    | zero => exact fun _ => rfl
    | succ low ih =>
      intro small
      have kept : ∀ number : Nat, (number % 2 ^ width).testBit low =
          number.testBit low := by
        intro number
        rw [Nat.testBit_mod_two_pow, decide_eq_true (Nat.lt_of_succ_le small), Bool.true_and]
      rw [toBits, toBits, ih (by omega), ← kept, ← kept value, Nat.mul_add_mod_self_right]
  exact general width le_rfl

theorem toBits_fromBits (bits : List Bool) : toBits bits.length (fromBits bits) = bits := by
  induction bits with
  | nil => rfl
  | cons bit rest ih =>
    have high : (bit.toNat * 2 ^ rest.length + fromBits rest).testBit rest.length = bit := by
      rw [Nat.testBit_eq_decide_div_mod_eq, Nat.add_comm,
        Nat.add_mul_div_right _ _ (Nat.pow_pos (by decide)), Nat.div_eq_of_lt (fromBits_lt rest)]
      cases bit <;> rfl
    rw [List.length_cons, toBits, fromBits_cons, high, toBits_mul_add, ih]

theorem fromBits_toBits (width value : Nat) :
    fromBits (toBits width value) = value % 2 ^ width := by
  induction width with
  | zero => simp [toBits, fromBits, Nat.mod_one]
  | succ width ih =>
    have halves : value % 2 ^ (width + 1) =
        value % 2 ^ width + 2 ^ width * (value / 2 ^ width % 2) := by
      rw [pow_succ, Nat.mod_mul]
    rw [toBits, fromBits_cons, length_toBits, ih, halves, Nat.toNat_testBit]
    ring

def groups (width : Nat) : Nat → List Bool → List (List Bool)
  | 0, _ => []
  | count + 1, bits => bits.take width :: groups width count (bits.drop width)

def fill (width : Nat) (group : List Bool) : List Bool :=
  group ++ List.replicate (width - group.length) false

theorem length_le_of_mem_groups (mem : group ∈ groups width count bits) : group.length ≤ width := by
  induction count generalizing bits with
  | zero => cases mem
  | succ count ih =>
    cases mem with
    | head => exact List.length_take_le width bits
    | tail _ mem => exact ih mem

@[simp] theorem length_groups (width count : Nat) (bits : List Bool) :
    (groups width count bits).length = count := by
  induction count generalizing bits with
  | zero => rfl
  | succ count ih => rw [groups, List.length_cons, ih]

theorem length_fill (small : group.length ≤ width) : (fill width group).length = width := by
  rw [fill, List.length_append, List.length_replicate]
  omega

theorem flatMap_fill_groups (enough : bits.length ≤ width * count) :
    (groups width count bits).flatMap (fill width) =
      bits ++ List.replicate (width * count - bits.length) false := by
  induction count generalizing bits with
  | zero =>
    obtain rfl := List.eq_nil_of_length_eq_zero (Nat.le_zero.mp enough)
    simp [groups]
  | succ count ih =>
    rw [Nat.mul_succ] at enough ⊢
    have rest : (bits.drop width).length ≤ width * count := by
      rw [List.length_drop]
      omega
    rw [groups, List.flatMap_cons, ih rest, fill, List.length_drop, List.length_take]
    rcases Nat.le_total width bits.length with full | short
    · have none : width - min width bits.length = 0 := by omega
      have same : width * count - (bits.length - width) =
          width * count + width - bits.length := by omega
      rw [none, same, List.replicate_zero, List.append_nil,
        ← List.append_assoc, List.take_append_drop]
    · have zeros : width - min width bits.length + (width * count - (bits.length - width)) =
          width * count + width - bits.length := by omega
      rw [List.take_of_length_le short, List.drop_of_length_le short,
        List.nil_append, List.append_assoc, List.replicate_append_replicate, zeros]

theorem groups_flatMap {spell : α → List Bool}
    (sized : ∀ item, (spell item).length = width) (items : List α) (more : List Bool) :
    groups width items.length (items.flatMap spell ++ more) =
      items.map spell := by
  induction items with
  | nil => rfl
  | cons item rest ih =>
    rw [List.length_cons, List.flatMap_cons, List.append_assoc, groups,
      List.take_left' (sized item), List.drop_left' (sized item), List.map_cons, ih]

theorem groups_bytes (bytes : List UInt8) (more : List Bool) :
    (groups 8 bytes.length (bytes.flatMap (fun byte => toBits 8 byte.toNat) ++
      more)).map (fun group => UInt8.ofNat (fromBits group)) = bytes := by
  rw [groups_flatMap fun byte : UInt8 => length_toBits 8 byte.toNat, List.map_map]
  refine (List.map_congr_left fun byte _ => ?_).trans (List.map_id _)
  have small : byte.toNat < 2 ^ 8 := byte.toNat_lt
  rw [Function.comp_apply, fromBits_toBits, Nat.mod_eq_of_lt small, UInt8.ofNat_toNat, id]

theorem bytes_groups (whole : bits.length = 8 * count) : ((groups 8 count bits).map fun group =>
      UInt8.ofNat (fromBits group)).flatMap (fun byte => toBits 8 byte.toNat) = bits := by
  induction count generalizing bits with
  | zero => exact (List.eq_nil_of_length_eq_zero whole).symm
  | succ count ih =>
    have first : (bits.take 8).length = 8 := by
      rw [List.length_take]
      omega
    have back := toBits_fromBits (bits.take 8)
    have bound := fromBits_lt (bits.take 8)
    rw [first] at back bound
    rw [groups, List.map_cons, List.flatMap_cons, ih,
      UInt8.toNat_ofNat_of_lt' bound, back, List.take_append_drop]
    rw [List.length_drop]
    omega

namespace Base32

def symbol (value : Nat) : Char :=
  if value < 26 then Char.ofNat (97 + value) else Char.ofNat (24 + value)

def value (char : Char) : Option Nat :=
  if 'A' ≤ char ∧ char ≤ 'Z' then some (char.toNat - 65)
  else if '2' ≤ char ∧ char ≤ '7' then some (char.toNat - 24)
  else none

def encodeLower (bytes : List UInt8) : List Char :=
  (groups 5 ((8 * bytes.length + 4) / 5)
    (bytes.flatMap fun byte => toBits 8 byte.toNat)).map fun group =>
      symbol (fromBits (fill 5 group))

/-- A spare symbol or a bit set behind the last byte is refused. -/
def decode (text : List Char) : Option (List UInt8) := do
  let values ← text.mapM value
  let bits := values.flatMap (toBits 5)
  let count := bits.length / 8
  let spare := bits.drop (8 * count)
  if spare.length ≥ 5 ∨ true ∈ spare then none
  else some ((groups 8 count bits).map fun group =>
    UInt8.ofNat (fromBits group))

theorem length_encodeLower (bytes : List UInt8) :
    (encodeLower bytes).length = (8 * bytes.length + 4) / 5 := by
  rw [encodeLower, List.length_map, length_groups]

theorem value_toUpper_symbol (small : digit < 32) : value (symbol digit).toUpper = some digit := by
  have all : ∀ digit : Fin 32, value (symbol digit).toUpper = some digit.val := by decide
  exact all ⟨digit, small⟩

theorem fromBits_fill_lt (mem : group ∈ groups 5 count bits) : fromBits (fill 5 group) < 32 := by
  have bound := fromBits_lt (fill 5 group)
  rwa [length_fill (length_le_of_mem_groups mem)] at bound

theorem mem_encodeLower (mem : char ∈ encodeLower bytes) :
    ∃ digit : Fin 32, char = symbol digit := by
  obtain ⟨group, listed, rfl⟩ := List.mem_map.mp mem
  exact ⟨⟨_, fromBits_fill_lt listed⟩, rfl⟩

theorem mapM_value {values : List Nat} (small : ∀ digit ∈ values, digit < 32) :
    ((values.map symbol).map Char.toUpper).mapM value = some values := by
  induction values with
  | nil => rfl
  | cons digit rest ih =>
    rw [List.map_cons, List.map_cons, List.mapM_cons, value_toUpper_symbol
      (small digit List.mem_cons_self), ih fun digit mem => small
      digit (List.mem_cons_of_mem _ mem)]
    rfl

theorem decode_encodeLower (bytes : List UInt8) :
    decode ((encodeLower bytes).map Char.toUpper) = some bytes := by
  generalize written : bytes.flatMap (fun byte => toBits 8 byte.toNat) = bits
  generalize counted : (8 * bytes.length + 4) / 5 = count
  have length : bits.length = 8 * bytes.length := by
    rw [← written, List.length_flatMap]
    simp [Nat.mul_comm]
  have fits : bits.length ≤ 5 * count := by omega
  have symbols : encodeLower bytes = ((groups 5 count bits).map fun group =>
      fromBits (fill 5 group)).map symbol := by
    rw [encodeLower, written, counted, List.map_map]
    rfl
  have read : ((groups 5 count bits).map fun group =>
      fromBits (fill 5 group)).flatMap (toBits 5) =
      bits ++ List.replicate (5 * count - bits.length) false := by
    rw [← flatMap_fill_groups fits, List.flatMap_map]
    refine List.flatMap_congr fun group mem => ?_
    have full := length_fill (length_le_of_mem_groups mem)
    have back := toBits_fromBits (fill 5 group)
    rwa [full] at back
  have values := @mapM_value ((groups 5 count bits).map fun group =>
      fromBits (fill 5 group)) (by
    intro digit mem
    obtain ⟨group, listed, rfl⟩ := List.mem_map.mp mem
    exact fromBits_fill_lt listed)
  have bytesBack : (bits ++ List.replicate (5 * count - bits.length)
      false).length / 8 = bytes.length := by
    rw [List.length_append, List.length_replicate]
    omega
  have spare : (bits ++ List.replicate (5 * count - bits.length) false).drop
      (8 * bytes.length) = List.replicate (5 * count - bits.length) false :=
    List.drop_left' length
  have clean : ¬ ((List.replicate (5 * count - bits.length) false).length ≥ 5 ∨
      true ∈ List.replicate (5 * count - bits.length) false) := by
    rw [List.length_replicate, List.mem_replicate]
    rintro (long | ⟨-, set⟩)
    · omega
    · cases set
  unfold decode
  rw [symbols, values]
  simp only [Option.bind_eq_bind, Option.bind_some, read, bytesBack, spare]
  rw [if_neg clean, ← written, groups_bytes]

/-! Back from a text in lower case. -/

theorem ascii_or_caseless (char : Char) : (∃ code : Fin 128, char = Char.ofNat code) ∨
      char.toUpper = char ∧ char.toLower = char ∧
        ∀ bound : Char, bound.toNat < 128 → ¬ char ≤ bound := by
  rcases Nat.lt_or_ge char.toNat 128 with small | large
  · exact .inl ⟨⟨char.toNat, small⟩, (Char.ofNat_toNat char).symm⟩
  · have above : ∀ bound : Char, bound.toNat < 128 → ¬ char ≤ bound :=
      fun bound low below =>
        absurd (large.trans (UInt32.le_iff_toNat_le.mp below)) (Nat.not_le.mpr low)
    exact .inr ⟨dif_neg fun range => above 'z' (by decide) range.2,
      dif_neg fun range => above 'Z' (by decide) range.2, above⟩

theorem symbol_of_value (lower : char.toLower = char) (valued : value char.toUpper = some digit) :
    digit < 32 ∧ char = symbol digit := by
  rcases ascii_or_caseless char with ⟨code, rfl⟩ | ⟨upper, -, above⟩
  · have all : ∀ code : Fin 128, (Char.ofNat code).toLower = Char.ofNat code →
        (value (Char.ofNat code).toUpper).all (fun digit =>
          digit < 32 ∧ Char.ofNat code = symbol digit) = true := by
      decide +kernel
    simpa [valued] using all code lower
  · rw [upper, value, if_neg fun range => above 'Z' (by decide) range.2,
      if_neg fun range => above '7' (by decide) range.2] at valued
    cases valued

theorem values_of_mapM {text : List Char} (lower : ∀ char ∈ text, char.toLower = char)
    (read : (text.map Char.toUpper).mapM value = some values) :
    text = values.map symbol ∧ ∀ digit ∈ values, digit < 32 := by
  induction text generalizing values with
  | nil =>
    cases read
    exact ⟨rfl, by simp⟩
  | cons char rest ih =>
    rw [List.map_cons, List.mapM_cons] at read
    simp only [Option.bind_eq_bind, Option.bind_eq_some_iff] at read
    obtain ⟨digit, first, others, read, all⟩ := read
    cases all
    obtain ⟨small, rfl⟩ := symbol_of_value (lower char List.mem_cons_self) first
    obtain ⟨rfl, bound⟩ := ih (fun char mem => lower char (List.mem_cons_of_mem _ mem)) read
    exact ⟨rfl, List.forall_mem_cons.mpr ⟨small, bound⟩⟩

theorem encodeLower_of_decode {text : List Char} (lower : ∀ char ∈ text, char.toLower = char)
    (decoded : decode (text.map Char.toUpper) = some bytes)
    (whole : 5 ∣ bytes.length) : encodeLower bytes = text := by
  unfold decode at decoded
  simp only [Option.bind_eq_bind, Option.bind_eq_some_iff] at decoded
  obtain ⟨values, read, decoded⟩ := decoded
  obtain ⟨rfl, small⟩ := values_of_mapM lower read
  generalize written : values.flatMap (toBits 5) = bits at decoded
  have length : bits.length = 5 * values.length := by
    rw [← written, List.length_flatMap]
    simp [Nat.mul_comm]
  split at decoded
  · cases decoded
  · rename_i clean
    cases decoded
    have spare : ¬ (bits.drop (8 * (bits.length / 8))).length ≥ 5 := fun long => clean (.inl long)
    rw [List.length_drop] at spare
    rw [List.length_map, length_groups] at whole
    have full : bits.length = 8 * (bits.length / 8) := by omega
    rw [encodeLower, bytes_groups full, List.length_map, length_groups]
    have count : (8 * (bits.length / 8) + 4) / 5 = values.length := by omega
    have split := groups_flatMap (length_toBits 5) values []
    rw [List.append_nil, written] at split
    rw [count, split, List.map_map]
    refine List.map_congr_left fun digit mem => ?_
    have bound : digit < 2 ^ 5 := small digit mem
    rw [Function.comp_apply, fill, length_toBits, Nat.sub_self,
      List.replicate_zero, List.append_nil, fromBits_toBits, Nat.mod_eq_of_lt bound]

end Base32

end SChatCore.Data
