import SChatCore.Data.Base32
import SChatCore.Store.Schema

namespace SChatCore.Store

open Data Wire

/-! Hexadecimal text. A string is sliced by byte offsets, and a slice that does
not fall between characters stops the program. -/

def byteLength (text : List Char) : Nat := (text.map Char.utf8Size).sum

def splitBytes : List Char → Nat → Option (List Char × List Char)
  | text, 0 => some ([], text)
  | [], _ + 1 => none
  | char :: rest, offset + 1 =>
    if char.utf8Size ≤ offset + 1 then
      (splitBytes rest (offset + 1 - char.utf8Size)).map fun parts =>
        (char :: parts.1, parts.2)
    else none

def slice (text : List Char) (start stop : Nat) : Option (List Char) :=
  (splitBytes text start).bind fun parts =>
    (splitBytes parts.2 (stop - start)).map Prod.fst

def digitValue (char : Char) : Option Nat :=
  if '0' ≤ char ∧ char ≤ '9' then some (char.toNat - 48)
  else if 'a' ≤ char ∧ char ≤ 'f' then some (char.toNat - 87)
  else if 'A' ≤ char ∧ char ≤ 'F' then some (char.toNat - 55)
  else none

/-- One byte from a piece of two bytes. The integer parser takes a sign. -/
def fromStrRadix (piece : List Char) : Except String UInt8 :=
  let digits := match piece with
    | '+' :: digit :: rest => digit :: rest
    | _ => piece
  match digits.mapM digitValue with
  | none => .error "invalid digit found in string"
  | some values => .ok (UInt8.ofNat (values.foldl (fun total value => 16 * total + value) 0))

/-- Up to the first piece that is refused; `none` if a slice stops it. -/
def decodePieces (text : List Char) : List Nat → Option (Except StoreError Bytes)
  | [] => some (.ok [])
  | index :: rest => do
    let piece ← slice text (2 * index) (2 * index + 2)
    match fromStrRadix piece with
    | .error detail => some (.error (.corrupt ("bad hex: " ++ detail)))
    | .ok byte =>
      let later ← decodePieces text rest
      return later.map (byte :: ·)

def hexDecode (text : List Char) : Option (Except StoreError Bytes) :=
  if byteLength text % 2 ≠ 0 then some (.error (.corrupt "odd hex length"))
  else decodePieces text (List.range (byteLength text / 2))

@[simp] theorem byteLength_nil : byteLength [] = 0 := rfl

@[simp] theorem byteLength_cons (char : Char) (rest : List Char) :
    byteLength (char :: rest) = char.utf8Size + byteLength rest := rfl

@[simp] theorem byteLength_append (front back : List Char) :
    byteLength (front ++ back) = byteLength front + byteLength back := by
  simp [byteLength]

theorem splitBytes_append (front back : List Char) :
    splitBytes (front ++ back) (byteLength front) = some (front, back) := by
  induction front with
  | nil => rw [byteLength_nil, splitBytes, List.nil_append]
  | cons char rest ih =>
    obtain ⟨offset, more⟩ := Nat.exists_eq_add_one_of_ne_zero
      (Nat.add_pos_left char.utf8Size_pos (byteLength rest)).ne'
    rw [byteLength_cons, more, List.cons_append, splitBytes, ← more,
      if_pos (Nat.le_add_right ..), Nat.add_sub_cancel_left, ih]
    rfl

def isDigit (char : Char) : Bool := (digitValue char).isSome

theorem digitValue_spec (digit : digitValue char = some value) :
    value < 16 ∧ hexDigit value = char.toLower ∧ char.utf8Size = 1 := by
  rcases Base32.ascii_or_caseless char with ⟨code, rfl⟩ | ⟨-, -, above⟩
  · have all : ∀ code : Fin 128, (digitValue (Char.ofNat code)).all (fun value =>
        value < 16 ∧ hexDigit value = (Char.ofNat code).toLower ∧
          (Char.ofNat code).utf8Size = 1) = true := by
      decide +kernel
    simpa [digit] using all code
  · rw [digitValue, if_neg fun range => above '9' (by decide) range.2,
      if_neg fun range => above 'f' (by decide) range.2,
      if_neg fun range => above 'F' (by decide) range.2] at digit
    cases digit

theorem width_of_digit (digit : isDigit char = true) : char.utf8Size = 1 := by
  obtain ⟨value, valued⟩ := Option.isSome_iff_exists.mp digit
  exact (digitValue_spec valued).2.2

/-- What the parser takes for a byte: a digit behind another or a sign. -/
def isPair (high low : Char) : Bool := (high = '+' || isDigit high) && isDigit low

/-- The first two bytes that are no pair end with a character. -/
def Broken : List Char → Bool
  | [] => false
  | [char] => char.utf8Size = 2
  | high :: low :: rest =>
    if isPair high low then Broken rest
    else high.utf8Size = 2 || (high.utf8Size = 1 && low.utf8Size = 1)

theorem byteLength_of_pair (pair : isPair high low = true) : byteLength [high, low] = 2 := by
  unfold isPair at pair
  rw [Bool.and_eq_true, Bool.or_eq_true, decide_eq_true_eq] at pair
  have width : high.utf8Size = 1 := by
    rcases pair.1 with rfl | digit
    · rfl
    · exact width_of_digit digit
  simp [width, width_of_digit pair.2]

theorem fromStrRadix_of_pair (pair : isPair high low = true) :
    ∃ byte, fromStrRadix [high, low] = .ok byte ∧ (isDigit high = true →
        [hexDigit (byte.toNat / 16), hexDigit (byte.toNat % 16)] =
          [high.toLower, low.toLower]) := by
  unfold isPair at pair
  rw [Bool.and_eq_true, Bool.or_eq_true, decide_eq_true_eq] at pair
  obtain ⟨units, valued⟩ := Option.isSome_iff_exists.mp pair.2
  by_cases sign : high = '+'
  · subst sign
    exact ⟨UInt8.ofNat units, by simp [fromStrRadix, valued], nofun⟩
  · obtain ⟨tens, highValued⟩ := Option.isSome_iff_exists.mp (pair.1.resolve_left sign)
    obtain ⟨small, shown, -⟩ := digitValue_spec valued
    obtain ⟨smallTens, shownTens, -⟩ := digitValue_spec highValued
    refine ⟨UInt8.ofNat (16 * tens + units), ?_, fun _ => ?_⟩
    · simp [fromStrRadix, valued, highValued, sign]
    · rw [UInt8.toNat_ofNat_of_lt' (by simp only [UInt8.size]; omega), ← shown,
        ← shownTens, show (16 * tens + units) / 16 = tens by omega,
        show (16 * tens + units) % 16 = units by omega]

theorem fromStrRadix_of_not_pair (other : isPair high low = false) :
    ∃ detail, fromStrRadix [high, low] = .error detail := by
  refine ⟨"invalid digit found in string", ?_⟩
  by_cases sign : high = '+'
  · subst sign
    have none : digitValue low = none := by simpa [isPair, isDigit] using other
    simp [fromStrRadix, none]
  · cases valued : digitValue high with
    | none => simp [fromStrRadix, sign, valued]
    | some tens =>
      have none : digitValue low = none := by simpa [isPair, isDigit, valued] using other
      simp [fromStrRadix, sign, valued, none]

theorem fromStrRadix_of_wide (wide : high.utf8Size = 2) :
    ∃ detail, fromStrRadix [high] = .error detail := by
  cases valued : digitValue high with
  | none =>
    refine ⟨"invalid digit found in string", ?_⟩
    simp [fromStrRadix, valued]
  | some value => cases wide.symm.trans (digitValue_spec valued).2.2

theorem slice_append (start : byteLength front = 2 * index) :
    slice (front ++ back) (2 * index) (2 * index + 2) = (splitBytes back 2).map Prod.fst := by
  rw [slice, ← start, splitBytes_append, Option.bind_some, Nat.add_sub_cancel_left]

section

variable (start : byteLength front = 2 * index)

include start

theorem decodePieces_of_error (piece : List Char) (two : byteLength piece = 2)
    (refused : ∃ detail, fromStrRadix piece = .error detail) :
    ∃ error, decodePieces (front ++ (piece ++ back))
      (List.range' index (count + 1)) = some (.error error) := by
  obtain ⟨detail, refused⟩ := refused
  refine ⟨.corrupt ("bad hex: " ++ detail), ?_⟩
  rw [List.range'_succ, decodePieces, slice_append start, ← two, splitBytes_append]
  simp only [Option.map_some, Option.bind_eq_bind, Option.bind_some, refused]

theorem decodePieces_of_cut (cut : splitBytes back 2 = none) :
    decodePieces (front ++ back) (List.range' index (count + 1)) = none := by
  rw [List.range'_succ, decodePieces, slice_append start, cut]
  rfl

theorem decodePieces_of_pair (pair : isPair high low = true)
    (read : fromStrRadix [high, low] = .ok byte) :
    decodePieces (front ++ high :: low :: back) (List.range' index (count + 1)) =
      (decodePieces (front ++ [high, low] ++ back)
        (List.range' (index + 1) count)).map (Except.map (byte :: ·)) := by
  have two : byteLength [high, low] = 2 := byteLength_of_pair pair
  rw [List.range'_succ, decodePieces, slice_append start, ← two,
    show high :: low :: back = [high, low] ++ back from rfl, splitBytes_append, ← List.append_assoc]
  simp only [Option.map_some, Option.bind_eq_bind, Option.bind_some, read]
  exact Option.map_eq_bind.symm

end

/-- How decoding ends: at the end of the text, at a piece that is refused, or in
the middle of a character. -/
theorem decodePieces_cases (start : byteLength front = 2 * index)
    (length : byteLength back = 2 * count) :
    (Broken back = false ∧ ∃ bytes, decodePieces (front ++ back)
        (List.range' index count) = some (.ok bytes) ∧
      (back.all isDigit = true → (hexEncode bytes).toList = back.map Char.toLower)) ∨
    back.all isDigit = false ∧ (Broken back = true ∧ (∃ error, decodePieces (front ++ back)
        (List.range' index count) = some (.error error)) ∨
      Broken back = false ∧ decodePieces (front ++ back) (List.range' index count) = none) := by
  fun_induction Broken back generalizing front index count with
  | case1 =>
    obtain rfl : count = 0 := by simpa using length
    exact .inl ⟨rfl, [], rfl, fun _ => rfl⟩
  | case2 char =>
    have wide : char.utf8Size = 2 * count := by simpa using length
    obtain ⟨less, rfl⟩ := Nat.exists_eq_add_one_of_ne_zero
      fun none : count = 0 => char.utf8Size_pos.ne' (by rw [wide, none])
    refine .inr ⟨?_, ?_⟩
    · cases digit : isDigit char with
      | false => simp [digit]
      | true =>
        have := width_of_digit digit
        omega
    · by_cases two : char.utf8Size = 2
      · exact .inl ⟨decide_eq_true two, decodePieces_of_error start [char]
          two (fromStrRadix_of_wide two)⟩
      · refine .inr ⟨decide_eq_false two, decodePieces_of_cut start ?_⟩
        rw [splitBytes, if_neg (by omega)]
  | case3 high low rest pair ih =>
    have two := byteLength_of_pair pair
    simp only [byteLength_cons, byteLength_nil] at two length
    obtain ⟨less, rfl⟩ : ∃ less, count = less + 1 := ⟨count - 1, by omega⟩
    obtain ⟨byte, read, shown⟩ := fromStrRadix_of_pair pair
    rw [decodePieces_of_pair start pair read]
    have next : byteLength (front ++ [high, low]) = 2 * (index + 1) := by
      simp only [byteLength_append, byteLength_cons, byteLength_nil]
      omega
    have more : byteLength rest = 2 * less := by omega
    rcases ih next more with
      ⟨whole, bytes, ran, digits⟩ | ⟨odd, ⟨broken, error, ran⟩ | ⟨whole, ran⟩⟩
    · refine .inl ⟨whole, byte :: bytes, by rw [ran]; rfl, fun all => ?_⟩
      simp only [List.all_cons, Bool.and_eq_true] at all
      have rest := digits all.2.2
      unfold hexEncode at rest ⊢
      rw [String.toList_ofList] at rest ⊢
      rw [List.flatMap_cons, shown all.1, rest]
      rfl
    · exact .inr ⟨by simp [odd], .inl ⟨broken, error, by rw [ran]; rfl⟩⟩
    · exact .inr ⟨by simp [odd], .inr ⟨whole, by rw [ran]; rfl⟩⟩
  | case4 high low rest other =>
    have pos := high.utf8Size_pos
    have lowPos := low.utf8Size_pos
    simp only [byteLength_cons] at length
    obtain ⟨less, rfl⟩ : ∃ less, count = less + 1 := ⟨count - 1, by omega⟩
    refine .inr ⟨?_, ?_⟩
    · cases digit : isDigit high with
      | false => simp [digit]
      | true => simp_all [isPair]
    · by_cases wide : high.utf8Size = 2
      · exact .inl ⟨by simp [wide], decodePieces_of_error start [high]
          wide (fromStrRadix_of_wide wide)⟩
      · by_cases narrow : high.utf8Size = 1 ∧ low.utf8Size = 1
        · exact .inl ⟨by simp [narrow], decodePieces_of_error start [high, low]
            (by simp [narrow]) (fromStrRadix_of_not_pair (by simpa using other))⟩
        · refine .inr ⟨by simpa [wide] using narrow, decodePieces_of_cut start ?_⟩
          rw [splitBytes]
          split
          · have one : high.utf8Size = 1 := by omega
            rw [one, splitBytes, if_neg (by omega)]
            rfl
          · rfl

theorem hexDecode_exact_iff (text : List Char) : (((∃ bytes, hexDecode text = some (.ok bytes)) ↔
        byteLength text % 2 = 0 ∧ text.all isDigit = true) ∧
      (∀ bytes, hexDecode text = some (.ok bytes) →
        (hexEncode bytes).toList = text.map Char.toLower) ∧
      hexDecode text ≠ none) ↔
      byteLength text % 2 = 1 ∨ text.all isDigit = true ∨ Broken text = true := by
  unfold hexDecode
  by_cases odd : byteLength text % 2 ≠ 0
  · rw [if_pos odd]
    simp [odd]
    omega
  · rw [if_neg odd, List.range_eq_range']
    have cases := @decodePieces_cases [] 0 text (byteLength text / 2) rfl (by omega)
    rw [List.nil_append] at cases
    rcases cases with
      ⟨whole, bytes, ran, digits⟩ | ⟨other, ⟨broken, error, ran⟩ | ⟨whole, ran⟩⟩
    · rw [ran, whole]
      simp_all
    · rw [ran, broken, other]
      simp
    · rw [ran, whole, other]
      simp_all

theorem sign_read_and_character_cut : hexDecode ['+', 'f'] = some (.ok [15]) ∧
      hexDecode ['a', 'é', 'b'] = none :=
  ⟨rfl, rfl⟩

theorem digits_of_byte (byte : UInt8) :
    isPair (hexDigit (byte.toNat / 16)) (hexDigit (byte.toNat % 16)) = true ∧
      fromStrRadix [hexDigit (byte.toNat / 16), hexDigit (byte.toNat % 16)] =
        .ok byte := by
  obtain ⟨⟨code⟩⟩ := byte
  revert code
  decide +kernel

theorem pieces_encoded (bytes : Bytes) (start : byteLength front = 2 * index) :
    decodePieces (front ++ (hexEncode bytes).toList)
      (List.range' index bytes.length) = some (.ok bytes) ∧
      byteLength (hexEncode bytes).toList = 2 * bytes.length := by
  rw [hexEncode, String.toList_ofList]
  induction bytes generalizing front index with
  | nil => exact ⟨rfl, rfl⟩
  | cons byte rest ih =>
    obtain ⟨pair, read⟩ := digits_of_byte byte
    have two := byteLength_of_pair pair
    have next := byteLength_append front _ ▸ congr_arg₂ (· + ·) start two
    obtain ⟨ran, length⟩ := @ih _ (index + 1) next
    constructor
    · exact (decodePieces_of_pair start pair read).trans (congrArg _ ran)
    · rw [List.flatMap_cons, byteLength_append, two, length, Nat.add_comm]
      rfl

theorem hexDecode_encoded (bytes : Bytes) :
    hexDecode (hexEncode bytes).toList = some (.ok bytes) := by
  obtain ⟨ran, length⟩ := @pieces_encoded [] 0 bytes rfl
  simpa [hexDecode, length, List.range_eq_range'] using ran

end SChatCore.Store
