import Mathlib.Data.List.Basic

namespace SChatCore.Data.Quoted

/-! Quoted strings: text between quotes in which a backslash makes the next
character stand for itself. They do not extend over a line. -/

def isBreak (char : Char) : Bool := char == '\r' || char == '\n'

/-- Stands for itself without a backslash. -/
def isPlain (char : Char) : Bool := !(char == '"' || char == '\\' || isBreak char)

/-- Reads a quoted string after its opening quote, or after a backslash in it:
its value, and what follows the closing quote. -/
def unquote (escaped : Bool) : List Char → Option (List Char × List Char)
  | [] => none
  | char :: rest =>
    if escaped then
      if isBreak char then none
      else (unquote false rest).map fun read => (char :: read.1, read.2)
    else if isPlain char then
      (unquote false rest).map fun read => (char :: read.1, read.2)
    else if char = '"' then some ([], rest)
    else if char = '\\' then unquote true rest
    else none

theorem unquote_plain (plain : text.all isPlain = true) (rest : List Char) :
    unquote false (text ++ '"' :: rest) = some (text, rest) := by
  induction text with
  | nil => rfl
  | cons char text ih =>
    rw [List.all_cons, Bool.and_eq_true] at plain
    rw [List.cons_append, unquote, if_neg Bool.false_ne_true, if_pos plain.1, ih plain.2]
    rfl

/-- A value is never longer than what it is read from, and as long only if
nothing in it needed a backslash. -/
theorem length_unquote (read : unquote escaped text = some (value, rest)) :
    value.length + 1 + rest.length ≤ text.length ∧
      (escaped = false → value.length + 1 + rest.length = text.length →
        value.all isPlain = true) := by
  induction text generalizing escaped value with
  | nil => cases read
  | cons char text ih =>
    have longer : ∀ tail, unquote false text = some (tail, rest) →
        (char :: tail).length + 1 + rest.length ≤ (char :: text).length ∧
          ((char :: tail).length + 1 + rest.length = (char :: text).length →
            tail.all isPlain = true) := by
      intro tail read
      obtain ⟨shorter, exact⟩ := ih read
      simp only [List.length_cons]
      exact ⟨by omega, fun same => exact rfl (by omega)⟩
    rw [unquote] at read
    split at read
    · rename_i after
      split at read
      · cases read
      · obtain ⟨⟨tail, _⟩, inner, same⟩ := Option.map_eq_some_iff.mp read
        cases same
        refine ⟨(longer tail inner).1, fun plain => ?_⟩
        rw [plain] at after
        cases after
    split at read
    · rename_i plain
      obtain ⟨⟨tail, _⟩, inner, same⟩ := Option.map_eq_some_iff.mp read
      cases same
      refine ⟨(longer tail inner).1, fun _ same => ?_⟩
      rw [List.all_cons, plain, (longer tail inner).2 same]
      rfl
    split at read
    · cases read
      exact ⟨by simp; omega, fun _ _ => rfl⟩
    split at read
    · obtain ⟨shorter, -⟩ := ih read
      simp only [List.length_cons]
      exact ⟨by omega, fun _ same => by omega⟩
    · cases read

def isKey (char : Char) : Bool := char.isAlphanum

def writePair (pair : List Char × List Char) : List Char :=
  ' ' :: (pair.1 ++ '=' :: '"' :: (pair.2 ++ ['"']))

def write (pairs : List (List Char × List Char)) : List Char := pairs.flatMap writePair

/-- Reads one key and its value; each pair stands after a space. -/
def readPair (text : List Char) : Option ((List Char × List Char) × List Char) :=
  match text with
  | ' ' :: rest =>
    let key := rest.takeWhile isKey
    match key.isEmpty, rest.dropWhile isKey with
    | false, '=' :: '"' :: rest => (unquote false rest).map fun read => ((key, read.1), read.2)
    | _, _ => none
  | _ => none

def readPairs : Nat → List Char → Option (List (List Char × List Char))
  | _, [] => some []
  | 0, _ => none
  | fuel + 1, text => do
    let (pair, rest) ← readPair text
    let others ← readPairs fuel rest
    return pair :: others

structure Writable (pair : List Char × List Char) : Prop where
  named : pair.1 ≠ []
  key : pair.1.all isKey = true
  plain : pair.2.all isPlain = true

theorem length_writePair (pair : List Char × List Char) :
    (writePair pair).length = pair.1.length + pair.2.length + 4 := by
  simp [writePair]
  omega

theorem length_le_write (pairs : List (List Char × List Char)) :
    pairs.length ≤ (write pairs).length := by
  induction pairs with
  | nil => exact Nat.zero_le _
  | cons pair pairs ih =>
    have split : write (pair :: pairs) = writePair pair ++ write pairs := List.flatMap_cons
    rw [split, List.length_append, length_writePair, List.length_cons]
    omega

theorem readPair_writePair (writable : Writable pair) (rest : List Char) :
    readPair (writePair pair ++ rest) = some (pair, rest) := by
  obtain ⟨key, value⟩ := pair
  have keyed : ∀ char ∈ key, isKey char = true := List.all_eq_true.mp writable.key
  have stop : isKey '=' = false := by decide
  have taken : (key ++ '=' :: '"' :: (value ++ '"' :: rest)).takeWhile isKey =
      key := by
    rw [List.takeWhile_append_of_pos keyed]
    simp [stop]
  have left : (key ++ '=' :: '"' :: (value ++ '"' :: rest)).dropWhile isKey =
      '=' :: '"' :: (value ++ '"' :: rest) := by
    rw [List.dropWhile_append_of_pos keyed]
    simp [stop]
  have some : key.isEmpty = false := by
    cases key with
    | nil => exact absurd rfl writable.named
    | cons char key => rfl
  have text : writePair (key, value) ++ rest =
      ' ' :: (key ++ '=' :: '"' :: (value ++ '"' :: rest)) := by
    simp [writePair]
  rw [text]
  unfold readPair
  simp only [taken, left, some, unquote_plain writable.plain]
  rfl

theorem length_readPair (read : readPair text = some (pair, rest)) :
    (writePair pair).length + rest.length ≤ text.length ∧
      ((writePair pair).length + rest.length = text.length → pair.2.all isPlain = true) := by
  unfold readPair at read
  split at read
  · rename_i others
    simp only at read
    split at read
    · rename_i tail _ after
      obtain ⟨⟨value, _⟩, inner, same⟩ := Option.map_eq_some_iff.mp read
      cases same
      obtain ⟨shorter, exact⟩ := length_unquote inner
      have split := congrArg List.length (List.takeWhile_append_dropWhile
        (p := isKey) (l := others))
      rw [after, List.length_append] at split
      rw [length_writePair]
      simp only [List.length_cons] at split ⊢
      exact ⟨by omega, fun same => exact rfl (by omega)⟩
    · cases read
  · cases read

theorem readPairs_write (writable : ∀ pair ∈ pairs, Writable pair) {fuel : Nat}
    (enough : pairs.length ≤ fuel) :
    readPairs fuel (write pairs) = some pairs := by
  induction pairs generalizing fuel with
  | nil => cases fuel <;> rfl
  | cons pair pairs ih =>
    cases fuel with
    | zero => cases enough
    | succ fuel =>
      have first := readPair_writePair (writable pair List.mem_cons_self) (write pairs)
      have others := @ih (fun other mem =>
        writable other (List.mem_cons_of_mem _ mem)) fuel
        (Nat.le_of_succ_le_succ enough)
      have split : write (pair :: pairs) = writePair pair ++ write pairs := List.flatMap_cons
      show (readPair (writePair pair ++ write pairs) >>= _) = _
      rw [first]
      show (readPairs fuel (write pairs) >>= _) = _
      rw [others]
      rfl

theorem length_readPairs (read : readPairs fuel text = some pairs) :
    (write pairs).length ≤ text.length ∧ ((write pairs).length = text.length →
        ∀ pair ∈ pairs, pair.2.all isPlain = true) := by
  induction fuel generalizing text pairs with
  | zero =>
    cases text with
    | nil =>
      cases read
      exact ⟨Nat.le_refl _, nofun⟩
    | cons char text => cases read
  | succ fuel ih =>
    cases text with
    | nil =>
      cases read
      exact ⟨Nat.le_refl _, nofun⟩
    | cons char text =>
      obtain ⟨⟨pair, rest⟩, first, read⟩ := Option.bind_eq_some_iff.mp read
      obtain ⟨others, later, same⟩ := Option.bind_eq_some_iff.mp read
      cases same
      obtain ⟨shorter, exact⟩ := length_readPair first
      obtain ⟨shorter', exact'⟩ := ih later
      have split : (write (pair :: others)).length =
          (writePair pair).length + (write others).length := by
        simp [write]
      refine ⟨by omega, fun same each mem => ?_⟩
      rcases List.mem_cons.mp mem with rfl | mem
      · exact exact (by omega)
      · exact exact' (by omega) each mem

theorem readPairs_write_iff (keys : ∀ pair ∈ pairs, pair.1 ≠ [] ∧ pair.1.all isKey = true)
    (enough : pairs.length ≤ fuel) :
    readPairs fuel (write pairs) = some pairs ↔ ∀ pair ∈ pairs, pair.2.all isPlain = true :=
  ⟨fun read => (length_readPairs read).2 rfl, fun plain =>
    readPairs_write (fun pair mem =>
      ⟨(keys pair mem).1, (keys pair mem).2, plain pair mem⟩) enough⟩

end SChatCore.Data.Quoted
