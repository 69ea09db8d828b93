import Chip8.Proofs.Machine.TraceLine

/-!
# Reading trace lines

A trace line is made of words with signs between them.  Taken apart at the signs it gives back all
that it tells of a fetch, so no two fetches leave the same line.
-/

namespace Chip8

/-- What a trace line tells of a fetch: where it was made, the word that it found, and the registers
as the instruction finds them. -/
structure Fetch where
  address : Int
  word : Word
  pc : Int
  index : Int
  sp : Int
  values : List Byte
  deriving DecidableEq

namespace Trace

def isSign (c : Char) : Bool := !c.isAlphanum

/-- The words of a text; where two signs meet there is an empty one between them. -/
def words (text : List Char) : List (List Char) := text.splitOnP isSign

def IsWord (text : List Char) : Prop := ∀ c ∈ text, isSign c = false

instance (text : List Char) : Decidable (IsWord text) := List.decidableBAll _ text

variable {word rest : List Char} {sign : Char}

theorem words_append (solid : IsWord word) (between : isSign sign = true) :
    words (word ++ sign :: rest) = word :: words rest :=
  List.splitOnP_append_cons_of_forall_mem solid sign between rest

theorem words_sign (between : isSign sign = true) : words (sign :: rest) = [] :: words rest :=
  have empty : IsWord [] := by decide
  words_append empty between

theorem isWord_padded (width number : Nat) : IsWord (Hex.padded width number).toList := by
  intro letter member
  have solid : ∀ digit < 16, isSign (Nat.digitChar digit).toUpper = false := by decide
  obtain ⟨digit, single, rfl⟩ := Hex.mem_padded member
  exact solid digit single

theorem isWord_repr (number : Nat) : IsWord number.repr.toList := by
  intro letter member
  rw [Nat.toList_repr] at member
  have digit : letter.isDigit = true := Nat.isDigit_of_mem_toDigits (by decide) (by decide) member
  rw [isSign, Char.isAlphanum, digit, Bool.or_true]
  rfl

end Trace

namespace Registers

open Trace (IsWord words words_append words_sign isWord_padded isWord_repr)

def entryWords (entry : Byte × Nat) : List (List Char) :=
  ['V' :: (Hex.plain entry.2).toList, (Hex.padded 2 entry.1.toNat).toList]

def entryText (entry : Byte × Nat) : String :=
  s!"V{Hex.plain entry.2}={Hex.padded 2 entry.1.toNat}"

theorem isWord_name (number : Nat) : IsWord ('V' :: (Hex.plain number).toList) := by
  intro letter member
  rcases List.mem_cons.mp member with rfl | digit
  · decide
  · exact isWord_padded 0 number letter digit

theorem words_entry (entry : Byte × Nat) {sign : Char} {rest : List Char}
    (between : Trace.isSign sign = true) :
    words ((entryText entry).toList ++ sign :: rest) = entryWords entry ++ words rest := by
  have spelled : (entryText entry).toList ++ sign :: rest =
      ('V' :: (Hex.plain entry.2).toList) ++ '=' ::
        ((Hex.padded 2 entry.1.toNat).toList ++ sign :: rest) := by
    have name : "V".toList = ['V'] := rfl
    have equals : "=".toList = ['='] := rfl
    simp only [entryText, toString, String.toList_append, name, equals, List.append_assoc,
      List.cons_append, List.nil_append]
  rw [spelled, words_append (isWord_name entry.2) (by decide),
    words_append (isWord_padded 2 entry.1.toNat) between]
  rfl

theorem words_entries {entries : List (Byte × Nat)} (present : entries ≠ []) {last : Char}
    (ends : Trace.isSign last = true) :
    words ((" ".intercalate (entries.map entryText)).toList ++ [last]) =
      entries.flatMap entryWords ++ [[]] := by
  induction entries with
  | nil => exact absurd rfl present
  | cons entry rest ih =>
      cases rest with
      | nil =>
          rw [List.map_singleton, String.intercalate_singleton, words_entry entry ends]
          simp only [List.flatMap_singleton]
          rfl
      | cons next rest =>
          have blank : " ".toList = [' '] := rfl
          have later := ih (List.cons_ne_nil next rest)
          rw [List.map_cons] at later
          rw [List.map_cons, List.map_cons, String.intercalate_cons_cons, String.toList_append,
            String.toList_append, blank, List.append_assoc, List.append_assoc, List.singleton_append,
            words_entry entry (by decide), later]
          simp only [List.flatMap_cons, List.append_assoc]

theorem words_description {registers : Registers} {pc index sp : Nat} (counter : registers.pc = pc)
    (pointer : registers.index = index) (depth : registers.sp = sp) :
    words registers.description.toList =
      "RegisterFile".toList :: ['P', 'C'] :: (Hex.padded 3 pc).toList ::
        ['I'] :: (Hex.padded 3 index).toList :: ['S', 'P'] :: sp.repr.toList ::
          (registers.values.zipIdx.flatMap entryWords ++ [[]]) := by
  have entries : registers.values.zipIdx ≠ [] := by
    intro none
    have length := congrArg List.length none
    rw [List.length_zipIdx, length_values] at length
    cases length
  have depthText : toString (registers.sp) = sp.repr := by rw [depth]; rfl
  have spelled : registers.description.toList =
      "RegisterFile".toList ++ '(' :: (['P', 'C'] ++ '=' :: ((Hex.padded 3 pc).toList ++
        ' ' :: (['I'] ++ '=' :: ((Hex.padded 3 index).toList ++
          ' ' :: (['S', 'P'] ++ '=' :: (sp.repr.toList ++
            ' ' :: ((" ".intercalate (registers.values.zipIdx.map entryText)).toList ++ [')']))))))) := by
    have start : "RegisterFile(PC=".toList = "RegisterFile".toList ++ ['(', 'P', 'C', '='] := rfl
    have first : " I=".toList = [' ', 'I', '='] := rfl
    have second : " SP=".toList = [' ', 'S', 'P', '='] := rfl
    have blank : " ".toList = [' '] := rfl
    have last : ")".toList = [')'] := rfl
    unfold description valuesText
    rw [counter, pointer, depthText]
    simp only [toString, String.toList_append, start, first, second, blank, last, List.append_assoc,
      List.cons_append, List.nil_append]
    rfl
  rw [spelled]
  rw [words_append (by decide) (by decide), words_append (by decide) (by decide),
    words_append (isWord_padded 3 pc) (by decide), words_append (by decide) (by decide),
    words_append (isWord_padded 3 index) (by decide), words_append (by decide) (by decide),
    words_append (isWord_repr sp) (by decide), words_entries entries (by decide)]

end Registers

namespace Fetch

def valuesOfWords : List (List Char) → List Byte
  | _ :: value :: rest => BitVec.ofNat 8 (Hex.value value) :: valuesOfWords rest
  | _ => []

/-- The words that begin a line, with names before the counters, and the register entries. -/
def ofWords? : List (List Char) → Option Fetch
  | address :: [] :: word :: [] :: _ :: ['P', 'C'] :: pc :: ['I'] :: index :: ['S', 'P'] :: sp ::
      entries =>
    some
      { address := Hex.value address
        word := BitVec.ofNat 16 (Hex.value word)
        pc := Hex.value pc
        index := Hex.value index
        sp := Nat.ofDigitChars 10 sp 0
        values := valuesOfWords entries }
  | _ => none

def ofLine? (line : String) : Option Fetch := ofWords? (Trace.words line.toList)

end Fetch

theorem Hex.value_padded (width number : Nat) : value (padded width number).toList = number := by
  rw [toList_padded, value_zeroFill, value_digits]

namespace Fetch

theorem valuesOfWords_entries (entries : List (Byte × Nat)) :
    valuesOfWords (entries.flatMap Registers.entryWords ++ [[]]) = entries.map Prod.fst := by
  induction entries with
  | nil => rfl
  | cons entry rest ih =>
      have value : BitVec.ofNat 8 (Hex.value (Hex.padded 2 entry.1.toNat).toList) = entry.1 := by
        rw [Hex.value_padded, BitVec.ofNat_toNat, BitVec.setWidth_eq]
      rw [List.flatMap_cons, List.append_assoc, Registers.entryWords, List.cons_append,
        List.cons_append, valuesOfWords, value, List.nil_append, ih, List.map_cons]

/-- The line of a fetch from registers in range gives it back. -/
theorem ofLine?_traceLine {address : Int} {word : Word} {registers : Registers}
    (place : 0 ≤ address) (counter : 0 ≤ registers.pc) (pointer : 0 ≤ registers.index)
    (depth : 0 ≤ registers.sp) :
    ofLine? (Machine.traceLine address word registers) = some
      { address, word, pc := registers.pc, index := registers.index, sp := registers.sp
        values := registers.values } := by
  obtain ⟨start, rfl⟩ := Int.eq_ofNat_of_zero_le place
  obtain ⟨pc, counter⟩ := Int.eq_ofNat_of_zero_le counter
  obtain ⟨index, pointer⟩ := Int.eq_ofNat_of_zero_le pointer
  obtain ⟨sp, depth⟩ := Int.eq_ofNat_of_zero_le depth
  have spelled : (Machine.traceLine start word registers).toList =
      (Hex.padded 3 start).toList ++ ':' :: ' ' :: ((Hex.padded 4 word.toNat).toList ++
        ' ' :: ' ' :: registers.description.toList) := by
    have colon : ": ".toList = [':', ' '] := rfl
    have gap : "  ".toList = [' ', ' '] := rfl
    rw [Machine.toList_traceLine]
    simp only [toString, String.toList_append, colon, gap, List.append_assoc, List.cons_append,
      List.nil_append]
  rw [ofLine?, spelled, Trace.words_append (Trace.isWord_padded 3 start) (by decide),
    Trace.words_sign (by decide), Trace.words_append (Trace.isWord_padded 4 word.toNat) (by decide),
    Trace.words_sign (by decide), Registers.words_description counter pointer depth, ofWords?]
  simp only [Hex.value_padded, valuesOfWords_entries, Nat.toList_repr, Nat.ofDigitChars_ten_toDigits]
  rw [counter, pointer, depth, List.zipIdx_map_fst, BitVec.ofNat_toNat, BitVec.setWidth_eq]

end Fetch

end Chip8
