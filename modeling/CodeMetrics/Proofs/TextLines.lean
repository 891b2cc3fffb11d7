import CodeMetrics.JavaScript.Analysis
import CodeMetrics.Proofs.Sites
import Mathlib.Algebra.Order.BigOperators.Group.List

/-!
Physical lines, against the text. Where the positions of a program are those of its bytes, its
physical lines are the lines of the text that its tree covers: a newline ends a line, and only text
behind it opens another.
-/

namespace CodeMetrics

def newline : UInt8 := 10

/-- The place of a byte: the newlines before it, and the bytes since the last of them. -/
def Position.ofByte (bytes : List UInt8) (byte : Nat) : Position :=
  let before := bytes.take byte
  ⟨before.count newline, (before.reverse.takeWhile (· ≠ newline)).length⟩

/-- The lines of a text, each with the newline that ends it. -/
def textLines : List UInt8 → List (List UInt8)
  | [] => []
  | byte :: rest =>
    if byte = newline then [byte] :: textLines rest
    else
      match textLines rest with
      | [] => [[byte]]
      | line :: lines => (byte :: line) :: lines

/-- The last line of a text is not ended yet. -/
def EndsOpen (text : List UInt8) : Prop := ∃ byte ∈ text.getLast?, byte ≠ newline

instance (text : List UInt8) : Decidable (EndsOpen text) :=
  inferInstanceAs (Decidable (∃ byte ∈ text.getLast?, byte ≠ newline))

theorem flatten_textLines (text : List UInt8) : (textLines text).flatten = text := by
  induction text with
  | nil => rfl
  | cons byte rest ih =>
      rw [textLines]
      by_cases ended : byte = newline
      · simp [ended, ih]
      · -- The byte opens the first line of the rest, or is a line when nothing follows.
        cases lines : textLines rest with
        | nil =>
            rw [lines] at ih
            simp [ended, ← ih]
        | cons line lines => simp_all

example : textLines [97, 10, 10, 98] = [[97, 10], [10], [98]] := by decide

theorem ne_nil_of_mem_textLines {text line : List UInt8} (member : line ∈ textLines text) :
    line ≠ [] := by
  induction text with
  | nil => cases member
  | cons byte rest ih =>
      rw [textLines] at member
      by_cases ended : byte = newline
      · rw [if_pos ended, List.mem_cons] at member
        rcases member with rfl | later
        · nofun
        · exact ih later
      · cases lines : textLines rest with
        | nil => simp_all
        | cons first others =>
            rw [lines] at ih
            simp only [ended, if_false, lines, List.mem_cons] at member
            rcases member with rfl | later
            · nofun
            · exact ih (List.mem_cons_of_mem first later)

theorem length_textLines (text : List UInt8) :
    (textLines text).length = text.count newline + if EndsOpen text then 1 else 0 := by
  induction text with
  | nil => rfl
  | cons byte rest ih =>
      rw [textLines]
      cases rest with
      | nil => by_cases ended : byte = newline <;> simp [ended, EndsOpen, textLines]
      | cons second more =>
          have last : EndsOpen (byte :: second :: more) ↔ EndsOpen (second :: more) := by
            rw [EndsOpen, List.getLast?_cons_cons, EndsOpen]
          have begun : textLines (second :: more) ≠ [] := by
            intro empty
            have joined := flatten_textLines (second :: more)
            rw [empty] at joined
            cases joined
          -- A newline is a line of its own here, any other byte lengthens the line behind it.
          by_cases ended : byte = newline
          · rw [if_pos ended, List.length_cons, ih, if_congr last rfl rfl, ended,
              List.count_cons_self]
            omega
          · rw [if_neg ended, if_congr last rfl rfl, List.count_cons_of_ne ended, ← ih]
            cases lines : textLines (second :: more) with
            | nil => exact absurd lines begun
            | cons line others => rfl

theorem length_textLines_le (text : List UInt8) : (textLines text).length ≤ text.length := by
  have each : ∀ length ∈ (textLines text).map List.length, 1 ≤ length := by
    intro length member
    obtain ⟨line, listed, rfl⟩ := List.mem_map.mp member
    exact List.length_pos_iff.mpr (ne_nil_of_mem_textLines listed)
  have bound := List.length_le_sum_of_one_le _ each
  rwa [List.length_map, ← List.length_flatten, flatten_textLines] at bound

/-! Where a position stands in its text. -/

theorem column_ofByte_eq_zero_iff (bytes : List UInt8) (byte : Nat) :
    (Position.ofByte bytes byte).column = 0 ↔ ¬EndsOpen (bytes.take byte) := by
  rw [Position.ofByte, EndsOpen, List.length_eq_zero_iff, ← List.head?_reverse]
  cases (bytes.take byte).reverse with
  | nil => simp
  | cons last rest => by_cases ended : last = newline <;> simp [ended]

theorem row_ofByte_add (bytes : List UInt8) {start stop : Nat} (ordered : start ≤ stop) :
    (Position.ofByte bytes start).row + ((bytes.take stop).drop start).count newline =
      (Position.ofByte bytes stop).row := by
  have parts := List.take_append_drop start (bytes.take stop)
  rw [List.take_take, Nat.min_eq_left ordered] at parts
  rw [Position.ofByte, Position.ofByte, ← List.count_append, parts]

theorem endsOpen_drop {text : List UInt8} {start : Nat} (filled : text.drop start ≠ []) :
    EndsOpen (text.drop start) ↔ EndsOpen text := by
  have inside : ¬text.length ≤ start := mt List.drop_eq_nil_iff.mpr filled
  rw [EndsOpen, List.getLast?_drop, if_neg inside, EndsOpen]

/-- A text that is not empty and whose last line is ended holds a newline. -/
theorem count_newline_pos {text : List UInt8} (filled : text ≠ []) (ended : ¬EndsOpen text) :
    0 < text.count newline := by
  have last := List.getLast?_eq_some_getLast filled
  by_cases same : text.getLast filled = newline
  · rw [List.count_pos_iff, ← same]
    exact List.getLast_mem filled
  · exact absurd ⟨_, last, same⟩ ended

theorem length_textLines_newline {text : List UInt8} (opened : EndsOpen text) :
    (textLines (text ++ [newline])).length = (textLines text).length := by
  have ended : ¬EndsOpen (text ++ [newline]) := by
    rw [EndsOpen, List.getLast?_concat]
    simp
  rw [length_textLines, length_textLines, if_pos opened, if_neg ended, List.count_append,
    List.count_singleton_self]

namespace Program

def bytes (program : Program) : List UInt8 := program.source.toUTF8.data.toList

/-- The text that the tree covers. -/
def spanned (program : Program) : List UInt8 :=
  let root := program.root.label
  (program.source.toUTF8.extract root.startByte root.stopByte).data.toList

/-- The positions of the tree are those of its bytes, and it covers some text unless there is none
but white space. -/
structure Aligned (program : Program) : Prop where
  start : program.root.label.start = .ofByte program.bytes program.root.label.startByte
  stop : program.root.label.stop = .ofByte program.bytes program.root.label.stopByte
  ordered : program.root.label.startByte ≤ program.root.label.stopByte
  covers : Text.isBlank program.source = false → program.spanned ≠ []

/-- A program that does not end in a newline, and the same program with one at its end. -/
structure Continued (program longer : Program) : Prop where
  source : longer.source = program.source ++ "\n"
  unended : program.bytes.getLast? ≠ some newline
  startByte : longer.root.label.startByte = program.root.label.startByte
  whole : program.root.label.stopByte = program.bytes.length
  stopByte : longer.root.label.stopByte = program.root.label.stopByte + 1

theorem spanned_eq (program : Program) :
    program.spanned =
      (program.bytes.take program.root.label.stopByte).drop program.root.label.startByte := by
  rw [spanned, bytes, ByteArray.data_extract, Array.toList_extract, List.extract_eq_take_drop,
    List.drop_take]

section Aligned
variable {program : Program} (aligned : program.Aligned)
include aligned

theorem Aligned.row_add :
    program.root.label.start.row + program.spanned.count newline = program.root.label.stop.row := by
  rw [aligned.start, aligned.stop, spanned_eq]
  exact row_ofByte_add program.bytes aligned.ordered

theorem Aligned.column_eq_zero_iff (filled : program.spanned ≠ []) :
    program.root.label.stop.column = 0 ↔ ¬EndsOpen program.spanned := by
  rw [spanned_eq] at filled ⊢
  rw [aligned.stop, column_ofByte_eq_zero_iff, endsOpen_drop filled]

end Aligned

theorem Continued.bytes_eq {program longer : Program} (continued : program.Continued longer) :
    longer.bytes = program.bytes ++ [newline] := by
  rw [bytes, bytes, continued.source, String.toUTF8_eq_toByteArray, String.toByteArray_append,
    ByteArray.data_append, Array.toList_append]
  rfl

theorem Continued.spanned_eq {program longer : Program} (continued : program.Continued longer)
    (ordered : program.root.label.startByte ≤ program.root.label.stopByte) :
    longer.spanned = program.spanned ++ [newline] := by
  rw [longer.spanned_eq, program.spanned_eq, continued.bytes_eq, continued.startByte,
    continued.stopByte, continued.whole]
  have inside := continued.whole ▸ ordered
  rw [List.take_length, List.take_of_length_le (by simp), List.drop_append_of_le_length inside]

theorem Continued.endsOpen {program longer : Program} (continued : program.Continued longer)
    (filled : program.spanned ≠ []) : EndsOpen program.spanned := by
  rw [program.spanned_eq, continued.whole, List.take_length] at filled ⊢
  rw [endsOpen_drop filled]
  cases last : program.bytes.getLast? with
  | none =>
      rw [List.getLast?_eq_none_iff.mp last, List.drop_nil] at filled
      exact absurd rfl filled
  | some byte =>
      refine ⟨byte, last, ?_⟩
      rintro rfl
      exact continued.unended last

theorem Continued.isBlank_eq {program longer : Program} (continued : program.Continued longer) :
    Text.isBlank longer.source = Text.isBlank program.source := by
  rw [Text.isBlank, Text.isBlank, continued.source, String.toList_append, List.all_append]
  exact Bool.and_true _

end Program

namespace JavaScript

theorem rowsBetween_eq {program : Program} (aligned : program.Aligned)
    (filled : program.spanned ≠ []) :
    rowsBetween program.root.label.start program.root.label.stop =
      (textLines program.spanned).length := by
  have rows := aligned.row_add
  have between : program.root.label.stop.row - program.root.label.start.row =
      program.spanned.count newline := by omega
  rw [rowsBetween, between, length_textLines]
  -- An ended line leaves the tree at column zero, where the row that it opened does not count.
  by_cases opened : EndsOpen program.spanned
  · have later : program.root.label.stop.column ≠ 0 := fun zero =>
      (aligned.column_eq_zero_iff filled).mp zero opened
    simp [opened, later]
  · have zero := (aligned.column_eq_zero_iff filled).mpr opened
    have newlines := count_newline_pos filled opened
    simp [opened, zero, newlines]

theorem physicalLines_eq {program : Program} (aligned : program.Aligned) :
    physicalLines program =
      if Text.isBlank program.source then 0 else (textLines program.spanned).length := by
  rw [physicalLines]
  by_cases blank : Text.isBlank program.source = true
  · rw [if_pos blank, if_pos blank]
  · rw [if_neg blank, if_neg blank]
    exact rowsBetween_eq aligned (aligned.covers (Bool.eq_false_iff.mpr blank))

theorem physicalLines_le {program : Program} (aligned : program.Aligned) :
    physicalLines program ≤ program.root.label.stopByte := by
  rw [physicalLines_eq aligned]
  split
  · exact Nat.zero_le _
  · apply (length_textLines_le program.spanned).trans
    rw [program.spanned_eq, List.length_drop, List.length_take]
    omega

theorem physicalLines_continued {program longer : Program} (aligned : program.Aligned)
    (also : longer.Aligned) (continued : program.Continued longer) :
    physicalLines longer = physicalLines program := by
  rw [physicalLines_eq also, physicalLines_eq aligned, continued.isBlank_eq]
  by_cases blank : Text.isBlank program.source = true
  · rw [if_pos blank, if_pos blank]
  · have filled := aligned.covers (Bool.eq_false_iff.mpr blank)
    rw [if_neg blank, if_neg blank, continued.spanned_eq aligned.ordered]
    exact length_textLines_newline (continued.endsOpen filled)

/-- The physical lines of a program are the lines of the text that its tree covers, and a blank
program has none. The row that is subtracted is not behind the other one, the number fits into the
word that is reported as far as the bytes do, and a newline at the end of a program adds no line. -/
theorem physical_lines_of_text {program : Program} (aligned : program.Aligned) :
    physicalLines program =
        (if Text.isBlank program.source then 0 else (textLines program.spanned).length) ∧
      program.root.label.start.row ≤ program.root.label.stop.row ∧
      (∀ rules functions, program.root.label.stopByte < 4294967296 →
        (moduleAggregate program rules functions).sloc.physical.toNat = physicalLines program) ∧
      ∀ longer, longer.Aligned → program.Continued longer →
        physicalLines longer = physicalLines program := by
  refine ⟨physicalLines_eq aligned, ?_, ?_, ?_⟩
  · rw [← aligned.row_add]
    exact Nat.le_add_right ..
  · intro rules functions small
    have fits := (physicalLines_le aligned).trans_lt small
    exact UInt32.toNat_ofNat_of_lt fits
  · intro longer also continued
    exact physicalLines_continued aligned also continued

/-- A name and a semicolon. -/
def nameStatement (place : Nat → Position) (first : Nat) : Tree :=
  spotAt place "expression_statement" first (first + 2) [] [
    spotAt place "identifier" first (first + 1) [] [], signAt place ";" (first + 1) []]

/-- Two statements, the first one not at the beginning of its line and with an empty line below. -/
def gappedSample (ending : String) (last : Nat) : Program where
  source := "  a;\n\nb;" ++ ending
  root :=
    let place := placeOf [0, 5, 6, 9]
    spotAt place "program" 2 last [] [nameStatement place 2, nameStatement place 6]

def openSample : Program := gappedSample "" 8

def endedSample : Program := gappedSample "\n" 9

theorem physical_lines_of_text_openSample :
    openSample.Aligned ∧ endedSample.Aligned ∧ openSample.Continued endedSample ∧
      physicalLines openSample = 3 ∧ physicalLines endedSample = 3 := by
  have aligned : openSample.Aligned :=
    ⟨by decide +kernel, by decide +kernel, by decide, fun _ => by decide +kernel⟩
  have also : endedSample.Aligned :=
    ⟨by decide +kernel, by decide +kernel, by decide, fun _ => by decide +kernel⟩
  have continued : openSample.Continued endedSample :=
    ⟨by decide +kernel, by decide +kernel, rfl, by decide +kernel, rfl⟩
  obtain ⟨lines, -, -, longer⟩ := physical_lines_of_text aligned
  have three : physicalLines openSample = 3 := lines.trans (by decide +kernel)
  exact ⟨aligned, also, continued, three, (longer endedSample also continued).trans three⟩

end JavaScript
end CodeMetrics
