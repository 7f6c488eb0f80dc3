import EdfKernel.Log
import Mathlib.Algebra.GroupWithZero.Nat

/-!
Lines of the log in a buffer of any length. Texts that are written one after the other leave what
their concatenation would leave: its bytes from the position on, as many as there is room for. So
a line may be cut anywhere, in the middle of a character too, and the line feed then takes the
place of the last byte that was written.
-/

namespace EdfKernel

theorem utf8_append (first second : String) :
    utf8 (first ++ second) = utf8 first ++ utf8 second := by
  simp [utf8]

theorem utf8_join (texts : List String) :
    utf8 (String.join texts) = (texts.map utf8).flatten := by
  induction texts with
  | nil => rfl
  | cons text texts ih => rw [String.join_cons, utf8_append, ih, List.map_cons, List.flatten_cons]

namespace LogLevel

def padded (level : LogLevel) : String := level.name.pushn ' ' (5 - level.name.length)

theorem label_eq (level : LogLevel) : level.label = level.padded := by
  cases level <;> rfl

end LogLevel

/-- The text of a line, whatever room there is for it. -/
def lineText (level : LogLevel) (target message : String) : String :=
  "[" ++ level.padded ++ "] " ++ target ++ ": " ++ message ++ "\n"

theorem utf8_lineText (level : LogLevel) (target message : String) :
    utf8 (lineText level target message) =
      [utf8 "[", utf8 level.label, utf8 "] ", utf8 target, utf8 ": ", utf8 message,
        [lineFeed]].flatten := by
  have last : utf8 "\n" = [lineFeed] := rfl
  simp [lineText, utf8_append, level.label_eq, last]

/-- What is left of a line where there is only so much room. -/
def cutLine (room : Nat) (line : List UInt8) : List UInt8 :=
  (line.take room).dropLast ++ [lineFeed]

theorem cutLine_length {room : Nat} {line : List UInt8} (positive : room ≠ 0) (full : line ≠ []) :
    (cutLine room line).length = min room line.length := by
  have := List.length_pos_iff.mpr full
  rw [cutLine, List.length_append, List.length_dropLast, List.length_take, List.length_singleton]
  omega

theorem cutLine_eq (room : Nat) (line : List UInt8) :
    cutLine room line = line.take (min room line.length - 1) ++ [lineFeed] := by
  rw [cutLine, List.dropLast_eq_take, List.length_take, List.take_take]
  congr 2
  omega

theorem cutLine_of_fits {room : Nat} {start : List UInt8}
    (fits : (start ++ [lineFeed]).length ≤ room) :
    cutLine room (start ++ [lineFeed]) = start ++ [lineFeed] := by
  rw [cutLine, List.take_of_length_le fits, List.dropLast_concat]

def put? : List UInt8 → Nat → List UInt8 → Option (List UInt8)
  | buffer, _, [] => some buffer
  | buffer, start, byte :: bytes =>
      if start < buffer.length then put? (buffer.set start byte) (start + 1) bytes else none

theorem put?_append {front rest bytes : List UInt8} (room : bytes.length ≤ rest.length) :
    put? (front ++ rest) front.length bytes =
      some (front ++ bytes ++ rest.drop bytes.length) := by
  -- Each byte that is put goes from the rest to the front.
  induction bytes generalizing front rest with
  | nil => simp [put?]
  | cons byte bytes ih =>
      cases rest with
      | nil => cases room
      | cons old rest =>
          have inside : front.length < (front ++ old :: rest).length := by simp
          have placed :
              (front ++ old :: rest).set front.length byte = (front ++ [byte]) ++ rest := by
            simp
          have next : front.length + 1 = (front ++ [byte]).length := by simp
          rw [put?, if_pos inside, placed, next, ih (Nat.le_of_succ_le_succ room)]
          simp

namespace BufferWriter

/-- A writer, by the bytes before its position and those from there on. -/
def around (front rest : List UInt8) : BufferWriter := ⟨front ++ rest, front.length⟩

@[simp]
theorem around_buffer (front rest : List UInt8) : (around front rest).buffer = front ++ rest := rfl

@[simp]
theorem around_pos (front rest : List UInt8) : (around front rest).pos = front.length := rfl

theorem exists_around {writer : BufferWriter} (within : writer.pos ≤ writer.buffer.length) :
    ∃ front rest, writer = around front rest := by
  refine ⟨writer.buffer.take writer.pos, writer.buffer.drop writer.pos, ?_⟩
  rw [around, List.take_append_drop, List.length_take, Nat.min_eq_left within]

def write? (writer : BufferWriter) (bytes : List UInt8) : Option BufferWriter :=
  if writer.pos ≤ writer.buffer.length then
    let chunk := bytes.take (writer.buffer.length - writer.pos)
    (put? writer.buffer writer.pos chunk).map (⟨·, writer.pos + chunk.length⟩)
  else none

def writeTexts? (writer : BufferWriter) (texts : List String) : Option BufferWriter :=
  texts.foldlM (fun writer text => writer.write? (utf8 text)) writer

def endLine? (writer : BufferWriter) : Option (Nat × List UInt8) :=
  if writer.pos = 0 then none
  else (put? writer.buffer (writer.pos - 1) [lineFeed]).map (writer.pos, ·)

section Around

variable (front rest bytes : List UInt8)

theorem around_write :
    (around front rest).write bytes =
      around (front ++ bytes.take rest.length) (rest.drop bytes.length) := by
  have behind : rest.drop (min rest.length bytes.length) = rest.drop bytes.length := by
    rw [Nat.min_comm, ← List.drop_eq_drop_min]
  simp [around, write, List.drop_append, behind]

theorem around_write? :
    (around front rest).write? bytes = some ((around front rest).write bytes) := by
  have room : (front ++ rest).length - front.length = rest.length := by simp
  have fits : (bytes.take rest.length).length ≤ rest.length := by
    rw [List.length_take]
    exact Nat.min_le_left _ _
  simp only [write?, around, room, put?_append fits]
  simp [write, List.drop_append]

end Around

section Within

variable {writer : BufferWriter} (within : writer.pos ≤ writer.buffer.length)

include within

theorem write_nil : writer.write [] = writer := by
  obtain ⟨front, rest, rfl⟩ := exists_around within
  simp [around_write]

theorem write_append (first second : List UInt8) :
    (writer.write first).write second = writer.write (first ++ second) := by
  obtain ⟨front, rest, rfl⟩ := exists_around within
  simp only [around_write, List.length_drop, List.append_assoc, List.drop_drop, List.take_append,
    List.length_append]

theorem write_within (bytes : List UInt8) :
    (writer.write bytes).pos ≤ (writer.write bytes).buffer.length := by
  obtain ⟨front, rest, rfl⟩ := exists_around within
  simp [around_write]

theorem endLine?_eq (begun : writer.pos ≠ 0) :
    writer.endLine? = some (writer.pos, writer.buffer.set (writer.pos - 1) lineFeed) := by
  have inside : writer.pos - 1 < writer.buffer.length := by omega
  rw [endLine?, if_neg begun, put?, if_pos inside]
  rfl

theorem write_length (bytes : List UInt8) :
    (writer.write bytes).buffer.length = writer.buffer.length := by
  obtain ⟨front, rest, rfl⟩ := exists_around within
  simp only [around_write, around_buffer, List.length_append, List.length_take, List.length_drop]
  omega

theorem write_pos (bytes : List UInt8) :
    (writer.write bytes).pos = min writer.buffer.length (writer.pos + bytes.length) := by
  obtain ⟨front, rest, rfl⟩ := exists_around within
  simp only [around_write, around_buffer, around_pos, List.length_append, List.length_take]
  omega

theorem write_front (bytes : List UInt8) :
    (writer.write bytes).buffer.take (writer.write bytes).pos =
      writer.buffer.take writer.pos ++ bytes.take (writer.buffer.length - writer.pos) := by
  obtain ⟨front, rest, rfl⟩ := exists_around within
  rw [around_write, around_buffer, around_pos, List.take_left]
  simp

theorem write_behind (bytes : List UInt8) :
    (writer.write bytes).buffer.drop (writer.write bytes).pos =
      writer.buffer.drop (writer.write bytes).pos := by
  obtain ⟨front, rest, rfl⟩ := exists_around within
  rw [around_write, around_buffer, around_pos, List.drop_left, around_buffer,
    List.length_append, List.drop_length_add_append, List.length_take, Nat.min_comm,
    ← List.drop_eq_drop_min]

theorem writeAll_eq (chunks : List (List UInt8)) :
    writer.writeAll chunks = writer.write chunks.flatten := by
  induction chunks generalizing writer with
  | nil => exact (write_nil within).symm
  | cons chunk chunks ih =>
      rw [List.flatten_cons, ← write_append within, ← ih (write_within within chunk)]
      rfl

theorem writeTexts?_eq (texts : List String) :
    writer.writeTexts? texts = some (writer.writeAll (texts.map utf8)) := by
  induction texts generalizing writer with
  | nil => rfl
  | cons text texts ih =>
      obtain ⟨front, rest, rfl⟩ := exists_around within
      rw [writeTexts?, List.foldlM_cons, around_write?]
      exact ih (write_within within (utf8 text))

end Within

/-- This is what comes of texts that are written one after the other. -/
structure Writes (writer : BufferWriter) (texts : List String) (written : BufferWriter) :
    Prop where
  succeeds : writer.writeTexts? texts = some written
  length : written.buffer.length = writer.buffer.length
  pos : written.pos =
    min writer.buffer.length (writer.pos + (texts.map fun text => (utf8 text).length).sum)
  /-- What is before the position stays there, and the bytes of the texts follow. -/
  front : written.buffer.take written.pos =
    writer.buffer.take writer.pos ++
      (texts.map utf8).flatten.take (writer.buffer.length - writer.pos)
  behind : written.buffer.drop written.pos = writer.buffer.drop written.pos
  joined : written = writer.write (utf8 (String.join texts))

theorem writes {writer : BufferWriter} (within : writer.pos ≤ writer.buffer.length)
    (texts : List String) : writer.Writes texts (writer.writeAll (texts.map utf8)) := by
  have all := writeAll_eq within (texts.map utf8)
  have total : (texts.map utf8).flatten.length =
      (texts.map fun text => (utf8 text).length).sum := by
    rw [List.length_flatten, List.map_map]
    rfl
  refine ⟨writeTexts?_eq within texts, ?_, ?_, ?_, ?_, ?_⟩ <;> rw [all]
  · exact write_length within _
  · rw [write_pos within, total]
  · exact write_front within _
  · exact write_behind within _
  · rw [utf8_join]

end BufferWriter

def formatTexts? (buffer : List UInt8) (texts : List String) : Option (Nat × List UInt8) :=
  if buffer.isEmpty then some (0, buffer)
  else ((BufferWriter.mk buffer 0).writeTexts? texts).bind BufferWriter.endLine?

section Lines

variable {buffer : List UInt8} (level : LogLevel) (target message : String)

theorem exists_lineText_eq :
    ∃ start, utf8 (lineText level target message) = start ++ [lineFeed] := by
  rw [lineText, utf8_append]
  exact ⟨_, rfl⟩

theorem lineText_ne_nil : utf8 (lineText level target message) ≠ [] := by
  obtain ⟨start, line⟩ := exists_lineText_eq level target message
  simp [line]

theorem formatLine_of_ne_nil (room : buffer ≠ []) :
    formatLine buffer level target message =
      let written := (BufferWriter.mk buffer 0).write (utf8 (lineText level target message))
      (written.pos, written.buffer.set (written.pos - 1) lineFeed) := by
  rw [formatLine, if_neg (by simpa using room), BufferWriter.writeAll_eq (Nat.zero_le _),
    utf8_lineText]

theorem set_last {front : List UInt8} (begun : front ≠ []) (rest : List UInt8) (byte : UInt8) :
    (front ++ rest).set (front.length - 1) byte = front.dropLast ++ byte :: rest := by
  obtain ⟨start, last, rfl⟩ := (List.eq_nil_or_concat front).resolve_left begun
  simp

theorem formatLine_eq (room : buffer ≠ []) :
    formatLine buffer level target message =
      (min buffer.length (utf8 (lineText level target message)).length,
        cutLine buffer.length (utf8 (lineText level target message)) ++
          buffer.drop (utf8 (lineText level target message)).length) := by
  have begun : (utf8 (lineText level target message)).take buffer.length ≠ [] := by
    simpa using ⟨room, lineText_ne_nil level target message⟩
  have written := BufferWriter.around_write [] buffer (utf8 (lineText level target message))
  rw [BufferWriter.around, List.nil_append, List.length_nil, List.nil_append] at written
  rw [formatLine_of_ne_nil level target message room, cutLine, List.append_assoc]
  simp only [written, BufferWriter.around_pos, BufferWriter.around_buffer]
  rw [set_last begun, List.length_take, List.singleton_append]

theorem formatTexts?_eq {texts : List String}
    (joined : String.join texts = lineText level target message) :
    formatTexts? buffer texts = some (formatLine buffer level target message) := by
  by_cases room : buffer = []
  · rw [room]
    rfl
  · have within : (BufferWriter.mk buffer 0).pos ≤ buffer.length := Nat.zero_le _
    have length := List.length_pos_iff.mpr room
    have bytes := List.length_pos_iff.mpr (lineText_ne_nil level target message)
    -- A byte was written, so there is one that the line feed can replace.
    have begun : ((BufferWriter.mk buffer 0).write (utf8 (lineText level target message))).pos ≠
        0 := by
      have pos := BufferWriter.write_pos within (utf8 (lineText level target message))
      dsimp only at pos
      omega
    rw [formatTexts?, if_neg (by simpa using room), BufferWriter.writeTexts?_eq within,
      BufferWriter.writeAll_eq within, ← utf8_join, joined, Option.bind_some,
      BufferWriter.endLine?_eq (BufferWriter.write_within within _) begun,
      formatLine_of_ne_nil level target message room]

end Lines

/-- A line is formatted so in a buffer. -/
structure Formats (buffer line : List UInt8) (formatted : Nat × List UInt8) : Prop where
  count : formatted.1 = min buffer.length line.length
  length : formatted.2.length = buffer.length
  /-- The bytes before the last one are those of the line. -/
  start : formatted.2.take (formatted.1 - 1) = line.take (formatted.1 - 1)
  /-- The last one is a line feed, whatever was cut. -/
  ended : buffer ≠ [] → formatted.1 ≠ 0 ∧ formatted.2[formatted.1 - 1]? = some lineFeed
  behind : formatted.2.drop formatted.1 = buffer.drop formatted.1
  fits : line.length ≤ buffer.length → formatted.2 = line ++ buffer.drop line.length

theorem formats_cutLine {buffer start : List UInt8} (room : buffer ≠ []) :
    Formats buffer (start ++ [lineFeed])
      (min buffer.length (start ++ [lineFeed]).length,
        cutLine buffer.length (start ++ [lineFeed]) ++
          buffer.drop (start ++ [lineFeed]).length) := by
  have full : start ++ [lineFeed] ≠ [] := List.concat_ne_nil _ _
  have count := cutLine_length (mt List.length_eq_zero_iff.mp room) full
  have length := List.length_pos_iff.mpr room
  have bytes := List.length_pos_iff.mpr full
  have fits : (start ++ [lineFeed]).length ≤ buffer.length →
      cutLine buffer.length (start ++ [lineFeed]) = start ++ [lineFeed] := cutLine_of_fits
  generalize start ++ [lineFeed] = line at *
  have before : (line.take (min buffer.length line.length - 1)).length =
      min buffer.length line.length - 1 := by
    rw [List.length_take]
    omega
  exact
    { count := rfl
      length := by
        rw [List.length_append, count, List.length_drop]
        omega
      start := by
        rw [cutLine_eq, List.append_assoc]
        exact List.take_left' before
      ended := fun _ => by
        refine ⟨by dsimp only; omega, ?_⟩
        simp only [cutLine_eq, List.append_assoc]
        rw [List.getElem?_append_right (Nat.le_of_eq before), before, Nat.sub_self]
        rfl
      behind := by
        dsimp only
        rw [List.drop_left' count, List.drop_eq_drop_min, Nat.min_comm]
      fits := fun all => congrArg (· ++ buffer.drop line.length) (fits all) }

theorem formats (buffer : List UInt8) (level : LogLevel) (target message : String) :
    Formats buffer (utf8 (lineText level target message))
      (formatLine buffer level target message) := by
  obtain ⟨start, line⟩ := exists_lineText_eq level target message
  by_cases room : buffer = []
  · subst room
    exact
      { count := (Nat.zero_min _).symm
        length := rfl
        start := rfl
        ended := fun room => absurd rfl room
        behind := rfl
        fits := fun fits => absurd (List.eq_nil_of_length_eq_zero (Nat.le_zero.mp fits))
          (lineText_ne_nil level target message) }
  · rw [formatLine_eq level target message room, line]
    exact formats_cutLine room

/-- A line that does not fit is cut where the buffer ends, within a character if need be, and
its last byte becomes the newline. No write goes past the buffer, however the text is divided. -/
theorem log_lines_are_cut_and_ended :
    (∀ buffer level target message,
      Formats buffer (utf8 (lineText level target message))
          (formatLine buffer level target message) ∧
        ∀ texts, String.join texts = lineText level target message →
          formatTexts? buffer texts = some (formatLine buffer level target message)) ∧
      ∀ (writer : BufferWriter) texts, writer.pos ≤ writer.buffer.length →
        writer.Writes texts (writer.writeAll (texts.map utf8)) :=
  ⟨fun buffer level target message =>
      ⟨formats buffer level target message, fun _ => formatTexts?_eq level target message⟩,
    fun _ texts within => BufferWriter.writes within texts⟩

/-- In these buffers a line and a text end within a character. -/
theorem cut_within_a_character :
    formatLine (List.replicate 15 0) .warn "edf" "é" = (15, utf8 "[WARN ] edf: " ++ [195, 10]) ∧
      formatTexts? (List.replicate 15 0) ["[WARN ]", " edf", ": ", "é\n"] =
        some (formatLine (List.replicate 15 0) .warn "edf" "é") ∧
      BufferWriter.write ⟨[1, 2, 3, 4, 5], 1⟩ (utf8 "né√") = ⟨[1, 110, 195, 169, 226], 5⟩ ∧
      BufferWriter.writeTexts? ⟨[1, 2, 3, 4, 5], 1⟩ ["né", "√"] =
        some (BufferWriter.write ⟨[1, 2, 3, 4, 5], 1⟩ (utf8 (String.join ["né", "√"]))) := by
  obtain ⟨lines, writers⟩ := log_lines_are_cut_and_ended
  obtain ⟨_, pieces⟩ := lines (List.replicate 15 0) .warn "edf" "é"
  have writes := writers ⟨[1, 2, 3, 4, 5], 1⟩ ["né", "√"] (by decide)
  refine ⟨by decide +kernel, pieces ["[WARN ]", " edf", ": ", "é\n"] (by decide +kernel),
    by decide +kernel, ?_⟩
  rw [writes.succeeds, writes.joined]

end EdfKernel
