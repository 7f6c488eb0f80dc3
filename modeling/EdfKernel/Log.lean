/-!
Log lines are written into a buffer of fixed length. A write that does not
fit is cut off, and the last byte of a line is always a line feed, also when
the line was cut. Levels are ordered by how much they let through.
-/

namespace EdfKernel

inductive LogLevel where
  | error
  | warn
  | info
  | debug
  | trace
deriving DecidableEq, Repr

/-- The most talkative level that is let through; `none` lets nothing through. -/
abbrev LogFilter := Option LogLevel

namespace LogLevel

def all : List LogLevel := [error, warn, info, debug, trace]

def name : LogLevel → String
  | error => "ERROR"
  | warn => "WARN"
  | info => "INFO"
  | debug => "DEBUG"
  | trace => "TRACE"

def label : LogLevel → String
  | error => "ERROR"
  | warn => "WARN "
  | info => "INFO "
  | debug => "DEBUG"
  | trace => "TRACE"

def rank : LogLevel → Nat
  | error => 1
  | warn => 2
  | info => 3
  | debug => 4
  | trace => 5

def ofName? (text : String) : Option LogLevel :=
  all.find? fun level => level.name = text.toUpper

end LogLevel

namespace LogFilter

def admits (filter : LogFilter) (level : LogLevel) : Bool :=
  filter.any fun most => level.rank ≤ most.rank

def name : LogFilter → String
  | none => "OFF"
  | some level => level.name

def ofName? (text : String) : Option LogFilter :=
  if text.toUpper = "OFF" then some none else (LogLevel.ofName? text).map some

end LogFilter

/-- A buffer and the position of the next byte to write. -/
structure BufferWriter where
  buffer : List UInt8
  pos : Nat
deriving DecidableEq, Repr

namespace BufferWriter

def write (writer : BufferWriter) (bytes : List UInt8) : BufferWriter :=
  let chunk := bytes.take (writer.buffer.length - writer.pos)
  { buffer :=
      writer.buffer.take writer.pos ++ chunk ++ writer.buffer.drop (writer.pos + chunk.length)
    pos := writer.pos + chunk.length }

def writeAll (writer : BufferWriter) (chunks : List (List UInt8)) : BufferWriter :=
  chunks.foldl write writer

end BufferWriter

def utf8 (text : String) : List UInt8 := text.toUTF8.data.toList

def lineFeed : UInt8 := 10

/-- The most bytes of one line of the log. -/
def lineMax : Nat := 256

/-- Writes a line into the buffer and gives the number of bytes it takes. -/
def formatLine (buffer : List UInt8) (level : LogLevel) (target message : String) :
    Nat × List UInt8 :=
  if buffer.isEmpty then (0, buffer)
  else
    let written := (BufferWriter.mk buffer 0).writeAll
      [utf8 "[", utf8 level.label, utf8 "] ", utf8 target, utf8 ": ", utf8 message, [lineFeed]]
    -- Where the line was cut its last byte makes room for the line feed.
    (written.pos, written.buffer.set (written.pos - 1) lineFeed)

def logLine (level : LogLevel) (target message : String) : List UInt8 :=
  let line := formatLine (List.replicate lineMax 0) level target message
  line.2.take line.1

/-- The log of the kernel: where lines go is settled once, with the filter. -/
structure Logger where
  installed : Bool
  filter : LogFilter
deriving DecidableEq, Repr

namespace Logger

def absent : Logger := ⟨false, none⟩

def log (logger : Logger) (level : LogLevel) (target message : String) :
    Option (List UInt8) :=
  if logger.installed && logger.filter.admits level then some (logLine level target message)
  else none

def install (logger : Logger) (filter : LogFilter) : Option (Logger × Option (List UInt8)) :=
  if logger.installed then none
  else
    let installed : Logger := ⟨true, filter⟩
    some (installed,
      installed.log .info "reef_kernel::logger" ("logger: up at " ++ LogFilter.name filter))

end Logger

end EdfKernel
