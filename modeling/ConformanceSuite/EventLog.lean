import ConformanceSuite.Files.Tree
import ConformanceSuite.Json.Decoder
import ConformanceSuite.LogRecord
import ConformanceSuite.Text.Split

/-!
# Event logs

A log is a file with one record on each line. Opening a log keeps what it holds, and creates it if
it is not there; a record is added at its end.
-/

namespace ConformanceSuite.EventLog

/-- The byte that ends a line. -/
def lineFeed : UInt8 := 0x0a

/-- The line of a record. -/
def line (r : LogRecord) : List UInt8 := Json.bytesOf r.text ++ [lineFeed]

/-- The lines of some records, in order. -/
def lines (records : List LogRecord) : List UInt8 := records.flatMap line

/-- Open a log. -/
def openAt (files : FileTree) (path : String) : Except FileError FileTree := files.append path []

/-- Add a record to a log. A record that cannot be written is lost. -/
def record (path : String) (r : LogRecord) (files : FileTree) : FileTree :=
  (files.append path (line r)).toOption.getD files

/-- Add records to a log, in order. -/
def recordAll (path : String) (records : List LogRecord) (files : FileTree) : FileTree :=
  records.foldl (fun files r => record path r files) files

/-- The values of a log. -/
def values (content : List UInt8) : List Json :=
  (Text.splitAll lineFeed content).filterMap fun l => (Json.parse l).toOption

end ConformanceSuite.EventLog
