import TwinFiles.Json.Printer
import TwinFiles.Scan.Listing

/-!
# Settings

The six settings of the program, with their defaults and their form as JSON. Where the settings come
from is told elsewhere; here they only mean something for a scan.
-/

namespace TwinFiles

/-- The forms of a report. -/
inductive ReportFormat where
  | text
  | json
  | csv
  deriving DecidableEq, Repr

namespace ReportFormat

def name : ReportFormat → Bytes
  | text => utf8 "text"
  | json => utf8 "json"
  | csv => utf8 "csv"

def all : List ReportFormat := [text, json, csv]

/-- The form with a name, spelled exactly. -/
def ofName? (s : Bytes) : Option ReportFormat :=
  all.find? fun f => f.name == s

end ReportFormat

/-- The settings. -/
structure Settings where
  folder : Path
  wanted : Bytes
  output : ReportFormat
  sortEntries : Bool
  followSymlinks : Bool
  color : Bool
  deriving DecidableEq, Repr

namespace Settings

/-- The working folder, names that start with `output`, a report for people. -/
def initial : Settings where
  folder := utf8 "."
  wanted := Selection.defaultPrefix
  output := .text
  sortEntries := false
  followSymlinks := true
  color := true

/-- The selection of entries that the settings ask for. -/
def selection (s : Settings) : Selection :=
  ⟨s.wanted, s.sortEntries, s.followSymlinks⟩

/-- The settings as JSON, if the folder is UTF-8 text. -/
def json? (s : Settings) : Option Json :=
  if Utf8.valid s.folder then
    some (.object [
      (utf8 "folder", .string s.folder),
      (utf8 "prefix", .string s.wanted),
      (utf8 "output", .string s.output.name),
      (utf8 "sort_entries", .bool s.sortEntries),
      (utf8 "follow_symlinks", .bool s.followSymlinks),
      (utf8 "color", .bool s.color)])
  else none

end Settings

end TwinFiles
