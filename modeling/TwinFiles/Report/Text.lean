import TwinFiles.Report.Summary
import TwinFiles.Style

/-!
# Report for people

One line when no two files have the same content. Otherwise a line with the number of groups, a
blank line, and for each group a header, a line for each path and a separator.
-/

namespace TwinFiles.TextReport

/-- The dashes after the group with this number: twelve, and one for each digit of the number. -/
def separator (number : Nat) : Bytes :=
  List.replicate (12 + (Decimal.text number).length) Ascii.dash

def header (number : Nat) : Bytes :=
  utf8 "--- Group " ++ Decimal.text number ++ utf8 " (identical content) ---"

/-- The line that lists a path. -/
def item (path : Path) : Bytes :=
  utf8 "  - " ++ path.display

def noGroups (wanted : Bytes) : Bytes :=
  utf8 "Result: all files starting with '" ++ wanted ++
    utf8 "' in this folder have distinct content (or only one such file exists)."

def someGroups (count : Nat) (wanted : Bytes) : Bytes :=
  utf8 "Result: found " ++ Decimal.text count ++
    utf8 " group(s) of files with identical content (names starting with '" ++ wanted ++ utf8 "')."

/-- The lines of a group, without their line ends. -/
def groupLines (color : Bool) (number : Nat) (g : Group) : List Bytes :=
  Style.cyan.paint color (header number) :: g.paths.map item ++ [separator number]

/-- The lines of groups that are numbered from `number` on. -/
def groupsLines (color : Bool) : Nat → List Group → List Bytes
  | _, [] => []
  | number, g :: groups =>
    groupLines color number g ++ groupsLines color (number + 1) groups

/-- The lines of the report, without their line ends. -/
def lines (color : Bool) (wanted : Bytes) (groups : List Group) : List Bytes :=
  if groups.isEmpty then [Style.green.paint color (noGroups wanted)]
  else
    Style.boldYellow.paint color (someGroups groups.length wanted) :: [] ::
      groupsLines color 1 groups

/-- What is written, line by line. -/
def pieces (color : Bool) (wanted : Bytes) (groups : List Group) : List Bytes :=
  (lines color wanted groups).map (· ++ [Ascii.newline])

/-- The report. -/
def text (color : Bool) (wanted : Bytes) (groups : List Group) : Bytes :=
  (pieces color wanted groups).flatten

end TwinFiles.TextReport
