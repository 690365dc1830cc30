import TwinFiles.Scan.Pass
import TwinFiles.Tree.Edit

/-!
# Scans

`Scan.strict` scans a folder or fails with the reason why it cannot; `Scan.run` reports that reason
and gives an empty result instead; `Scan.ofPaths` reads given paths without a listing. While a scan
runs others may change the tree: a `Change` is made when the scan comes to its path, before the file
there is read. Every read is taken to end, which that of a pipe does only once its writers close it.
-/

namespace TwinFiles

/-- A change that is made to the tree when the scan comes to a path. -/
structure Change where
  trigger : Path
  edit : Edit

/-- Groups and summary of a scan. -/
abbrev Findings := List Group × Summary

/-- A scan as others see it, and its result. -/
structure Scan (α : Type) where
  steps : List Happening
  result : α

/-- What a scan is set up with, in one line for people who look for a fault. -/
def Selection.scanDescription (s : Selection) : Bytes :=
  utf8 "FinderConfig \x7b walker_config: " ++ s.description ++
    utf8 ", reporter: \"<reporter>\" \x7d"

namespace Scan

/-- The calls of the reporter, in order. -/
def calls {α : Type} (s : Scan α) : List Call :=
  s.steps.filterMap Happening.call?

/-- The view after the changes for a path, and the changes that are left. -/
def reach (v : View) (changes : List Change) (path : Path) : View × List Change :=
  let (now, later) := changes.partition fun c => c.trigger = path
  (now.foldl (fun v c => v.edit c.edit) v, later)

/-- The view once all changes have been made that the calls of a scan set off. -/
def viewAfter (v : View) (changes : List Change) (calls : List Call) : View :=
  (calls.foldl
    (fun state call =>
      match call with
      | .entry path => reach state.1 state.2 path
      | _ => state)
    (v, changes)).1

/-- The visits that entries of a folder lead to, one after another. -/
def visitEntries (s : Selection) (folder : Path) (v : View) (changes : List Change) :
    List Entry → List Visit
  | [] => []
  | entry :: entries =>
    match Listing.sight v s folder entry with
    | .unwanted path => .unwanted path :: visitEntries s folder v changes entries
    | .nonFile path =>
      let (v, changes) := reach v changes path
      .nonFile path :: visitEntries s folder v changes entries
    | .file path =>
      let (v, changes) := reach v changes path
      .file path (v.read path) :: visitEntries s folder v changes entries
    | .failed path cause => .failed path cause :: visitEntries s folder v changes entries

/-- The visits of a folder that has been checked. -/
def visits (v : View) (s : Selection) (folder : Path) (changes : List Change) : List Visit :=
  match Listing.entries v s folder with
  | .error cause => [.failed folder cause]
  | .ok entries => visitEntries s folder v changes entries

/-- The readings of given paths: each is read, whatever stands there. -/
def readings (v : View) (changes : List Change) : List Path → List (Path × Except Cause Bytes)
  | [] => []
  | path :: paths =>
    let (v, changes) := reach v changes path
    (path, v.read path) :: readings v changes paths

/-- The record that opens the visits. -/
def openingNote (folder : Path) : Log.Record :=
  ⟨.info, .finding, utf8 "Starting duplicate scan of " ++ folder.display⟩

/-- The record that closes a scan. -/
def closingNote (s : Summary) : Log.Record :=
  ⟨.info, .finding,
    utf8 "Scan complete: " ++ Decimal.text s.filesHashed ++ utf8 " files hashed, " ++
      Decimal.text s.duplicateGroups ++ utf8 " duplicate groups, " ++
      Decimal.text s.readErrors.length ++ utf8 " read errors"⟩

/-- The scan that visits of a folder lead to. -/
def ofVisits (s : Selection) (folder : Path) (visits : List Visit) : Scan Findings :=
  let opened := (Pass.blank folder s.wanted).tell
    [.call (.start folder s.wanted), .note (openingNote folder)]
  let (p, groups) := (opened.run folder visits).settle
  { steps := (p.tell [.note (closingNote p.summary)]).steps
    result := (groups, p.summary) }

/-- The scan that readings of given files lead to. -/
def ofReadings (s : Selection) (readings : List (Path × Except Cause Bytes)) : Scan Findings :=
  let (p, groups) := ((Pass.blank [] s.wanted).runReadings readings).settle
  { steps := p.steps, result := (groups, p.summary) }

/-- Scans a folder, or fails if it cannot be scanned. -/
def strict (v : View) (s : Selection) (changes : List Change) (folder : Path) :
    Scan (Except FolderError Findings) :=
  match Listing.validate v folder with
  | .error e =>
    { steps := .call (.start folder s.wanted) :: (Listing.errorRecords e).map .note
      result := .error e }
  | .ok () =>
    let scan := ofVisits s folder (visits v s folder changes)
    { steps := scan.steps, result := .ok scan.result }

/-- Scans a folder. One that cannot be scanned is reported, and no groups are found. -/
def run (v : View) (s : Selection) (changes : List Change) (folder : Path) : Scan Findings :=
  let scan := strict v s changes folder
  match scan.result with
  | .ok findings => ⟨scan.steps, findings⟩
  | .error e =>
    { steps := scan.steps ++ [.call (.invalid e)]
      result := ([], { Summary.blank folder s.wanted with invalidDirectory := true }) }

/-- Reads and groups given paths. -/
def ofPaths (v : View) (s : Selection) (changes : List Change) (paths : List Path) :
    Scan Findings :=
  ofReadings s (readings v changes paths)

/-- The paths of each group of a folder's files. -/
def pathGroups (v : View) (wanted : Bytes) (folder : Path) : List (List Path) :=
  (run v (.ofPrefix wanted) [] folder).result.1.map Group.paths

end Scan

end TwinFiles
