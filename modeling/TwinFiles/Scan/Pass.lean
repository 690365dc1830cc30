import TwinFiles.Group.Buckets
import TwinFiles.Report.Summary
import TwinFiles.Scan.Visit

/-!
# A pass over visits

A scan goes over its visits once. `Pass.visit` takes one of them: it tells others, counts, and puts
a file that could be read into its bucket. `Pass.settle` draws up the groups at the end and puts
their numbers into the summary.
-/

namespace TwinFiles

/-- A scan under way: what it has gathered, and what others have seen of it. -/
structure Pass where
  summary : Summary
  buckets : Buckets
  /-- The steps so far, the latest first. -/
  trail : List Happening

namespace Pass

/-- Nothing has been visited. -/
def blank (folder : Path) (wanted : Bytes) : Pass :=
  ⟨.blank folder wanted, .empty, []⟩

/-- The steps so far, in order. -/
def steps (p : Pass) : List Happening :=
  p.trail.reverse

/-- Lets others see more steps. -/
def tell (p : Pass) (steps : List Happening) : Pass :=
  { p with trail := steps.reverse ++ p.trail }

/-- Counts a wanted entry. -/
def examine (p : Pass) (path : Path) : Pass :=
  { p with summary.entriesExamined := p.summary.entriesExamined + 1 }.tell [.call (.entry path)]

/-- Counts an entry that is not a file. -/
def skip (p : Pass) : Pass :=
  { p with summary.nonFilesSkipped := p.summary.nonFilesSkipped + 1 }

/-- Takes the outcome of reading a file. -/
def take (p : Pass) (path : Path) (outcome : Except Cause Bytes) : Pass :=
  let p := p.tell (Visit.readingSteps path outcome)
  match outcome with
  | .ok content =>
    let file := HashedFile.of path content
    { p with
      summary.filesHashed := p.summary.filesHashed + 1
      summary.bytesHashed := p.summary.bytesHashed + file.size
      buckets := p.buckets.insert file }
  | .error cause =>
    { p with summary.readErrors := p.summary.readErrors ++ [⟨path, cause⟩] }

/-- Takes a failure of the listing. -/
def fail (p : Pass) (error : FolderError) : Pass :=
  let p := p.tell [.call (.entryError error)]
  { p with summary.entryErrors := p.summary.entryErrors ++ [error] }

/-- Takes a visit in a folder. -/
def visit (folder : Path) (p : Pass) (visit : Visit) : Pass :=
  let p := p.tell ((Listing.records folder visit.sighting).map .note)
  match visit with
  | .unwanted _ => p
  | .nonFile path => p.skip.examine path
  | .file path outcome => (p.examine path).take path outcome
  | .failed path cause => p.fail (.failed path cause)

/-- Takes visits one after another. -/
def run (folder : Path) (p : Pass) (visits : List Visit) : Pass :=
  visits.foldl (visit folder) p

/-- Takes given files with the outcomes of reading them. -/
def runReadings (p : Pass) (readings : List (Path × Except Cause Bytes)) : Pass :=
  readings.foldl (fun p (path, outcome) => (p.examine path).take path outcome) p

/-- The record about a file that no other file equals. -/
def uniqueNote (path : Path) : Log.Record :=
  ⟨.trace, .grouping, utf8 "Unique content: " ++ path.display⟩

/-- The groups, and the pass with their numbers in its summary. -/
def settle (p : Pass) : Pass × List Group :=
  let groups := p.buckets.groups
  let p := p.tell (p.buckets.uniquePaths.map fun path => .note (uniqueNote path))
  ({ p with summary := p.summary.withGroups groups }, groups)

end Pass

end TwinFiles
