import TwinFiles.Scan.Basic

/-!
# Reporters

A reporter reacts to the calls of a scan. What it has put out so far is its state, and it may write
records of its own, which stand between those of the scan.
-/

namespace TwinFiles

/-- A reporter with states of a type. -/
structure Reporter (σ : Type) where
  react : σ → Call → σ × List Log.Record

namespace Reporter

/-- Goes through the steps of a scan: the state at the end, and all records in order. -/
def perform {σ : Type} (r : Reporter σ) : σ → List Happening → σ × List Log.Record
  | state, [] => (state, [])
  | state, .note record :: steps =>
    let (state, records) := r.perform state steps
    (state, record :: records)
  | state, .call call :: steps =>
    let (state, first) := r.react state call
    let (state, records) := r.perform state steps
    (state, first ++ records)

/-- Does nothing. -/
def silent : Reporter Unit :=
  ⟨fun state _ => (state, [])⟩

/-- Keeps the calls, the latest first. -/
def recorder : Reporter (List Call) :=
  ⟨fun calls call => (call :: calls, [])⟩

/-- The record that a call is forwarded as. -/
def forwarded (home : Path) : Call → Log.Record
  | .start folder wanted =>
    ⟨.info, .progress, utf8 "Scanning " ++ Path.displayAbsolute home folder ++
      utf8 " for files starting with '" ++ wanted ++ utf8 "'"⟩
  | .entry path => ⟨.debug, .progress, utf8 "Examining " ++ path.display⟩
  | .hashed file =>
    ⟨.trace, .progress, file.path.display ++ utf8 " " ++ Decimal.text file.size⟩
  | .readError e =>
    ⟨.warn, .progress, utf8 "Unable to read file " ++ e.path.display ++ utf8 ": " ++ e.cause.text⟩
  | .entryError e => ⟨.warn, .progress, utf8 "Skipped entry: " ++ e.message⟩
  | .invalid e =>
    ⟨.error, .progress, utf8 "The path '" ++ e.path.display ++
      utf8 "' is not a valid folder: " ++ e.message⟩

/-- Forwards every call as a record. -/
def forwarding (home : Path) : Reporter Unit :=
  ⟨fun state call => (state, [forwarded home call])⟩

end Reporter

end TwinFiles
