import TwinFiles.CommandLine.Basic

/-!
# Reading the command line

Arguments are read from left to right. An option keeps its value back until the next argument that
means something, or the end, settles it; an argument that means nothing is refused at once. What is
wrong with the line as a whole is looked at last.
-/

namespace TwinFiles.CommandLine

/-- An option whose value has not been taken yet, because it has not come or not been settled. -/
structure Pending where
  slot : Slot
  value : Option Bytes
  deriving DecidableEq, Repr

/-- What has been read so far. -/
structure Reading where
  line : CommandLine
  pending : Option Pending
  /-- The folder has come. -/
  hasFolder : Bool
  /-- A double dash has come: everything else stands alone. -/
  trailing : Bool
  deriving DecidableEq, Repr

namespace Reading

def start : Reading :=
  ⟨.empty, none, false, false⟩

/-- Takes the value of the option that waits for it. -/
def settle (r : Reading) : Except UsageError Reading :=
  match r.pending with
  | none => .ok r
  | some ⟨_, none⟩ => .error .invalidValue
  | some ⟨slot, some value⟩ => do
    let line ← r.line.assign value slot
    return { r with line := line, pending := none }

/-- Takes a switch. -/
def takeSwitch (r : Reading) (s : Switch) : Except UsageError Reading := do
  let r ← r.settle
  let line ← r.line.turnOn s
  return { r with line := line }

/-- Takes an option with its value attached. -/
def takeOption (r : Reading) (slot : Slot) (value : Bytes) : Except UsageError Reading := do
  let r ← r.settle
  let line ← r.line.assign value slot
  return { r with line := line }

/-- Takes an option whose value is to come. -/
def awaitValue (r : Reading) (slot : Slot) : Except UsageError Reading := do
  let r ← r.settle
  return { r with pending := some ⟨slot, none⟩ }

/-- Takes an argument behind two dashes: a name, and a value if there is an equals sign. -/
def takeLong (r : Reading) (text : Bytes) : Except UsageError Reading :=
  let name := text.takeWhile (· != 0x3D)
  let value? := (text.dropWhile (· != 0x3D)).tail?
  match longNames.lookup name, value? with
  -- these two refusals come before the pending option is looked at
  | none, _ => .error .unknownArgument
  | some (.switch _), some _ => .error .tooManyValues
  | some (.switch s), none => r.takeSwitch s
  | some (.option slot), some value => r.takeOption slot value
  | some (.option slot), none => r.awaitValue slot

/-- Takes letters behind one dash. What follows the letter of an option is its value, less an equals
sign. -/
def takeLetters (r : Reading) : Bytes → Except UsageError Reading
  | [] => .ok r
  | letter :: rest =>
    match letters.lookup letter with
    | none => .error .unknownArgument
    | some (.switch s) => do
      let r ← r.takeSwitch s
      r.takeLetters rest
    | some (.option slot) =>
      match rest with
      | [] => r.awaitValue slot
      | 0x3D :: value => r.takeOption slot value
      | value => r.takeOption slot value

/-- Takes a value that stands alone: the folder, and only once. -/
def takeFolder (r : Reading) (value : Bytes) : Except UsageError Reading :=
  if r.hasFolder then .error .unknownArgument
  else do
    let r ← r.settle
    return { r with pending := some ⟨.folder, some value⟩, hasFolder := true }

/-- Takes a word that is no name: the value of the option that waits for it, or the folder. -/
def takeWord (r : Reading) (word : Bytes) : Except UsageError Reading :=
  match r.pending with
  | some ⟨slot, none⟩ => .ok { r with pending := some ⟨slot, some word⟩ }
  | _ => r.takeFolder word

/-- Takes the next argument. -/
def take (r : Reading) (argument : Bytes) : Except UsageError Reading :=
  if r.trailing then r.takeFolder argument
  else
    match argument with
    | [Ascii.dash, Ascii.dash] => .ok { r with trailing := true }
    | Ascii.dash :: Ascii.dash :: text => r.takeLong text
    | Ascii.dash :: letter :: rest => r.takeLetters (letter :: rest)
    | word => r.takeWord word

/-- Takes arguments up to the first that is refused. -/
def takeAll (r : Reading) : List Bytes → Except UsageError Reading
  | [] => .ok r
  | argument :: arguments => do
    let r ← r.take argument
    r.takeAll arguments

end Reading

/-- Takes the wish for plain text from the environment, where only `true` and `false` are known. -/
def withEnvironment (c : CommandLine) (noColor? : Option Bytes) :
    Except UsageError CommandLine :=
  match noColor? with
  | none => .ok c
  | some value =>
    if c.noColor then .ok c
    else if value = utf8 "true" then .ok { c with noColor := true }
    else if value = utf8 "false" then .ok c
    else .error .invalidValue

/-- Being quiet and being verbose exclude each other. -/
def checkConflicts (c : CommandLine) : Except UsageError CommandLine :=
  if c.quiet ∧ 0 < c.verbose then .error .argumentConflict else .ok c

/-- Reads the arguments of the program, with the value of `NO_COLOR` if it is set. -/
def parse (arguments : List Bytes) (noColor? : Option Bytes) : Except UsageError CommandLine := do
  let r ← Reading.start.takeAll arguments
  let r ← r.settle
  let c ← r.line.withEnvironment noColor?
  c.checkConflicts

end TwinFiles.CommandLine
