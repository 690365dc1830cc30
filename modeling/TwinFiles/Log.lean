import TwinFiles.Pattern.Refusal
import TwinFiles.Pattern.Search
import TwinFiles.Text.Blank

/-!
# Log records and filters

A record has a level, the topic it belongs to and a text. A filter lets records through by level,
for all topics or for the topics whose name starts with a given text; of several rules that fit, the
one with the longest name decides. In addition it may ask for a pattern in the text. Filters are
read from specifications: levels, topics and topics with levels, between commas, and the pattern
behind a slash.
-/

namespace TwinFiles.Log

/-- The levels, the most severe one first. -/
inductive Level where
  | error
  | warn
  | info
  | debug
  | trace
  deriving DecidableEq, Repr

namespace Level

/-- One for the most severe level, five for the least. -/
def rank : Level → Nat
  | error => 1
  | warn => 2
  | info => 3
  | debug => 4
  | trace => 5

def name : Level → Bytes
  | error => utf8 "ERROR"
  | warn => utf8 "WARN"
  | info => utf8 "INFO"
  | debug => utf8 "DEBUG"
  | trace => utf8 "TRACE"

def title : Level → Bytes
  | error => utf8 "Error"
  | warn => utf8 "Warn"
  | info => utf8 "Info"
  | debug => utf8 "Debug"
  | trace => utf8 "Trace"

def all : List Level := [error, warn, info, debug, trace]

end Level

/-- The parts of the program that write records. -/
inductive Topic where
  | listing
  | hashing
  | finding
  | grouping
  | progress
  | settings
  | logging
  deriving DecidableEq, Repr

/-- The name that filters know a topic by. -/
def Topic.name : Topic → Bytes
  | listing => utf8 "prefixdupe::scanner::walker"
  | hashing => utf8 "prefixdupe::scanner::hasher"
  | finding => utf8 "prefixdupe::duplicates::finder"
  | grouping => utf8 "prefixdupe::duplicates::groups"
  | progress => utf8 "prefixdupe::progress"
  | settings => utf8 "prefixdupe::config"
  | logging => utf8 "prefixdupe::logging"

/-- A record. -/
structure Record where
  level : Level
  topic : Topic
  text : Bytes
  deriving DecidableEq, Repr

/-- A record as a line: the level in five columns, a space and the text. -/
def Record.line (r : Record) : Bytes :=
  r.level.name ++ List.replicate (5 - r.level.name.length) Ascii.space ++
    Ascii.space :: r.text ++ [Ascii.newline]

/-- How far down the levels records are let through: not at all, or to a level. -/
abbrev Limit := Option Level

namespace Limit

def rank : Limit → Nat
  | none => 0
  | some level => level.rank

def title : Limit → Bytes
  | none => utf8 "Off"
  | some level => level.title

/-- A limit by its name, in any case. -/
def ofName? (s : Bytes) : Option Limit :=
  let upper := s.map Ascii.toUpper
  if upper = utf8 "OFF" then some none
  else (Level.all.find? fun level => level.name == upper).map some

end Limit

/-- The limit for the topics whose name starts with `name`; without a name, for all. -/
structure Rule where
  name : Option Bytes
  limit : Limit
  deriving DecidableEq, Repr

namespace Rule

/-- The rule speaks of a topic. -/
def covers (r : Rule) (topic : Topic) : Bool :=
  r.name.all fun name => name.isPrefixOf topic.name

/-- How much of a topic's name the rule asks for. -/
def reach (r : Rule) : Nat :=
  (r.name.getD []).length

end Rule

/-- The rules in force, and a pattern that has to occur in records if there is one. -/
structure Filter where
  rules : List Rule
  wanted : Option Pattern
  deriving DecidableEq, Repr

namespace Filter

/-- Lets records of all topics through up to a limit. -/
def upTo (limit : Limit) : Filter :=
  ⟨[⟨none, limit⟩], none⟩

/-- The rule that decides about a topic: the one that asks for most of its name, and of two alike
the later one. -/
def ruleFor? (f : Filter) (topic : Topic) : Option Rule :=
  (f.rules.filter fun r => r.covers topic).foldl
    (fun best r =>
      match best with
      | some b => if b.reach ≤ r.reach then some r else some b
      | none => some r)
    none

/-- The filter lets a record through. -/
def admits (f : Filter) (r : Record) : Bool :=
  (match f.ruleFor? r.topic with
    | some rule => decide (r.level.rank ≤ rule.limit.rank)
    | none => false) &&
  f.wanted.all fun pattern => pattern.occursIn (Utf8.chars r.text)

/-- A rule in the place of one for the same name, or behind all others. -/
def addRule (rules : List Rule) (rule : Rule) : List Rule :=
  if rules.any fun r => r.name = rule.name then
    rules.map fun r => if r.name = rule.name then rule else r
  else rules ++ [rule]

/-- One part of a specification: a level, a topic, or a topic with a level. An unreadable part is
given back. -/
def readRule (part : Bytes) : Except Bytes Rule :=
  match Bytes.splitOn 0x3D part with
  | [word] =>
    match Limit.ofName? word with
    | some limit => .ok ⟨none, limit⟩
    | none => .ok ⟨some word, some .trace⟩
  | [name, level] =>
    if Blank.trim level = [] then .ok ⟨some name, some .trace⟩
    else
      match Limit.ofName? (Blank.trim level) with
      | some limit => .ok ⟨some name, limit⟩
      | none => .error (Blank.trim level)
  | _ => .error part

def warning (part : Bytes) (remark : Bytes) : Bytes :=
  utf8 "warning: invalid logging spec '" ++ part ++ utf8 "'" ++ remark ++ utf8 ", ignoring it"

/-- Reads the rules of a specification, with a warning for each unreadable part. -/
def readRules : List Bytes → List Rule × List Bytes
  | [] => ([], [])
  | part :: parts =>
    let (rules, warnings) := readRules parts
    if Blank.trim part = [] then (rules, warnings)
    else
      match readRule (Blank.trim part) with
      | .ok rule => (rule :: rules, warnings)
      | .error bad => (rules, warning bad [] :: warnings)

/-- The rules of a specification, later ones in the place of earlier ones for the same name. With
no rule at all, errors alone are let through. -/
def ofRules (rules : List Rule) (wanted : Option Pattern) : Filter :=
  let rules := rules.foldl addRule []
  ⟨if rules.isEmpty then [⟨none, some .error⟩] else rules, wanted⟩

/-- What is said about a pattern that is refused. -/
def patternWarning (text : List Char) (refusal : Pattern.Refusal) : Bytes :=
  utf8 "warning: invalid regex filter - " ++ refusal.message text ++ utf8 ", ignoring it"

/-- Reads a specification: rules between commas and, behind a slash, a pattern that has to occur in
records. The second component holds warnings about what could not be read. -/
def ofSpecification (s : Bytes) : Filter × List Bytes :=
  match Bytes.splitOn Ascii.slash s with
  | [rules] =>
    let (rules, warnings) := readRules (Bytes.splitOn Ascii.comma rules)
    (ofRules rules none, warnings)
  | [rules, text] =>
    let (rules, warnings) := readRules (Bytes.splitOn Ascii.comma rules)
    let text := Utf8.chars text
    match Pattern.ofText text with
    | .ok pattern => (ofRules rules (some pattern), warnings)
    | .error refusal => (ofRules rules none, warnings ++ [patternWarning text refusal])
  | _ => (ofRules [] none, [warning s (utf8 " (too many '/'s)")])

end Filter

end TwinFiles.Log
