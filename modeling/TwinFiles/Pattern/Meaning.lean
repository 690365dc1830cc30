import TwinFiles.Pattern.Written

/-!
# The meaning of written patterns

What the parts of a written pattern search for under the flags in force. Patterns are about
characters of all scripts, of which neither kinds nor properties nor cases are known here, or about
ASCII alone, where they are; what would find parts of characters is refused.
-/

namespace TwinFiles.Pattern

/-- The flags in force that bear on the meaning of a part. -/
structure Flags where
  ignoreCase : Bool
  multiLine : Bool
  dotNewline : Bool
  allScripts : Bool
  returns : Bool
  deriving DecidableEq, Repr

namespace Flags

/-- The flags at the start of a pattern. -/
def initial : Flags := ⟨false, false, false, true, false⟩

def set (f : Flags) : Flag × Bool → Flags
  | (.ignoreCase, value) => { f with ignoreCase := value }
  | (.multiLine, value) => { f with multiLine := value }
  | (.dotNewline, value) => { f with dotNewline := value }
  | (.allScripts, value) => { f with allScripts := value }
  | (.returns, value) => { f with returns := value }
  | (.lazy, _) => f
  | (.loose, _) => f

def change (f : Flags) (changes : FlagChanges) : Flags :=
  changes.foldl set f

end Flags

/-! ## Sets -/

/-- The members of a named set. -/
def AsciiName.set : AsciiName → CharSet
  | alnum => .ofRanges [('0', '9'), ('A', 'Z'), ('a', 'z')]
  | alpha => .ofRanges [('A', 'Z'), ('a', 'z')]
  | ascii => .ofRanges [('\x00', '\x7f')]
  | blank => .ofRanges [('\t', '\t'), (' ', ' ')]
  | cntrl => .ofRanges [('\x00', '\x1f'), ('\x7f', '\x7f')]
  | digit => .ofRanges [('0', '9')]
  | graph => .ofRanges [('!', '~')]
  | lower => .ofRanges [('a', 'z')]
  | print => .ofRanges [(' ', '~')]
  | punct => .ofRanges [('!', '/'), (':', '@'), ('[', '\x60'), ('\x7b', '~')]
  | space => .ofRanges [('\t', '\r'), (' ', ' ')]
  | upper => .ofRanges [('A', 'Z')]
  | word => .ofRanges [('0', '9'), ('A', 'Z'), ('_', '_'), ('a', 'z')]
  | xdigit => .ofRanges [('0', '9'), ('A', 'F'), ('a', 'f')]

/-- The ASCII characters of a kind. -/
def Kind.set : Kind → CharSet
  | digit => AsciiName.digit.set
  | blank => AsciiName.space.set
  | word => AsciiName.word.set

/-- The set that stands in a class, with the other case of its members if case is ignored, or what
lies outside. -/
def closeSet (f : Flags) (span : Span) (negated : Bool) (s : CharSet) :
    Except Problem CharSet :=
  if f.allScripts then
    if f.ignoreCase && !s.caseClosed && !s.isEmpty then refuse .caseUnknown span
    else .ok (if negated then s.complement else s)
  else if negated then refuse .notText span
  else .ok (if f.ignoreCase then s.foldAscii else s)

/-- A set of a kind. -/
def kindSet (f : Flags) (span : Span) (kind : Kind) (negated : Bool) : Except Problem CharSet :=
  if f.allScripts then refuse .kindUnknown span
  else if negated then refuse .notText span
  else .ok kind.set

/-- A name without what does not count in the names of properties: case, blanks, hyphens,
underscores, what is no ASCII, and `is` at the front. -/
def plainName (name : List Char) : List Char :=
  let body := match name with
    | i :: s :: rest => if i.toLower = 'i' ∧ s.toLower = 's' then rest else name
    | name => name
  (body.filter fun c =>
    c.toNat < 0x80 && c != ' ' && c != '_' && c != '-').map Char.toLower

/-- No property is known. Three names are of values, because they would be of two things else. -/
def propertySet (f : Flags) (q : PropertyQuery) : Except Problem CharSet :=
  if !f.allScripts then refuse .allScriptsRefused q.span
  else if ["cf".toList, "sc".toList, "lc".toList].contains (plainName q.name) then
    refuse .propertyValueUnknown q.span
  else refuse .propertyUnknown q.span

/-- The character that a literal stands for, outside of classes. -/
def literalChar (f : Flags) (l : Literal) : Except Problem Char :=
  if !f.allScripts && l.isByte && 0x80 ≤ l.char.toNat then refuse .notText l.span else .ok l.char

/-- The character that a literal stands for in a class. -/
def memberChar (f : Flags) (l : Literal) : Except Problem Char := do
  let c ← literalChar f l
  if !f.allScripts && 0x80 ≤ c.toNat then refuse .allScriptsRefused l.span
  else return c

/-- Two sets as one. -/
def SetOperation.apply : SetOperation → CharSet → CharSet → CharSet
  | inter, s, t => s.inter t
  | diff, s, t => s.diff t
  | symmDiff, s, t => s.symmDiff t

mutual

/-- Adds the members of a part between brackets to a set. -/
def ClassPart.addTo (f : Flags) (s : CharSet) : ClassPart → Except Problem CharSet
  | nothing _ => .ok s
  | literal l => do
    let c ← memberChar f l
    return s.insert c c
  | range _ low high => do
    let low ← memberChar f low
    let high ← memberChar f high
    return s.insert low high
  | named span name negated => do
    let t ← closeSet f span negated name.set
    return s.union t
  | kind span k negated => do
    let t ← kindSet f span k negated
    return s.union t
  | property q => do
    let t ← propertySet f q
    return s.union t
  | bracketed span negated inner => do
    let t ← inner.addTo f .empty
    let t ← closeSet f span negated t
    return s.union t
  | union _ parts => ClassPart.addAllTo f s parts
  | operation _ op left right => do
    let l ← left.addTo f .empty
    let r ← right.addTo f .empty
    let r ← closeSet f right.span false r
    let l ← closeSet f left.span false l
    return s.union (op.apply l r)

/-- Adds the members of several parts. -/
def ClassPart.addAllTo (f : Flags) (s : CharSet) : List ClassPart → Except Problem CharSet
  | [] => .ok s
  | part :: parts => do
    let s ← part.addTo f s
    ClassPart.addAllTo f s parts

end

/-! ## Parts -/

/-- A literal as a pattern. -/
def literalPattern (f : Flags) (l : Literal) : Except Problem Pattern := do
  let c ← literalChar f l
  if !f.ignoreCase then return .oneOf (.single c)
  else if f.allScripts then refuse .caseUnknown l.span
  else return .oneOf (CharSet.single c).foldAscii

/-- What a dot stands for. -/
def dotPattern (f : Flags) (span : Span) : Except Problem Pattern :=
  if !f.allScripts then refuse .notText span
  else if f.dotNewline then .ok (.oneOf .full)
  else if f.returns then .ok (.oneOf (CharSet.ofRanges [('\n', '\n'), ('\r', '\r')]).complement)
  else .ok (.oneOf (CharSet.single '\n').complement)

/-- A place as the flags have it. -/
def WrittenPlace.place (f : Flags) : WrittenPlace → Place
  | lineStart => if f.multiLine then .lineStart f.returns else .textStart
  | lineStop => if f.multiLine then .lineStop f.returns else .textStop
  | textStart => .textStart
  | textStop => .textStop
  | word kind => .word kind (!f.allScripts)

mutual

/-- What a part searches for, and the flags in force behind it. -/
def Part.meaning (f : Flags) : Part → Except Problem (Pattern × Flags)
  | nothing _ => .ok (.nothing, f)
  | flags _ changes => .ok (.nothing, f.change changes)
  | literal l => do
    let p ← literalPattern f l
    return (p, f)
  | dot span => do
    let p ← dotPattern f span
    return (p, f)
  | place _ written => .ok (.anchor (written.place f), f)
  | kind span k negated => do
    let s ← kindSet f span k negated
    return (.oneOf s, f)
  | property q => do
    let s ← propertySet f q
    return (.oneOf s, f)
  | charClass part => do
    let s ← part.addTo f .empty
    return (.oneOf s, f)
  | repeated _ inner least most => do
    let (p, f) ← inner.meaning f
    return (p.times least most, f)
  | group _ changes inner => do
    let (p, _) ← inner.meaning (f.change (changes.getD []))
    return (if changes.isNone then .group p else p, f)
  | choice _ parts => do
    let (ps, f) ← Part.meanings f parts
    return (.choiceOf ps, f)
  | sequence _ parts => do
    let (ps, f) ← Part.meanings f parts
    return (.sequenceOf ps, f)

/-- What parts search for, one after another. -/
def Part.meanings (f : Flags) : List Part → Except Problem (List Pattern × Flags)
  | [] => .ok ([], f)
  | part :: parts => do
    let (p, f) ← part.meaning f
    let (ps, f) ← Part.meanings f parts
    return (p :: ps, f)

end

end TwinFiles.Pattern
