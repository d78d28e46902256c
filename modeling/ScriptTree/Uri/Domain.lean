import ScriptTree.Unicode.Composition
import ScriptTree.Unicode.Direction
import ScriptTree.Unicode.Joining
import ScriptTree.Uri.DomainMapping
import ScriptTree.Uri.Punycode

/-! # Domains — names of machines in any script

    A domain is a row of labels between dots.  Reading it replaces characters
    that domains do not tell apart, composes letters and marks, and looks at
    each label: it may not start with a mark, joiners stand only where they
    change how letters look, and as soon as one label runs from right to left
    every label has to run one way.  Labels beyond ASCII are written in
    Punycode, and a label that comes in Punycode has to be one that reading
    would have written. -/

namespace ScriptTree.Uri.Domain

open Unicode (Direction)

/-! ## Labels -/

/-- A label as it is written, and the text it stands for. -/
structure Label where
  written : List Char
  meaning : List Char
deriving DecidableEq, Repr

/-- The text has no character beyond ASCII. -/
def isAscii (text : List Char) : Bool := text.all fun c => c.toNat < 0x80

/-- What labels in Punycode start with. -/
def punycodeMark : List Char := ['x', 'n', '-', '-']

/-- The most characters of a label beyond ASCII. -/
def maxMeaning : Nat := 1000

/-- The most characters behind the mark of Punycode. -/
def maxPunycode : Nat := 2000

/-- The label that a text in Punycode stands for: one that is not all ASCII,
    and that mapping and composing leave as it is. -/
def ofPunycode? (text : List Char) : Option Label := do
  let code := text.drop punycodeMark.length
  if text.getLast? == some '-' || code.length > maxPunycode || !isAscii code then none
  else
    let meaning ← Punycode.decode? code
    if meaning.all DomainMapping.isKept && Unicode.composed meaning == meaning then
      some ⟨text, meaning⟩
    else none

/-- A mapped and composed text as a label. -/
def label? (text : List Char) : Option Label :=
  if punycodeMark.isPrefixOf text then ofPunycode? text
  else if isAscii text then some ⟨text, text⟩
  else if text.length > maxMeaning then none
  else some ⟨punycodeMark ++ Punycode.encode text, text⟩

/-! ## Joiners -/

/-- The joiner that asks for letters to be joined. -/
def isWidthJoiner (c : Char) : Bool := c == '\u200d'

/-- The joiner that asks for letters not to be joined. -/
def isNonJoiner (c : Char) : Bool := c == '\u200c'

/-- The next letter of a text, across marks, joins as `joins` says. -/
def nextJoins (joins : Char → Bool) : List Char → Bool
  | [] => false
  | c :: rest => joins c || (Unicode.isTransparent c && nextJoins joins rest)

/-- A joiner may stand behind `before`, which is listed from the last, and in
    front of `behind`: behind a letter stripped of its vowel, or between
    letters that would join without it. -/
def allowsJoiner (joiner : Char) (before behind : List Char) : Bool :=
  (before.head?.any fun c => Unicode.combiningClass c == Unicode.viramaClass)
    || (isNonJoiner joiner && nextJoins Unicode.joinsBehind before
      && nextJoins Unicode.joinsBefore behind)

/-- Every joiner of a label stands where it may. -/
def joinersFit (before : List Char) : List Char → Bool
  | [] => true
  | c :: rest =>
    (!(isWidthJoiner c || isNonJoiner c) || allowsJoiner c before rest)
      && joinersFit (c :: before) rest

/-! ## Directions -/

/-- The text has a character that makes its domain run both ways. -/
def hasRightToLeft (text : List Char) : Bool :=
  text.any fun c =>
    Unicode.direction c == .rightToLeft || Unicode.direction c == .arabicNumber

/-- A direction that a label which starts from the left may have. -/
def fitsFromLeft (d : Direction) : Bool := !(d == .rightToLeft || d == .arabicNumber)

/-- A direction that a label which starts from the right may have. -/
def fitsFromRight (d : Direction) : Bool := d != .leftToRight

/-- A label runs one way: it starts with a letter, holds nothing that runs
    the other way, ends in a letter or a number behind which only marks
    stand, and does not mix the two kinds of numbers if it runs from the
    right. -/
def runsOneWay (label : List Char) : Bool :=
  let directions := label.map Unicode.direction
  let last := (directions.reverse.dropWhile (· == .nonspacing)).head?
  match directions.head? with
  | none => true
  | some .leftToRight =>
    directions.all fitsFromLeft && (last == some .leftToRight || last == some .europeanNumber)
  | some .rightToLeft =>
    directions.all fitsFromRight && last != some .neutral
      && !(directions.contains .europeanNumber && directions.contains .arabicNumber)
  | some _ => false

/-! ## Domains -/

/-- A character that no domain has. -/
def isForbidden (c : Char) : Bool :=
  c.toNat ≤ 0x20 || c == '\x7f' || "#%/:<>?@[\\]^|".toList.contains c

/-- A label may be part of a domain. -/
def isSound (label : Label) : Bool :=
  !label.meaning.head?.any Unicode.isMark && joinersFit [] label.meaning
    && (isAscii label.meaning || label.meaning.length ≤ maxMeaning)

/-- The labels of a domain; `none` if the text is no domain. -/
def labels? (text : List Char) : Option (List Label) := do
  let mapped := (← text.mapM DomainMapping.mapped?).flatten
  let domain := Unicode.composed mapped
  if domain.any isForbidden then none
  else
    let labels ← (Text.pieces (· == '.') domain).mapM label?
    let meanings := labels.map Label.meaning
    if labels.all isSound && (!meanings.any hasRightToLeft || meanings.all runsOneWay) then
      some labels
    else none

/-- A domain as it is written, in ASCII and in small letters. -/
def ascii? (text : List Char) : Option (List Char) :=
  (labels? text).map fun labels => ['.'].intercalate (labels.map Label.written)

end ScriptTree.Uri.Domain
