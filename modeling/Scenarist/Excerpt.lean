import Scenarist.Comment.Block
import Scenarist.Comment.Cleaning
import Scenarist.Path
import Scenarist.Provenance

/-! # Excerpts

An excerpt is the cleaned text of one block of a source file: a complete
feature, or a bare scenario that carries its provenance. A block that yields
no excerpt is skipped, with the reason, and does not disturb the others. -/

namespace Scenarist

open Comment

/-! A bare scenario always belongs to a function, a feature need not. -/

inductive Excerpt.Kind where
  | feature (identifier : Option Text)
  | scenario (identifier : Text)
deriving DecidableEq, Repr

/-- The text of one block, with its file and the number of the block in it. -/
structure Excerpt where
  kind : Excerpt.Kind
  text : Text
  file : Text
  index : Nat
deriving DecidableEq, Repr

namespace Excerpt

def Kind.identifier : Kind → Option Text
  | .feature identifier => identifier
  | .scenario identifier => some identifier

def identifier (excerpt : Excerpt) : Option Text :=
  excerpt.kind.identifier

/-- Within its file an excerpt is named by its function, or else by the number of its
block. -/
def name (excerpt : Excerpt) : Text :=
  excerpt.identifier.getD (("block" : Text) ++ Text.ofNat excerpt.index)

/-- The last component of the URI holds the stem of the file, so functions of one name
in different files get different short names. -/
def uri (excerpt : Excerpt) : Text :=
  let stem := (Path.stem? excerpt.file).getD excerpt.file
  excerpt.file ++ ['/'] ++ stem ++ ['.'] ++ excerpt.name ++ (".feature" : Text)

/-! A bare scenario is wrapped into a feature named after its function. -/

def featureSource (excerpt : Excerpt) : Text :=
  match excerpt.kind with
  | .feature _ => excerpt.text
  | .scenario identifier =>
    ("Feature: " : Text) ++ identifier ++ ['\n', '\n'] ++ excerpt.text

inductive SkipReason where
  | unterminated (capture : Text)
  | emptyBlock
  | missingIdentifier (capture : Text)
deriving DecidableEq, Repr

/-- A block that was skipped, and why. -/
structure Skip where
  file : Text
  line : Nat
  reason : SkipReason
deriving DecidableEq, Repr

def SkipReason.message : SkipReason → Text
  | .unterminated capture => "unterminated block `" ++ capture ++ ['`']
  | .emptyBlock => "empty block"
  | .missingIdentifier capture =>
    "no enclosing test identifier for `" ++ capture ++ ['`']

def Skip.message (skip : Skip) : Text :=
  skip.file ++ [':'] ++ Text.ofNat skip.line ++ [':', ' '] ++ skip.reason.message

/-! A block written behind number signs is cleaned of them first. -/

def cleanBlock (block : Block) : Text :=
  if block.lead.head? = some '#' then
    clean (stripNumberSigns block.text)
  else
    clean block.text

/-- Cleans a block and decides what it is. -/
def ofBlock (file : Text) (index : Nat) (block : Block) : Except Skip Excerpt :=
  let cleaned := cleanBlock block
  if cleaned.isEmpty then
    .error ⟨file, block.line, .emptyBlock⟩
  else if Provenance.isFeature cleaned then
    .ok ⟨.feature block.identifier, cleaned, file, index⟩
  else
    match block.identifier with
    | none => .error ⟨file, block.line, .missingIdentifier (preview cleaned)⟩
    | some identifier =>
      .ok ⟨.scenario identifier, Provenance.tag cleaned file identifier, file, index⟩

def ofOccurrence (file : Text) (index : Nat) : Occurrence → Except Skip Excerpt
  | .block block => ofBlock file index block
  | .unterminated line capture => .error ⟨file, line, .unterminated capture⟩

end Excerpt

structure Extraction where
  excerpts : List Excerpt
  skips : List Excerpt.Skip
deriving DecidableEq, Repr

namespace Extraction

def add (outcome : Except Excerpt.Skip Excerpt) (extraction : Extraction) : Extraction :=
  match outcome with
  | .ok excerpt => { extraction with excerpts := excerpt :: extraction.excerpts }
  | .error skip => { extraction with skips := skip :: extraction.skips }

def ofOutcomes (outcomes : List (Except Excerpt.Skip Excerpt)) : Extraction :=
  outcomes.foldr add ⟨[], []⟩

end Extraction

/-- Lifts the excerpts out of a source. Blocks are numbered from one, the skipped ones
included. -/
def extract (markers : Markers) (file source : Text) : Extraction :=
  Extraction.ofOutcomes
    ((occurrences markers source).mapIdx fun position occurrence =>
      Excerpt.ofOccurrence file (position + 1) occurrence)

end Scenarist
