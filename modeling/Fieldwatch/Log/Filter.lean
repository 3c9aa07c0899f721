import Fieldwatch.Log.Basic
import Fieldwatch.Text.Blank
import Fieldwatch.Text.Hidden

/-!
# Log filters

Which records are written, by directives between commas. A directive sets how grave the records of
a target, and of all targets that begin like it, must be. Of the directives that speak of a record
the one with the longest target decides, and of two with one target the later. A record of which
none speaks is not written.
-/
namespace Fieldwatch.Log

/-- The records that are written about targets that begin in one way. -/
structure Directive where
  /-- How the targets begin; the empty text is how all of them do. -/
  target : String
  /-- The rank of the least grave level that is written; none is at zero. -/
  verbosity : Nat
  deriving DecidableEq, Repr

namespace Directive

/-- The letters of a text in lower case, as far as they are ASCII. -/
def lowered (chars : List Char) : List Char := chars.map Char.toLower

/-- The number that a text with an optional plus sign stands for. -/
def number? (chars : List Char) : Option Nat :=
  let digits := if chars.head? = some '+' then chars.drop 1 else chars
  if digits.isEmpty || !digits.all Char.isDigit then none
  else some (digits.foldl (fun number c => number * 10 + (c.toNat - 48)) 0)

/-- Reads how much is written: a number up to five, or a name in any case. -/
def verbosity? (chars : List Char) : Option Nat :=
  match number? chars with
  | some number => if number ≤ 5 then some number else none
  | none =>
    if lowered chars = "off".toList then some 0
    else (Level.all.find? fun level => lowered level.name.toList = lowered chars).map Level.rank

/-- Whether a directive may begin with a character: a letter, a digit, a hyphen, a colon, a low line
or the bracket before the name of a span, under which nothing is written. Beyond ASCII all that is
seen counts as a letter. -/
def canBegin (c : Char) : Bool :=
  c.isAlphanum || c = '-' || c = ':' || c = '_' || c = '['
    || (128 ≤ c.toNat && !Text.isBlank c && !Text.isHidden c)

/-- Reads a directive: a level, a target, or a target and its level with an equals sign between
them. A target without a level, or before an empty one, has all its records written. -/
def ofChars? (chars : List Char) : Option Directive :=
  let target := String.ofList (chars.takeWhile fun c => c ≠ '=')
  if ((chars.dropWhile Text.isBlank).head?.filter canBegin).isNone then none
  else
    match chars.dropWhile fun c => c ≠ '=' with
    | [] =>
      match verbosity? chars with
      | some verbosity => some ⟨"", verbosity⟩
      | none => some ⟨target, Level.trace.rank⟩
    | _ :: level =>
      if chars.head?.any Text.isBlank then none
      else if level.isEmpty then some ⟨target, Level.trace.rank⟩
      else (verbosity? level).map fun verbosity => ⟨target, verbosity⟩

/-- Whether a directive speaks of a target. -/
def speaksOf (directive : Directive) (target : String) : Bool :=
  directive.target.toList.isPrefixOf target.toList

end Directive

structure Filter where
  directives : List Directive
  deriving DecidableEq, Repr

namespace Filter

/-- Writes informative records and all that are graver. -/
def usual : Filter := ⟨[⟨"", Level.info.rank⟩]⟩

/-- Reads a filter; directives that cannot be read are left out. -/
def ofText (text : String) : Filter :=
  let directives := (text.splitOn ",").filterMap fun part => Directive.ofChars? part.toList
  if directives.isEmpty then usual else ⟨directives⟩

/-- The directive that decides on a target. -/
def deciding? (filter : Filter) (target : String) : Option Directive :=
  (filter.directives.filter fun directive => directive.speaksOf target).foldl
    (fun best directive =>
      if best.any fun found => directive.target.length < found.target.length then best
      else some directive) none

def admits (filter : Filter) (record : Record) : Bool :=
  (filter.deciding? record.target).any fun directive => record.level.rank ≤ directive.verbosity

end Filter
end Fieldwatch.Log
