import Catalog.Text.Composition
import Catalog.Text.Decomposition

/-!
# The normal form of identifiers

Identifiers are compared in the normal form that does not tell compatible characters apart: every
character is decomposed, marks are put in the order of their classes, and what can be written as
one character is composed again. Text in ASCII is its own normal form.
-/

namespace Catalog.Text

/-! ## Hangul

A syllable is made of a leading consonant, a vowel and possibly a trailing consonant, and its place
among the syllables is computed from theirs. -/

namespace Hangul

def syllableBase : Nat := 0xAC00
def leadBase : Nat := 0x1100
def vowelBase : Nat := 0x1161
/-- One before the first trailing consonant. -/
def trailBase : Nat := 0x11A7
def leadCount : Nat := 19
def vowelCount : Nat := 21
def trailCount : Nat := 28

def isSyllable (n : Nat) : Bool :=
  syllableBase ≤ n && n < syllableBase + leadCount * vowelCount * trailCount

/-- The parts of a syllable. -/
def decompose (n : Nat) : List Nat :=
  let index := n - syllableBase
  let trail := index % trailCount
  [leadBase + index / (vowelCount * trailCount),
   vowelBase + index % (vowelCount * trailCount) / trailCount] ++
  if trail = 0 then [] else [trailBase + trail]

/-- The syllable of two parts, where the first may be a syllable without trailing consonant. -/
def compose? (a b : Nat) : Option Nat :=
  if leadBase ≤ a && a < leadBase + leadCount && vowelBase ≤ b && b < vowelBase + vowelCount then
    some (syllableBase + ((a - leadBase) * vowelCount + (b - vowelBase)) * trailCount)
  else if isSyllable a && (a - syllableBase) % trailCount = 0 && trailBase < b &&
      b < trailBase + trailCount then
    some (a + (b - trailBase))
  else none

end Hangul

/-- The full decomposition of a character. -/
def decompose (n : Nat) : List Nat :=
  if Hangul.isSyllable n then Hangul.decompose n
  else
    match Table.find? decompositions n with
    | some item =>
      match item.values with
      | [value] => [value + (n - item.first)]
      | values => values
    | none => [n]

/-- The combining class of a character. -/
def combiningClass (n : Nat) : Nat :=
  match Table.find? combiningClasses n with
  | some item => item.values.headD 0
  | none => 0

/-- The character that stands for a pair. -/
def compose? (a b : Nat) : Option Nat :=
  match Hangul.compose? a b with
  | some n => some n
  | none => (compositions.find? fun item => item.values == [a, b]).map Table.Item.first

/-- Puts a mark into a list in reverse order, behind the marks of the same or a lower class. -/
def insertMark (n : Nat) : List Nat → List Nat
  | [] => [n]
  | m :: rest =>
    if combiningClass n != 0 && combiningClass n < combiningClass m then m :: insertMark n rest
    else n :: m :: rest

/-- The characters with the marks after each other character in the order of their classes. -/
def orderMarks (cs : List Nat) : List Nat :=
  (cs.foldl (fun found n => insertMark n found) []).reverse

/-- Composes characters. Marks that cannot be composed with `starter` are kept in `skipped`, in
reverse order; a mark is out of reach if one of its own or a higher class stands before it. -/
def composeFrom (starter : Nat) (skipped : List Nat) : List Nat → List Nat
  | [] => starter :: skipped.reverse
  | n :: rest =>
    let reachable := skipped.all fun m => combiningClass m < combiningClass n
    match if reachable then compose? starter n else none with
    | some composed => composeFrom composed skipped rest
    | none =>
      if combiningClass n = 0 then starter :: skipped.reverse ++ composeFrom n [] rest
      else composeFrom starter (n :: skipped) rest

/-- Composes characters from the first one on that is no mark. -/
def composeAll : List Nat → List Nat
  | [] => []
  | n :: rest =>
    if combiningClass n = 0 then composeFrom n [] rest else n :: composeAll rest

/-- The normal form of an identifier. -/
def normalForm (s : String) : String :=
  if s.toList.all fun c => c.toNat < 0x80 then s
  else
    let decomposed := s.toList.flatMap fun c => decompose c.toNat
    String.ofList ((composeAll (orderMarks decomposed)).map Char.ofNat)

end Catalog.Text
