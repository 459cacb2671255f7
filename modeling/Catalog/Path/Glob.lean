import Catalog.Path.Basic
import Catalog.Text.Case

/-!
# Glob patterns

A pattern is a list of pieces: a character, any character, any run of characters, or one
character of a set between brackets. A bracket without its closing partner stands for itself.

In a set, a hyphen between two characters makes a range, unless it is the first or the last of
the set or the character before it ended a range. A range whose ends are in the wrong order
vanishes together with its ends; a set that is empty after that matches nothing, and a negated one
matches every character.
-/

namespace Catalog.Glob

/-- What a single piece of a pattern accepts. -/
inductive Piece where
  | char (c : Char)
  | any
  | run
  | set (negated : Bool) (singles : List Char) (ranges : List (Char × Char))
  deriving DecidableEq, Repr

/-- Cuts the text of a set at the hyphens that make ranges. In `chunksFrom skip chunk cs`, the
next `skip` characters cannot be such a hyphen, and `chunk` holds the current piece in reverse. -/
def chunksFrom : Nat → List Char → List Char → List (List Char)
  | _, chunk, [] => [chunk.reverse]
  | skip + 1, chunk, c :: rest => chunksFrom skip (c :: chunk) rest
  | 0, chunk, c :: rest =>
    if c == '-' then chunk.reverse :: chunksFrom 2 [] rest else chunksFrom 0 (c :: chunk) rest

/-- The hyphen at the end of a set is a character of the set, not a range. -/
def closeChunks (chunks : List (List Char)) : List (List Char) :=
  match chunks.reverse with
  | [] :: last :: earlier => ((last ++ ['-']) :: earlier).reverse
  | _ => chunks

/-- Merges neighbouring chunks whose range has its ends in the wrong order, from the right. -/
def dropEmptyRanges : List (List Char) → List (List Char)
  | [] => []
  | chunk :: rest =>
    match dropEmptyRanges rest with
    | [] => [chunk]
    | next :: more =>
      match chunk.getLast?, next.head? with
      | some hi, some lo =>
        if lo < hi then (chunk.dropLast ++ next.drop 1) :: more else chunk :: next :: more
      | _, _ => chunk :: next :: more

/-- The single characters and the ranges of a list of chunks: neighbours are joined by a range,
and the characters that are not ends of ranges stand for themselves. The flag says that the first
character of the list is the end of a range. -/
def members : Bool → List (List Char) → List Char × List (Char × Char)
  | _, [] => ([], [])
  | joined, [chunk] => (if joined then chunk.drop 1 else chunk, [])
  | joined, chunk :: next :: rest =>
    let (singles, ranges) := members true (next :: rest)
    let own := (if joined then chunk.drop 1 else chunk).dropLast
    match chunk.getLast?, next.head? with
    | some lo, some hi => (own ++ singles, (lo, hi) :: ranges)
    | _, _ => (own ++ singles, ranges)

/-- The piece for the text between two brackets. -/
def setPiece (body : List Char) : Piece :=
  let chunks :=
    if body.contains '-' then
      dropEmptyRanges (closeChunks (chunksFrom (if body.head? == some '!' then 2 else 1) [] body))
    else [body]
  match chunks with
  | [] | [[]] => .set false [] []
  | ('!' :: chunk) :: rest =>
    let (singles, ranges) := members false (chunk :: rest)
    .set true singles ranges
  | _ =>
    let (singles, ranges) := members false chunks
    .set false singles ranges

/-- The text of a set after its opening bracket, and the characters after its closing one. The
first character of a set, after a leading exclamation mark, is never the closing bracket. -/
def bracket? (cs : List Char) : Option (List Char × List Char) :=
  let (mark, cs) := match cs with
    | '!' :: rest => (['!'], rest)
    | _ => ([], cs)
  let (first, cs) := match cs with
    | ']' :: rest => ([']'], rest)
    | _ => ([], cs)
  let body := cs.takeWhile (· != ']')
  match cs.dropWhile (· != ']') with
  | _ :: rest => some (mark ++ first ++ body, rest)
  | [] => none

/-- The pieces of a pattern of at most `fuel` characters. -/
def piecesFrom : Nat → List Char → List Piece
  | 0, _ => []
  | _, [] => []
  | fuel + 1, '*' :: rest => .run :: piecesFrom fuel rest
  | fuel + 1, '?' :: rest => .any :: piecesFrom fuel rest
  | fuel + 1, '[' :: rest =>
    match bracket? rest with
    | some (body, rest') => setPiece body :: piecesFrom fuel rest'
    | none => .char '[' :: piecesFrom fuel rest
  | fuel + 1, c :: rest => .char c :: piecesFrom fuel rest

/-- The pieces of a pattern. -/
def pieces (pattern : String) : List Piece :=
  piecesFrom pattern.length pattern.toList

/-- One character fits a piece that stands for one character. -/
def Piece.accepts (c : Char) : Piece → Bool
  | char d => c == d
  | any => true
  | run => false
  | set negated singles ranges =>
    let inside := singles.contains c || ranges.any fun (lo, hi) => lo ≤ c && c ≤ hi
    inside != negated

/-- The tails of a list of characters, the list itself first. -/
def tails : List Char → List (List Char)
  | [] => [[]]
  | c :: rest => (c :: rest) :: tails rest

/-- The whole list of characters fits the pieces. -/
def accepts : List Piece → List Char → Bool
  | [], cs => cs.isEmpty
  | .run :: rest, cs => (tails cs).any (accepts rest)
  | piece :: rest, cs =>
    match cs with
    | [] => false
    | c :: cs' => piece.accepts c && accepts rest cs'

/-- The text `s` fits the pattern. -/
def fits (pattern s : String) : Bool :=
  accepts (pieces pattern) s.toList

/-- A pattern is a glob when it holds one of the special characters; otherwise it is plain
text. -/
def isGlob (pattern : String) : Bool :=
  pattern.toList.any fun c => c == '*' || c == '?' || c == '['

/-- One pattern selects a path: a glob must fit the whole path or its last name, plain text must
stand in the path. Case does not count. -/
def selects (path pattern : String) : Bool :=
  let pattern := Text.lower pattern
  let whole := Text.lower path
  let last := Text.lower (Path.fileName path)
  if isGlob pattern then fits pattern whole || fits pattern last
  else Text.contains whole pattern || pattern == last

/-- One of the patterns selects the path. -/
def selectsAny (path : String) (patterns : List String) : Bool :=
  patterns.any (selects path)

end Catalog.Glob
