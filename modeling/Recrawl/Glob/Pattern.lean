/-!
Patterns for file names: `?` stands for one character, `*` for any, brackets for
one of a set, and a step `**` for any number of directories.
-/
namespace Recrawl.Glob

inductive CharSet
  | one (c : Char)
  | range (low high : Char)
  deriving DecidableEq, Repr

def CharSet.has (c : Char) : CharSet → Bool
  | one d => c == d
  | range low high => low ≤ c && c ≤ high

inductive Token
  | literal (c : Char)
  | anyChar
  | anyText
  | anyDirectories
  | within (sets : List CharSet)
  | except (sets : List CharSet)
  deriving DecidableEq, Repr

/-- The sets between brackets: a hyphen between two characters makes a range. -/
def charSets : List Char → List CharSet
  | a :: '-' :: b :: rest => .range a b :: charSets rest
  | a :: rest => .one a :: charSets rest
  | [] => []

/-- What is in brackets, of which the first character may be a closing bracket, and the rest behind
them. -/
def bracket? : List Char → Option (List CharSet × List Char)
  | first :: rest =>
    let (inside, behind) := rest.span (· != ']')
    match behind with
    | _ :: behind => some (charSets (first :: inside), behind)
    | [] => none
  | [] => none

inductive PatternFault
  /-- There are more than two stars in a row. -/
  | manyStars
  /-- Two stars are not a step of their own. -/
  | sharedStep
  /-- Brackets are not closed. -/
  | openBracket
  deriving DecidableEq, Repr

/-- The text for a fault near a place, which counts characters from zero. -/
def PatternFault.message (fault : PatternFault) (place : Nat) : String :=
  let reason := match fault with
    | manyStars => "wildcards are either regular `*` or recursive `**`"
    | sharedStep => "recursive wildcards must form a single path component"
    | openBracket => "invalid range pattern"
  s!"Pattern syntax error near position {place}: {reason}"

abbrev PlacedFault := PatternFault × Nat

/-- The rest of a pattern behind two stars at a place, where the character `previous` is in front
of them: they have to be a whole step. -/
def behindStars (previous : Option Char) (place : Nat) (rest : List Char) :
    Except PlacedFault (List Char) :=
  if rest.head? == some '*' then .error (.manyStars, place + 2)
  else if previous.any (· != '/') then .error (.sharedStep, place - 1)
  else if rest.head?.any (· != '/') then .error (.sharedStep, place + 2)
  else .ok (rest.drop 1)

/-- The parts of a pattern, which goes on at a place behind the character `previous`. -/
def tokens : (bound : Nat) → (place : Nat) → (previous : Option Char) → List Char →
    Except PlacedFault (List Token)
  | 0, _, _, _ => .ok []
  | _, _, _, [] => .ok []
  | bound + 1, place, _, '?' :: rest => do
    .ok (.anyChar :: (← tokens bound (place + 1) (some '?') rest))
  | bound + 1, place, previous, '*' :: '*' :: rest => do
    let rest ← behindStars previous place rest
    .ok (.anyDirectories :: (← tokens bound (place + 3) (some '/') rest))
  | bound + 1, place, _, '*' :: rest => do
    .ok (.anyText :: (← tokens bound (place + 1) (some '*') rest))
  | bound + 1, place, _, '[' :: rest =>
    let isExcept := rest.head? == some '!'
    let inside := if isExcept then rest.drop 1 else rest
    match bracket? inside with
    | none => .error (.openBracket, place)
    | some (sets, behind) => do
      let token := if isExcept then Token.except sets else Token.within sets
      let next := place + 1 + (rest.length - behind.length)
      .ok (token :: (← tokens bound next (some ']') behind))
  | bound + 1, place, _, c :: rest => do
    .ok (.literal c :: (← tokens bound (place + 1) (some c) rest))

def parse (pattern : List Char) : Except PlacedFault (List Token) :=
  tokens (pattern.length + 1) 0 none pattern

/-- Some text at the end of a text has the property, perhaps all of it or nothing. -/
def anyEnd (p : List Char → Bool) : List Char → Bool
  | [] => p []
  | c :: rest => p (c :: rest) || anyEnd p rest

def isMatch : List Token → List Char → Bool
  | [], name => name.isEmpty
  | .literal c :: tokens, d :: name => c == d && isMatch tokens name
  | .anyChar :: tokens, _ :: name => isMatch tokens name
  | .within sets :: tokens, d :: name => sets.any (CharSet.has d) && isMatch tokens name
  | .except sets :: tokens, d :: name => !sets.any (CharSet.has d) && isMatch tokens name
  | .anyText :: tokens, name => anyEnd (isMatch tokens) name
  | .anyDirectories :: tokens, name => anyEnd (isMatch tokens) name
  | _ :: _, [] => false

inductive Step
  /-- A name without wildcards. -/
  | name (text : String)
  | directories
  | tokens (ts : List Token)
  deriving DecidableEq, Repr

namespace Step

/-- The characters of a pattern without wildcards. -/
def plain? (tokens : List Token) : Option (List Char) :=
  tokens.mapM fun
    | .literal c => some c
    | _ => none

def ofTokens (tokens : List Token) : Step :=
  match plain? tokens with
  | some chars => name (String.ofList chars)
  | none => if tokens.contains .anyDirectories then directories else .tokens tokens

def accepts (fileName : String) : Step → Bool
  | name text => text == fileName
  | directories => true
  | tokens ts => isMatch ts fileName.toList

/-- The step may stand for the directory itself and the one above. -/
def beginsWithPoint : Step → Bool
  | tokens (.literal '.' :: _) => true
  | _ => false

end Step

def hasWildcard (text : String) : Bool :=
  text.toList.any fun c => c == '*' || c == '?' || c == '['

/-- A pattern for paths: where it begins, and its steps. -/
structure PathPattern where
  start : String
  steps : List Step
  /-- Only directories are meant. -/
  onlyDirectories : Bool
  deriving DecidableEq, Repr

/-- The pattern that a text describes. Brackets may not go beyond a step. -/
def PathPattern.parse (text : String) : Except PlacedFault PathPattern := do
  let chars := text.toList
  let _ ← Glob.parse chars
  let (root, rest) := chars.span (· == '/')
  let parts := rest.splitOnP (· == '/')
  let parts := if parts.getLast? == some [] then parts.dropLast else parts
  let steps ← parts.mapM fun part => (Glob.parse part).map Step.ofTokens
  .ok ⟨if root.isEmpty then "." else String.ofList root,
    if rest.isEmpty then [.name ""] else steps, chars.getLast? == some '/'⟩

end Recrawl.Glob
