import Recrawl.Url.Host
import Recrawl.Url.Path

/-!
Reading an absolute URL. Blanks and controls around it, and tabs and line ends
anywhere in it, do not count. What stands before the query and the fragment is
read by the kind of the scheme.
-/
namespace Recrawl.Url

/-- The character does not count at the ends of a URL. -/
def isEdge (c : Char) : Bool := c.toNat ≤ 0x20

/-- The text without what does not count at its ends. -/
def trimEdges (text : List Char) : List Char :=
  ((text.dropWhile isEdge).reverse.dropWhile isEdge).reverse

/-- The part before the first character that satisfies `p`, and the part behind it if there is
one. -/
def splitFirst (p : Char → Bool) (text : List Char) : List Char × Option (List Char) :=
  match text.dropWhile fun c => !p c with
  | [] => (text, none)
  | _ :: rest => (text.takeWhile fun c => !p c, some rest)

/-- The part before the last `'@'`, if there is one, and the part behind it. -/
def splitUserInfo (text : List Char) : Option (List Char) × List Char :=
  match (text.reverse.dropWhile (· != '@')) with
  | [] => (none, text)
  | _ :: info => (some info.reverse, (text.reverse.takeWhile (· != '@')).reverse)

/-- A character of a scheme behind its first. -/
def isSchemeChar (c : Char) : Bool :=
  c.isAlphanum || c == '+' || c == '-' || c == '.'

/-- The scheme in lower case, and what stands behind its colon. -/
def splitScheme? (text : List Char) : Option (List Char × List Char) :=
  let (before, rest) := splitFirst (· == ':') text
  match Path.significant before, rest with
  | first :: others, some rest =>
    if first.isAlpha && others.all isSchemeChar then
      some ((first :: others).map Char.toLower, rest)
    else none
  | _, _ => none

/-- The extent of a host: up to the first colon outside brackets. -/
def hostExtent : Bool → List Char → List Char
  | _, [] => []
  | inside, c :: rest =>
    if c == ':' && !inside then []
    else c :: hostExtent (if c == '[' then true else if c == ']' then false else inside) rest

/-- Reads the digits of a port; none for no digits. -/
def readPort (digits : List Char) : Except Fault (Option Nat) :=
  match Ipv4.readDigits? 10 digits with
  | none => .error .invalidPort
  | some port =>
    if 65535 < port then .error .invalidPort
    else .ok (if digits.isEmpty then none else some port)

/-- User name and password, encoded; a password is what stands behind the first colon. -/
def readUserInfo (info : List Char) : List Char × List Char :=
  let (username, password) := splitFirst (· == ':') info
  (Percent.encode CharSet.userInfo username, Percent.encode CharSet.userInfo (password.getD []))

/-- Reads a host and a port. What follows the port is given back. -/
def readHostPort (scheme : List Char) (text : List Char) :
    Except Fault (Option Host × Option Nat × List Char) := do
  let kind := SchemeKind.ofScheme scheme
  let extent := hostExtent false text
  let rest := text.drop extent.length
  if extent.isEmpty && (kind == .web || !rest.isEmpty) then throw .emptyHost
  let host ←
    if kind == .web then (Host.parseSpecial extent).map some
    else if extent.isEmpty then pure none
    else (Host.parseOther extent).map some
  match rest with
  | [] => pure (host, none, [])
  | _ :: behind =>
    let digits := behind.takeWhile (· != '\\')
    let port ← readPort digits
    pure (host, if port == defaultPort? scheme then none else port, behind.drop digits.length)

/-- Reads what stands behind the two slashes, up to the path; the path is given back. `followed`
says whether a query or a fragment comes after `text`. -/
def readAuthority (scheme : List Char) (text : List Char) (followed : Bool) :
    Except Fault (Authority × List Char) := do
  let kind := SchemeKind.ofScheme scheme
  let isEnd := Path.isSeparator kind
  let extent := text.takeWhile fun c => !isEnd c
  let path := text.drop extent.length
  let (info, hostPort) := splitUserInfo extent
  if info == some [] && hostPort.isEmpty && (followed || !path.isEmpty) then throw .emptyHost
  let (username, password) := readUserInfo (info.getD [])
  let (host, port, rest) ← readHostPort scheme hostPort
  if host.isNone && !(username.isEmpty && password.isEmpty) then throw .emptyHost
  pure (⟨username, password, host, port⟩, rest ++ path)

/-- The path behind an authority. On the web and of files it is never empty. -/
def readRootedPath (kind : SchemeKind) (text : List Char) : List Char × Bool :=
  match Path.skim text with
  | [] => if kind.isSpecial then (['/'], false) else ([], false)
  | c :: rest => Path.parse kind (if Path.isSeparator kind c then rest else c :: rest)

/-- The text behind its first character that counts, if a separator is there. -/
def dropSeparator? (text : List Char) : Option (List Char) :=
  match Path.skim text with
  | c :: rest => if Path.isSeparator .file c then some rest else none
  | [] => none

/-- Reads a file URL from behind its colon, with the characters that do not count. A local host is
left out, and so is any host if the path names a drive. -/
def readFile (text : List Char) : Except Fault (Authority × List Char) := do
  match (dropSeparator? text).bind dropSeparator? with
  | none => pure ({}, (readRootedPath .file text).1)
  | some rest =>
    let isEnd := Path.isSeparator .file
    let extent := Path.significant (rest.takeWhile fun c => !isEnd c)
    if Path.isDrive extent then
      pure ({}, (Path.parse .file rest).1)
    else
      let pathText := rest.dropWhile fun c => !isEnd c
      let host ← if extent.isEmpty then pure none else (Host.parseSpecial extent).map some
      if host.isNone || host == some (.name "localhost".toList) then
        pure ({}, (Path.parse .file pathText).1)
      else
        let (path, namesDrive) := readRootedPath .file pathText
        pure ({ host := if namesDrive then none else host }, path)

def readBody (scheme : List Char) (text : List Char) (followed : Bool) :
    Except Fault (Option Authority × List Char) :=
  match SchemeKind.ofScheme scheme with
  | .file => (readFile text).map fun (authority, path) => (some authority, path)
  | .web => do
    let (authority, path) ←
      readAuthority scheme
        ((Path.significant text).dropWhile (Path.isSeparator .web)) followed
    pure (some authority, (readRootedPath .web path).1)
  | .other =>
    match Path.significant text with
    | '/' :: '/' :: rest => do
      let (authority, path) ← readAuthority scheme rest followed
      pure (some authority, (readRootedPath .other path).1)
    | '/' :: rest => .ok (none, (Path.parse .other rest).1)
    | plain => .ok (none, Percent.encode CharSet.controls plain)

def ofChars (text : List Char) : Except Fault Url := do
  match splitScheme? (trimEdges text) with
  | none => throw .relative
  | some (scheme, rest) =>
    let (beforeFragment, fragment) := splitFirst (· == '#') rest
    let (body, query) := splitFirst (· == '?') beforeFragment
    let (authority, path) ← readBody scheme body (query.isSome || fragment.isSome)
    let querySet :=
      if (SchemeKind.ofScheme scheme).isSpecial then CharSet.webQuery else CharSet.query
    pure {
      scheme, authority, path
      query := query.map fun text => Percent.encode querySet (Path.significant text)
      fragment := fragment.map fun text =>
        Percent.encode CharSet.fragment (Path.significant text) }

def parse (text : String) : Except Fault Url :=
  ofChars text.toList

end Recrawl.Url
