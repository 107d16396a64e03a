import Recrawl.Url.Address

/-!
Absolute URLs, taken apart into components, and their normal form as text.
-/
namespace Recrawl

namespace Url

inductive SchemeKind
  /-- Schemes of the web, which always have a host. -/
  | web
  /-- Local files. -/
  | file
  /-- All other schemes. -/
  | other
  deriving DecidableEq, Repr

namespace SchemeKind

/-- The kind of a scheme, given in lower case. -/
def ofScheme (scheme : List Char) : SchemeKind :=
  if ["http", "https", "ws", "wss", "ftp"].any fun name => name.toList == scheme then web
  else if scheme == "file".toList then file
  else other

/-- A backslash counts as a slash, and the path is never empty. -/
def isSpecial (kind : SchemeKind) : Bool := kind != other

end SchemeKind

def defaultPort? (scheme : List Char) : Option Nat :=
  ([("http", 80), ("https", 443), ("ws", 80), ("wss", 443), ("ftp", 21)].find? fun entry =>
    entry.1.toList == scheme).map (·.2)

inductive Host
  /-- A name in ASCII. -/
  | name (chars : List Char)
  /-- An address of 32 bits. -/
  | ipv4 (address : Nat)
  /-- An address of eight groups of 16 bits. -/
  | ipv6 (groups : List Nat)
  deriving DecidableEq, Repr

def Host.render : Host → List Char
  | name chars => chars
  | ipv4 address => Ipv4.render address
  | ipv6 groups => '[' :: Ipv6.render groups ++ [']']

/-- What stands between the two slashes and the path. A missing host is empty; so are a missing user
name and password. A port that the scheme implies is left out. -/
structure Authority where
  username : List Char := []
  password : List Char := []
  host : Option Host := none
  port : Option Nat := none
  deriving DecidableEq, Repr

/-- User name and password, with the sign that closes them. -/
def Authority.userInfo (authority : Authority) : List Char :=
  if authority.username.isEmpty && authority.password.isEmpty then []
  else if authority.password.isEmpty then authority.username ++ ['@']
  else authority.username ++ ':' :: authority.password ++ ['@']

/-- The authority as it stands in a URL, behind the slashes. -/
def Authority.render (authority : Authority) : List Char :=
  authority.userInfo ++ (authority.host.map Host.render).getD [] ++
    (authority.port.map fun port => ':' :: Nat.toDigits 10 port).getD []

end Url

/-- An absolute URL. Query and fragment are without the sign that introduces them. -/
structure Url where
  scheme : List Char
  authority : Option Url.Authority
  path : List Char
  query : Option (List Char)
  fragment : Option (List Char)
  deriving DecidableEq, Repr

namespace Url

/-- The part of the text between scheme and path. A path that starts with two slashes would read as
an authority where there is none, so `/.` is put before it. -/
def renderAuthority (url : Url) : List Char :=
  match url.authority with
  | some authority => '/' :: '/' :: authority.render
  | none => if ['/', '/'].isPrefixOf url.path then ['/', '.'] else []

def renderHead (url : Url) : List Char :=
  url.scheme ++ ':' :: url.renderAuthority ++ url.path

def render (url : Url) : List Char :=
  url.renderHead ++ (url.query.map ('?' :: ·)).getD [] ++ (url.fragment.map ('#' :: ·)).getD []

def toString (url : Url) : String := String.ofList url.render

instance : ToString Url := ⟨toString⟩

/-- The host of a URL, unless it is empty or missing. -/
def host? (url : Url) : Option Host :=
  url.authority.bind (·.host)

def isHttp (url : Url) : Bool :=
  url.scheme == "http".toList || url.scheme == "https".toList

end Url

end Recrawl
