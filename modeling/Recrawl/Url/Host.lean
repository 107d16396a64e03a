import Recrawl.Url.Basic
import Recrawl.Url.DomainName
import Recrawl.Url.Percent

/-!
Reading the host of a URL.
-/
namespace Recrawl.Url

inductive Fault
  | relative
  | emptyHost
  | invalidDomainName
  | invalidPort
  | invalidIpv4
  | invalidIpv6
  | invalidHostCharacter
  deriving DecidableEq, Repr

def Fault.message : Fault → String
  | relative => "relative URL without a base"
  | emptyHost => "empty host"
  | invalidDomainName => "invalid international domain name"
  | invalidPort => "invalid port number"
  | invalidIpv4 => "invalid IPv4 address"
  | invalidIpv6 => "invalid IPv6 address"
  | invalidHostCharacter => "invalid domain character"

namespace Host

/-- Characters that the host of a URL outside the web does not hold as they are. -/
def isForbidden (c : Char) : Bool :=
  c == Char.ofNat 0 || c == '\t' || c == '\n' || c == '\r' || c == ' ' || c == '#' || c == '/' ||
    c == ':' || c == '<' || c == '>' || c == '?' || c == '@' || c == '[' || c == '\\' || c == ']' ||
    c == '^' || c == '|'

/-- An address between brackets; `rest` is what follows the opening bracket. -/
def parseBracketed (rest : List Char) : Except Fault Host :=
  if rest.getLast? == some ']' then
    match Ipv6.parse? rest.dropLast with
    | some groups => .ok (ipv6 groups)
    | none => .error .invalidIpv6
  else .error .invalidIpv6

/-- The host of a web or file URL: a name in ASCII form, or an address. -/
def parseSpecial (text : List Char) : Except Fault Host :=
  match text with
  | '[' :: rest => parseBracketed rest
  | _ =>
    match DomainName.ofBytes? (Percent.decode (Bytes.ofString (String.ofList text))) with
    | none => .error .invalidDomainName
    | some [] => .error .emptyHost
    | some domain =>
      if Ipv4.isClaimed domain then
        match Ipv4.parse? domain with
        | some address => .ok (ipv4 address)
        | none => .error .invalidIpv4
      else .ok (name domain)

/-- The host of any other URL: kept as it is, with controls and characters beyond ASCII encoded. -/
def parseOther (text : List Char) : Except Fault Host :=
  match text with
  | '[' :: rest => parseBracketed rest
  | _ =>
    if text.any isForbidden then .error .invalidHostCharacter
    else .ok (name (Percent.encode CharSet.controls text))

end Host

end Recrawl.Url
