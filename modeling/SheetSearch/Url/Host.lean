import SheetSearch.Url.Address
import SheetSearch.Url.Domain
import SheetSearch.Url.Percent

namespace SheetSearch.Url

inductive UrlError where
  | emptyHost
  | invalidDomain
  | invalidPort
  | invalidIpv4
  | invalidIpv6
  | invalidHostCharacter
  | relativeWithoutBase
deriving DecidableEq, Repr

def UrlError.message : UrlError → String
  | emptyHost => "empty host"
  | invalidDomain => "invalid international domain name"
  | invalidPort => "invalid port number"
  | invalidIpv4 => "invalid IPv4 address"
  | invalidIpv6 => "invalid IPv6 address"
  | invalidHostCharacter => "invalid domain character"
  | relativeWithoutBase => "relative URL without a base"

inductive Host where
  /-- A name, or for schemes of no special meaning any text. -/
  | name (cs : List Char)
  | ipv4 (address : Nat)
  | ipv6 (pieces : List Nat)
deriving DecidableEq, Repr

namespace Host

def chars : Host → List Char
  | name cs => cs
  | ipv4 n => Ipv4.render n
  | ipv6 ps => '[' :: Ipv6.render ps ++ [']']

def bracketed? (cs : List Char) : Option (Except UrlError Host) :=
  match cs with
  | '[' :: rest =>
    some <| if rest.getLast? = some ']' then
      match Ipv6.ofChars? rest.dropLast with
      | some ps => .ok (ipv6 ps)
      | none => .error .invalidIpv6
    else .error .invalidIpv6
  | _ => none

def ofSpecial (cs : List Char) : Except UrlError Host :=
  match bracketed? cs with
  | some r => r
  | none =>
    match (Text.decodeUtf8 (decode cs)).bind Domain.ofChars? with
    | none => .error .invalidDomain
    | some [] => .error .emptyHost
    | some domain =>
      if Ipv4.isMeant domain then
        match Ipv4.ofChars? domain with
        | some n => .ok (ipv4 n)
        | none => .error .invalidIpv4
      else .ok (name domain)

/-- The host of any other URL stands as it is, with control characters encoded. -/
def ofOpaque (cs : List Char) : Except UrlError Host :=
  match bracketed? cs with
  | some r => r
  | none =>
    if cs.any ("\x00\t\n\r #/:<>?@[\\]^|".toList.contains ·) then .error .invalidHostCharacter
    else .ok (name (encode isControl cs))

end Host

end SheetSearch.Url
