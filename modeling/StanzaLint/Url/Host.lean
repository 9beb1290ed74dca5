import StanzaLint.Url.Idna
import StanzaLint.Url.Ipv4
import StanzaLint.Url.Ipv6
import StanzaLint.Url.Percent

/-!
# Hosts

The special schemes have hosts that are looked up: a domain name or an address.
Hosts of other schemes are opaque names, or addresses in brackets.
-/

namespace StanzaLint.Url

open Text

inductive Fault where
  | emptyHost
  | invalidName
  | invalidPort
  | invalidIpv4
  | invalidIpv6
  | invalidCharacter
  | noScheme
  deriving DecidableEq, Repr

def Fault.message : Fault → String
  | .emptyHost => "empty host"
  | .invalidName => "invalid international domain name"
  | .invalidPort => "invalid port number"
  | .invalidIpv4 => "invalid IPv4 address"
  | .invalidIpv6 => "invalid IPv6 address"
  | .invalidCharacter => "invalid domain character"
  | .noScheme => "relative URL without a base"

inductive Host where
  | name (text : String)
  | ipv4 (address : Nat)
  | ipv6 (pieces : List Nat)
  deriving DecidableEq, Repr

def Host.render : Host → String
  | .name text => text
  | .ipv4 address => Ipv4.render address
  | .ipv6 pieces => "[" ++ Ipv6.render pieces ++ "]"

def Host.parseBracketed (cs : List Char) : Except Fault Host :=
  match dropSuffix? [']'] cs with
  | some inner => match Ipv6.parse? inner with
    | some pieces => .ok (.ipv6 pieces)
    | none => .error .invalidIpv6
  | none => .error .invalidIpv6

def Host.ofDomain (domain : List Char) : Except Fault Host :=
  if domain.isEmpty then .error .emptyHost
  else if Ipv4.endsInNumber domain then
    match Ipv4.parse? domain with
    | some address => .ok (.ipv4 address)
    | none => .error .invalidIpv4
  else .ok (.name (String.ofList domain))

def Host.parse : List Char → Except Fault Host
  | '[' :: cs => parseBracketed cs
  | cs => match (percentDecode? cs).bind Idna.toAscii? with
    | some domain => ofDomain domain
    | none => .error .invalidName

def isRefused (c : Char) : Bool :=
  c.toNat == 0 || ['\t', '\n', '\r', ' ', '#', '/', ':', '<', '>', '?', '@', '[', '\\', ']', '^',
    '|'].contains c

def Host.parseOpaque : List Char → Except Fault Host
  | '[' :: cs => parseBracketed cs
  | cs =>
    if cs.any isRefused then .error .invalidCharacter
    else .ok (.name (String.ofList (percentEncode [] cs)))

end StanzaLint.Url
