import GroupInterfaces.Url.Percent
import GroupInterfaces.Url.Address
import GroupInterfaces.Url.Domain

/-!
# Hosts

The host of a URL is a domain name or an address. The well-known schemes have domain names
in ASCII; other schemes have any text without certain characters.
-/

namespace GroupInterfaces.Url

/-- The reasons for which a text is not a URL. -/
inductive Error where
  | emptyHost
  | domainName
  | port
  | ipv4Address
  | ipv6Address
  | domainCharacter
  | relativeWithoutBase
deriving DecidableEq

/-- The reason in words. -/
def Error.message : Error → String
  | .emptyHost => "empty host"
  | .domainName => "invalid international domain name"
  | .port => "invalid port number"
  | .ipv4Address => "invalid IPv4 address"
  | .ipv6Address => "invalid IPv6 address"
  | .domainCharacter => "invalid domain character"
  | .relativeWithoutBase => "relative URL without a base"

/-- Hosts. -/
inductive Host where
  | domain (name : String)
  | ipv4 (address : Nat)
  | ipv6 (pieces : List Nat)
deriving DecidableEq

/-- The host as it stands in a URL. -/
def Host.display : Host → String
  | .domain name => name
  | .ipv4 address => showIpv4 address
  | .ipv6 pieces => "[" ++ showIpv6 pieces ++ "]"

/-- The address in brackets, if the text begins with one. -/
def readBracketed? : List Char → Option (Except Error Host)
  | '[' :: rest =>
    if rest.getLast? = some ']' then
      match readIpv6 rest.dropLast with
      | some pieces => some (.ok (.ipv6 pieces))
      | none => some (.error .ipv6Address)
    else some (.error .ipv6Address)
  | _ => none

/-- The host that a text names with one of the well-known schemes. -/
def Host.read (cs : List Char) : Except Error Host :=
  match readBracketed? cs with
  | some host => host
  | none =>
    match (decodeUtf8? (percentDecode (utf8Bytes cs))).bind domainToAscii? with
    | none => .error .domainName
    | some name =>
      if name.isEmpty then .error .emptyHost
      else if endsInNumber name then
        match readIpv4 name with
        | some address => .ok (.ipv4 address)
        | none => .error .ipv4Address
      else .ok (.domain (.ofList name))

/-- The host that a text names with any other scheme. -/
def Host.readOpaque (cs : List Char) : Except Error Host :=
  match readBracketed? cs with
  | some host => host
  | none =>
    if cs.any (isAmong "\x00\t\n\r #/:<>?@[\\]^|") then .error .domainCharacter
    else .ok (.domain (.ofList (percentEncode isControl cs)))

end GroupInterfaces.Url
