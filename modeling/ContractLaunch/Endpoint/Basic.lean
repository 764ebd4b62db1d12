import ContractLaunch.Endpoint.Ipv4
import ContractLaunch.Endpoint.Ipv6
import ContractLaunch.Endpoint.Name
import ContractLaunch.Text.Utf8
/-!
Addresses of nodes: `http`, `https` or `tcp`, a host, and perhaps a port. Credentials before the host
and everything after the port are of no interest. The two web schemes read a host as a domain name or
an IPv4 address; `tcp` takes it as it is written.
-/
namespace ContractLaunch

namespace Endpoint

inductive Scheme where
  | http
  | https
  | tcp
  deriving DecidableEq

inductive Host where
  | name (labels : List (List Char))
  | ipv4 (address : Nat)
  | ipv6 (pieces : List Nat)
  /-- A host that only its user can look up. -/
  | verbatim (text : List Char)
  deriving DecidableEq

def Scheme.ofName? (name : List Char) : Option Scheme :=
  let name := name.map Char.toLower
  if name = "http".toList then some .http
  else if name = "https".toList then some .https
  else if name = "tcp".toList then some .tcp
  else none

/-- Whether a scheme is one of the web, in which a backslash counts as a slash. -/
def Scheme.isWeb : Scheme → Bool
  | .http | .https => true
  | .tcp => false

def Scheme.isSlash (scheme : Scheme) (c : Char) : Bool := c = '/' || (scheme.isWeb && c = '\\')

/-- An address as it is read: without controls and spaces at its ends, and without tabs and line
breaks anywhere. -/
def cleaned (s : String) : List Char :=
  let isOuter (c : Char) : Bool := c.toNat ≤ 0x20
  let cs := s.toList.dropWhile isOuter
  let cs := (cs.reverse.dropWhile isOuter).reverse
  cs.filter fun c => !(c = '\t' || c = '\n' || c = '\r')

/-- What follows the slashes after the scheme. Web addresses may have any number of slashes. -/
def afterSlashes? (scheme : Scheme) (cs : List Char) : Option (List Char) :=
  if scheme.isWeb then some (cs.dropWhile scheme.isSlash) else Text.afterStart? ['/', '/'] cs

/-- The part of an address that holds host and port: up to the path, query or fragment, and after the
credentials. -/
def hostAndPort (scheme : Scheme) (cs : List Char) : List Char :=
  let authority := cs.takeWhile fun c => !(scheme.isSlash c || c = '?' || c = '#')
  match Text.splitLast? ['@'] authority with
  | some (_, rest) => rest
  | none => authority

def splitPort (inBrackets : Bool) : List Char → List Char × Option (List Char)
  | [] => ([], none)
  | c :: cs =>
    if c = ':' && !inBrackets then ([], some cs)
    else
      let inBrackets := if c = '[' then true else if c = ']' then false else inBrackets
      let (host, port) := splitPort inBrackets cs
      (c :: host, port)

/-- The port that a text writes; the empty text leaves the port open. -/
def port? (cs : List Char) : Option (Option Nat) :=
  let cs := cs.takeWhile (· ≠ '\\')
  if cs.isEmpty then some none
  else ((Numeral.read? cs).filter (· < 65536)).map some

/-- The bytes of a text in which a percent sign and two hexadecimal digits stand for a byte. -/
def percentDecoded : List Char → Bytes
  | [] => []
  | '%' :: a :: b :: rest =>
    match Numeral.hexDigit? a, Numeral.hexDigit? b with
    | some high, some low => UInt8.ofNat (high * 16 + low) :: percentDecoded rest
    | _, _ => Utf8.encode "%" ++ percentDecoded (a :: b :: rest)
  | c :: rest => Utf8.encode c.toString ++ percentDecoded rest

def verbatimDelimiters : List Char :=
  ['\x00', ' ', '#', '/', ':', '<', '>', '?', '@', '[', '\\', ']', '^', '|']

def host? (scheme : Scheme) (cs : List Char) : Option Host :=
  match cs with
  | [] => none
  | '[' :: rest =>
    if rest.getLast? = some ']' then (Ipv6.read? rest.dropLast).map .ipv6 else none
  | _ =>
    if scheme.isWeb then do
      let labels ← Name.labels? (Utf8.decodeLenient (percentDecoded cs)).toList
      if Ipv4.isAttempted labels then (Ipv4.read? labels).map .ipv4 else some (.name labels)
    else if cs.any verbatimDelimiters.contains then none
    else some (.verbatim cs)

end Endpoint

structure Endpoint where
  scheme : Endpoint.Scheme
  host : Endpoint.Host
  port : Option Nat
  deriving DecidableEq

namespace Endpoint

def read? (s : String) : Option Endpoint := do
  let cs := cleaned s
  let name := cs.takeWhile (· ≠ ':')
  let scheme ← Scheme.ofName? name
  let rest ← Text.afterStart? (name ++ [':']) cs
  let rest ← afterSlashes? scheme rest
  let (hostText, portText) := splitPort false (hostAndPort scheme rest)
  let host ← host? scheme hostText
  let port ← match portText with
    | some cs => port? cs
    | none => some none
  return ⟨scheme, host, port⟩

end Endpoint

end ContractLaunch
