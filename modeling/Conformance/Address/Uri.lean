import Conformance.Address.Host

/-!
# Identifiers of resources

URIs, references to them, and UUIDs.
-/

namespace Conformance.Address

open Conformance.Text

/-- A letter, and then letters, digits, plus signs, points and hyphens. -/
def isScheme (s : List Char) : Bool :=
  match s with
  | c :: rest => isAsciiLetter c && rest.all fun c => isAsciiAlphanumeric c || "+.-".toList.contains c
  | [] => false

def isUriChar (c : Char) : Bool :=
  isAsciiAlphanumeric c || "-._~!$&'()*+,;=:@/?#[]%".toList.contains c

def percentsEscape : List Char → Bool
  | [] => true
  | '%' :: rest =>
    (match rest with
      | a :: b :: _ => isHexDigit a && isHexDigit b
      | _ => false) && percentsEscape rest
  | _ :: rest => percentsEscape rest

/-- Only URI characters, with proper escapes. -/
def hasUriChars (s : List Char) : Bool := holdsOfLine (·.all isUriChar) s && percentsEscape s

/-- The text before the first slash, question mark or number sign. -/
def firstSegment (s : List Char) : List Char :=
  s.takeWhile fun c => !(c == '/' || c == '?' || c == '#')

/-- What follows the host: nothing or a colon and digits, perhaps none. -/
def isPortPart (s : List Char) : Bool :=
  match s with
  | [] => true
  | c :: port => c == ':' && isNumeral port

/-- A host and a port: a version 6 address in brackets, or a text without brackets. -/
def isHostPort (s : List Char) : Bool :=
  match s with
  | '[' :: inner =>
    match splitFirst ']' inner with
    | none => false
    | some (host, rest) => isIp .v6 host && isPortPart rest
  | _ =>
    let (host, port) := (splitFirst ':' s).getD (s, [])
    !host.contains '[' && !host.contains ']' && (port.isEmpty || isNumeral port)

/-- What follows two slashes up to the path is an authority: a host and a port, perhaps after user
information and an at sign. -/
def hasAuthority (s : List Char) : Bool :=
  match s with
  | '/' :: '/' :: rest =>
    let authority := firstSegment rest
    isHostPort ((splitLast '@' authority).map (·.2) |>.getD authority)
  | _ => true

/-- A scheme, a colon, and characters of a URI with a proper authority if there is one. -/
def isUri (s : List Char) : Bool :=
  match splitFirst ':' s with
  | none => false
  | some (scheme, rest) => holdsOfLine isScheme scheme && hasUriChars rest && hasAuthority rest

/-- A URI or a relative reference, the first segment of which has no colon. -/
def isUriReference (s : List Char) : Bool :=
  isUri s || (!(firstSegment s).contains ':' && hasUriChars s && hasAuthority s)

def isUuid (s : List Char) : Bool :=
  holdsOfLine (fun s =>
    let groups := cutAtAll ['-'] s
    groups.map List.length == [8, 4, 4, 4, 12] && groups.all (·.all isHexDigit)) s

end Conformance.Address
