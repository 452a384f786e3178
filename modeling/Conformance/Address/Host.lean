import Conformance.Address.Ip

/-!
# Hosts

Host names, hosts that are a name or an IP address, and hosts with a port. The line-based forms of this
library end at a line feed that ends the text: a label or a port may have one after it.
-/

namespace Conformance.Address

open Conformance.Text

def isAsciiLetter (c : Char) : Bool := ('a' ≤ c && c ≤ 'z') || ('A' ≤ c && c ≤ 'Z')

def isAsciiAlphanumeric (c : Char) : Bool := isAsciiLetter c || isAsciiDigit c

/-- The text passes the test, or does without a line feed at its end. -/
def holdsOfLine (test : List Char → Bool) (s : List Char) : Bool :=
  test s || (s.getLast? == some '\n' && test s.dropLast)

/-- One to 63 letters, digits and hyphens, no hyphen at either end. -/
def isLabel (s : List Char) : Bool :=
  s.length ≤ 63 && s.all (fun c => isAsciiAlphanumeric c || c == '-') &&
    s.head?.any isAsciiAlphanumeric && s.getLast?.any isAsciiAlphanumeric

def withoutRoot (s : List Char) : List Char := if s.getLast? == some '.' then s.dropLast else s

/-- At most 253 characters of labels with points between and perhaps a point at the end; the last label is
no number. -/
def isHostname (s : List Char) : Bool :=
  let labels := cutAtAll ['.'] (withoutRoot s)
  !s.isEmpty && s.length ≤ 253 && labels.all (holdsOfLine isLabel) &&
    !isNumeral (labels.getLastD [])

def isIp (v : Version) (s : List Char) : Bool :=
  match Ip.ofText? s with
  | some ip => ip.version == v
  | none => false

def isAddress (s : List Char) : Bool := isHostname s || (Ip.ofText? s).isSome

/-- A number of up to five digits without superfluous zeros in front. -/
def isPortNumeral (s : List Char) : Bool :=
  isNumeral s && s.length ≤ 5 && (s == ['0'] || s.head? != some '0')

def isPort (s : List Char) : Bool :=
  holdsOfLine (fun s => isPortNumeral s && decimal s ≤ 65535) s

/-- A host name, a version 4 address or a version 6 address in brackets, and after a colon a port, which
may be left out unless it is required. -/
def isHostAndPort (portRequired : Bool) (s : List Char) : Bool :=
  match s with
  | '[' :: inner =>
    match splitFirst ']' inner with
    | none => false
    | some (host, rest) =>
      isIp .v6 host &&
        match rest with
        | [] => !portRequired
        | c :: port => c == ':' && isPort port
  | _ =>
    match splitLast ':' s with
    | none => !portRequired && (isHostname s || isIp .v4 s)
    | some (host, port) => (isHostname host || isIp .v4 host) && isPort port

end Conformance.Address
