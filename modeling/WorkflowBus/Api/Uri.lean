/-
URIs of requests.

A URI names a resource by its path and perhaps a query.  In front of them may
stand the server that has the resource, as a scheme and an authority; an
authority alone names a server and none of its resources.  A fragment is no part
of what is requested.
-/

import WorkflowBus.Text.Character

namespace WorkflowBus

structure Uri where
  scheme : Option (List Char)
  authority : Option (List Char)
  path : List Char
  query : Option (List Char)
deriving DecidableEq

namespace Uri

def text (uri : Uri) : String :=
  String.ofList <|
    ((uri.scheme.map fun scheme => scheme ++ [':', '/', '/']).getD []) ++
      uri.authority.getD [] ++ uri.path ++ ((uri.query.map ('?' :: ·)).getD [])

def dropPath (uri : Uri) (count : Nat) : Uri :=
  { uri with path := uri.path.drop count }

def isSchemeChar (char : Char) : Bool :=
  char.isAlphanum || ['+', '-', '.', '~'].contains char

def mostSchemeChars : Nat := 64

def splitScheme? (chars : List Char) : Option (List Char × List Char) :=
  match chars.dropWhile isSchemeChar with
  | ':' :: '/' :: '/' :: rest => some (chars.takeWhile isSchemeChar, rest)
  | _ => none

/-- The schemes of the web are written in small letters; all others are kept as
they are. -/
def normalScheme (scheme : List Char) : List Char :=
  if Casing.alike scheme ['h', 't', 't', 'p'] || Casing.alike scheme ['h', 't', 't', 'p', 's'] then
    Casing.fold scheme
  else scheme

def endsAuthority (char : Char) : Bool :=
  char == '/' || char == '?' || char == '#'

def isPlainChar (char : Char) : Bool :=
  char.isAlphanum ||
    ['!', '$', '&', '\'', '(', ')', '*', '+', ',', '-', '.', ';', '=', '_', '~'].contains char

/-- What a walk along an authority has seen: the colons and percent signs since the
last part ended, and the brackets. -/
structure AuthorityScan where
  colons : Nat
  hasPercent : Bool
  opened : Bool
  closed : Bool

namespace AuthorityScan

def start : AuthorityScan where
  colons := 0
  hasPercent := false
  opened := false
  closed := false

/-- The colons of a bracketed address with a port after it. -/
def mostColons : Nat := 8

/-- The walk past one character.  User information ends with an at sign, and a
bracketed address with its closing bracket; colons and percent signs count within
their part only. -/
def step? (scan : AuthorityScan) (char : Char) : Option AuthorityScan :=
  match char with
  | ':' => if scan.colons < mostColons then some { scan with colons := scan.colons + 1 } else none
  | '[' => if scan.hasPercent || scan.opened then none else some { scan with opened := true }
  | ']' =>
      if scan.opened && !scan.closed then
        some { scan with colons := 0, hasPercent := false, closed := true }
      else none
  | '@' => some { scan with colons := 0, hasPercent := false }
  | '%' => some { scan with hasPercent := true }
  | _ => if isPlainChar char then some scan else none

/-- The last part is a host with at most one colon, before its port, and no percent
sign; an opened bracket has been closed. -/
def isComplete (scan : AuthorityScan) : Bool :=
  scan.opened == scan.closed && scan.colons ≤ 1 && !scan.hasPercent

end AuthorityScan

def isAuthority (chars : List Char) : Bool :=
  !chars.isEmpty && chars.getLast? != some '@' &&
    ((chars.foldlM AuthorityScan.step? .start).map AuthorityScan.isComplete).getD false

/-- The characters beyond the blank that no path has; the last is the control
character at the end of ASCII. -/
def barredFromPath : List Char :=
  ['#', '<', '>', '?', '\x60', '\x7f']

def barredFromQuery : List Char :=
  ['"', '#', '<', '>', '\x7f']

def isPathChar (char : Char) : Bool :=
  ' ' < char && !barredFromPath.contains char

def isQueryChar (char : Char) : Bool :=
  ' ' < char && !barredFromQuery.contains char

/-- A path and perhaps a query after a question mark; the empty path is the root.
What follows a hash is skipped. -/
def ofTarget? (scheme authority : Option (List Char)) (chars : List Char) : Option Uri :=
  let target := chars.takeWhile (· != '#')
  let path := target.takeWhile (· != '?')
  let query := match target.dropWhile (· != '?') with
    | [] => none
    | _ :: query => some query
  if path.all isPathChar && (query.getD []).all isQueryChar then
    some ⟨scheme, authority, if path.isEmpty then ['/'] else path, query⟩
  else none

def ofServer? (scheme rest : List Char) : Option Uri :=
  let authority := rest.takeWhile fun char => !endsAuthority char
  if scheme.length ≤ mostSchemeChars && isAuthority authority then
    ofTarget? (some (normalScheme scheme)) (some authority) (rest.drop authority.length)
  else none

def ofChars? (chars : List Char) : Option Uri :=
  match chars with
  | '/' :: _ => ofTarget? none none chars
  | ['*'] => some ⟨none, none, ['*'], none⟩
  | _ =>
      match splitScheme? chars with
      | some (scheme, rest) => ofServer? scheme rest
      | none => if isAuthority chars then some ⟨none, some chars, [], none⟩ else none

def mostBytes : Nat := 65534

def ofText? (text : String) : Option Uri :=
  if text.utf8ByteSize ≤ mostBytes then ofChars? text.toList else none

end Uri
end WorkflowBus
