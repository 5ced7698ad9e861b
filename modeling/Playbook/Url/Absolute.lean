import Playbook.Url.Domain
import Playbook.Text.Blank

/-!
Which texts are absolute URLs. A scheme comes first; the schemes of the web need a host, a file may
have one, and any other scheme is free to have an authority or an opaque rest. Nothing behind the
authority can make a URL invalid.
-/

namespace Playbook.Url

/-- How a scheme treats what follows it. -/
inductive SchemeKind where
  | file
  | web
  | other
  deriving Repr, DecidableEq

def SchemeKind.ofName (name : List Char) : SchemeKind :=
  let s := String.ofList name
  if s = "file" then .file
  else if s = "http" ∨ s = "https" ∨ s = "ws" ∨ s = "wss" ∨ s = "ftp" then .web
  else .other

/-- In the schemes of files and the web a backslash is a slash. -/
def SchemeKind.isSpecial : SchemeKind → Bool
  | .other => false
  | _ => true

/-- Control characters and spaces, which are dropped at both ends of a URL. -/
def isEdge (c : Char) : Bool := c.toNat ≤ 0x20

/-- Tabs and line breaks, which are dropped wherever they stand. -/
def isSkipped (c : Char) : Bool := c == '\t' || c == '\n' || c == '\r'

/-- The characters of a URL that count. -/
def significant (cs : List Char) : List Char :=
  (((cs.dropWhile isEdge).reverse.dropWhile isEdge).reverse).filter fun c => !isSkipped c

def isSchemeChar (c : Char) : Bool :=
  c.isAlphanum || c == '+' || c == '-' || c == '.'

/-- The scheme in lower case, and what follows its colon. -/
def scheme? (cs : List Char) : Option (List Char × List Char) :=
  match cs with
  | first :: _ =>
    if first.isAlpha then
      match cs.dropWhile isSchemeChar with
      | ':' :: rest => some ((cs.takeWhile isSchemeChar).map Char.toLower, rest)
      | _ => none
    else none
  | [] => none

/-- What ends an authority. -/
def endsAuthority (kind : SchemeKind) (c : Char) : Bool :=
  c == '/' || c == '?' || c == '#' || (kind.isSpecial && c == '\\')

/-- Splits an authority at its last `@`; there is no user part without one. -/
def splitUser (authority : List Char) : Option (List Char) × List Char :=
  if authority.contains '@' then
    let host := (authority.reverse.takeWhile (· != '@')).reverse
    (some (authority.take (authority.length - host.length - 1)), host)
  else (none, authority)

/-- Splits a host from the number behind the first colon outside brackets. -/
def splitNumber : Bool → List Char → List Char × Option (List Char)
  | _, [] => ([], none)
  | inside, c :: rest =>
    if c = ':' ∧ inside = false then ([], some rest)
    else
      let inside := if c = '[' then true else if c = ']' then false else inside
      let (host, number) := splitNumber inside rest
      (c :: host, number)

/-- The number of a socket has digits only, and fits into sixteen bits. -/
def isSocketNumber (kind : SchemeKind) (cs : List Char) : Bool :=
  let digits := if kind.isSpecial then cs else cs.takeWhile (· != '\\')
  digits.all Char.isDigit && numberIn 10 (digits.dropWhile (· == '0')) ≤ 65535

/-- Replaces the percent escapes of bytes. -/
def percentDecode : List UInt8 → List UInt8
  | [] => []
  | 37 :: a :: b :: rest =>
    let ca := Char.ofNat a.toNat
    let cb := Char.ofNat b.toNat
    if isHexDigit ca && isHexDigit cb then
      UInt8.ofNat (16 * hexValue ca + hexValue cb) :: percentDecode rest
    else 37 :: percentDecode (a :: b :: rest)
  | b :: rest => b :: percentDecode rest

/-- Whether text between brackets is an address, when a host starts with a bracket. -/
def isBracketed (host : List Char) : Bool :=
  host.getLast? == some ']' && isEightGroupAddress (host.drop 1).dropLast

/-- Whether a host of a special scheme is an address or a name. -/
def isHost (host : List Char) : Bool :=
  if host.head? = some '[' then isBracketed host
  else
    match Text.ofUtf8? (percentDecode (Text.toUtf8 (String.ofList host))) with
    | none => false
    | some decoded =>
      match asciiName? decoded.toList with
      | none => false
      | some name =>
        !name.isEmpty && (!endsInNumber name || isFourPartAddress name)

/-- Characters that no host of another scheme holds. -/
def isForbiddenOpaque (c : Char) : Bool :=
  ['\x00', '\t', '\n', '\r', ' ', '#', '/', ':', '<', '>', '?', '@', '[', '\\', ']', '^',
    '|'].contains c

/-- Whether a host of a scheme that is not special is an address or free text. -/
def isOpaqueHost (host : List Char) : Bool :=
  if host.head? = some '[' then isBracketed host else !host.any isForbiddenOpaque

/-- Whether a user part leaves something in front of the host: a name, or a password. -/
def hasUser : Option (List Char) → Bool
  | none => false
  | some user => !user.isEmpty && user != [':']

/-- Whether what follows the two slashes of a scheme that is not special, or the slashes of a
scheme of the web, starts with an authority that is allowed. -/
def isAuthority (kind : SchemeKind) (cs : List Char) : Bool :=
  let authority := cs.takeWhile fun c => !endsAuthority kind c
  let follows := cs.length != authority.length
  let (user, rest) := splitUser authority
  let (host, number) := splitNumber false rest
  let emptyUser := user == some []
  if emptyUser && rest.isEmpty && follows then false
  else if !(number.map (isSocketNumber kind)).getD true then false
  else if kind = .web then !host.isEmpty && isHost host
  else
    isOpaqueHost host && !(host.isEmpty && (number.isSome || hasUser user))

/-- Whether text is a drive, which is a path and no host. -/
def isDrive (cs : List Char) : Bool :=
  match cs with
  | [a, b] => a.isAlpha && (b == ':' || b == '|')
  | _ => false

def isSlash (c : Char) : Bool := c == '/' || c == '\\'

/-- Whether what follows the scheme of a file is allowed. -/
def isFileRest (cs : List Char) : Bool :=
  match cs with
  | a :: b :: rest =>
    if isSlash a && isSlash b then
      let host := rest.takeWhile fun c => !endsAuthority .file c
      host.isEmpty || isDrive host || isHost host
    else true
  | _ => true

/-- Whether text is an absolute URL. -/
def isAbsolute (s : String) : Bool :=
  match scheme? (significant s.toList) with
  | none => false
  | some (name, rest) =>
    match SchemeKind.ofName name with
    | .file => isFileRest rest
    | .web => isAuthority .web (rest.dropWhile isSlash)
    | .other =>
      match rest with
      | '/' :: '/' :: more => isAuthority .other more
      | _ => true

end Playbook.Url
