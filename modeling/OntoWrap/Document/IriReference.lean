import OntoWrap.Text.Escape

/-!
# IRI references

An IRI has up to five parts: scheme, authority, path, query and fragment.  `Reference.ofChars`
splits a text into them, `Reference.isValid` checks their characters, and `Reference.resolve` turns
a reference into an IRI with the help of a base.  A reference without a scheme is no IRI by itself.
-/
namespace OntoWrap

/-! ## 1. Parts -/

/-- The parts of an IRI or of a reference to one. -/
structure Reference where
  scheme : Option (List Char)
  authority : Option (List Char)
  path : List Char
  query : Option (List Char)
  fragment : Option (List Char)
  deriving DecidableEq, Repr

namespace Reference

/-- Characters of a scheme. -/
def isSchemeChar (c : Char) : Bool := c.isAlphanum || c == '+' || c == '-' || c == '.'

/-- Splits off a scheme: a letter and further characters of a scheme before a colon. -/
def splitScheme (cs : List Char) : Option (List Char) × List Char :=
  match cs.head?, cs.dropWhile isSchemeChar with
  | some first, ':' :: rest =>
    if first.isAlpha then (some (cs.takeWhile isSchemeChar), rest) else (none, cs)
  | _, _ => (none, cs)

/-- Splits off an authority, which begins with two slashes. -/
def splitAuthority : List Char → Option (List Char) × List Char
  | '/' :: '/' :: rest =>
    let inside (c : Char) : Bool := c != '/' && c != '?' && c != '#'
    (some (rest.takeWhile inside), rest.dropWhile inside)
  | cs => (none, cs)

/-- Splits off what follows a mark, if the mark is there. -/
def splitAfter (mark : Char) (inside : Char → Bool) : List Char → Option (List Char) × List Char
  | [] => (none, [])
  | c :: rest =>
    if c = mark then (some (rest.takeWhile inside), rest.dropWhile inside) else (none, c :: rest)

/-- The parts of a text. -/
def ofChars (cs : List Char) : Reference :=
  let (scheme, cs) := splitScheme cs
  let (authority, cs) := splitAuthority cs
  let inPath (c : Char) : Bool := c != '?' && c != '#'
  let path := cs.takeWhile inPath
  let (query, cs) := splitAfter '?' (· != '#') (cs.dropWhile inPath)
  let (fragment, _) := splitAfter '#' (fun _ => true) cs
  { scheme, authority, path, query, fragment }

/-- The text of some parts. -/
def toChars (r : Reference) : List Char :=
  (r.scheme.map (· ++ [':'])).getD []
  ++ (r.authority.map (['/', '/'] ++ ·)).getD []
  ++ r.path
  ++ (r.query.map ('?' :: ·)).getD []
  ++ (r.fragment.map ('#' :: ·)).getD []

/-! ## 2. Characters of the parts -/

/-- ASCII characters that may stand anywhere but in a scheme and a port. -/
def isAsciiChar (c : Char) : Bool := c.isAlphanum || "-._~!$&'()*+,;=".toList.contains c

/-- Characters that may stand anywhere but in a scheme, a port and a numeric address. -/
def isCommonChar (c : Char) : Bool :=
  let n := c.toNat
  isAsciiChar c
    || (0xA0 ≤ n && n ≤ 0xD7FF) || (0xF900 ≤ n && n ≤ 0xFDCF) || (0xFDF0 ≤ n && n ≤ 0xFFEF)
    || (0x10000 ≤ n && n ≤ 0xDFFFF && n % 0x10000 ≤ 0xFFFD)
    || (0xE1000 ≤ n && n ≤ 0xEFFFD)

/-- Characters of private use, which only a query may hold. -/
def isPrivateChar (c : Char) : Bool :=
  let n := c.toNat
  (0xE000 ≤ n && n ≤ 0xF8FF) || (0xF0000 ≤ n && n ≤ 0xFFFFD) || (0x100000 ≤ n && n ≤ 0x10FFFD)

/-- Whether all characters belong to a class, where a percent sign needs two hexadecimal digits. -/
def allIn (allowed : Char → Bool) : List Char → Bool
  | [] => true
  | '%' :: a :: b :: rest => Text.isHexDigit a && Text.isHexDigit b && allIn allowed rest
  | c :: rest => c != '%' && allowed c && allIn allowed rest

/-- Characters of paths. -/
def isPathChar (c : Char) : Bool := isCommonChar c || c == ':' || c == '@' || c == '/'

/-- Characters of queries. -/
def isQueryChar (c : Char) : Bool := isPathChar c || c == '?' || isPrivateChar c

/-- Characters of fragments. -/
def isFragmentChar (c : Char) : Bool := isPathChar c || c == '?'

/-! ## 3. Hosts -/

/-- Splits at the first occurrence of a mark; without one, the second part is missing. -/
def splitAt? (mark : Char) (cs : List Char) : List Char × Option (List Char) :=
  match cs.dropWhile (· != mark) with
  | [] => (cs, none)
  | _ :: rest => (cs.takeWhile (· != mark), some rest)

/-- One number of an address in dotted decimal notation: at most 255, no leading zero. -/
def isOctet (cs : List Char) : Bool :=
  cs ≠ [] && cs.all Char.isDigit && cs.length ≤ 3 && (cs.length = 1 || cs.head? != some '0')
    && cs.foldl (fun n c => n * 10 + (c.toNat - '0'.toNat)) 0 ≤ 255

/-- An address in dotted decimal notation. -/
def isDottedAddress (cs : List Char) : Bool :=
  let parts := cs.splitOn '.'
  parts.length = 4 && parts.all isOctet

/-- One group of a colon address. -/
def isGroup (cs : List Char) : Bool :=
  cs ≠ [] && cs.length ≤ 4 && cs.all Text.isHexDigit

/-- Number of sixteen-bit groups that a side of a colon address holds; a dotted address may end it
and counts for two. -/
def groupCount? (dottedEnd : Bool) (cs : List Char) : Option Nat :=
  if cs = [] then some 0
  else
    let parts := cs.splitOn ':'
    if parts.all isGroup then some parts.length
    else if dottedEnd && parts.dropLast.all isGroup && (parts.getLast?.any isDottedAddress) then
      some (parts.length + 1)
    else none

/-- Splits at the first two colons in a row. -/
def splitGap : List Char → List Char × Option (List Char)
  | ':' :: ':' :: rest => ([], some rest)
  | c :: rest =>
    let (left, right) := splitGap rest
    (c :: left, right)
  | [] => ([], none)

/-- An address of eight groups between colons, of which two colons may leave some out. -/
def isColonAddress (cs : List Char) : Bool :=
  match splitGap cs with
  | (_, none) => groupCount? true cs = some 8
  | (left, some right) =>
    match groupCount? false left, groupCount? true right with
    | some m, some n => m + n ≤ 7
    | _, _ => false

/-- An address of a later version: a `v`, a hexadecimal number, a dot and further characters. -/
def isLaterAddress : List Char → Bool
  | [] => false
  | v :: rest =>
    (v == 'v' || v == 'V') &&
      match splitAt? '.' rest with
      | (version, some address) =>
        version ≠ [] && version.all Text.isHexDigit && address ≠ []
          && address.all fun c => isAsciiChar c || c == ':'
      | (_, none) => false

/-- What may follow a host: nothing, or a port of any number of digits. -/
def isPortPart : List Char → Bool
  | [] => true
  | ':' :: port => port.all Char.isDigit
  | _ => false

/-- A host and its port. -/
def isHostPart : List Char → Bool
  | '[' :: rest =>
    match splitAt? ']' rest with
    | (address, some after) =>
      isPortPart after &&
        (if address.head?.any (fun c => c == 'v' || c == 'V') then isLaterAddress address
        else isColonAddress address)
    | (_, none) => false
  | cs =>
    allIn isCommonChar (cs.takeWhile (· != ':')) && isPortPart (cs.dropWhile (· != ':'))

/-- An authority: a host, after the name of a user if an at sign ends one. -/
def isAuthority (cs : List Char) : Bool :=
  match splitAt? '@' (cs.takeWhile (· != '[')) with
  | (user, some host) =>
    allIn (fun c => isCommonChar c || c == ':') user
      && isHostPart (host ++ cs.dropWhile (· != '['))
  | (_, none) => isHostPart cs

/-- Whether the path would be taken for a scheme and more: its first segment has a colon, and
neither a scheme nor an authority stands before it. -/
def hidesScheme (r : Reference) : Bool :=
  r.scheme.isNone && r.authority.isNone && (r.path.takeWhile (· != '/')).contains ':'

/-- Whether every part holds only what it may hold. -/
def isValid (r : Reference) : Bool :=
  r.authority.all isAuthority && allIn isPathChar r.path
    && r.query.all (allIn isQueryChar) && r.fragment.all (allIn isFragmentChar)
    && !r.hidesScheme

/-! ## 4. Resolution -/

/-- A path up to its last slash, with that slash. -/
def folderOf (path : List Char) : List Char := (path.reverse.dropWhile (· != '/')).reverse

/-- The folder above a folder.  Behind an authority, the root is its own. -/
def above (rooted : Bool) (folder : List Char) : List Char :=
  let up := folderOf folder.dropLast
  if rooted && up = [] then ['/'] else up

/-- Whether a path, written down, would be read as an authority: none stands before it, and it
begins with two slashes. -/
def hidesAuthority (rooted : Bool) (path : List Char) : Bool :=
  !rooted && ['/', '/'].isPrefixOf path

/-- Walks from a folder along the segments of a path: one dot stays where it is and two dots go up.
The folder itself is left as it is written.  The walk fails where a segment other than two dots
belongs to a path that hides an authority; two dots may still lead out of one. -/
def follow (rooted : Bool) (folder : List Char) : List (List Char) → Option (List Char)
  | [] => some folder
  | segment :: rest =>
    if segment = ['.', '.'] then follow rooted (above rooted folder) rest
    else if hidesAuthority rooted (folder ++ segment) then none
    else if segment = ['.'] then follow rooted folder rest
    else if rest = [] then some (folder ++ segment)
    else follow rooted (folder ++ segment ++ ['/']) rest

/-- The path that a relative path leads to where a base holds. -/
def pathFrom (base : Reference) (path : List Char) : Option (List Char) :=
  let rooted := base.authority.isSome
  match path with
  | '/' :: rest => follow rooted ['/'] (rest.splitOn '/')
  | _ =>
    let folder := if rooted && base.path = [] then ['/'] else folderOf base.path
    follow rooted folder (path.splitOn '/')

/-- The IRI that a reference stands for where a base holds.  Only a relative path is looked into:
what comes with a scheme or an authority stays as it is written. -/
def resolve (base r : Reference) : Option Reference :=
  if r.scheme.isSome then some r
  else if r.authority.isSome then some { r with scheme := base.scheme }
  else if r.path = [] then
    some { r with
      scheme := base.scheme, authority := base.authority, path := base.path
      query := r.query <|> base.query }
  else
    (pathFrom base r.path).map fun path =>
      { r with scheme := base.scheme, authority := base.authority, path }

/-- The IRI that a written reference stands for: by itself if it has a scheme, and otherwise only
where a base holds. -/
def read? (base : Option Reference) (written : List Char) : Option Reference :=
  let r := ofChars written
  if !r.isValid then none
  else
    match base with
    | some base => resolve base r
    | none => if r.scheme.isSome then some r else none

end Reference

end OntoWrap
