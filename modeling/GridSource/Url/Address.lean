import GridSource.Url.Percent

/-!
# Addresses

An address is split into scheme, authority, path, query and fragment, and each
part is brought into normal form: scheme and host in lower case, no default
port, no dot segments in the path of an absolute address, and every character
that a part may not hold percent-encoded.  A relative address is appended to a
base.
-/

namespace GridSource

structure Address where
  scheme : String
  user : String
  host : String
  port : Option Nat
  path : String
  query : Option String
  fragment : Option String
deriving Repr, DecidableEq, Inhabited

namespace Address

/-- Printable ASCII without the listed characters. -/
def printableExcept (excluded : List Char) (character : Char) : Bool :=
  decide (0x20 < character.toNat ∧ character.toNat < 0x7f) && !excluded.contains character

def isFragmentSafe : Char → Bool := printableExcept ['"', '<', '>', '`']

def isQuerySafe : Char → Bool := printableExcept ['"', '#', '<', '>']

def isPathSafe : Char → Bool :=
  printableExcept ['"', '#', '<', '>', '?', '`', '\x7b', '\x7d']

def isUserSafe : Char → Bool :=
  printableExcept ['"', '#', '<', '>', '?', '`', '\x7b', '\x7d', '/', ':', ';', '=', '@', '[',
    '\\', ']', '^', '|']

/-- Encodes a part; escapes that are already there stay as they are. -/
def encodePart (safe : Char → Bool) : List Char → List Char
  | [] => []
  | '%' :: high :: low :: rest =>
      match Percent.hexValue? high, Percent.hexValue? low with
      | some _, some _ => '%' :: high :: low :: encodePart safe rest
      | _, _ => Percent.encodeChar (escapeFree safe) '%' ++ encodePart safe (high :: low :: rest)
  | character :: rest => Percent.encodeChar (escapeFree safe) character ++ encodePart safe rest
where
  escapeFree (safe : Char → Bool) (character : Char) : Bool :=
    character != '%' && (Percent.isUnreserved character || safe character)

def encodeText (safe : Char → Bool) (content : List Char) : String :=
  String.ofList (encodePart safe content)

/-- Why a text is no address. -/
inductive Fault where
  | invalid
deriving Repr, DecidableEq

def isSchemeChar (character : Char) : Bool :=
  character.isAlphanum || character == '+' || character == '.' || character == '-'

/-- The scheme before a colon, if there is one. -/
def splitScheme (characters : List Char) : List Char × List Char :=
  let scheme := characters.takeWhile isSchemeChar
  match scheme, characters.drop scheme.length with
  | first :: _, ':' :: rest => if first.isAlpha then (scheme, rest) else ([], characters)
  | [], ':' :: rest => ([], rest)
  | _, _ => ([], characters)

/-- What comes before and after the first of a character. -/
def splitFirst (separator : Char) (characters : List Char) : List Char × Option (List Char) :=
  match characters.dropWhile (· != separator) with
  | [] => (characters, none)
  | _ :: rest => (characters.takeWhile (· != separator), some rest)

/-- What comes before and after the last of a character. -/
def splitLast (separator : Char) (characters : List Char) : Option (List Char) × List Char :=
  let (last, before) := splitFirst separator characters.reverse
  (before.map List.reverse, last.reverse)

def defaultPort? (scheme : String) : Option Nat :=
  [("http", 80), ("https", 443), ("ws", 80), ("wss", 443), ("ftp", 21)].lookup scheme

/-- A port; an empty one and the default of the scheme are left out. -/
def readPort (scheme : String) (digits : List Char) : Except Fault (Option Nat) :=
  if digits.isEmpty then .ok none
  else if digits.all Char.isDigit then
    let port := digits.foldl (fun value digit => value * 10 + (digit.toNat - 0x30)) 0
    .ok (if defaultPort? scheme = some port then none else some port)
  else .error .invalid

def readHost (characters : List Char) : List Char × List Char :=
  match characters with
  | '[' :: _ =>
      match splitLast ']' characters with
      | (some before, after) => (before ++ [']'], after)
      | (none, _) => (characters.takeWhile (· != ':'), characters.dropWhile (· != ':'))
  | _ => (characters.takeWhile (· != ':'), characters.dropWhile (· != ':'))

/-- Removes `.` segments, and `..` segments with the segment before them. -/
def normalizePath (path : List Char) : List Char :=
  let segments := splitSegments path
  if segments.any fun segment => segment == ['.'] || segment == ['.', '.'] then
    joinSegments (segments.foldl step [])
  else path
where
  splitSegments : List Char → List (List Char)
    | [] => [[]]
    | character :: rest =>
        match splitSegments rest with
        | segment :: others =>
            if character = '/' then [] :: segment :: others else (character :: segment) :: others
        | [] => [[character]]
  joinSegments (segments : List (List Char)) : List Char := ['/'].intercalate segments
  step (output : List (List Char)) (segment : List Char) : List (List Char) :=
    if segment = ['.'] then output
    else if segment = ['.', '.'] then
      if output.isEmpty || output == [[]] then output else output.dropLast
    else output ++ [segment]

def isControl (character : Char) : Bool :=
  decide (character.toNat < 0x20 ∨ character.toNat = 0x7f)

/-- The longest text that is read as an address. -/
def mostCharacters : Nat := 65536

/-- A user and, after a colon, a password. -/
def encodeUser (characters : List Char) : String :=
  match splitFirst ':' characters with
  | (user, some password) =>
      encodeText isUserSafe user ++ ":" ++ encodeText isUserSafe password
  | (user, none) => encodeText isUserSafe user

/-- Brings the parts of an address into normal form. -/
def ofParts (scheme authority path : List Char) (query fragment : Option (List Char)) :
    Except Fault Address := do
  let schemeName := String.ofList (scheme.map Char.toLower)
  let (user, hostAndPort) := splitLast '@' authority
  let (host, afterHost) := readHost hostAndPort
  let portDigits :=
    match afterHost with
    | ':' :: digits => digits
    | digits => digits
  let port ← readPort schemeName portDigits
  let hasAuthority := !authority.isEmpty
  if hasAuthority && !path.isEmpty && path.head? != some '/' then throw .invalid
  if !hasAuthority && path.take 2 == ['/', '/'] then throw .invalid
  if schemeName.isEmpty && !hasAuthority && path.head? == some ':' then throw .invalid
  let normalPath :=
    if schemeName.isEmpty && !hasAuthority then path else normalizePath path
  return {
    scheme := schemeName
    user := encodeUser (user.getD [])
    host := encodeText isPathSafe (host.map Char.toLower)
    port
    path := encodeText isPathSafe normalPath
    query := query.map (encodeText isQuerySafe)
    fragment := fragment.map (encodeText isFragmentSafe) }

def read (content : String) : Except Fault Address :=
  let characters := content.toList
  if mostCharacters < characters.length || characters.any isControl then .error .invalid
  else
    let (scheme, afterScheme) := splitScheme characters
    let isAuthorityEnd (character : Char) : Bool :=
      character == '/' || character == '?' || character == '#'
    let (authority, afterAuthority) :=
      match afterScheme with
      | '/' :: '/' :: rest =>
          (rest.takeWhile (!isAuthorityEnd ·), rest.dropWhile (!isAuthorityEnd ·))
      | rest => ([], rest)
    let (beforeFragment, fragment) := splitFirst '#' afterAuthority
    let (path, query) := splitFirst '?' beforeFragment
    ofParts scheme authority path query fragment

def authority (address : Address) : String :=
  (if address.user.isEmpty then "" else address.user ++ "@") ++ address.host ++
    (match address.port with
    | some port => ":" ++ toString port
    | none => "")

def write (address : Address) : String :=
  (if address.scheme.isEmpty then "" else address.scheme ++ ":") ++
    (if address.authority.isEmpty then "" else "//" ++ address.authority) ++ address.path ++
    (match address.query with
    | some query => "?" ++ query
    | none => "") ++
    (match address.fragment with
    | some fragment => "#" ++ fragment
    | none => "")

def isAbsolute (address : Address) : Bool := !address.scheme.isEmpty && !address.host.isEmpty

/-- Path and query, the path never empty. -/
def target (address : Address) : String :=
  (if address.path.isEmpty then "/" else address.path) ++
    (match address.query with
    | some query => "?" ++ query
    | none => "")

/-- The address with another path and query. -/
def withTarget (address : Address) (target : String) : Except Fault Address :=
  let (path, query) := splitFirst '?' target.toList
  ofParts address.scheme.toList address.authority.toList path query
    (address.fragment.map String.toList)

/-- A base ends in a slash. -/
def readBase (content : String) : Except Fault Address := do
  let address ← read content
  if address.target.endsWith "/" then return address
  else address.withTarget (address.target ++ "/")

/-- An absolute address stands for itself; a relative one is appended to the base. -/
def merge (base : Address) (content : String) : Except Fault Address := do
  let address ← read content
  if address.isAbsolute then return address
  else
    base.withTarget (base.target ++
      String.ofList (address.target.toList.dropWhile (· == '/')))

end Address

end GridSource
