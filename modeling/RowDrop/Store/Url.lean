import RowDrop.Store.Host

/-!
# Addresses of objects

An address is put together as text and then read as a URL: the scheme in lower case, the host in
its one form, a socket that the scheme implies left out, `.` and `..` taken out of the path, and
characters that may not stand in a URL written by the numbers of their bytes. What a URL says about
a user is left out too, as far as it is text.
-/

namespace RowDrop

/-- An address, in its parts. -/
structure Url where
  scheme : List Char
  /-- What is said about a user, with the sign behind it, where it is no text. -/
  user : List Char
  /-- The host, and the socket if it is not the one that the scheme implies. -/
  host : List Char
  /-- The path with the slash at its front, if there is one. -/
  path : List Char
  query : Option (List Char)
  fragment : Option (List Char)
  deriving DecidableEq, Repr

namespace Url

/-- The characters of a key that stand for themselves in an address. -/
def keepsInKey (c : Char) : Bool := c.isAlphanum || "-._~/".contains c

/-- The characters that stay in a path as they are. -/
def keepsInPath (c : Char) : Bool := Host.isGraphic c && !"\"#<>?`\x7b\x7d".contains c

/-- The characters that stay in the name of a user as they are. -/
def keepsInUser (c : Char) : Bool := keepsInPath c && !"/:;=@[\\]^|".contains c

/-- The characters that stay in a query as they are. -/
def keepsInQuery (special : Bool) (c : Char) : Bool :=
  Host.isGraphic c && !"\"#<>".contains c && !(special && c = '\'')

/-- The characters that stay in a fragment as they are. -/
def keepsInFragment (c : Char) : Bool := Host.isGraphic c && !"\"<>`".contains c

/-- The sockets that schemes imply. -/
def impliedSockets : List (String × Nat) :=
  [("http", 80), ("https", 443), ("ftp", 21), ("ws", 80), ("wss", 443)]

/-- The kinds of schemes. -/
inductive Kind where
  /-- The host is a domain name, and the scheme implies a socket. -/
  | network (socket : Nat)
  /-- A file, which may lie on another machine. -/
  | file
  /-- The host is any text. -/
  | other
  deriving DecidableEq, Repr

namespace Kind

/-- The kind of a scheme. -/
def ofScheme (scheme : List Char) : Kind :=
  let scheme := String.ofList scheme
  match impliedSockets.lookup scheme with
  | some socket => network socket
  | none => if scheme = "file" then file else other

/-- A backslash counts as a slash, and there always is a path. -/
def isSpecial (kind : Kind) : Bool := kind ≠ other

/-- The character is a slash. -/
def isSlash (kind : Kind) (c : Char) : Bool := c = '/' || kind.isSpecial && c = '\\'

/-- The character ends the part of an address with the host. -/
def endsHost (kind : Kind) (c : Char) : Bool := kind.isSlash c || c = '?' || c = '#'

end Kind

/-- Cuts a text at the first character with a property; that character stays in front of the
second part. -/
def cutAt (p : Char → Bool) (text : List Char) : List Char × List Char :=
  (text.takeWhile (!p ·), text.dropWhile (!p ·))

/-- The text without controls and blanks of the basic set at its ends, and without tabs and line
ends. -/
def clean (text : List Char) : List Char :=
  let isTrimmed (c : Char) : Bool := c.toNat ≤ 0x20
  let text := ((text.dropWhile isTrimmed).reverse.dropWhile isTrimmed).reverse
  text.filter fun c => !"\t\n\r".contains c

/-- The scheme of a text in lower case, and what stands behind its colon. -/
def cutScheme? (text : List Char) : Option (List Char × List Char) :=
  let (scheme, rest) := cutAt (· = ':') text
  let fits (c : Char) : Bool := c.isAlphanum || "+-.".contains c
  match scheme, rest with
  | first :: _, _ :: rest =>
    if first.isAlpha ∧ scheme.all fits then some (scheme.map Char.toLower, rest) else none
  | _, _ => none

/-- What stands behind the slashes in front of the host: any number of them or none, where the
scheme implies a socket, and two otherwise. -/
def cutSlashes? (kind : Kind) (text : List Char) : Option (List Char) :=
  match kind with
  | .network _ => some (text.dropWhile kind.isSlash)
  | .file | .other =>
    match text with
    | first :: second :: rest =>
      if kind.isSlash first ∧ kind.isSlash second then some rest else none
    | _ => none

/-- Cuts what is said about a user off the host: all in front of the last at sign. -/
def cutUser (text : List Char) : Option (List Char) × List Char :=
  let host := (text.reverse.takeWhile (· ≠ '@')).reverse
  if host.length = text.length then (none, host)
  else (some (text.take (text.length - host.length - 1)), host)

/-- The name of a user and the password behind it, if there is one. -/
def cutPassword (user : List Char) : List Char × Option (List Char) :=
  match cutAt (· = ':') user with
  | (name, _ :: first :: rest) => (name, some (first :: rest))
  | (name, _) => (name, none)

/-- What an address shows of a user. A name and a password that are text are taken out of it and
sent in another way. -/
def shownUser (user : List Char) : List Char :=
  let (name, password) := cutPassword user
  let isText (text : List Char) : Bool := (Percent.decode? text).isSome
  if isText name ∧ (name ≠ [] ∨ password.any isText) then []
  else if user = [] ∨ user = [':'] then []
  else
    Percent.encode keepsInUser name
      ++ (password.map fun password => ':' :: Percent.encode keepsInUser password).getD [] ++ ['@']

/-- Cuts the host off at the first colon that is not between brackets. -/
def cutSocket : (inside : Bool) → List Char → List Char × List Char
  | _, [] => ([], [])
  | inside, c :: rest =>
    if c = ':' ∧ !inside then ([], c :: rest)
    else
      let inside := if c = '[' then true else if c = ']' then false else inside
      let (host, socket) := cutSocket inside rest
      (c :: host, socket)

/-- Reads the socket behind a host, if there is one. Gives it as it is shown, and what stands
behind it. -/
def readSocket? (kind : Kind) : List Char → Option (List Char × List Char)
  | ':' :: text =>
    let (digits, rest) := cutAt (!·.isDigit) text
    if !(rest = [] ∨ rest.head? = some '\\') then none
    else if digits = [] then some ([], rest)
    else
      match Text.number? 10 digits with
      | none => none
      | some number =>
        if 65535 < number then none
        else if kind = .network number then some ([], rest)
        else some (':' :: Nat.toDigits 10 number, rest)
  | rest => some ([], rest)

/-- The parts of an address with what is said about a user and with the host, and the rest. -/
def readHost? (kind : Kind) (text : List Char) : Option (List Char × List Char × List Char) := do
  match kind with
  | .file => return ([], ← Host.parseFile? text, [])
  | .network _ | .other =>
    let (user, text) := cutUser text
    let (host, socket) := cutSocket false text
    let host ← if kind = .other then Host.parseAny? host else Host.parse? host
    let (socket, rest) ← readSocket? kind socket
    return ((user.map shownUser).getD [], host ++ socket, rest)

/-- A segment that stands for the directory itself. -/
def isDot (segment : List Char) : Bool :=
  [".", "%2e"].contains (String.ofList (segment.map Char.toLower))

/-- A segment that stands for the directory above. -/
def isDotDot (segment : List Char) : Bool :=
  ["..", ".%2e", "%2e.", "%2e%2e"].contains (String.ofList (segment.map Char.toLower))

/-- What is above some segments, last segment first. The letter of a drive stays. -/
def above : List (List Char) → List (List Char)
  | [] => []
  | last :: rest => if Host.isDrive last then last :: rest else rest

/-- Takes `.` and `..` out of the segments of a path; `front` holds what is in front, last segment
first. -/
def resolveDots (front : List (List Char)) : List (List Char) → List (List Char)
  | [] => front.reverse
  | segment :: rest =>
    let last : List (List Char) := if rest = [] then [[]] else []
    if isDotDot segment then resolveDots (last ++ above front) rest
    else if isDot segment then resolveDots (last ++ front) rest
    else resolveDots (segment :: front) rest

/-- The path of an address, as it is sent. -/
def readPath (kind : Kind) (text : List Char) : List Char :=
  if text = [] ∧ !kind.isSpecial then []
  else
    let text := text.map fun c => if kind.isSlash c then '/' else c
    let text := if text.head? = some '/' then text.drop 1 else text
    (resolveDots [] (Text.split '/' text)).flatMap fun segment =>
      '/' :: Percent.encode keepsInPath segment

/-- The path of a file, with a single slash at its front; none if it begins with the letter of a
drive, because then the file lies on this machine. -/
def readFilePath? (text : List Char) : Option (List Char) :=
  let path := readPath .file text
  if Host.isDrive ((path.drop 1).takeWhile (· ≠ '/')) then none
  else some ('/' :: path.dropWhile (· = '/'))

/-- Reads an address. Those without a host are refused. -/
def parse? (text : String) : Option Url := do
  let (scheme, rest) ← cutScheme? (clean text.toList)
  let kind := Kind.ofScheme scheme
  let (authority, rest) := cutAt kind.endsHost (← cutSlashes? kind rest)
  let (user, host, more) ← readHost? kind authority
  let (hierarchy, fragment) := cutAt (· = '#') (more ++ rest)
  let (path, query) := cutAt (· = '?') hierarchy
  let path ← if kind = .file then readFilePath? path else some (readPath kind path)
  return {
    scheme, user, host, path
    query := query.tail?.map (Percent.encode (keepsInQuery kind.isSpecial))
    fragment := fragment.tail?.map (Percent.encode keepsInFragment) }

/-- The path with the query behind it, as it is sent. -/
def requestPath (url : Url) : String :=
  String.ofList (url.path ++ (url.query.map ('?' :: ·)).getD [])

/-- The host has no character that requests do not allow in it. -/
def hostIsPlain (url : Url) : Bool := !url.host.any fun c => "\"`\x7b\x7d".contains c

/-- The scheme as text. -/
def schemeText (url : Url) : String := String.ofList url.scheme

/-- The address as text. -/
def text (url : Url) : String :=
  String.ofList (url.scheme ++ "://".toList ++ url.user ++ url.host) ++ url.requestPath
    ++ String.ofList ((url.fragment.map ('#' :: ·)).getD [])

end Url
end RowDrop
