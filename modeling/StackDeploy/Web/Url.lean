/-
# URLs

An endpoint is given as a URL. Reading it brings it into one form: the scheme and the host are in
small letters, the usual port of a scheme is left out, dot segments of the path are resolved, and
what may not stand in a part is escaped. Only URLs with a host are of use here; a URL without one is
told apart from a text that is no URL.
-/

import StackDeploy.Web.Host

namespace StackDeploy.Web

/-- A URL with a host. All texts are in their escaped form; the path starts with a slash or is
empty. -/
structure Url where
  scheme : String
  userInfo : String
  host : Host
  port : Option Nat
  path : String
  query : Option String
  fragment : Option String
deriving DecidableEq

/-- The schemes with a usual port, which share the rules of the web. -/
def usualPorts : List (String × Nat) :=
  [("http", 80), ("https", 443), ("ws", 80), ("wss", 443), ("ftp", 21)]

/-- The scheme of local files. -/
def fileScheme : String := "file"

/-- Whether a scheme follows the rules of the web, files included. -/
def isSpecial (scheme : String) : Bool :=
  scheme == fileScheme || usualPorts.any fun usual => usual.1 == scheme

/-- The usual port of a scheme. -/
def usualPort (scheme : String) : Option Nat :=
  (usualPorts.find? fun usual => usual.1 == scheme).map Prod.snd

namespace Url

/-! ## Characters that are escaped in each part -/

/-- The characters that are escaped in a fragment. -/
def fragmentEscapes : List Char := [' ', '"', '<', '>', Char.ofNat 96]

/-- The characters that are escaped in a path. -/
def pathEscapes : List Char := fragmentEscapes ++ ['#', '?', '\x7b', '\x7d']

/-- The characters that are escaped in the part before the host. -/
def userInfoEscapes : List Char :=
  pathEscapes ++ ['/', ':', ';', '=', '@', '[', '\\', ']', '^', '|']

/-- The characters that are escaped in a query. -/
def queryEscapes (scheme : String) : List Char :=
  [' ', '"', '#', '<', '>'] ++ (if isSpecial scheme then ['\''] else [])

/-! ## Parts of a text -/

/-- A text without the controls and spaces at its ends and without tabs and line ends. -/
def cleaned (cs : List Char) : List Char :=
  let isEdge (c : Char) : Bool := c.val ≤ 0x20
  ((cs.dropWhile isEdge).reverse.dropWhile isEdge).reverse.filter fun c =>
    !(c == '\t' || c == '\n' || c == '\r')

/-- Whether a character may follow the first letter of a scheme. -/
def isSchemeChar (c : Char) : Bool :=
  c.isAlphanum || c == '+' || c == '-' || c == '.'

/-- The scheme of a text in small letters, and what follows its colon. -/
def cutScheme (cs : List Char) : Option (String × List Char) :=
  match Text.cutFirst ':' cs with
  | some (c :: more, after) =>
    if c.isAlpha && more.all isSchemeChar then
      some (String.ofList ((c :: more).map Char.toLower), after)
    else none
  | _ => none

/-- Whether a character separates the segments of a path. -/
def isSlash (special : Bool) (c : Char) : Bool :=
  c == '/' || (special && c == '\\')

/-- Whether a character ends the part of a URL with the host. -/
def endsAuthority (special : Bool) (c : Char) : Bool :=
  isSlash special c || c == '?' || c == '#'

/-- The part with the host and what follows it. -/
def cutAuthority (special : Bool) (cs : List Char) : List Char × List Char :=
  (cs.takeWhile fun c => !endsAuthority special c, cs.dropWhile fun c => !endsAuthority special c)

/-- The part before the host in escaped form, with its closing sign. -/
def userInfoText (cs : List Char) : String :=
  let (user, password) :=
    match Text.cutFirst ':' cs with
    | some (user, password) => (user, password)
    | none => (cs, [])
  let user := escapeChars userInfoEscapes user
  let password := escapeChars userInfoEscapes password
  if user.isEmpty && password.isEmpty then ""
  else
    String.ofList (user ++ (if password.isEmpty then [] else ':' :: password) ++ ['@'])

/-- The host and the text after its colon; colons in brackets belong to the host. The text is the
port and, from a backslash on, the start of the path. -/
def cutPort (inBrackets : Bool) : List Char → List Char × Option (List Char)
  | [] => ([], none)
  | c :: rest =>
    if c = ':' ∧ !inBrackets then ([], some rest)
    else
      let (host, digits) :=
        cutPort (if c = '[' then true else if c = ']' then false else inBrackets) rest
      (c :: host, digits)

/-- Reads a port; none is given by no digits, or by the usual port of the scheme. -/
def readPort (scheme : String) (digits : List Char) : Except UrlError (Option Nat) :=
  if digits.isEmpty then .ok none
  else if digits.all Char.isDigit then
    match valueOf 10 digits with
    | some n =>
      if 65535 < n then .error .invalidPort
      else .ok (if usualPort scheme = some n then none else some n)
    | none => .error .invalidPort
  else .error .invalidPort

/-! ## Paths -/

/-- Whether a segment stands for its own directory. -/
def isSingleDot (segment : List Char) : Bool :=
  [".", "%2e"].any fun dots => segment.map Char.toLower == dots.toList

/-- Whether a segment stands for the directory above. -/
def isDoubleDot (segment : List Char) : Bool :=
  ["..", ".%2e", "%2e.", "%2e%2e"].any fun dots => segment.map Char.toLower == dots.toList

/-- Whether a segment is the letter of a drive with its colon or bar. -/
def isDriveLetter : List Char → Bool
  | [letter, mark] => letter.isAlpha && (mark == ':' || mark == '|')
  | _ => false

/-- The directory above; that of a drive is the drive itself. -/
def parent (kept : List (List Char)) : List (List Char) :=
  if kept.getLast?.any isDriveLetter then kept else kept.dropLast

/-- The segments of a path with the dot segments resolved, after those that are kept already. A dot
segment at the end leaves an empty segment. -/
def resolve (kept : List (List Char)) : List (List Char) → List (List Char)
  | [] => kept
  | segment :: rest =>
    if isDoubleDot segment then
      resolve (if rest.isEmpty then parent kept ++ [[]] else parent kept) rest
    else if isSingleDot segment then resolve (if rest.isEmpty then kept ++ [[]] else kept) rest
    else resolve (kept ++ [segment]) rest

/-- The segments of a path, which starts with a slash or stands right behind one. -/
def segments (special : Bool) (cs : List Char) : List (List Char) :=
  let plain := cs.map fun c => if isSlash special c then '/' else c
  Text.splitAt '/' (match plain with | '/' :: rest => rest | rest => rest)

/-- The segments that a path leads through, in escaped form. -/
def resolved (special : Bool) (cs : List Char) : List (List Char) :=
  resolve [] ((segments special cs).map (escapeChars pathEscapes))

/-- The path of a text: special schemes always have one. -/
def pathText (scheme : String) (cs : List Char) : String :=
  if cs.isEmpty && !isSpecial scheme then ""
  else
    let all := resolved (isSpecial scheme) cs
    let kept := if scheme == fileScheme then all.dropWhile List.isEmpty else all
    String.ofList ('/' :: Text.joinWith '/' kept)

/-! ## URLs -/

/-- Sets the path, query and fragment that follow the host. -/
def withRest (u : Url) (cs : List Char) : Url :=
  let (front, fragment) :=
    match Text.cutFirst '#' cs with
    | some (front, fragment) => (front, some fragment)
    | none => (cs, none)
  let (path, query) :=
    match Text.cutFirst '?' front with
    | some (path, query) => (path, some query)
    | none => (front, none)
  { u with
    path := pathText u.scheme path
    query := query.map fun q => String.ofList (escapeChars (queryEscapes u.scheme) q)
    fragment := fragment.map fun f => String.ofList (escapeChars fragmentEscapes f) }

/-- Reads what follows the two slashes. -/
def ofAuthority (scheme : String) (cs : List Char) : Except UrlError (Option Url) := do
  let special := isSpecial scheme
  let (authority, rest) := cutAuthority special cs
  let (userInfo, place) :=
    match Text.cutLast '@' authority with
    | some (userInfo, place) => (some userInfo, place)
    | none => (none, authority)
  let info := (userInfo.map userInfoText).getD ""
  let (name, afterColon) := cutPort false place
  let (digits, pathStart) := (afterColon.getD []).span (· != '\\')
  if name.isEmpty then
    let isBareSign := userInfo.any List.isEmpty && !rest.isEmpty
    if special || afterColon.isSome || isBareSign || info ≠ "" then .error .emptyHost else .ok none
  else
    let host ← if special then Host.ofText name else Host.ofOpaqueText name
    let port ← readPort scheme digits
    .ok (some (withRest ⟨scheme, info, host, port, "", none, none⟩ (pathStart ++ rest)))

/-- Whether what follows a host leads to a drive. -/
def leadsToDrive (rest : List Char) : Bool :=
  (resolved true (rest.takeWhile fun c => c != '?' && c != '#')).head?.any isDriveLetter

/-- Reads what follows the colon of a file URL. It has a host only between two slashes and the path;
the local machine is none, and neither is a drive, nor does a path to a drive keep one. -/
def ofFile (cs : List Char) : Except UrlError (Option Url) :=
  match cs with
  | a :: b :: after =>
    if isSlash true a && isSlash true b then
      let (name, rest) := cutAuthority true after
      if name.isEmpty || isDriveLetter name then .ok none
      else do
        let host ← Host.ofText name
        if host = .domain "localhost" || leadsToDrive rest then .ok none
        else .ok (some (withRest ⟨fileScheme, "", host, none, "", none, none⟩ rest))
    else .ok none
  | _ => .ok none

/-- Reads a URL; one without a host is no error but gives none. -/
def ofText (s : String) : Except UrlError (Option Url) :=
  match cutScheme (cleaned s.toList) with
  | none => .error .relative
  | some (scheme, after) =>
    if scheme == fileScheme then ofFile after
    else if isSpecial scheme then ofAuthority scheme (after.dropWhile (isSlash true))
    else
      match after with
      | '/' :: '/' :: rest => ofAuthority scheme rest
      | _ => .ok none

/-- The host with its port, unless that is the usual one. -/
def hostText (u : Url) : String :=
  match u.port with
  | some port => u.host.text ++ ":" ++ Text.decimal port
  | none => u.host.text

/-- The text of a URL. -/
def text (u : Url) : String :=
  u.scheme ++ "://" ++ u.userInfo ++ u.hostText ++ u.path ++
    (match u.query with | some query => "?" ++ query | none => "") ++
    (match u.fragment with | some fragment => "#" ++ fragment | none => "")

/-- What is sent in the first line of a request: the path and the query. -/
def target (u : Url) : String :=
  u.path ++ (match u.query with | some query => "?" ++ query | none => "")

/-- The URL with a path, whose dot segments are resolved. -/
def setPath (path : String) (u : Url) : Url :=
  { u with path := pathText u.scheme path.toList }

/-- The URL with a query, or without any. -/
def setQuery (query : Option String) (u : Url) : Url :=
  { u with
    query := query.map fun q => String.ofList (escapeChars (queryEscapes u.scheme) q.toList) }

/-- The user before the host and the password, if there is one, both in escaped form. -/
def userParts (u : Url) : List Char × Option (List Char) :=
  let info := u.userInfo.toList.dropLast
  match Text.cutFirst ':' info with
  | some (user, password) => (user, some password)
  | none => (info, none)

/-- The user and the password that a URL gives. A user that stands for no text gives none, and a
password that stands for no text is taken for a missing one. -/
def credentials? (u : Url) : Option (String × Option String) :=
  match unescapeText u.userParts.1 with
  | none => none
  | some user =>
    let password := u.userParts.2.bind unescapeText
    if user.isEmpty && password.isNone then none else some (user, password)

/-- The URL without the part before its host, from which the user and the password were taken; what
gives none stays. -/
def withoutCredentials (u : Url) : Url :=
  { u with userInfo := if u.credentials?.isSome then "" else u.userInfo }

end Url

end StackDeploy.Web
