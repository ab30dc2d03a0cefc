import PortableSql.Text.Chars
import PortableSql.Url.Form
import PortableSql.Url.Host

namespace PortableSql

structure Authority where
  username : List Char
  password : List Char
  host : Host
  port : Option Nat

/-- A URL in parts, each percent-encoded. -/
structure Url where
  scheme : List Char
  authority : Option Authority
  path : List Char
  query : Option (List Char)
  fragment : Option (List Char)

namespace Url

/-- How a scheme reads what follows it. -/
inductive Style where
  | other
  | special
  | file
deriving DecidableEq

def Style.ofScheme (scheme : List Char) : Style :=
  match String.ofList scheme with
  | "http" | "https" | "ws" | "wss" | "ftp" => .special
  | "file" => .file
  | _ => .other

def isSlash (style : Style) (c : Char) : Bool := c == '/' || (c == '\\' && style != .other)

def endsAuthority (style : Style) (c : Char) : Bool :=
  isSlash style c || c == '?' || c == '#'

def isSchemeChar (c : Char) : Bool := c.isAlphanum || c == '+' || c == '-' || c == '.'

/-- The scheme in lower case, and what follows its colon. -/
def scheme? (text : List Char) : Option (List Char × List Char) :=
  match text, Chars.cutFirst ':' text with
  | c :: _, some (scheme, rest) =>
    if c.isAlpha && scheme.all isSchemeChar then some (Chars.asciiLower scheme, rest) else none
  | _, _ => none

/-- The host and what stands after the colon that follows it. A colon in brackets is part of the
host. -/
def cutHost (inBrackets : Bool) : List Char → List Char × Option (List Char)
  | [] => ([], none)
  | c :: rest =>
    if c = ':' ∧ !inBrackets then ([], some rest)
    else
      let (host, port) := cutHost (if c = '[' then true else if c = ']' then false else inBrackets)
        rest
      (c :: host, port)

/-- The port at the start of a text, and the rest of it, which a backslash begins. -/
def readPort (text : List Char) : Except UrlFault (Option Nat × List Char) :=
  let digits := text.takeWhile Char.isDigit
  let rest := text.dropWhile Char.isDigit
  let number := Numeral.digitsValue digits
  if 65535 < number then .error .port
  else
    match rest with
    | [] | '\\' :: _ => .ok (if digits.isEmpty then none else some number, rest)
    | _ => .error .port

structure UserInfo where
  username : List Char := []
  password : List Char := []

def readUserInfo (text : List Char) : UserInfo :=
  let encode := Percent.encode Percent.inUserInfo
  match Chars.cutFirst ':' text with
  | some (username, password) => ⟨encode username, encode password⟩
  | none => ⟨encode text, []⟩

/-- The user, and the host and port in one text. An at sign in front of nothing is refused unless
the URL ends there. -/
def cutUserInfo (text after : List Char) : Except UrlFault (UserInfo × List Char) :=
  match Chars.cutLast '@' text with
  | none => .ok ({}, text)
  | some ([], []) => if after.isEmpty then .ok ({}, []) else .error .emptyHost
  | some (user, rest) => .ok (readUserInfo user, rest)

/-- Reads an authority and gives what follows it. -/
def readAuthority (style : Style) (text : List Char) :
    Except UrlFault (Authority × List Char) := do
  let inside := text.takeWhile (!endsAuthority style ·)
  let after := text.dropWhile (!endsAuthority style ·)
  let (user, rest) ← cutUserInfo inside after
  let (hostText, portText) := cutHost false rest
  if style = .special && hostText.isEmpty then throw .emptyHost
  let host ← if style = .other then Host.readOpaque hostText else Host.readDomain hostText
  if host.isEmpty && portText.isSome then throw .emptyHost
  let (port, rest) ←
    match portText with
    | some text => readPort text
    | none => pure (none, [])
  if host.isEmpty && !(user.username.isEmpty && user.password.isEmpty) then throw .emptyHost
  return (⟨user.username, user.password, host, port⟩, rest ++ after)

def isDot (segment : List Char) : Bool :=
  [".", "%2e"].contains (String.ofList (Chars.asciiLower segment))

def isDoubleDot (segment : List Char) : Bool :=
  ["..", "%2e.", ".%2e", "%2e%2e"].contains (String.ofList (Chars.asciiLower segment))

/-- Whether a segment is taken for a drive: a letter and a colon or bar, and nothing that is read on. -/
def isDrive : List Char → Bool
  | letter :: mark :: rest =>
    letter.isAlpha && (mark == ':' || mark == '|') && (rest.isEmpty || rest.head? == some '\\')
  | _ => false

/-- The segments without the last one, which comes first here. A drive stays. -/
def climb : List (List Char) → List (List Char)
  | [] => []
  | last :: kept => if isDrive last then last :: kept else kept

/-- Resolves dots. `kept` holds the segments before, the last first. -/
def resolveDots (kept : List (List Char)) : List (List Char) → List (List Char)
  | [] => kept.reverse
  | [last] =>
    if isDoubleDot last then ([] :: climb kept).reverse
    else if isDot last then ([] :: kept).reverse
    else (last :: kept).reverse
  | segment :: rest =>
    if isDoubleDot segment then resolveDots (climb kept) rest
    else if isDot segment then resolveDots kept rest
    else resolveDots (segment :: kept) rest

/-- The path whose segments are the pieces of the text between slashes. -/
def hierarchicalPath (style : Style) (text : List Char) : List Char :=
  let text := text.map fun c => if isSlash style c then '/' else c
  let segments := (Chars.splitOn '/' text).map (Percent.encode Percent.inPath)
  (resolveDots [] segments).flatMap ('/' :: ·)

/-- The path, up to the query or the fragment. -/
def readPath (style : Style) (hasAuthority : Bool) (text : List Char) : List Char :=
  match text with
  | [] => if style = .other then [] else ['/']
  | c :: rest =>
    if isSlash style c then hierarchicalPath style rest
    else if hasAuthority then hierarchicalPath style text
    else Percent.encode Percent.isControl text

def cutMark (mark : Char) (text : List Char) : List Char × Option (List Char) :=
  match Chars.cutFirst mark text with
  | some (before, after) => (before, some after)
  | none => (text, none)

/-- Controls and spaces at the ends, and tabs and line ends anywhere, do not count. -/
def clean (text : List Char) : List Char :=
  let outer (c : Char) : Bool := c.toNat ≤ 0x20
  let inner := ((text.dropWhile outer).reverse.dropWhile outer).reverse
  inner.filter fun c => c != '\t' && c != '\n' && c != '\r'

def read (text : List Char) : Except UrlFault Url := do
  let some (scheme, rest) := scheme? (clean text) | throw .relative
  let style := Style.ofScheme scheme
  let (authority, rest) ←
    match style, rest with
    | .special, _ => do
      let (authority, rest) ← readAuthority style (rest.dropWhile (isSlash style))
      pure (some authority, rest)
    | _, a :: b :: more =>
      if isSlash style a && isSlash style b then do
        let (authority, rest) ←
          if style = .file && more.head?.any (endsAuthority style) then
            pure (⟨[], [], .name [], none⟩, more)
          else readAuthority style more
        pure (some authority, rest)
      else pure (none, rest)
    | _, _ => pure (none, rest)
  let (rest, fragment) := cutMark '#' rest
  let (rest, query) := cutMark '?' rest
  return {
    scheme
    authority
    path := readPath style authority.isSome rest
    query := query.map (Percent.encode Percent.inQuery)
    fragment := fragment.map (Percent.encode Percent.inFragment) }

/-- Whether the path is one text and not a list of segments. -/
def hasOpaquePath (url : Url) : Bool := url.authority.isNone && url.path.head? != some '/'

def Authority.text (a : Authority) : List Char :=
  let user :=
    if a.username.isEmpty && a.password.isEmpty then []
    else a.username ++ (if a.password.isEmpty then [] else ':' :: a.password) ++ ['@']
  user ++ a.host.text ++
    match a.port with
    | some n => ':' :: Nat.toDigits 10 n
    | none => []

def text (url : Url) : List Char :=
  let marked (mark : Char) : Option (List Char) → List Char
    | some part => mark :: part
    | none => []
  let hierarchy :=
    match url.authority with
    | some a => '/' :: '/' :: Authority.text a ++ url.path
    | none => if Chars.startsWith ['/', '/'] url.path then '/' :: '.' :: url.path else url.path
  url.scheme ++ ':' :: hierarchy ++ marked '?' url.query ++ marked '#' url.fragment

/-- The pairs of the query. -/
def queryPairs (url : Url) : List Form.Pair := Form.decode (url.query.getD [])

/-- The URL without its query. An opaque path that nothing follows then loses the spaces at its
end. -/
def withoutQuery (url : Url) : Url :=
  let path :=
    if url.hasOpaquePath && url.fragment.isNone then
      (url.path.reverse.dropWhile (· == ' ')).reverse
    else url.path
  { url with query := none, path }

def withQueryPairs (url : Url) (pairs : List Form.Pair) : Url :=
  { url with query := some (Form.encode pairs) }

instance : UrlLibrary Url where
  read text := (read text).mapError UrlFault.message
  text := text
  scheme := scheme
  path := path
  queryPairs := queryPairs
  withoutQuery := withoutQuery
  withQueryPairs := withQueryPairs

end Url

end PortableSql
