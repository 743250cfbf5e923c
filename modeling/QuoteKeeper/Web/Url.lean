import QuoteKeeper.Web.Host

/-!
# Addresses

An address has a scheme and, as the scheme has it, a host or none, a path, a query and a fragment.
Reading is lenient: what may not stand somewhere is written with percent signs, segments of a path
that mean "here" and "one up" are resolved, and for the schemes of the web slashes after the scheme
may be missing, doubled or turned the other way. What is read is kept as it is written out again.
-/

namespace QuoteKeeper

namespace Web

/-- How the rest of an address is read after its scheme. -/
inductive SchemeKind where
  | web
  | file
  | other
deriving DecidableEq

def schemeKind : String → SchemeKind
  | "http" | "https" | "ws" | "wss" | "ftp" => .web
  | "file" => .file
  | _ => .other

/-- The number of the service that is meant where none is written. -/
def defaultService? : String → Option Nat
  | "http" | "ws" => some 80
  | "https" | "wss" => some 443
  | "ftp" => some 21
  | _ => none

inductive UrlPath where
  /-- A text without segments. -/
  | plain (text : String)
  /-- Segments, each after a slash. -/
  | segments (names : List String)
deriving DecidableEq

structure Url where
  scheme : String
  user : String := ""
  password : String := ""
  /-- Absent: an address without a host; an empty name: one with slashes and nothing after them. -/
  host : Option Host := none
  /-- The number of the service on the host, unless it goes without saying. -/
  service : Option Nat := none
  path : UrlPath := .segments []
  query : Option String := none
  fragment : Option String := none
deriving DecidableEq

def UrlPath.text : UrlPath → String
  | .plain text => text
  | .segments names => String.join (names.map ("/" ++ ·))

namespace Url

/-! ### Text -/

def credentials (u : Url) : String :=
  if u.user = "" && u.password = "" then ""
  else u.user ++ (if u.password = "" then "" else ":" ++ u.password) ++ "@"

/-- Slashes, host and service. Without a host, a path must not look like one. -/
def authority (u : Url) : String :=
  match u.host with
  | some host =>
    "//" ++ u.credentials ++ host.text ++ (u.service.map fun n => ":" ++ toString n).getD ""
  | none =>
    match u.path with
    | .segments ("" :: _ :: _) => "/."
    | _ => ""

/-- Path and query, which is what a server is asked for. -/
def target (u : Url) : String := u.path.text ++ (u.query.map ("?" ++ ·)).getD ""

def text (u : Url) : String :=
  u.scheme ++ ":" ++ u.authority ++ u.target ++ (u.fragment.map ("#" ++ ·)).getD ""

/-! ### Scheme -/

/-- Without controls and blanks at the ends, and without tabs and line ends anywhere. -/
def clean (cs : List Char) : List Char :=
  let isOuter (c : Char) : Bool := decide (c.toNat ≤ 0x20)
  (Text.dropEndWhile isOuter (cs.dropWhile isOuter)).filter fun c => !"\t\n\r".toList.contains c

def isSchemeChar (c : Char) : Bool := c.isAlphanum || "+-.".toList.contains c

/-- The scheme in lower case, and what comes after its colon. -/
def scheme? (cs : List Char) : Option (String × List Char) :=
  match cs.span isSchemeChar with
  | (c :: scheme, ':' :: rest) =>
    if c.isAlpha then some (String.ofList ((c :: scheme).map Char.toLower), rest) else none
  | _ => none

/-! ### Path -/

/-- Whether a character ends a segment. -/
def isSlash (kind : SchemeKind) (c : Char) : Bool :=
  decide (c = '/') || (decide (c = '\\') && decide (kind ≠ .other))

def isPathEnd (c : Char) : Bool := decide (c = '?') || decide (c = '#')

def isDot (segment : String) : Bool := [".", "%2e", "%2E"].contains segment

def isDoubleDot (segment : String) : Bool :=
  ["..", ".%2e", ".%2E", "%2e.", "%2E.", "%2e%2e", "%2e%2E", "%2E%2e", "%2E%2E"].contains segment

/-- A letter and a colon, or the bar that may stand for it. -/
def isDrive (segment : List Char) : Bool :=
  match segment with
  | [c, mark] => c.isAlpha && (decide (mark = ':') || decide (mark = '|'))
  | _ => false

/-- A drive, or a segment that goes on with a backslash after one. -/
def isDriveLike (segment : List Char) : Bool :=
  isDrive (segment.takeWhile (· ≠ '\\'))

/-- One segment up; from a drive there is no way up. -/
def up (names : List String) : List String :=
  match names.getLast? with
  | some last => if isDriveLike last.toList then names else names.dropLast
  | none => []

/-- A segment as it is kept: the mark of a drive that begins the path of a file is a colon. -/
def driveName (kind : SchemeKind) (names : List String) (segment : String) : String :=
  match segment.toList with
  | [c, mark] =>
    if kind = .file ∧ names = [] ∧ isDrive [c, mark] then String.ofList [c, ':'] else segment
  | _ => segment

/-- The segments `names` with one more after them. -/
def follow (kind : SchemeKind) (names : List String) (segment : String) (isLast : Bool) :
    List String :=
  if isDoubleDot segment then up names ++ (if isLast then [""] else [])
  else if isDot segment then names ++ (if isLast then [""] else [])
  else names ++ [driveName kind names segment]

def followAll (kind : SchemeKind) (names : List String) : List String → List String
  | [] => names
  | [segment] => follow kind names segment true
  | segment :: rest => followAll kind (follow kind names segment false) rest

/-- A file's path has nothing empty in front. -/
def withoutEmptyFront (names : List String) : List String :=
  match names.dropWhile (· = "") with
  | [] => [""]
  | kept => kept

/-- The pieces between slashes. -/
def splitSlashes (kind : SchemeKind) (cs : List Char) : List (List Char) :=
  Text.splitChars '/' (cs.map fun c => if isSlash kind c then '/' else c)

/-- The segments of some characters. -/
def namesOf (kind : SchemeKind) (cs : List Char) : List String :=
  followAll kind [] ((splitSlashes kind cs).map Part.path.encode)

/-- Without one slash in front. -/
def afterSlash (kind : SchemeKind) (cs : List Char) : List Char :=
  match cs with
  | c :: rest => if isSlash kind c then rest else cs
  | [] => []

/-! ### Query and fragment -/

/-- With the query and the fragment that `cs`, which begins with their marks, holds. -/
def withTail (kind : SchemeKind) (u : Url) (cs : List Char) : Url :=
  let (query, fragment) := cs.span (· ≠ '#')
  let part := if kind = .other then Part.query else Part.webQuery
  { u with
    query := match query with
      | [] => none
      | _ :: query => some (part.encode query)
    fragment := match fragment with
      | [] => none
      | _ :: fragment => some (Part.fragment.encode fragment) }

/-- With the path that `cs` begins with, and all that comes after it. -/
def withRest (kind : SchemeKind) (u : Url) (cs : List Char) : Url :=
  let (path, tail) := cs.span (!isPathEnd ·)
  let path := if kind = .other && path.isEmpty then .segments []
    else .segments (namesOf kind (afterSlash kind path))
  withTail kind { u with path } tail

/-! ### Host -/

def endsAuthority (kind : SchemeKind) (c : Char) : Bool := isSlash kind c || isPathEnd c

/-- What is before the last sign that ends the credentials, and what is after it. -/
def splitCredentials (cs : List Char) : Option (List Char) × List Char :=
  match cs.reverse.span (· ≠ '@') with
  | (_, []) => (none, cs)
  | (host, _ :: user) => (some user.reverse, host.reverse)

/-- Host and service text, separated by the first colon that is not in brackets. -/
def splitService (inBrackets : Bool) : List Char → List Char × Option (List Char)
  | [] => ([], none)
  | c :: rest =>
    if c = ':' ∧ !inBrackets then
      ([], some rest)
    else
      let (host, service) :=
        splitService (if c = '[' then true else if c = ']' then false else inBrackets) rest
      (c :: host, service)

/-- The number of a service, unless it goes without saying, and what comes after its digits. -/
def serviceOf (scheme : String) (cs : List Char) : Except UrlFault (Option Nat × List Char) :=
  let (digits, rest) := cs.span Char.isDigit
  let number := digits.foldl (fun n c => n * 10 + (c.toNat - '0'.toNat)) 0
  if 65535 < number then .error .badService
  else
    match rest with
    | [] | '\\' :: _ =>
      let isImplied := digits.isEmpty || decide (defaultService? scheme = some number)
      .ok (if isImplied then none else some number, rest)
    | _ => .error .badService

/-- User and password, separated by the first colon. -/
def userOf (cs : List Char) : String × String :=
  let (user, password) := cs.span (· ≠ ':')
  (Part.user.encode user, Part.user.encode password.tail)

/-- The host of a scheme. An empty one is refused where a service or a user goes with it, and always
in schemes of the web. -/
def hostOf (kind : SchemeKind) (hasUser hasService : Bool) (cs : List Char) :
    Except UrlFault Host :=
  if cs.isEmpty then
    if kind = .other && !hasUser && !hasService then .ok (.name "") else .error .emptyHost
  else if kind = .other then
    Host.ofPlain cs
  else
    Host.ofText cs

/-- An address from after the slashes before its host. -/
def ofAuthority (scheme : String) (kind : SchemeKind) (cs : List Char) : Except UrlFault Url := do
  let (authority, rest) := cs.span (!endsAuthority kind ·)
  let (credentials, place) := splitCredentials authority
  if credentials = some [] ∧ place = [] ∧ rest ≠ [] then
    throw .emptyHost
  let (user, password) := userOf (credentials.getD [])
  let (hostText, serviceText) := splitService false place
  let host ← hostOf kind (user ≠ "" || password ≠ "") serviceText.isSome hostText
  let (service, left) ← match serviceText with
    | none => pure (none, [])
    | some digits => serviceOf scheme digits
  return withRest kind { scheme, user, password, host, service } (left ++ rest)

/-! ### Files -/

/-- The host of a file: an empty name if it is this machine. -/
def fileHost (cs : List Char) : Except UrlFault Host :=
  if cs.isEmpty then
    .ok (.name "")
  else do
    let host ← Host.ofText cs
    return if host = .name "localhost" then .name "" else host

/-- An address of a file on a host, from where its segments begin. A path that begins with a drive
is on this machine. -/
def ofFilePath (host : Host) (cs : List Char) : Url :=
  let (path, tail) := cs.span (!isPathEnd ·)
  let names := namesOf .file path
  let isLocal := (names.head?.map fun name => isDrive name.toList).getD false
  let url : Url :=
    { scheme := "file"
      host := some (if isLocal then .name "" else host)
      path := .segments (withoutEmptyFront names) }
  withTail .file url tail

/-- An address of a file, from after the scheme's colon. After two slashes and no host, or the name
of this machine, the slash that follows is part of the first segment's name. -/
def ofFile (cs : List Char) : Except UrlFault Url := do
  let here : Host := .name ""
  if 2 ≤ (cs.takeWhile (isSlash .file)).length then
    let (hostText, rest) := (cs.drop 2).span (!endsAuthority .file ·)
    if isDrive hostText then
      return ofFilePath here (cs.drop 2)
    else
      let host ← fileHost hostText
      return ofFilePath host (if host = here then rest else afterSlash .file rest)
  else
    return ofFilePath here (afterSlash .file cs)

/-! ### All kinds -/

/-- An address of a scheme that is not one of the web, from after the scheme's colon. -/
def ofOther (scheme : String) (cs : List Char) : Except UrlFault Url :=
  match cs with
  | '/' :: '/' :: rest => ofAuthority scheme .other rest
  | '/' :: _ => .ok (withRest .other { scheme } cs)
  | _ =>
    let (path, tail) := cs.span (!isPathEnd ·)
    .ok (withTail .other { scheme, path := .plain (Part.plain.encode path) } tail)

/-- Read an address. -/
def ofText (s : String) : Except UrlFault Url :=
  match scheme? (clean s.toList) with
  | none => .error .noScheme
  | some (scheme, rest) =>
    match schemeKind scheme with
    | .file => ofFile rest
    | .web => ofAuthority scheme .web (rest.dropWhile (isSlash .web))
    | .other => ofOther scheme rest

end Url

end Web

end QuoteKeeper
