import GeckScript.Url.Basic
import GeckScript.Url.Domain.Label

/-!
Reading absolute URLs as the URL standard lays down. The schemes of the web and of files are
special: they need a host, take a backslash for a slash, and resolve domain names.
-/

namespace GeckScript

inductive UrlError where
  | relative
  | emptyHost
  | badPort
  | badIpv4
  | badIpv6
  /-- The host of a special scheme is no domain name. -/
  | badDomain
  /-- The host of another scheme holds a forbidden character. -/
  | badDomainCharacter
  deriving Repr, DecidableEq

def UrlError.message : UrlError → String
  | relative => "relative URL without a base"
  | emptyHost => "empty host"
  | badPort => "invalid port number"
  | badIpv4 => "invalid IPv4 address"
  | badIpv6 => "invalid IPv6 address"
  | badDomain => "invalid international domain name"
  | badDomainCharacter => "invalid domain character"

namespace Url

inductive SchemeKind where
  | web (defaultPort : Nat)
  | file
  | other
  deriving Repr, DecidableEq

namespace SchemeKind

def ofScheme (scheme : List Char) : SchemeKind :=
  match String.ofList scheme with
  | "http" => web 80
  | "ws" => web 80
  | "https" => web 443
  | "wss" => web 443
  | "ftp" => web 21
  | "file" => file
  | _ => other

def isSpecial : SchemeKind → Bool
  | other => false
  | _ => true

def defaultPort? : SchemeKind → Option Nat
  | web port => some port
  | _ => none

def isSlash (kind : SchemeKind) (c : Char) : Bool :=
  c = '/' || (kind.isSpecial && c = '\\')

end SchemeKind

def isTail (c : Char) : Bool :=
  c = '?' || c = '#'

/-- Controls and spaces are cut off at both ends, tabs and line ends anywhere. -/
def clean (input : String) : List Char :=
  let isEdge (c : Char) : Bool := c ≤ ' '
  let trimmed := ((input.toList.dropWhile isEdge).reverse.dropWhile isEdge).reverse
  trimmed.filter fun c => c != '\t' && c != '\n' && c != '\r'

def takeScheme (input : List Char) : Option (List Char × List Char) :=
  let isSchemeChar (c : Char) : Bool := c.isAlphanum || c ∈ ['+', '-', '.']
  match input with
  | [] => none
  | c :: _ =>
    if !c.isAlpha then none
    else
      match input.dropWhile isSchemeChar with
      | ':' :: rest => some ((input.takeWhile isSchemeChar).map Char.toLower, rest)
      | _ => none

/-- The part up to the last at sign in front of the path, and the part behind that sign. -/
def splitUser (kind : SchemeKind) (input : List Char) : Option (List Char × List Char) :=
  let isEnd (c : Char) : Bool := kind.isSlash c || isTail c
  let authority := input.takeWhile fun c => !isEnd c
  if authority.contains '@' then
    let behind := (authority.reverse.takeWhile (· != '@')).length
    let user := authority.take (authority.length - behind - 1)
    some (user, input.drop (user.length + 1))
  else none

/-- A name and, behind the first colon, a password; an empty password counts for none. -/
def readUser (text : List Char) : UserInfo :=
  let encode := Percent.encode Percent.inUserInfo
  let name := text.takeWhile (· != ':')
  match text.dropWhile (· != ':') with
  | _ :: password@(_ :: _) => ⟨encode name, some (encode password)⟩
  | _ => ⟨encode name, none⟩

/-- Splits a host off: it ends at a slash, at the query or the fragment, or at a colon outside
square brackets. -/
def takeHost (kind : SchemeKind) (inBrackets : Bool) : List Char → List Char × List Char
  | [] => ([], [])
  | c :: rest =>
    if kind.isSlash c || isTail c || (c = ':' && !inBrackets) then ([], c :: rest)
    else
      let inBrackets := if c = '[' then true else if c = ']' then false else inBrackets
      let (host, rest) := takeHost kind inBrackets rest
      (c :: host, rest)

def readIpv6 (text : List Char) : Except UrlError Host :=
  if text.getLast? == some ']' then
    match Ipv6.parse? (text.drop 1).dropLast with
    | some pieces => .ok (.ipv6 pieces)
    | none => .error .badIpv6
  else .error .badIpv6

def readDomain (text : List Char) : Except UrlError Host :=
  if text.head? == some '[' then readIpv6 text
  else
    match (Percent.decodeText? text).bind Domain.toAscii? with
    | none => .error .badDomain
    | some [] => .error .emptyHost
    | some name =>
      if Ipv4.endsInNumber name then
        match Ipv4.parse? name with
        | some address => .ok (.ipv4 address)
        | none => .error .badIpv4
      else .ok (.domain name)

def isForbiddenInHost (c : Char) : Bool :=
  c ∈ ['\x00', '\t', '\n', '\r', ' ', '#', '/', ':', '<', '>', '?', '@', '[', '\\', ']', '^', '|']

def readPlainHost (text : List Char) : Except UrlError Host :=
  if text.head? == some '[' then readIpv6 text
  else if text.any isForbiddenInHost then .error .badDomainCharacter
  else if text.isEmpty then .ok .empty
  else .ok (.domain (Percent.encode Percent.isControl text))

/-- The number of a port; the default port of the scheme is left out. -/
def readPort (kind : SchemeKind) (input : List Char) :
    Except UrlError (Option Nat × List Char) :=
  let digits := input.takeWhile Char.isDigit
  let port := digits.foldl (fun n c => 10 * n + (c.toNat - '0'.toNat)) 0
  let rest := input.dropWhile Char.isDigit
  let ends := match rest with
    | [] => true
    | c :: _ => c = '/' || c = '\\' || isTail c
  if 65535 < port || !ends then .error .badPort
  else if digits.isEmpty || kind.defaultPort? == some port then .ok (none, rest)
  else .ok (some port, rest)

def isDriveLetter : List Char → Bool
  | [c, mark] => c.isAlpha && (mark = ':' || mark = '|')
  | _ => false

/-- Whether a segment stands for the current folder, also in percent-encoding. -/
def isSingleDot (segment : List Char) : Bool :=
  let lower := segment.map Char.toLower
  lower ∈ [".".toList, "%2e".toList]

def isDoubleDot (segment : List Char) : Bool :=
  let lower := segment.map Char.toLower
  lower ∈ ["..".toList, "%2e.".toList, ".%2e".toList, "%2e%2e".toList]

/-- Drops the last segment, except for the drive letter of a file. Segments are held last first. -/
def shorten (kind : SchemeKind) : List (List Char) → List (List Char)
  | [] => []
  | [drive] => if kind = .file && isDriveLetter drive then [drive] else []
  | _ :: rest => rest

/-- Takes the segments one after the other; `done` holds those in front, last first. A dot segment
at the end leaves an empty one. -/
def resolve (kind : SchemeKind) (done : List (List Char)) : List (List Char) → List (List Char)
  | [] => done.reverse
  | segment :: rest =>
    let close (done : List (List Char)) := if rest.isEmpty then [] :: done else done
    if isDoubleDot segment then resolve kind (close (shorten kind done)) rest
    else if isSingleDot segment then resolve kind (close done) rest
    else if kind = .file && done.isEmpty && isDriveLetter segment then
      resolve kind [segment.take 1 ++ [':']] rest
    else resolve kind (segment :: done) rest

/-- Empty segments in front of the others say nothing in a path of files. -/
def dropLeadingEmpty : List (List Char) → List (List Char)
  | [] :: segment :: rest => dropLeadingEmpty (segment :: rest)
  | segments => segments

def readSegments (kind : SchemeKind) (text : List Char) : List (List Char) :=
  let raw := (text.map fun c => if kind.isSlash c then '/' else c).splitOn '/'
  let segments := resolve kind [] (raw.map (Percent.encode Percent.inPath))
  if kind = .file then dropLeadingEmpty segments else segments

/-- The path behind an authority. A special scheme always has one. -/
def readPath (kind : SchemeKind) (text : List Char) : Path :=
  match text with
  | [] => .segments (if kind.isSpecial then readSegments kind [] else [])
  | c :: rest => .segments (readSegments kind (if kind.isSlash c then rest else text))

def readTail (kind : SchemeKind) (input : List Char) : Option (List Char) × Option (List Char) :=
  let escapes := if kind.isSpecial then Percent.inSpecialQuery else Percent.inQuery
  let fragment := match input.dropWhile (· != '#') with
    | _ :: text => some (Percent.encode Percent.inFragment text)
    | [] => none
  let query := match input.takeWhile (· != '#') with
    | _ :: text => some (Percent.encode escapes text)
    | [] => none
  (query, fragment)

def splitTail (input : List Char) : List Char × List Char :=
  (input.takeWhile fun c => !isTail c, input.dropWhile fun c => !isTail c)

def build (kind : SchemeKind) (scheme : List Char) (authority : Option Authority)
    (path : List Char → Path) (input : List Char) : Url :=
  let (text, tail) := splitTail input
  let (query, fragment) := readTail kind tail
  ⟨scheme, authority, path text, query, fragment⟩

def readAuthority (kind : SchemeKind) (scheme input : List Char) : Except UrlError Url := do
  let (user, rest) ←
    match splitUser kind input with
    | none => pure (UserInfo.none, input)
    | some ([], rest) =>
      match rest with
      | c :: _ =>
        if kind.isSlash c || isTail c then throw .emptyHost else pure (UserInfo.none, rest)
      | [] => pure (UserInfo.none, rest)
    | some (text, rest) => pure (readUser text, rest)
  let (text, rest) := takeHost kind false rest
  if kind.isSpecial && text.isEmpty then throw .emptyHost
  let host ← if kind.isSpecial then readDomain text else readPlainHost text
  let hasPort := rest.head? == some ':'
  if host = .empty && (hasPort || !user.write.isEmpty) then throw .emptyHost
  let (port, rest) ← if hasPort then readPort kind (rest.drop 1) else pure (none, rest)
  return build kind scheme (some ⟨user, host, port⟩) (readPath kind) rest

/-- A URL of a file, from behind the colon. A host is read behind two slashes unless a drive letter
stands there, and a path that starts with a drive letter has none. -/
def readFile (scheme input : List Char) : Except UrlError Url := do
  let kind := SchemeKind.file
  let noHost : Authority := ⟨.none, .empty, none⟩
  match input with
  | c :: d :: rest =>
    if kind.isSlash c && kind.isSlash d then
      let isEnd (c : Char) : Bool := kind.isSlash c || isTail c
      let text := rest.takeWhile fun c => !isEnd c
      if isDriveLetter text then
        return build kind scheme (some noHost) (.segments ∘ readSegments kind) rest
      let host ← if text.isEmpty then pure Host.empty else readDomain text
      let host := if host = .domain "localhost".toList then .empty else host
      let url := build kind scheme (some { noHost with host }) (readPath kind)
        (rest.drop text.length)
      match url.path with
      | .segments (first :: _) =>
        return if isDriveLetter first then { url with authority := some noHost } else url
      | _ => return url
    else return build kind scheme (some noHost) (readPath kind) input
  | _ => return build kind scheme (some noHost) (readPath kind) input

def readOther (scheme input : List Char) : Url :=
  match input with
  | '/' :: rest => build .other scheme none (.segments ∘ readSegments .other) rest
  | _ => build .other scheme none (.verbatim ∘ Percent.encode Percent.isControl) input

def parse (input : String) : Except UrlError Url :=
  match takeScheme (clean input) with
  | none => .error .relative
  | some (scheme, rest) =>
    match SchemeKind.ofScheme scheme with
    | .file => readFile scheme rest
    | .other =>
      match rest with
      | '/' :: '/' :: rest => readAuthority .other scheme rest
      | _ => .ok (readOther scheme rest)
    | kind => readAuthority kind scheme (rest.dropWhile kind.isSlash)

end Url

end GeckScript
