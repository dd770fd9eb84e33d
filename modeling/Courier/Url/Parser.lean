import Courier.Url.Basic
/-
Reading a URL, alone or relative to a base. Blanks and controls around the
text are dropped, as are tabs and line breaks in it, but for what one right
after the drive letter of a file path means. Dot segments are resolved while
the path is read. Of what the URL standard accepts, hosts in other scripts are
left out, see `Host.read`.
-/
namespace Courier.Url

/-! ## Escaping -/

/-- Printable ASCII, which no component has to escape as a whole. -/
def keepsPrintable (b : UInt8) : Bool := 0x20 ≤ b && b < 0x7F

def keepsInFragment (b : UInt8) : Bool :=
  keepsPrintable b && !Percent.isOneOf [' ', '\x22', '<', '>', '\x60'] b

def keepsInPath (b : UInt8) : Bool :=
  keepsInFragment b && !Percent.isOneOf ['#', '?', '\x7b', '\x7d'] b

def keepsInUserInfo (b : UInt8) : Bool :=
  keepsInPath b && !Percent.isOneOf ['/', ':', ';', '=', '@', '[', '\\', ']', '^', '|'] b

/-- In the query of a special URL the apostrophe is escaped too. -/
def keepsInQuery (special : Bool) (b : UInt8) : Bool :=
  keepsPrintable b && !Percent.isOneOf [' ', '\x22', '#', '<', '>'] b &&
    !(special && Percent.isOneOf ['\x27'] b)

def escaped (keeps : UInt8 → Bool) (text : List Char) : String :=
  Percent.encodeText keeps (String.ofList text)

/-! ## The pieces of the text -/

/-- The text without blanks and controls around it. -/
def trimmed (input : String) : List Char :=
  let isOuter := fun c : Char => c ≤ ' '
  ((input.toList.dropWhile isOuter).reverse.dropWhile isOuter).reverse

/-- A tab or a line break. -/
def isBreak (c : Char) : Bool := c = '\t' || c = '\n' || c = '\r'

/-- A text without tabs and line breaks. -/
def unbroken (text : List Char) : List Char := text.filter (!isBreak ·)

def isSchemeCharacter (c : Char) : Bool :=
  Ascii.isAlphanumeric c || c = '+' || c = '-' || c = '.'

/-- The scheme in lower case and what follows its colon. -/
def scheme? (text : List Char) : Option (String × List Char) :=
  match text with
  | [] => none
  | c :: _ =>
    if !Ascii.isLetter c then none
    else
      match text.dropWhile isSchemeCharacter with
      | ':' :: rest =>
        some (String.ofList ((text.takeWhile isSchemeCharacter).map Ascii.lowerChar), rest)
      | _ => none

/-- A slash; in special URLs a backslash is one too. -/
def isSlash (special : Bool) (c : Char) : Bool := c = '/' || (special && c = '\\')

/-- A character that ends the authority. -/
def endsAuthority (special : Bool) (c : Char) : Bool :=
  isSlash special c || c = '?' || c = '#'

/-- The query and the fragment at the end of a URL. -/
def queryAndFragment (special : Bool) (text : List Char) : Option String × Option String :=
  let fragmentOf := fun rest : List Char =>
    match rest with
    | '#' :: fragment => some (escaped keepsInFragment fragment)
    | _ => none
  match text with
  | '?' :: rest =>
    (some (escaped (keepsInQuery special) (rest.takeWhile (· ≠ '#'))),
      fragmentOf (rest.dropWhile (· ≠ '#')))
  | _ => (none, fragmentOf text)

/-! ## Paths

While a path is read, its segments are held from the last to the first. -/

def isPathCharacter (c : Char) : Bool := c ≠ '?' && c ≠ '#'

/-- The segments of a path between its slashes, still as they were given. -/
def rawSegments (special : Bool) (text : List Char) : List (List Char) :=
  Split.segments '/' (text.map fun c => if isSlash special c then '/' else c)

def isSingleDot (segment : String) : Bool := ["." , "%2e", "%2E"].contains segment

def isDoubleDot (segment : String) : Bool :=
  ["..", "%2e%2e", "%2e%2E", "%2E%2e", "%2E%2E", "%2e.", "%2E.", ".%2e", ".%2E"].contains segment

/-- A letter and a colon, or a bar in its place. -/
def isDriveLetter : List Char → Bool
  | [c, d] => Ascii.isLetter c && (d = ':' || d = '|')
  | _ => false

/-- A drive letter with its colon. -/
def isWrittenDrive (segment : String) : Bool :=
  isDriveLetter segment.toList && segment.toList.getLast? = some ':'

/-- A segment that a double dot leaves alone: a drive letter, also one in front of a backslash. -/
def staysPut (segment : String) : Bool :=
  isDriveLetter (segment.toList.take 2) && (segment.toList.drop 2).head?.all (· = '\\')

/-- A path without its last segment, unless that one stays. -/
def shortened : List String → List String
  | [] => []
  | last :: before => if staysPut last then last :: before else before

/-- The first segment of a file path: a drive letter is written with a colon. -/
def withColon (segment : String) : String :=
  if isDriveLetter segment.toList then String.ofList (segment.toList.take 1 ++ [':']) else segment

/-- A segment with a break right behind a drive letter and its colon falls into two there. -/
def fallsApart? (segment : List Char) : Option (List Char × List Char) :=
  match segment.dropWhile isBreak with
  | [] => none
  | letter :: rest =>
    match rest.dropWhile isBreak with
    | ':' :: c :: rest =>
      if Ascii.isLetter letter && isBreak c && !(unbroken rest).isEmpty then
        some ([letter, ':'], unbroken rest)
      else none
    | _ => none

/-- A path with one more segment. A double dot takes the last segment off again, a single dot
means nothing; where either stands last, the path ends in a slash. The first segment of a file
path may fall apart; what it falls into are no dots, whatever they look like. -/
def appendSegment (isFile isLast : Bool) (path : List String) (segment : List Char) :
    List String :=
  let isFirst := isFile && path.isEmpty
  match if isFirst then fallsApart? segment else none with
  | some (drive, after) => [escaped keepsInPath after, String.ofList drive]
  | none =>
    let text := escaped keepsInPath (unbroken segment)
    let ended := if isLast then [""] else []
    if isDoubleDot text then ended ++ shortened path
    else if isSingleDot text then ended ++ path
    else (if isFirst then withColon text else text) :: path

/-- Appends segments to a path, one after another. -/
def appendSegments (isFile : Bool) : List String → List (List Char) → List String
  | path, [] => path
  | path, segment :: rest =>
    appendSegments isFile (appendSegment isFile rest.isEmpty path segment) rest

/-- Appends the path in front of a text to segments, given from the first to the last, and gives
what follows the path. -/
def readPath (scheme : String) (base : List String) (text : List Char) :
    List String × List Char :=
  let raw := rawSegments (isSpecialScheme scheme) (text.takeWhile isPathCharacter)
  ((appendSegments (scheme = "file") base.reverse raw).reverse, text.dropWhile isPathCharacter)

/-- The path after an authority, which may be missing. -/
def readPathStart (scheme : String) (text : List Char) : List String × List Char :=
  let special := isSpecialScheme scheme
  match text with
  | c :: rest =>
    if isSlash special c then readPath scheme [] rest
    else if special || isPathCharacter c then readPath scheme [] text
    else ([], text)
  | [] => if special then ([""], []) else ([], [])

/-! ## Authority -/

/-- The text before the last at sign and the text after it. -/
def atLastAt? (text : List Char) : Option (List Char × List Char) :=
  (Split.once? '@' text.reverse).map fun parts => (parts.2.reverse, parts.1.reverse)

/-- The credentials in front of an authority, and what follows them. -/
def readUserInfo (special : Bool) (text : List Char) :
    Except UrlFlaw (String × String × List Char) :=
  let authority := text.takeWhile (!endsAuthority special ·)
  let after := text.dropWhile (!endsAuthority special ·)
  match atLastAt? authority with
  | none => .ok ("", "", text)
  | some (info, hostPart) =>
    let rest := hostPart ++ after
    if info.isEmpty && hostPart.isEmpty && !after.isEmpty then .error .emptyHost
    else
      match Split.once? ':' info with
      | none => .ok (escaped keepsInUserInfo info, "", rest)
      | some (name, password) =>
        .ok (escaped keepsInUserInfo name, escaped keepsInUserInfo password, rest)

/-- The characters of the host: up to a colon outside brackets or the end of the authority. -/
def hostText (special : Bool) : Bool → List Char → List Char × List Char
  | _, [] => ([], [])
  | inBrackets, c :: rest =>
    if (c = ':' && !inBrackets) || endsAuthority special c then ([], c :: rest)
    else
      let inBrackets := c = '[' || (inBrackets && c ≠ ']')
      let found := hostText special inBrackets rest
      (c :: found.1, found.2)

/-- The port after its colon, none if it is the one that the scheme has anyway. -/
def readPort (scheme : String) (text : List Char) : Except UrlFlaw (Option Nat × List Char) :=
  let digits := text.takeWhile Ascii.isDigit
  let rest := text.dropWhile Ascii.isDigit
  let port := Ascii.ofDecimal digits
  if 65535 < port || rest.head?.any (!endsAuthority true ·) then .error .invalidPort
  else
    .ok (if digits.isEmpty || some port = defaultPort? scheme then none else some port, rest)

/-- Reads a URL after the two slashes. -/
def readAuthority (scheme : String) (text : List Char) : Except UrlFlaw Url := do
  let special := isSpecialScheme scheme
  let (username, password, rest) ← readUserInfo special text
  let (hostChars, rest) := hostText special false rest
  if special && hostChars.isEmpty then .error .emptyHost
  let host ← if special then Host.read hostChars else Host.readUnknown hostChars
  if hostChars.isEmpty && rest.head? = some ':' then .error .emptyHost
  let (port, rest) ← match rest with
    | ':' :: rest => readPort scheme rest
    | _ => .ok (none, rest)
  if hostChars.isEmpty && !(username.isEmpty && password.isEmpty) then .error .emptyHost
  let (path, rest) := readPathStart scheme rest
  let (query, fragment) := queryAndFragment special rest
  .ok ⟨scheme, username, password, some host, port, .segments path, query, fragment⟩

/-! ## Files

The text of a file URL keeps its tabs and line breaks until the path is read. -/

/-- A file URL with a host and segments, of which the empty ones in front do not count, and what
follows the path. -/
def fileUrl (host : Option Host) (path : List String) (rest : List Char) : Url :=
  let segments := path.dropWhile (·.isEmpty)
  let (query, fragment) := queryAndFragment true (unbroken rest)
  ⟨"file", "", "", some (host.getD (.domain "")), none,
    .segments (if segments.isEmpty then [""] else segments), query, fragment⟩

/-- Whether a text begins with a segment that is a drive letter. -/
def startsWithDrive (text : List Char) : Bool :=
  let text := unbroken text
  isDriveLetter (text.take 2) && (text.drop 2).head?.all (endsAuthority true)

/-- Whether, of segments that are appended to a path, a drive letter comes first in it. -/
def leadsToDrive : List String → List (List Char) → Bool
  | _, [] => false
  | path, segment :: rest =>
    (path.isEmpty && isDriveLetter (unbroken segment)) ||
      leadsToDrive (appendSegment true rest.isEmpty path segment) rest

/-- Reads a file URL after its two slashes. A drive letter in place of the host begins the path,
and a path that begins with one has no host in front of it. The host `localhost` is no host. -/
def readFileAuthority (text : List Char) : Except UrlFlaw Url := do
  let hostChars := unbroken (text.takeWhile (!endsAuthority true ·))
  let after := text.dropWhile (!endsAuthority true ·)
  if isDriveLetter hostChars then
    let (path, rest) := readPath "file" [] text
    .ok (fileUrl none path rest)
  else
    let host ← if hostChars.isEmpty then .ok (.domain "localhost") else Host.read hostChars
    if host = .domain "localhost" then
      let (path, rest) := readPath "file" [] after
      .ok (fileUrl none path rest)
    else
      let inside := if after.head?.any (isSlash true) then after.drop 1 else after
      let raw := rawSegments true (inside.takeWhile isPathCharacter)
      let (path, rest) := readPath "file" [] inside
      .ok (fileUrl (if leadsToDrive [] raw then none else some host) path rest)

/-- The segments of a path that is not rootless. -/
def segments (u : Url) : List String :=
  match u.path with
  | .segments list => list
  | .rootless _ => []

/-- Reads a file URL after its one slash. A path without a drive letter is on the drive of the
base, or else on its host. -/
def readFileRoot (base? : Option Url) (text : List Char) : Url :=
  let base? := if startsWithDrive text then none else base?
  let drive := (base?.bind (·.segments.head?)).toList.filter isWrittenDrive
  let (path, rest) := readPath "file" drive text
  fileUrl (if drive.isEmpty then base?.bind (·.host) else none) path rest

/-- Reads a file URL whose path does not begin with a slash: it follows that of the base. -/
def readFileReference (base? : Option Url) (text : List Char) : Url :=
  match base?, text with
  | some base, [] => { base with fragment := none }
  | some base, '?' :: _ =>
    let (query, fragment) := queryAndFragment true (unbroken text)
    { base with query, fragment }
  | some base, '#' :: _ => { base with fragment := (queryAndFragment true (unbroken text)).2 }
  | _, _ =>
    let base? := if startsWithDrive text then none else base?
    let start := (base?.map (·.segments)).getD []
    let start := if start.getLast?.any isWrittenDrive then start else start.dropLast
    let (path, rest) := readPath "file" start text
    fileUrl (base?.bind (·.host)) path rest

/-- Reads a file URL after its colon. -/
def readFile (base? : Option Url) (text : List Char) : Except UrlFlaw Url :=
  let afterSlash? := fun text : List Char =>
    match text.dropWhile isBreak with
    | [] => none
    | c :: rest => if isSlash true c then some rest else none
  match afterSlash? text with
  | none => .ok (readFileReference base? (text.dropWhile isBreak))
  | some rest =>
    match afterSlash? rest with
    | none => .ok (readFileRoot base? rest)
    | some rest => readFileAuthority rest

/-! ## Whole URLs -/

/-- Reads a URL of an unknown scheme after its colon. -/
def readUnknown (scheme : String) (text : List Char) : Except UrlFlaw Url :=
  match text with
  | '/' :: '/' :: rest => readAuthority scheme rest
  | '/' :: rest =>
    let (path, rest) := readPath scheme [] rest
    let (query, fragment) := queryAndFragment false rest
    .ok ⟨scheme, "", "", none, none, .segments path, query, fragment⟩
  | _ =>
    let path := escaped keepsPrintable (text.takeWhile isPathCharacter)
    let (query, fragment) := queryAndFragment false (text.dropWhile isPathCharacter)
    .ok ⟨scheme, "", "", none, none, .rootless path, query, fragment⟩

/-- Reads a reference without a scheme against a base whose path is a list of segments. -/
def readRelative (base : Url) (path : List String) (text : List Char) : Except UrlFlaw Url :=
  let special := base.isSpecial
  match text with
  | [] => .ok { base with fragment := none }
  | '?' :: _ =>
    let (query, fragment) := queryAndFragment special text
    .ok { base with query, fragment }
  | '#' :: _ => .ok { base with fragment := (queryAndFragment special text).2 }
  | c :: rest =>
    if isSlash true c then
      if (rest.head?.map (isSlash true)).getD false then
        if c = '/' && rest.head? = some '/' then readAuthority base.scheme (rest.drop 1)
        else readAuthority base.scheme (rest.dropWhile (isSlash true))
      else
        let (path, rest) := readPath base.scheme [] rest
        let (query, fragment) := queryAndFragment special rest
        .ok { base with path := .segments path, query, fragment }
    else
      let (path, rest) := readPath base.scheme path.dropLast text
      let (query, fragment) := queryAndFragment special rest
      .ok { base with path := .segments path, query, fragment }

/-- Reads a URL, relative to a base if one is given. -/
def read (base? : Option Url) (input : String) : Except UrlFlaw Url :=
  let text := unbroken (trimmed input)
  match scheme? text with
  | some (scheme, rest) =>
    if scheme = "file" then
      readFile (base?.filter (·.scheme = "file")) (((trimmed input).dropWhile (· ≠ ':')).drop 1)
    else if isSpecialScheme scheme then
      let slashes := (rest.takeWhile (isSlash true)).length
      match base? with
      | some ⟨baseScheme, username, password, host, port, .segments path, query, fragment⟩ =>
        if slashes < 2 && baseScheme = scheme then
          readRelative ⟨baseScheme, username, password, host, port, .segments path, query, fragment⟩
            path rest
        else readAuthority scheme (rest.dropWhile (isSlash true))
      | _ => readAuthority scheme (rest.dropWhile (isSlash true))
    else readUnknown scheme rest
  | none =>
    match base? with
    | none => .error .relativeWithoutBase
    | some base =>
      match base.path, text with
      | _, '#' :: _ => .ok { base with fragment := (queryAndFragment base.isSpecial text).2 }
      | .rootless _, _ => .error .relativeWithRootlessBase
      | .segments path, _ =>
        if base.scheme = "file" then readFile (some base) (trimmed input)
        else readRelative base path text

/-- Reads an absolute URL. -/
def parse (input : String) : Except UrlFlaw Url := read none input

/-- The URL that a reference means when it is met at this one. -/
def join (u : Url) (reference : String) : Except UrlFlaw Url := read (some u) reference

end Courier.Url
