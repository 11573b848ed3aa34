import NcInsight.Url.Basic

/-
Reading an address, alone or as a reference joined to a base.

Controls and blanks at the ends and tabs and line ends anywhere are dropped first.  A
reference with a scheme of its own stands alone, except that one of the scheme of its base
may leave out what the base has.
-/
namespace NcInsight
namespace Url

/-- A tab or a line end, which no address holds. -/
def isBreak (c : Char) : Bool := c = '\t' || c = '\n' || c = '\r'

/-- The text without controls and blanks at its ends. -/
def trimEdges (cs : List Char) : List Char := Text.trimBoth (·.toNat ≤ 0x20) cs

/-- The characters that count. -/
def clean (cs : List Char) : List Char := (trimEdges cs).filter (!isBreak ·)

/-- The places between the characters that count where one was dropped, each as the number
of characters behind it. -/
def breaksOf : List Char → List Nat
  | [] => []
  | c :: cs => if isBreak c then (cs.filter (!isBreak ·)).length :: breaksOf cs else breaksOf cs

def lower (c : Char) : Char := if 'A' ≤ c ∧ c ≤ 'Z' then Char.ofNat (c.toNat + 32) else c

def isSchemeChar (c : Char) : Bool :=
  Host.isAlpha c || c.isDigit || c = '+' || c = '-' || c = '.'

/-- The scheme, in lowercase, and what follows its colon. -/
def splitScheme (cs : List Char) : Option (List Char × List Char) :=
  match cs with
  | c :: _ =>
      if Host.isAlpha c then
        match cs.span isSchemeChar with
        | (scheme, ':' :: r) => some (scheme.map lower, r)
        | _ => none
      else none
  | [] => none

/-! ## Query and fragment -/

def readFragment : List Char → Option (List Char)
  | '#' :: r => some (encode fragmentSet r)
  | _ => none

/-- Query and fragment of what follows a path. -/
def readEnd (kind : SchemeKind) (cs : List Char) : Option (List Char) × Option (List Char) :=
  match cs with
  | '?' :: r =>
      let (query, r) := r.span (· ≠ '#')
      (some (encode (if kind.isSpecial then specialQuerySet else querySet) query), readFragment r)
  | cs => (none, readFragment cs)

/-- The address with what follows its path. -/
def withEnd (u : Url) (cs : List Char) : Url :=
  let (query, fragment) := readEnd u.kind cs
  { u with query, fragment }

/-! ## Authority -/

def endsAuthority (kind : SchemeKind) (c : Char) : Bool :=
  c = '/' || c = '?' || c = '#' || (c = '\\' && kind.isSpecial)

/-- User and password, written.  A password that is empty is left out with its colon. -/
def writeUserinfo (cs : List Char) : List Char :=
  let (user, rest) := cs.span (· ≠ ':')
  let password := rest.drop 1
  let user := encode userinfoSet user
  let text := if password.isEmpty then user else user ++ [':'] ++ encode userinfoSet password
  if text.isEmpty then [] else text ++ ['@']

/-- The part before the last at sign of the authority. -/
def splitUserinfo (kind : SchemeKind) (cs : List Char) : Option (List Char) × List Char :=
  let whole := cs.takeWhile (!endsAuthority kind ·)
  if whole.contains '@' then
    let host := (whole.reverse.takeWhile (· ≠ '@')).reverse
    let info := whole.take (whole.length - host.length - 1)
    (some info, cs.drop (info.length + 1))
  else (none, cs)

/-- The characters of a host: a colon ends it only outside brackets. -/
def hostChars (kind : SchemeKind) (inside : Bool) : List Char → List Char × List Char
  | [] => ([], [])
  | c :: cs =>
      if endsAuthority kind c || (c = ':' && !inside) then ([], c :: cs)
      else
        let (host, r) := hostChars kind (c = '[' || (inside && c ≠ ']')) cs
        (c :: host, r)

def defaultPort (scheme : List Char) : Option Nat :=
  match String.ofList scheme with
  | "http" | "ws" => some 80
  | "https" | "wss" => some 443
  | "ftp" => some 21
  | _ => none

/-- A port and what follows it; the usual port of the scheme is left out. -/
def readPort (scheme : List Char) (cs : List Char) : Option (Option Nat × List Char) :=
  let (ds, r) := cs.span Char.isDigit
  let port := Number.ofDigits ds
  let follows := match r with
    | [] => true
    | c :: _ => Path.endsPath c
  if 65535 < port || !follows then none
  else if ds.isEmpty || defaultPort scheme = some port then some (none, r)
  else some (some port, r)

/-- What follows two slashes. -/
def readAuthority (scheme : List Char) (cs : List Char) : Option (Authority × List Char) := do
  let kind := SchemeKind.of scheme
  let (info, cs) := splitUserinfo kind cs
  if info = some [] && (cs.head?.map (endsAuthority kind)).getD false then none
  let userinfo := (info.map writeUserinfo).getD []
  let (raw, r) := hostChars kind false cs
  if kind = .web && raw.isEmpty then none
  let host ← if kind.isSpecial then Host.special? raw else Host.plain? raw
  if host.isEmpty && (r.head? = some ':' || !userinfo.isEmpty) then none
  match r with
  | ':' :: r =>
      let (port, r) ← readPort scheme r
      return ({ userinfo, host, port }, r)
  | r => return ({ userinfo, host }, r)

/-- The path that follows an authority. -/
def readPathStart (kind : SchemeKind) (breaks : List Nat) (host : Bool) (cs : List Char) :
    List Char × Bool × List Char :=
  if kind.isSpecial then
    match cs with
    | '/' :: r | '\\' :: r => Path.read kind breaks host ['/'] r
    | r => Path.read kind breaks host ['/'] r
  else match cs with
    | [] => ([], host, [])
    | '?' :: r => ([], host, '?' :: r)
    | '#' :: r => ([], host, '#' :: r)
    | '/' :: r => Path.read kind breaks host ['/'] r
    | r => Path.read kind breaks host ['/'] r

def afterSlashes (scheme : List Char) (cs : List Char) : Option Url := do
  let (authority, r) ← readAuthority scheme cs
  let (path, _, r) := readPathStart (.of scheme) [] true r
  return withEnd
    { scheme, authority := some authority, path, query := none, fragment := none } r

/-! ## Files -/

def fileUrl (host path : List Char) : Url :=
  { scheme := "file".toList, authority := some { host }, path, query := none, fragment := none }

/-- The host of a file and what follows it.  A drive letter is no host. -/
def fileHost? (cs : List Char) : Option (List Char × List Char) := do
  let (raw, r) := cs.span (!Path.endsPath ·)
  if Path.isDrive raw then return ([], cs)
  if raw.isEmpty then return ([], r)
  let host ← Host.special? raw
  return (if host = "localhost".toList then [] else host, r)

/-- What follows `file://`. -/
def fileAfterSlashes (breaks : List Nat) (cs : List Char) : Option Url := do
  let (host, r) ← fileHost? cs
  if host.isEmpty then
    -- the rest comes with a slash of its own, so a drive letter in it is not the first segment and
    -- keeps its bar: `x` in `file:///C|` is `file:///x`, but in `file:///C:` it is `file:///C:/x`
    let (path, _, r) := Path.read .file breaks false ['/'] r
    return withEnd (fileUrl [] path) r
  else
    let (path, kept, r) := readPathStart .file breaks true r
    return withEnd (fileUrl (if kept then host else []) path) r

/-- The first segment of a path. -/
def firstSegment (path : List Char) : List Char := (path.drop 1).takeWhile (· ≠ '/')

/-- What follows a single slash of a file reference: host or drive letter come from the base. -/
def fileAfterSlash (breaks : List Nat) (base : Option Url) (cs : List Char) : Url :=
  let (host, start) :=
    if Path.startsWithDrive cs then ([], [])
    else match base with
      | none => ([], [])
      | some b =>
          let first := firstSegment b.path
          if Path.isNormalDrive first then ([], '/' :: first)
          else ((b.authority.map (·.host)).getD [], [])
  let (path, _, r) := Path.read .file breaks false start ('/' :: cs)
  withEnd (fileUrl host path) r

/-- A file address, with the file it is relative to. -/
def readFile (breaks : List Nat) (base : Option Url) (cs : List Char) : Option Url :=
  match cs, base with
  | '/' :: '/' :: r, _ | '/' :: '\\' :: r, _ | '\\' :: '/' :: r, _ | '\\' :: '\\' :: r, _ =>
      fileAfterSlashes breaks r
  | '/' :: r, base | '\\' :: r, base => some (fileAfterSlash breaks base r)
  | cs, none =>
      let (path, _, r) := Path.read .file breaks false ['/'] cs
      some (withEnd (fileUrl [] path) r)
  | [], some b => some { b with fragment := none }
  | '?' :: r, some b => some (withEnd b ('?' :: r))
  | '#' :: r, some b => some { b with fragment := readFragment ('#' :: r) }
  | cs, some b =>
      if Path.startsWithDrive cs then
        let (path, _, r) := Path.read .file breaks false ['/'] cs
        some (withEnd (fileUrl [] path) r)
      else
        let (path, _, r) := Path.read .file breaks true (Path.pop .file b.path) cs
        some (withEnd { b with path } r)

/-! ## References without a scheme of their own -/

def countSlashes (cs : List Char) : Nat := (cs.takeWhile fun c => c = '/' || c = '\\').length

def readRelative (base : Url) (cs : List Char) : Option Url :=
  match cs with
  | [] => some { base with fragment := none }
  | '?' :: r => some (withEnd base ('?' :: r))
  | '#' :: r => some { base with fragment := readFragment ('#' :: r) }
  | c :: r =>
      if c = '/' || c = '\\' then
        if 2 ≤ countSlashes cs then
          match cs with
          | '/' :: '/' :: r => afterSlashes base.scheme r
          | cs => afterSlashes base.scheme (cs.drop (countSlashes cs))
        else
          let (path, _, r) := Path.read base.kind [] true ['/'] r
          some (withEnd { base with path } r)
      else
        let popped := Path.pop base.kind base.path
        let start := if popped.isEmpty then ['/'] else popped
        let (path, _, r) := Path.read base.kind [] true start cs
        some (withEnd { base with path } r)

/-! ## References with a scheme -/

def readPlain (scheme : List Char) (cs : List Char) : Option Url :=
  match cs with
  | '/' :: '/' :: r => afterSlashes scheme r
  | '/' :: r =>
      let (path, _, r) := Path.read .other [] false ['/'] r
      some (withEnd { scheme, authority := none, path, query := none, fragment := none } r)
  | cs =>
      let (path, r) := cs.span fun c => c ≠ '?' && c ≠ '#'
      some (withEnd
        { scheme, authority := none, path := encode [] path, query := none, fragment := none } r)

def readWithScheme (breaks : List Nat) (base : Option Url) (scheme cs : List Char) :
    Option Url :=
  match SchemeKind.of scheme with
  | .file => readFile breaks (base.filter (·.kind = .file)) cs
  | .web =>
      match base.filter fun b => b.scheme = scheme && countSlashes cs < 2 with
      | some b => readRelative b cs
      | none => afterSlashes scheme (cs.drop (countSlashes cs))
  | .other => readPlain scheme cs

/-- Reads an address, or a reference relative to `base`. -/
def read (base : Option Url) (s : String) : Option Url :=
  let cs := clean s.toList
  let breaks := breaksOf (trimEdges s.toList)
  match splitScheme cs, base with
  | some (scheme, r), base => readWithScheme breaks base scheme r
  | none, none => none
  | none, some b =>
      if cs.head? = some '#' then some { b with fragment := readFragment cs }
      else if !b.isBase then none
      else if b.kind = .file then readFile breaks (some b) cs
      else readRelative b cs

/-- The address a text is. -/
def parse? (s : String) : Option Url := read none s

/-- The address a reference means in a file at `base`. -/
def join? (base : Url) (s : String) : Option Url := read (some base) s

end Url
end NcInsight
