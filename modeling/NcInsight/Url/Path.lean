import NcInsight.Url.Host

/-
Paths.

A path is read segment by segment onto what is already there.  A dot segment adds nothing,
a double-dot segment takes the last segment back, and neither removes the root or, in
a file address, a drive letter at the front.  `done` is the path up to the last slash;
`segment` is what was read after it.
-/
namespace NcInsight
namespace Url

/-- What a scheme allows: addresses of the web and of files have a host and read a
backslash as a slash. -/
inductive SchemeKind where
  | file
  | web
  | other
  deriving DecidableEq, Repr

namespace SchemeKind

def isSpecial : SchemeKind → Bool
  | other => false
  | _ => true

def of (scheme : List Char) : SchemeKind :=
  if scheme = "file".toList then file
  else if ["http", "https", "ws", "wss", "ftp"].any (·.toList = scheme) then web
  else other

end SchemeKind

namespace Path

/-- A letter and a colon or a bar, then nothing more. -/
def isDrive : List Char → Bool
  | [a, b] => Host.isAlpha a && (b = ':' || b = '|')
  | _ => false

def isNormalDrive (cs : List Char) : Bool := isDrive cs && cs.getLast? = some ':'

def endsPath (c : Char) : Bool := c = '/' || c = '\\' || c = '?' || c = '#'

/-- A drive letter followed by the end of a segment. -/
def startsWithDrive : List Char → Bool
  | [a, b] => isDrive [a, b]
  | a :: b :: c :: _ => isDrive [a, b] && endsPath c
  | _ => false

/-- Up to and with the last slash. -/
def dropSegment (path : List Char) : List Char := (path.reverse.dropWhile (· ≠ '/')).reverse

/-- After the last slash. -/
def lastSegment (path : List Char) : List Char := (path.reverse.takeWhile (· ≠ '/')).reverse

/-- The path without its last segment; a drive letter stays. -/
def pop (kind : SchemeKind) (path : List Char) : List Char :=
  if path.isEmpty then path
  else if kind = .file && isNormalDrive (lastSegment path) then path
  else dropSegment path

/-- Whether the slash at the end closes a segment that can be taken back. -/
def canReopen (path : List Char) : Bool :=
  let before := path.dropLast
  if before.contains '/' then !startsWithDrive (lastSegment before ++ ['/']) else false

/-- The path after a double-dot segment. -/
def up (kind : SchemeKind) (done : List Char) (slash : Bool) : List Char :=
  let path := if done.getLast? = some '/' && canReopen done then done.dropLast else done
  let path := pop kind path
  if slash && path.getLast? ≠ some '/' then path ++ ['/'] else path

def isDot (segment : List Char) : Bool :=
  [".", "%2e", "%2E"].any (·.toList = segment)

def isDoubleDot (segment : List Char) : Bool :=
  ["..", "%2e%2e", "%2e%2E", "%2E%2e", "%2E%2E", "%2e.", "%2E.", ".%2e", ".%2E"].any
    (·.toList = segment)

/-- Ends a segment.  Also says whether the host survives: a drive letter at the front of a
file path puts it out of force. -/
def close (kind : SchemeKind) (host : Bool) (done segment : List Char) (slash : Bool) :
    List Char × Bool :=
  let tail := if slash then ['/'] else []
  if isDoubleDot segment then (up kind done slash, host)
  else if isDot segment then
    (if done.getLast? = some '/' then done else done ++ ['/'], host)
  else if kind = .file && done.length = 1 && isDrive segment then
    (done ++ segment.take 1 ++ [':'] ++ tail, false)
  else (done ++ segment ++ tail, host)

/-- Parts a file path that is a drive letter and nothing more from what follows it.  The
text of a segment counts as written only at its end or where the line was broken, so `C:x`
on one line is a name like any other. -/
def afterDrive (kind : SchemeKind) (broken : Bool) (done segment : List Char) :
    List Char × List Char :=
  let path := done ++ segment
  if kind = .file && (segment.isEmpty || broken) && isNormalDrive (path.drop 1) then
    let path := path ++ ['/']
    (path.take (done.length + 1), path.drop (done.length + 1))
  else (done, segment)

/-- Reads a path up to a query, a fragment or the end.  Answers the path, whether the host
survives, and what follows.  `breaks` has the places where the line was broken, each as the
number of characters behind it. -/
def readFrom (kind : SchemeKind) (breaks : List Nat) (host : Bool) (done segment : List Char) :
    List Char → List Char × Bool × List Char
  | [] => let (path, host) := close kind host done segment false; (path, host, [])
  | c :: cs =>
      if c = '/' || (c = '\\' && kind.isSpecial) then
        let (path, host) := close kind host done segment true
        readFrom kind breaks host path [] cs
      else if c = '?' || c = '#' then
        let (path, host) := close kind host done segment false
        (path, host, c :: cs)
      else
        let (done, segment) := afterDrive kind (breaks.contains (c :: cs).length) done segment
        readFrom kind breaks host done (segment ++ encodeChar pathSet c) cs

/-- Reads a path onto `base`.  A file path has one slash at its front. -/
def read (kind : SchemeKind) (breaks : List Nat) (host : Bool) (base : List Char)
    (cs : List Char) : List Char × Bool × List Char :=
  let (path, host, rest) := readFrom kind breaks host base [] cs
  if kind = .file then ('/' :: path.dropWhile (· = '/'), host, rest) else (path, host, rest)

end Path
end Url
end NcInsight
