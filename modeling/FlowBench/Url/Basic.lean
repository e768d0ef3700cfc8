/-
  FlowBench.Url.Basic
  ───────────────────
  **URLs.**

  A URL has a scheme, and either a host and a path of segments, or only a
  path, which may be one text that is not cut into segments.  `text` writes
  it; `append` adds segments to its path.
-/
import FlowBench.Url.Host

namespace FlowBench

namespace Url

/-- A path. -/
inductive Location where
  /-- One text; such a URL cannot be a base. -/
  | whole (text : String)
  | segments (names : List String)
  deriving DecidableEq, Repr

/-- What follows the two slashes. -/
structure Authority where
  /-- The user and the password, as written. -/
  user : String := ""
  host : Option Host := none
  /-- The number of the service at the host. -/
  service : Option Nat := none
  deriving DecidableEq, Repr

end Url

/-- A URL. -/
structure Url where
  scheme : String
  authority : Option Url.Authority
  location : Url.Location
  query : Option String := none
  fragment : Option String := none
  deriving DecidableEq, Repr

namespace Url

/-! ## §1. Schemes. -/

/-- The schemes of the web, which always have a host, with the usual numbers
of their services. -/
def webServices : List (String × Nat) :=
  [("http", 80), ("https", 443), ("ws", 80), ("wss", 443), ("ftp", 21)]

/-- The service that a scheme does not need to name. -/
def usualService? (scheme : String) : Option Nat := webServices.lookup scheme

/-- Whether a scheme is one of the web, or that of files. -/
def isSpecial (scheme : String) : Bool := (usualService? scheme).isSome || scheme = "file"

/-! ## §2. Text. -/

/-- The text of a path. -/
def Location.text : Location → String
  | .whole t => t
  | .segments names => String.join (names.map fun n => "/" ++ n)

/-- The text of what follows the two slashes. -/
def Authority.text (a : Authority) : String :=
  (if a.user.isEmpty then "" else a.user ++ "@")
    ++ ((a.host.map Host.text).getD "")
    ++ ((a.service.map fun n => ":" ++ toString n).getD "")

/-- The path and the query. -/
def pathAndQuery (u : Url) : String :=
  u.location.text ++ ((u.query.map fun q => "?" ++ q).getD "")

/-- Whether a path without a host would read as a host. -/
def readsAsHost : Location → Bool
  | .segments ("" :: _ :: _) => true
  | _ => false

/-- The text of a URL. -/
def text (u : Url) : String :=
  u.scheme ++ ":"
    ++ (match u.authority with
      | some a => "//" ++ a.text
      | none => if readsAsHost u.location then "/." else "")
    ++ u.pathAndQuery ++ ((u.fragment.map fun f => "#" ++ f).getD "")

/-- Whether other URLs can build on a URL. -/
def canBeBase (u : Url) : Bool :=
  match u.location with
  | .whole _ => false
  | .segments _ => true

/-! ## §3. Segments. -/

/-- Whether a segment stands for the one it is in. -/
def isSingleDot (s : String) : Bool := s ∈ [".", "%2e", "%2E"]

/-- Whether a segment stands for the one above. -/
def isDoubleDot (s : String) : Bool :=
  s ∈ ["..", "%2e%2e", "%2e%2E", "%2E%2e", "%2E%2E", "%2e.", "%2E.", ".%2e", ".%2E"]

/-- Line breaks and tabs are left out of URLs. -/
def isDropped (c : Char) : Bool := c = '\t' || c = '\n' || c = '\r'

/-- Whether a text is a letter and a colon, or a bar, which name a drive. -/
def isDrive : List Char → Bool
  | [a, b] => a.isAlpha && (b = ':' || b = '|')
  | _ => false

/-- Whether a text is the name of a drive, or goes on with a backslash behind
one. -/
def startsOnDrive : List Char → Bool
  | [a, b] => isDrive [a, b]
  | a :: b :: '\\' :: _ => isDrive [a, b]
  | _ => false

/-- The path above; what starts on a drive stays. -/
def above (names : List String) : List String :=
  if names.getLast?.any fun n => startsOnDrive n.toList then names else names.dropLast

/-- A path without the empty segment at its end; the root keeps its only
one. -/
def withoutEmptyEnd (names : List String) : List String :=
  if 1 < names.length && names.getLast? = some "" then names.dropLast else names

/-- Adds one segment to a path; the empty segment of the root gives way.
Segments of dots do nothing, unless line breaks or tabs come between the
dots: then they go where dots in a path go. -/
def appendSegment (special : Bool) (names : List String) (segment : String) : List String :=
  if segment = "." || segment = ".." then names
  else
    let cs := segment.toList.filter fun c => !isDropped c
    let name := String.ofList (encode (segmentSet special) cs)
    let front := if names = [""] then [] else names
    if isDoubleDot name then above front ++ [""]
    else if isSingleDot name then front ++ [""]
    else front ++ [name]

/-- The URL with segments added to its path, where it has segments. -/
def append (u : Url) (segments : List String) : Url :=
  match u.location with
  | .whole _ => u
  | .segments names =>
      { u with
        location := .segments
          (segments.foldl (appendSegment (isSpecial u.scheme)) (withoutEmptyEnd names)) }

end Url

end FlowBench
