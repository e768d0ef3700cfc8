/-
  FlowBench.Url.Parser
  ────────────────────
  **Reading URLs.**

  Spaces and control characters around a URL and line breaks and tabs in it
  are left out, though a line break behind a drive ends its segment.  In URLs
  of the web and of files a backslash is a slash, and there may be any number
  of slashes in front of the host.
-/
import FlowBench.Url.Basic

namespace FlowBench.Url

/-! ## §1. Schemes. -/

/-- Whether a character may stand in a scheme. -/
def isSchemeChar (c : Char) : Bool := c.isAlphanum || c = '+' || c = '-' || c = '.'

/-- Characters without those that are left out. -/
def kept (cs : List Char) : List Char := cs.filter fun c => !isDropped c

/-- The scheme of a URL, and what follows its colon as it is written. -/
def scheme? (cs : List Char) : Option (String × List Char) :=
  let part := cs.takeWhile fun c => isSchemeChar c || isDropped c
  let name := kept part
  match name.head?, cs.drop part.length with
  | some c, ':' :: rest =>
      if c.isAlpha then some (String.ofList (name.map Char.toLower), rest) else none
  | _, _ => none

/-! ## §2. Paths. -/

/-- Whether a character separates the segments of a path. -/
def isSlash (special : Bool) (c : Char) : Bool := c = '/' || (special && c = '\\')

/-- Where segments lead. -/
structure Trail where
  names : List String := []
  /-- Whether it leads to a drive. -/
  onDrive : Bool := false

/-- The drive that a segment starts with, and what follows it, where a line
break or a tab comes between them. -/
def splitDrive? (cs : List Char) : Option (String × List Char) :=
  match cs.dropWhile isDropped with
  | a :: rest =>
      match rest.dropWhile isDropped with
      | ':' :: c :: more =>
          if a.isAlpha && isDropped c then some (String.ofList [a, ':'], kept more) else none
      | _ => none
  | [] => none

/-- Walks the segments of a path: dots are followed and the others kept.  At
the start of a file's path a drive is kept with a colon, and a line break
behind a drive ends its segment. -/
def walk (isFile : Bool) : Trail → List (List Char) → Trail
  | t, [] => t
  | t, cs :: rest =>
      let name := String.ofList (encode pathSet (kept cs))
      let ended := if rest.isEmpty then [""] else []
      if isDoubleDot name then walk isFile { t with names := above t.names ++ ended } rest
      else if isSingleDot name then walk isFile { t with names := t.names ++ ended } rest
      else if isFile && t.names.isEmpty then
        if isDrive (kept cs) then
          walk isFile ⟨[String.ofList ((kept cs).take 1 ++ [':'])], true⟩ rest
        else
          match splitDrive? cs with
          | some (drive, more) =>
              walk isFile { t with names := [drive, String.ofList (encode pathSet more)] } rest
          | none => walk isFile { t with names := [name] } rest
      else walk isFile { t with names := t.names ++ [name] } rest

/-- The segments of a path behind its first slash. -/
def segmentsOf (special : Bool) (cs : List Char) : List String :=
  (walk false {} (Host.splitAt (isSlash special) cs)).names

/-- Where the path of a file leads, without empty segments at its start. -/
def fileTrail (cs : List Char) : Trail :=
  let t := walk true {} (Host.splitAt (isSlash true) cs)
  match t.names.dropWhile String.isEmpty with
  | [] => { t with names := [""] }
  | names => { t with names := names }

/-! ## §3. Hosts. -/

/-- Reads what stands in front of the host: the user, and what follows the
last at sign. -/
def splitUser (cs : List Char) : Option (List Char) × List Char :=
  if cs.contains '@' then
    let host := (cs.reverse.takeWhile (· ≠ '@')).reverse
    (some (cs.take (cs.length - host.length - 1)), host)
  else (none, cs)

/-- The user and the password as they are kept; a password that is empty is
left out with its colon. -/
def userText (cs : List Char) : String :=
  let name := cs.takeWhile (· ≠ ':')
  let password := (cs.drop name.length).drop 1
  String.ofList
    (encode userSet name ++ if password.isEmpty then [] else ':' :: encode userSet password)

/-- The host, and what follows the colon behind it; colons in brackets belong
to the host. -/
def splitService : Bool → List Char → List Char × Option (List Char)
  | _, [] => ([], none)
  | inside, c :: rest =>
      if c = ':' && !inside then ([], some rest)
      else
        let (host, service) := splitService (c = '[' || (inside && c ≠ ']')) rest
        (c :: host, service)

/-- A service; one that the scheme does not need to name is left out. -/
def service? (scheme : String) (cs : List Char) : Except Fault (Option Nat) :=
  if cs.all Char.isDigit then
    let n := cs.foldl (fun n c => n * 10 + (c.toNat - 48)) 0
    if 65535 < n then .error .badService
    else .ok (if cs.isEmpty || usualService? scheme = some n then none else some n)
  else .error .badService

/-- Reads what follows the two slashes, up to the next; a backslash ends the
service, and what follows is left over. -/
def authority? (scheme : String) (cs : List Char) (ended : Bool) :
    Except Fault (Authority × List Char) := do
  let (user, rest) := splitUser cs
  let (host, service) := splitService false rest
  if user = some [] && rest.isEmpty && !ended then .error .emptyHost
  else if host.isEmpty then
    if isSpecial scheme || service.isSome || (user.map userText).getD "" ≠ "" then
      .error .emptyHost
    else return ({}, [])
  else
    let host ← if isSpecial scheme then Host.parse host else Host.parseElsewhere host
    let user := (user.map userText).getD ""
    match service with
    | some cs =>
        let digits := cs.takeWhile (· ≠ '\\')
        return (⟨user, some host, ← service? scheme digits⟩, cs.drop digits.length)
    | none => return (⟨user, some host, none⟩, [])

/-! ## §4. URLs. -/

/-- The path, the query and the fragment of what follows a host. -/
def splitTail (cs : List Char) : List Char × Option (List Char) × Option (List Char) :=
  let beforeFragment := cs.takeWhile (· ≠ '#')
  let fragment := match cs.drop beforeFragment.length with
    | _ :: rest => some rest
    | [] => none
  let path := beforeFragment.takeWhile (· ≠ '?')
  let query := match beforeFragment.drop path.length with
    | _ :: rest => some rest
    | [] => none
  (path, query, fragment)

/-- A URL from its parts. -/
def assemble (scheme : String) (authority : Option Authority) (location : Location)
    (query fragment : Option (List Char)) : Url :=
  { scheme := scheme
    authority := authority
    location := location
    query := query.map fun q => String.ofList (encode (querySet (isSpecial scheme)) (kept q))
    fragment := fragment.map fun f => String.ofList (encode fragmentSet (kept f)) }

/-- The path behind a host: that of the web has a segment at least. -/
def hostLocation (special : Bool) (cs : List Char) : Location :=
  match cs with
  | [] => .segments (if special then [""] else [])
  | c :: rest => .segments (segmentsOf special (if isSlash special c then rest else c :: rest))

/-- Reads a URL with a host. -/
def parseHosted (scheme : String) (cs : List Char) : Except Fault Url := do
  let special := isSpecial scheme
  let part := cs.takeWhile fun c => !(isSlash special c || c = '?' || c = '#')
  let rest := cs.drop part.length
  let (authority, left) ← authority? scheme part rest.isEmpty
  let (path, query, fragment) := splitTail rest
  return assemble scheme (some authority) (hostLocation special (left ++ path)) query fragment

/-- Reads a URL without a host. -/
def parseHostless (scheme : String) (cs : List Char) : Url :=
  let (path, query, fragment) := splitTail cs
  let location : Location := match path with
    | '/' :: rest => .segments (segmentsOf false rest)
    | path => .whole (String.ofList (encode controlSet path))
  assemble scheme none location query fragment

/-- The host of a file's URL; that of this machine is none. -/
def fileHost? (cs : List Char) : Except Fault (Option Host) :=
  if cs.isEmpty then .ok none
  else (Host.parse cs).map fun h => if h = .domain "localhost" then none else some h

/-- What follows the slash that a text starts with. -/
def behindSlash? (cs : List Char) : Option (List Char) :=
  match cs.dropWhile isDropped with
  | c :: rest => if isSlash true c then some rest else none
  | [] => none

/-- Reads the URL of a file.  A drive is no host, and where a host is
followed by one it gives way.  Without a host the slash in front of the path
counts as a segment, so that no drive is seen behind it. -/
def parseFile (cs : List Char) : Except Fault Url := do
  let (before, query, fragment) := splitTail cs
  let url (host : Option Host) (names : List String) : Url :=
    assemble "file" (some ⟨"", host, none⟩) (.segments names) query fragment
  match behindSlash? before with
  | none => return url none (fileTrail before).names
  | some path =>
      match behindSlash? path with
      | none => return url none (fileTrail path).names
      | some rest =>
          let part := rest.takeWhile fun c => !isSlash true c
          if isDrive (kept part) then return url none (fileTrail rest).names
          else
            let behind := rest.drop part.length
            match ← fileHost? (kept part) with
            | none => return url none (fileTrail behind).names
            | some host =>
                let t := fileTrail ((behindSlash? behind).getD behind)
                return url (if t.onDrive then none else some host) t.names

/-- Reads a URL. -/
def parse (text : String) : Except Fault Url :=
  let blank (c : Char) : Bool := c.toNat ≤ 0x20
  let cs := ((text.toList.dropWhile blank).reverse.dropWhile blank).reverse
  match scheme? cs with
  | none => .error .relative
  | some (scheme, rest) =>
      if scheme = "file" then parseFile rest
      else if isSpecial scheme then parseHosted scheme ((kept rest).dropWhile (isSlash true))
      else
        match kept rest with
        | '/' :: '/' :: rest => parseHosted scheme rest
        | rest => .ok (parseHostless scheme rest)

end FlowBench.Url
