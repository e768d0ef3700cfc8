/-
  FlowBench.Http.Message
  ──────────────────────
  **Messages on the wire.**

  A request as the text that is sent, and a reply read from the bytes that
  came until the other side closed the connection.  The length of a reply is
  told by a header, or by the sizes of its chunks, or by its end.
-/
import FlowBench.Http.Exchange

namespace FlowBench.Http

/-! ## §1. Requests. -/

namespace Request

/-- Whom a request is for: the host, and the service if it is named. -/
def host (r : Request) : String :=
  match r.url.authority with
  | some a => { a with user := "" }.text
  | none => ""

/-- The name of the host that a request is sent to. -/
def hostName (r : Request) : String :=
  match r.url.authority.bind Url.Authority.host with
  | some (.ipv6 pieces) => String.ofList (Url.Host.ipv6Text pieces)
  | some h => h.text
  | none => ""

/-- The service that a request is sent to. -/
def service (r : Request) : Nat :=
  ((r.url.authority.bind Url.Authority.service).or (Url.usualService? r.url.scheme)).getD 80

/-- The headers of a request. -/
def headers (r : Request) : List (String × String) :=
  [("host", r.host), ("accept", "*/*"), ("connection", "close")]
    ++ (r.authorization.map fun a => ("authorization", a)).toList
    ++ (r.contentType.map fun t => ("content-type", t)).toList
    ++ (r.body.map fun b => ("content-length", toString b.utf8ByteSize)).toList

/-- The text of a request. -/
def text (r : Request) : String :=
  r.method.word ++ " " ++ r.url.pathAndQuery ++ " HTTP/1.1\r\n"
    ++ String.join (r.headers.map fun h => h.1 ++ ": " ++ h.2 ++ "\r\n")
    ++ "\r\n" ++ r.body.getD ""

end Request

/-! ## §2. Replies. -/

namespace Reply

/-- The bytes in front of the first empty line, and those behind it. -/
def splitHead : List UInt8 → List UInt8 × List UInt8
  | 13 :: 10 :: 13 :: 10 :: rest => ([], rest)
  | b :: rest =>
      let (head, body) := splitHead rest
      (b :: head, body)
  | [] => ([], [])

/-- Bytes as characters, one each. -/
def characters (bytes : List UInt8) : List Char := bytes.map fun b => Char.ofNat b.toNat

/-- The lines of a head. -/
def headLines (head : List UInt8) : List String :=
  ((String.ofList (characters head)).splitOn "\n").map fun line =>
    String.ofList (trim line.toList)

/-- The status that the first line of a head tells. -/
def status? (line : String) : Option Nat :=
  match line.splitOn " " with
  | _ :: status :: _ => status.toNat?
  | _ => none

/-- A header, if there is one of the name. -/
def header? (name : String) (lines : List String) : Option String :=
  lines.findSome? fun line =>
    let key := line.toList.takeWhile (· ≠ ':')
    if (String.ofList key).toLower = name then
      some (String.ofList (trim (line.toList.drop (key.length + 1))))
    else none

/-- The size in front of a chunk. -/
def chunkSize? (line : List UInt8) : Option Nat :=
  let digits := (characters line).takeWhile fun c => (Json.hexValue? c).isSome
  if digits.isEmpty then none
  else some (digits.foldl (fun n c => n * 16 + (Json.hexValue? c).getD 0) 0)

/-- What chunks hold, up to a number of them. -/
def joinChunks : Nat → List UInt8 → List UInt8
  | 0, _ => []
  | more + 1, bytes =>
      let line := bytes.takeWhile (· ≠ 13)
      let rest := bytes.drop (line.length + 2)
      match chunkSize? line with
      | none | some 0 => []
      | some n => rest.take n ++ joinChunks more (rest.drop (n + 2))

/-- The text of bytes; where they are no text, everything beyond ASCII is
replaced. -/
def textOf (bytes : List UInt8) : String :=
  match String.fromUTF8? ⟨bytes.toArray⟩ with
  | some text => text
  | none => String.ofList (bytes.map fun b => if b < 128 then Char.ofNat b.toNat else '\uFFFD')

/-- Reads a reply. -/
def ofBytes? (bytes : List UInt8) : Option Reply := do
  let (head, rest) := splitHead bytes
  let lines := headLines head
  let status ← status? (← lines.head?)
  let body :=
    if header? "transfer-encoding" lines = some "chunked" then joinChunks rest.length rest
    else
      match (header? "content-length" lines).bind String.toNat? with
      | some n => rest.take n
      | none => rest
  return ⟨status, textOf body⟩

end Reply

end FlowBench.Http
