/-
  FlowBench.Plan.Basic
  ────────────────────
  **Plans.**

  A plan says what is done to the world, one act after the other; what comes
  next may depend on what came back.  Plans are put together like any other
  value, and carried out elsewhere: in the world, or in memory.
-/
import FlowBench.Error
import FlowBench.Http.Exchange

namespace FlowBench

/-! ## §1. Files. -/

/-- Why a file cannot be read or written. -/
inductive FileFault where
  | missing
  | directory
  /-- A part of the path is a file. -/
  | notDirectory
  /-- The path or a part of it is too long. -/
  | tooLong
  /-- The path holds a character that ends names. -/
  | unnamable
  | denied
  /-- The file is not in UTF-8. -/
  | notText
  | other (text : String)
  deriving DecidableEq, Repr

/-- The text of a fault. -/
def FileFault.text : FileFault → String
  | missing => "No such file or directory (os error 2)"
  | directory => "Is a directory (os error 21)"
  | notDirectory => "Not a directory (os error 20)"
  | tooLong => "File name too long (os error 36)"
  | unnamable => "file name contained an unexpected NUL byte"
  | denied => "Permission denied (os error 13)"
  | notText => "stream did not contain valid UTF-8"
  | other text => text

/-! ## §2. Plans. -/

/-- A plan that ends with an `α`. -/
inductive Plan (α : Type) where
  | done (a : α)
  /-- Reads a file. -/
  | read (file : String) (next : Except FileFault String → Plan α)
  /-- Replaces the text of a file. -/
  | write (file text : String) (next : Except FileFault Unit → Plan α)
  /-- Prints a line. -/
  | print (line : String) (next : Plan α)
  /-- Prints a line for whoever watches, apart from the result. -/
  | note (line : String) (next : Plan α)
  /-- Sends a request; there may be no reply. -/
  | send (request : Http.Request) (next : Option Http.Reply → Plan α)

namespace Plan

/-- One plan after the other. -/
def bind {α β : Type} : Plan α → (α → Plan β) → Plan β
  | done a, f => f a
  | read file next, f => read file fun x => (next x).bind f
  | write file text next, f => write file text fun x => (next x).bind f
  | print line next, f => print line (next.bind f)
  | note line next, f => note line (next.bind f)
  | send request next, f => send request fun x => (next x).bind f

instance : Monad Plan where
  pure := done
  bind := bind

/-- A plan that may fail. -/
abbrev Fallible (α : Type) : Type := ExceptT Error Plan α

/-! ## §3. Acts. -/

/-- A result. -/
def give {α : Type} (r : Except Error α) : Fallible α := ExceptT.mk (.done r)

/-- Prints lines. -/
def printAll : List String → Plan Unit
  | [] => .done ()
  | line :: rest => .print line (printAll rest)

/-- Prints lines for whoever watches. -/
def noteAll : List String → Plan Unit
  | [] => .done ()
  | line :: rest => .note line (noteAll rest)

/-- The text of a file. -/
def textOf (file : String) : Fallible String :=
  ExceptT.mk (.read file fun r => .done (r.mapError fun fault => .io fault.text))

/-- Replaces the text of a file. -/
def replaceText (file text : String) : Fallible Unit :=
  ExceptT.mk (.write file text fun r => .done (r.mapError fun fault => .io fault.text))

/-- The reply to a request. -/
def exchange (r : Http.Request) : Fallible Http.Reply :=
  ExceptT.mk
    (if r.isSendable then
      .send r fun reply =>
        .done (match reply with
          | some reply => .ok reply
          | none => .error (.backend 0 "there was no reply"))
    else .done (.error (.backend 0 "the key cannot be sent")))

end Plan

end FlowBench
