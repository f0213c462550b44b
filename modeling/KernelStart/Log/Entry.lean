import KernelStart.Log.Level
import KernelStart.Program

/-!
# Programs that log

A log entry is a severity and a text.  `Logged S` extends a signature by one more
request, which hands over an entry and learns nothing from it: the answer is `Unit`,
so whether an entry was emitted or held back cannot reach the program.  The
environment decides: `collecting` keeps the entries that pass a threshold, in order,
and sends every other request on unchanged.

Entries are terminated by a newline and may hold more, so the text of a list of
entries is cut into lines by `transcript`.  The serial line can show no character
that erases: a backspace or delete character is sent as backspace, blank, backspace.
-/

set_option autoImplicit false

namespace KernelStart

namespace Log

/-- A message and its severity. -/
structure Entry where
  level : Level
  text : String
  deriving DecidableEq, Repr

/-- The line of an entry: the marker of its severity, a blank, its text. -/
def Entry.line (entry : Entry) : String :=
  entry.level.tag ++ " " ++ entry.text

/-- What an entry leaves behind: itself, if it passes the threshold. -/
def Entry.emittedAt (threshold : Level) (entry : Entry) : List Entry :=
  if entry.level.passes threshold then [entry] else []

/-! ## Text on the serial line -/

/-- Erasing characters become backspace, blank, backspace; all others are sent as they are. -/
def serialCharacter (character : Char) : List Char :=
  if character.toNat = 8 ∨ character.toNat = 127 then
    [Char.ofNat 8, ' ', Char.ofNat 8]
  else
    [character]

/-- The characters that the serial line carries for a text. -/
def serialText (text : List Char) : List Char :=
  text.flatMap serialCharacter

/-- Cuts a text at its newlines.  A rest without a newline is a line, an empty rest is none. -/
def splitLines : List Char → List (List Char)
  | [] => []
  | character :: rest =>
    if character = '\n' then
      [] :: splitLines rest
    else
      match splitLines rest with
      | [] => [[character]]
      | first :: more => (character :: first) :: more

/-- The lines that an entry puts on the serial line. -/
def Entry.lines (entry : Entry) : List String :=
  (splitLines (serialText (entry.line ++ "\n").toList)).map String.ofList

/-- The lines of a list of entries, in order. -/
def transcript (entries : List Entry) : List String :=
  entries.flatMap Entry.lines

end Log

/-! ## One more request -/

/-- A request of `S`, or an entry for the log. -/
inductive LoggedRequest (S : Signature) where
  | log (entry : Log.Entry)
  | plain (request : S.Request)

/-- The signature `S` with logging added. -/
abbrev Logged (S : Signature) : Signature where
  Request := LoggedRequest S
  Answer
    | .log _ => Unit
    | .plain request => S.Answer request

namespace Program

variable {S T : Signature} {α σ : Type}

/-- Hands an entry to the log. -/
def log (level : Log.Level) (text : String) : Program (Logged S) Unit :=
  .ask (LoggedRequest.log ⟨level, text⟩) .done

/-- A program that happens not to log. -/
def quiet (program : Program S α) : Program (Logged S) α :=
  program.interpret fun r => .ask (LoggedRequest.plain r) .done

/-- Gives the requests of `S` a meaning and passes log entries on. -/
def keepingLog (meaning : (request : S.Request) → Program (Logged T) (S.Answer request)) :
    (request : (Logged S).Request) → Program (Logged T) ((Logged S).Answer request)
  | .log entry => .ask (LoggedRequest.log entry) .done
  | .plain r => meaning r

/-- Replaces the requests of `S` in a program that logs. -/
def interpretLogged (meaning : (request : S.Request) → Program (Logged T) (S.Answer request))
    (program : Program (Logged S) α) : Program (Logged T) α :=
  program.interpret (keepingLog meaning)

end Program

namespace Log

variable {S : Signature} {σ : Type}

/-- Answers the requests of `S` as before and keeps the entries that pass the threshold. -/
def collecting (threshold : Level) (environment : Environment S σ) :
    Environment (Logged S) (σ × List Entry)
  | .log entry, (state, emitted) => (.ok (), (state, emitted ++ entry.emittedAt threshold))
  | .plain request, (state, emitted) =>
    let (answer, reached) := environment request state
    (answer, (reached, emitted))

end Log

end KernelStart
