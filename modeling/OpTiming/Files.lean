import OpTiming.SystemError

/-!
# Files that describe the host

The system describes its processors in small text files.  They are read whole, may be missing or
unreadable, and may say something else on the next reading.

* **`Reading`** — what reading a file gives.
* **`Attempt`** — what one attempt to read it comes to: a reading, unless it was interrupted.
* **`Files`** — what successive attempts on each path will come to; the last one repeats.  A path
  without an entry does not exist.  The paths that were opened are kept, in order.
* **`Files.read`** — reads a file, and tries again at once after every interruption.
-/

namespace OpTiming

/-- What reading a file gives. -/
inductive Reading
  /-- The text of the file. -/
  | text (content : String)
  | missing
  /-- The file cannot be read, for the given reason. -/
  | failed (reason : String)
  deriving DecidableEq, Repr

namespace Reading

/-- The text, where there is one. -/
def text? : Reading → Option String
  | text content => some content
  | missing | failed _ => none

/-- The reading of a file that holds bytes. -/
def ofBytes (bytes : ByteArray) : Reading :=
  match String.fromUTF8? bytes with
  | some content => text content
  | none => failed "stream did not contain valid UTF-8"

end Reading

/-- What one attempt to read a file comes to. -/
inductive Attempt
  /-- It gives a reading. -/
  | gives (reading : Reading)
  /-- It was interrupted before the file was open. -/
  | interrupted
  deriving DecidableEq, Repr

namespace Attempt

/-- The attempt that the operating system refuses with a number. -/
def refused (code : Nat) : Attempt :=
  if code = SystemError.noSuchFile then gives .missing
  else if code = SystemError.interrupted then interrupted
  else gives (.failed (SystemError.describe code))

/-- What is left of an attempt after which there is no other. -/
def reading : Attempt → Reading
  | gives r => r
  | interrupted => .failed (SystemError.describe SystemError.interrupted)

end Attempt

/-- What the files will give, and which were opened. -/
structure Files where
  /-- The attempts still to come on each path. -/
  contents : List (String × List Attempt)
  /-- The paths opened, in order. -/
  opened : Array String

namespace Files

/-- Files that were not opened yet. -/
def ofList (contents : List (String × List Attempt)) : Files := ⟨contents, #[]⟩

/-- The attempts on a path from the first that counts: all but the last may be interrupted, and those
that are before it are passed over. -/
def settled : List Attempt → List Attempt
  | .interrupted :: a :: more => settled (a :: more)
  | attempts => attempts

/-- The reading that comes next. -/
def next (attempts : List Attempt) : Reading :=
  match settled attempts with
  | [] => .missing
  | a :: _ => a.reading

/-- How often a path is opened until it gives a reading. -/
def openings (attempts : List Attempt) : Nat := attempts.length - (settled attempts).length + 1

/-- The attempts left after a reading; the last one stays. -/
def rest (attempts : List Attempt) : List Attempt :=
  match settled attempts with
  | _ :: a :: more => a :: more
  | last => last

/-- The attempts still to come on a path. -/
def attempts (f : Files) (path : String) : List Attempt := (f.contents.lookup path).getD []

def read (path : String) (f : Files) : Reading × Files :=
  (next (f.attempts path),
    { contents := f.contents.map fun (p, attempts) =>
        if p = path then (p, rest attempts) else (p, attempts)
      opened := f.opened ++ Array.replicate (openings (f.attempts path)) path })

end Files

end OpTiming
