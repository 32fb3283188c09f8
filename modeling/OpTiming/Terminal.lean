import OpTiming.Capability
import OpTiming.Decimal.Fixed

/-!
# Notes for a terminal

The lines that accompany results for whoever sits in front of the run: headers, notes on what is
left out, warnings.  Parts of them may be emphasised by the escape sequences of a terminal.

* **`Ink`** — whether emphasis is shown at all.
* **`Ink.ofEnvironment`** — whether the environment asks for it where no terminal is attached.
* **`Ink.paint`** — emphasise a text.  A reset inside the text would end the emphasis early, so the
  emphasis is started again after it.
-/

namespace OpTiming

/-- Whether emphasis is shown. -/
inductive Ink
  | plain
  | colored
  deriving DecidableEq, Repr

namespace Ink

/-- The variables that decide about emphasis. -/
def variableNames : List String := ["NO_COLOR", "CLICOLOR_FORCE"]

/-- Whether a variable is set to something. -/
def isSet (lookup : String → Option String) (key : String) : Bool :=
  ((lookup key).filter (· ≠ "")).isSome

/-- What is not written to a terminal shows no emphasis unless it is forced.  A wish for none weighs
more than a wish for it. -/
def ofEnvironment (lookup : String → Option String) : Ink :=
  if !isSet lookup "NO_COLOR" && isSet lookup "CLICOLOR_FORCE" then colored else plain

/-- How a text is emphasised. -/
inductive Style
  | bold
  | boldUnderlined
  | dimmed
  | boldYellow
  deriving DecidableEq, Repr

/-- The sequence that starts a style. -/
def Style.sequence : Style → List Char
  | bold => ['\x1b', '[', '1', 'm']
  | boldUnderlined => ['\x1b', '[', '1', 'm', '\x1b', '[', '4', 'm']
  | dimmed => ['\x1b', '[', '2', 'm']
  | boldYellow => ['\x1b', '[', '1', ';', '3', '3', 'm']

/-- The sequence that ends every style. -/
def reset : List Char := ['\x1b', '[', '0', 'm']

/-- A text in which a sequence is added after every reset. -/
def afterResets (added : List Char) : List Char → List Char
  | '\x1b' :: '[' :: '0' :: 'm' :: rest => reset ++ added ++ afterResets added rest
  | c :: rest => c :: afterResets added rest
  | [] => []

/-- Emphasise a text. -/
def paint (ink : Ink) (style : Style) (text : String) : String :=
  match ink with
  | plain => text
  | colored =>
    String.ofList (style.sequence ++ afterResets style.sequence text.toList ++ reset)

end Ink

namespace Terminal

/-- The header before a probe family. -/
def familyHeader (ink : Ink) (title : String) : String := ink.paint .bold ("== " ++ title ++ " ==")

/-- The note on a probe that is not run. -/
def skip (ink : Ink) (name : String) (missing : Capability) : String :=
  ink.paint .dimmed "skip" ++ " " ++ name ++ ": requires " ++ missing.name

/-- A warning about the host. -/
def warning (ink : Ink) (description : String) : String :=
  ink.paint .boldYellow "\u26a0" ++ " " ++ description

/-- A warning about the run itself. -/
def caution (ink : Ink) (text : String) : String := ink.paint .boldYellow "warning:" ++ " " ++ text

/-- The note on the capabilities a run may use. -/
def features (ink : Ink) (names : String) : String := ink.paint .bold "features:" ++ " " ++ names

/-- The header before a group of accelerator results. -/
def kernelHeader (ink : Ink) (title : String) : String := ink.paint .bold title

/-- One accelerator result. -/
def kernelLine (variant : String) (value : Float) : String :=
  "    " ++ variant ++ " : " ++ Decimal.fixed 6 value

end Terminal

end OpTiming
