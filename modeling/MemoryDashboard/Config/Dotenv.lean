import MemoryDashboard.Config.Viewer
import MemoryDashboard.Text.Classes
/-!
# Environment files

Before reading its configuration the viewer loads a `.env` file from its working directory:
`KEY=value` lines that set environment variables not set already.

The file is read line by line. A line ends at its line break, unless a quote opened on it is
still open (the value then goes on over the next lines); while the lines are gathered, a `\`
inside either kind of quote passes over the character after it. A blank line or one starting
with `#` sets nothing. A line is an optional `export`, a key (an ASCII letter or `_`, then ASCII letters,
digits, `_` and `.`), `=`, and a value:

* outside quotes, a blank ends the value, and only blanks or a `#` comment may follow;
* `'...'` keeps its text as it is, `"..."` keeps it except for escapes and substitutions;
* `\` escapes `\`, `'`, `"`, `$` and a space, and `\n` is a line break;
* `$NAME` and `${NAME}` stand for the variable's value, taken from the environment or else from
  an earlier line of the file, and empty when neither has it.

Loading stops at the first line that breaks these rules; the lines before it stay loaded.
-/

namespace MemoryDashboard

namespace Config

namespace Dotenv

/-- Where the scan of a physical line left its logical line. -/
inductive LineState where
  | complete
  | escape
  | strongOpen
  | strongOpenEscape
  | weakOpen
  | weakOpenEscape
  | whiteSpace
  deriving DecidableEq, Inhabited, Repr

/-- How a line's scan ended: in a state, or at a comment starting at some position. -/
inductive LineEnd where
  | state (s : LineState)
  | comment (position : Nat)
  deriving DecidableEq, Inhabited, Repr

/-- Scans a physical line from a state; `position` counts the characters already scanned. -/
def scanLine (s : LineState) (position : Nat) : List Char → LineEnd
  | [] => .state s
  | c :: rest =>
    match s with
    | .whiteSpace =>
      match c with
      | '#' => .comment position
      | '\\' => scanLine .escape (position + 1) rest
      | '"' => scanLine .weakOpen (position + 1) rest
      | '\'' => scanLine .strongOpen (position + 1) rest
      | _ => scanLine .complete (position + 1) rest
    | .escape => scanLine .complete (position + 1) rest
    | .complete =>
      let next :=
        if Text.isBlank c && c != '\n' && c != '\r' then LineState.whiteSpace
        else match c with
          | '\\' => .escape
          | '"' => .weakOpen
          | '\'' => .strongOpen
          | _ => .complete
      scanLine next (position + 1) rest
    | .weakOpen =>
      match c with
      | '\\' => scanLine .weakOpenEscape (position + 1) rest
      | '"' => scanLine .complete (position + 1) rest
      | _ => scanLine .weakOpen (position + 1) rest
    | .weakOpenEscape => scanLine .weakOpen (position + 1) rest
    | .strongOpen =>
      match c with
      | '\\' => scanLine .strongOpenEscape (position + 1) rest
      | '\'' => scanLine .complete (position + 1) rest
      | _ => scanLine .strongOpen (position + 1) rest
    | .strongOpenEscape => scanLine .strongOpen (position + 1) rest

/-- The next physical line: up to and with its line break. -/
def physicalLine (cs : List Char) : List Char × List Char :=
  match cs.span (· != '\n') with
  | (line, '\n' :: rest) => (line ++ ['\n'], rest)
  | (line, rest) => (line, rest)

/-- Drops a final line break, and a carriage return before it. -/
def dropLineBreak (buf : List Char) : List Char :=
  match buf.reverse with
  | '\n' :: '\r' :: rest => rest.reverse
  | '\n' :: rest => rest.reverse
  | _ => buf

/-- The next logical line after `buf`, gathered in state `s`: none at the end of the file,
an error when the file ends inside a line, else the line and the text after it. The number of
physical lines bounds the search. -/
def logicalLine (fuel : Nat) (s : LineState) (buf : List Char) (cs : List Char) :
    Option (Except Unit (List Char × List Char)) :=
  match fuel, cs with
  | 0, _ => if s = .complete then none else some (.error ())
  | _, [] => if s = .complete then none else some (.error ())
  | fuel + 1, cs =>
    let (line, rest) := physicalLine cs
    let whole := buf ++ line
    if (whole.dropWhile Text.isBlank).head? = some '#' then some (.ok ([], rest))
    else
      match scanLine s 0 line with
      | .state .complete => some (.ok (dropLineBreak whole, rest))
      | .state s => logicalLine fuel s whole rest
      | .comment position => some (.ok (buf ++ line.take position, rest))

/-- How a value's `$` substitution is being read. -/
inductive Substitution where
  | none
  | block
  | braced
  deriving DecidableEq, Inhabited, Repr

/-- The state of reading a value. -/
structure ValueState where
  strong : Bool := false
  weak : Bool := false
  escaped : Bool := false
  expectingEnd : Bool := false
  mode : Substitution := .none
  name : String := ""
  out : String := ""
  deriving Inhabited

/-- The characters a substitution's name is made of: letters and numbers of any script. -/
def isNameChar (c : Char) : Bool := Text.isAlphanumeric c

/-- Ends a value: an open quote or brace is an error; a pending name is substituted. -/
def ValueState.finish (look : String → String) (st : ValueState) : Except Unit String :=
  if st.mode = .braced || st.strong || st.weak then .error ()
  else .ok (st.out ++ look st.name)

/-- Reads a value's characters; `look` gives a substitution's text. -/
def readValue (look : String → String) (st : ValueState) : List Char → Except Unit String
  | [] => st.finish look
  | c :: rest =>
    if st.expectingEnd then
      if c = ' ' || c = '\t' then readValue look st rest
      else if c = '#' then st.finish look
      else .error ()
    else if st.escaped then
      match c with
      | '\\' | '\'' | '"' | '$' | ' ' =>
        readValue look { st with out := st.out.push c, escaped := false } rest
      | 'n' => readValue look { st with out := st.out.push '\n', escaped := false } rest
      | _ => .error ()
    else if st.strong then
      if c = '\'' then readValue look { st with strong := false } rest
      else readValue look { st with out := st.out.push c } rest
    else if st.mode != .none then
      if isNameChar c then readValue look { st with name := st.name.push c } rest
      else if st.mode = .block then
        if c = '{' && st.name.isEmpty then readValue look { st with mode := .braced } rest
        else
          let out := st.out ++ look st.name
          if c = '$' then readValue look { st with out, name := "", mode := .block } rest
          else readValue look { st with out := out.push c, name := "", mode := .none } rest
      else if c = '}' then
        readValue look { st with out := st.out ++ look st.name, name := "", mode := .none } rest
      else readValue look { st with name := st.name.push c } rest
    else if c = '$' then readValue look { st with mode := .block } rest
    else if st.weak then
      if c = '"' then readValue look { st with weak := false } rest
      else if c = '\\' then readValue look { st with escaped := true } rest
      else readValue look { st with out := st.out.push c } rest
    else if c = '\'' then readValue look { st with strong := true } rest
    else if c = '"' then readValue look { st with weak := true } rest
    else if c = '\\' then readValue look { st with escaped := true } rest
    else if c = ' ' || c = '\t' then readValue look { st with expectingEnd := true } rest
    else readValue look { st with out := st.out.push c } rest

/-- Whether a character may continue a key. -/
def isKeyChar (c : Char) : Bool := c.isAlphanum || c = '_' || c = '.'

/-- A key at the start of some characters, and the characters after it. -/
def key? (cs : List Char) : Option (String × List Char) :=
  match cs with
  | c :: _ =>
    if (c.isAlpha && c.toNat < 128) || c = '_' then
      let (k, rest) := cs.span fun c => isKeyChar c && c.toNat < 128
      some (String.ofList k, rest)
    else none
  | [] => none

/-- The key of a line and the characters after its `=`, with an optional `export` before
the key. -/
def assignment? (cs : List Char) : Option (String × List Char) := do
  let (k, rest) ← key? cs
  let rest := rest.dropWhile Text.isBlank
  match k, rest with
  | _, '=' :: more => some (k, more)
  | "export", _ => do
    let (k, rest) ← key? rest
    match rest.dropWhile Text.isBlank with
    | '=' :: more => some (k, more)
    | _ => none
  | _, _ => none

/-- Reads a logical line: nothing for a blank or comment line, else a key and its value;
`look` gives a substitution's text. -/
def readLine (look : String → String) (line : List Char) :
    Except Unit (Option (String × Option String)) :=
  match line.dropWhile Text.isBlank with
  | [] => .ok none
  | '#' :: _ => .ok none
  | cs =>
    match assignment? cs with
    | none => .error ()
    | some (k, rest) =>
      match rest.dropWhile Text.isBlank with
      | [] => .ok (some (k, none))
      | '#' :: _ => .ok (some (k, none))
      | value => (readValue look {} value).map fun v => some (k, some v)

/-- The text a substitution stands for: the variable's value, or an earlier line's. -/
def substitute (env : Environment) (earlier : List (String × Option String)) (name : String) :
    String :=
  if name.isEmpty then ""
  else
    match env.lookup name with
    | some v => v
    | none => ((earlier.lookup name).getD none).getD ""

/-- Loads lines into the environment, each variable only when it is not set yet; `earlier`
holds the file's values so far, latest first. Stops at the first line in error. -/
def loadLines (fuel : Nat) (env : Environment) (earlier : List (String × Option String))
    (cs : List Char) : Environment :=
  match fuel with
  | 0 => env
  | fuel + 1 =>
    match logicalLine (cs.length + 1) .complete [] cs with
    | none => env
    | some (.error ()) => env
    | some (.ok (line, rest)) =>
      match readLine (substitute env earlier) line with
      | .error () => env
      | .ok none => loadLines fuel env earlier rest
      | .ok (some (k, v)) =>
        let env := if (env.lookup k).isSome then env else env ++ [(k, v.getD "")]
        loadLines fuel env ((k, v) :: earlier) rest

/-- Loads an environment file's text into the environment. -/
def load (env : Environment) (text : String) : Environment :=
  let cs := text.toList
  loadLines (cs.length + 1) env [] cs

end Dotenv

end Config

end MemoryDashboard
