import Dagger.Lib.Regex
import Mathlib.Data.List.DropRight

/-!
# Parser of the interface definition language

`RPCGenerator` of `rpc_gen.py` reads a file of messages and services.  The
file is read line by line; `__parse_frames` classifies each line and collects
the lines between a header and a closing brace into a frame; the two parsers
of frames take the lines of a frame apart with regular expressions; `generate`
stores what they return in two dictionaries.

A text is a list of characters, a dictionary the list of its entries in the
order of insertion.  An assertion that fails ends the program with its message.
-/

namespace Dagger.Codegen.IdlParser

open Dagger.Lib.Regex
open Dagger.Lib.Regex.Pattern

/-- A piece of text. -/
abbrev Text := List Char

/-- What ends the generator before it has written anything. -/
inductive Failure
  | assertion (message : Text)
  | unboundLocal (variableName : Text)
  | valueError (message : Text)
  | noneResult
  deriving DecidableEq

/-! ## Texts and dictionaries -/

/-- The characters `str.isspace` holds of. -/
def isSpace (c : Char) : Bool :=
  (0x09 ≤ c.toNat && c.toNat ≤ 0x0d) ||
    (0x1c ≤ c.toNat && c.toNat ≤ 0x20) ||
    c.toNat = 0x85 || c.toNat = 0xa0 || c.toNat = 0x1680 ||
    (0x2000 ≤ c.toNat && c.toNat ≤ 0x200a) ||
    c.toNat = 0x2028 || c.toNat = 0x2029 || c.toNat = 0x202f ||
    c.toNat = 0x205f || c.toNat = 0x3000

/-- `l.lstrip()` -/
def lstrip (l : Text) : Text :=
  l.dropWhile isSpace

/-- `l.rstrip("\n")` -/
def rstripNewlines (l : Text) : Text :=
  l.rdropWhile (· = '\n')

/-- `l.startswith(text)` -/
def startswith (l text : Text) : Bool :=
  text.isPrefixOf l

/-- `l.endswith(text)` -/
def endswith (l text : Text) : Bool :=
  text.isSuffixOf l

/-- `int(text)` for a text of decimal digits. -/
def int (text : Text) : ℕ :=
  Nat.ofDigitChars 10 text 0

/-- `m.group(index)` for a group that takes part in the match. -/
def groupText (m : Cursor) (index : ℕ) : Text :=
  (m.group? index).getD []

/-- `entries[key] = value`: an entry keeps its place, a new one is the last. -/
def dictSet
    {Value : Type}
    (key : Text)
    (value : Value) :
    List (Text × Value) →
    List (Text × Value)
  | [] => [(key, value)]
  | entry :: entries =>
      if entry.1 = key then (key, value) :: entries
      else entry :: dictSet key value entries

/-! ## Lines of a file -/

/-- Line ends of all platforms are read as `\n`. -/
def universalNewlines : Text → Text
  | [] => []
  | '\r' :: '\n' :: rest => '\n' :: universalNewlines rest
  | '\r' :: rest => '\n' :: universalNewlines rest
  | c :: rest => c :: universalNewlines rest

/-- The lines of a text from a line that is read in part; each has its end. -/
def linesFrom (line : Text) : Text → List Text
  | [] => if line = [] then [] else [line]
  | c :: rest =>
      if c = '\n' then (line ++ [c]) :: linesFrom [] rest
      else linesFrom (line ++ [c]) rest

/-- `__read_idl_file` on a file with this content. -/
def readIdlFile (content : Text) : List Text :=
  linesFrom [] (universalNewlines content)

/-! ## Regular expressions of the parser -/

/-- `[a-zA-Z0-9_]` -/
def isNameChar (c : Char) : Bool :=
  c.isAlphanum || c = '_'

/-- `[a-z0-9]` -/
def isTypeChar (c : Char) : Bool :=
  c.isLower || c.isDigit

/-- `[a-zA-Z][a-zA-Z0-9_]*` -/
def name : Pattern :=
  word Char.isAlpha isNameChar

/-- `[a-z][a-z0-9]*` -/
def typeName : Pattern :=
  word Char.isLower isTypeChar

/-- `[0-9]+` -/
def number : Pattern :=
  word Char.isDigit Char.isDigit

/-- `.*` -/
def anything : Pattern :=
  many (· != '\n')

/-- `^(message|service) .* {$` -/
def frameHeader : Pattern :=
  seq start <|
    seq (group 1
      (either (literal "message".toList) (literal "service".toList))) <|
    seq (literal " ".toList) <|
    seq anything <|
    seq (literal " \x7b".toList) finish

/-- `^.*;$` -/
def frameLine : Pattern :=
  seq start <| seq anything <| seq (literal ";".toList) finish

/-- `^message ([a-zA-Z][a-zA-Z0-9_]*) {$` and the same for a service. -/
def headerOf (keyword : Text) : Pattern :=
  seq start <|
    seq (literal (keyword ++ " ".toList)) <|
    seq (group 1 name) <|
    seq (literal " \x7b".toList) finish

/-- `^([a-z][a-z0-9]*) ([a-zA-Z][a-zA-Z0-9_]*);$` -/
def simpleField : Pattern :=
  seq start <|
    seq (group 1 typeName) <|
    seq (literal " ".toList) <|
    seq (group 2 name) <|
    seq (literal ";".toList) finish

/-- `^([a-z][a-z0-9]*)\[([0-9]+)\] ([a-zA-Z][a-zA-Z0-9_]*);$` -/
def arrayField : Pattern :=
  seq start <|
    seq (group 1 typeName) <|
    seq (literal "[".toList) <|
    seq (group 2 number) <|
    seq (literal "] ".toList) <|
    seq (group 3 name) <|
    seq (literal ";".toList) finish

/--
`^rpc ([a-zA-Z][a-zA-Z0-9_]*)\(([a-zA-Z][a-zA-Z0-9_]*)\) returns
\(([a-zA-Z][a-zA-Z0-9_]*)\);$`
-/
def rpcLine : Pattern :=
  seq start <|
    seq (literal "rpc ".toList) <|
    seq (group 1 name) <|
    seq (literal "(".toList) <|
    seq (group 2 name) <|
    seq (literal ") returns (".toList) <|
    seq (group 3 name) <|
    seq (literal ");".toList) finish

/-! ## Frames -/

/-- The variables of `__parse_frames`. -/
structure Splitting where
  frames : List (Text × List Text)
  frame : List Text
  frameName : Option Text
  deriving DecidableEq

/-- The body of the loop of `__parse_frames` on a stripped line. -/
def splitStripped (state : Splitting) (l : Text) :
    Except Failure Splitting :=
  if startswith l "/*".toList then
    if endswith l "*/".toList then .ok state
    else .error (.assertion "Wrong format of a comment".toList)
  else if endswith l "\x7b".toList then
    match search frameHeader l with
    | some m =>
        .ok
          { state with
            frameName := some (groupText m 1)
            frame := state.frame ++ [l] }
    | none =>
        .error (.assertion
          "Error parsing frames, wrong frame header".toList)
  else if startswith l "\x7d".toList then
    if l = "\x7d".toList then
      match state.frameName with
      | some frameName =>
          .ok
            { state with
              frames := state.frames ++ [(frameName, state.frame ++ [l])]
              frame := [] }
      | none => .error (.unboundLocal "frame_name".toList)
    else
      .error (.assertion
        "Error parsing frames, nothing is expected after \x7d".toList)
  else
    match search frameLine l with
    | some _ => .ok { state with frame := state.frame ++ [l] }
    | none =>
        .error (.assertion
          ("Error parsing frames, missing ; in <".toList ++ l ++
            ">".toList))

/-- The body of the loop of `__parse_frames`. -/
def splitLine (state : Splitting) (line : Text) :
    Except Failure Splitting :=
  if line = [] ∨ line = ['\n'] then .ok state
  else splitStripped state (lstrip (rstripNewlines line))

/-- `__parse_frames` -/
def parseFrames (idef : List Text) :
    Except Failure (List (Text × List Text)) := do
  let state ← idef.foldlM splitLine ⟨[], [], none⟩
  return state.frames

/-! ## Messages and services -/

/-- An entry of `arg_list`: type, name and size of an array. -/
structure Field where
  argType : Text
  argName : Text
  argArraySize : Option ℕ
  deriving DecidableEq

/-- An entry of `f_list`: names of function, argument and result, and number. -/
structure Function where
  fName : Text
  argName : Text
  retName : Text
  fId : ℕ
  deriving DecidableEq

/-- What differs between the two parsers of frames. -/
structure FrameGrammar (Members : Type) where
  header : Pattern
  wrongHeader : Text
  nameVariable : Text
  member : Members → Text → Except Failure Members
  missingBrace : Text

/-- The loop of a parser of frames over the lines and their indices. -/
def frameLoop
    {Members : Type}
    (grammar : FrameGrammar Members)
    (length : ℕ) :
    Option Text →
    Members →
    List (Text × ℕ) →
    Except Failure (Text × Members)
  | _, _, [] => .error .noneResult
  | frameName, members, (l, i) :: rest =>
      if i = 0 then
        match search grammar.header l with
        | some m =>
            frameLoop grammar length (some (groupText m 1)) members rest
        | none => .error (.assertion grammar.wrongHeader)
      else if i < length - 1 then do
        let members ← grammar.member members l
        frameLoop grammar length frameName members rest
      else if l = "\x7d".toList then
        match frameName with
        | some frameName => .ok (frameName, members)
        | none => .error (.unboundLocal grammar.nameVariable)
      else .error (.assertion grammar.missingBrace)

/-- A body line of a message. -/
def messageMember (argList : List Field) (l : Text) :
    Except Failure (List Field) :=
  match search simpleField l with
  | some m => .ok (argList ++ [⟨groupText m 1, groupText m 2, none⟩])
  | none =>
      match search arrayField l with
      | some m =>
          .ok (argList ++
            [⟨groupText m 1, groupText m 3, some (int (groupText m 2))⟩])
      | none =>
          .error (.assertion
            ("Message parsing error, wrong body format in line <".toList ++
              l ++ ">".toList))

/-- A body line of a service; the pair is `f_list` and `f_id`. -/
def serviceMember (functions : List Function × ℕ) (l : Text) :
    Except Failure (List Function × ℕ) :=
  match search rpcLine l with
  | some m =>
      .ok
        (functions.1 ++
            [⟨groupText m 1, groupText m 2, groupText m 3, functions.2⟩],
          functions.2 + 1)
  | none =>
      .error (.assertion "Service parsing error, wrong body format".toList)

def messageGrammar : FrameGrammar (List Field) where
  header := headerOf "message".toList
  wrongHeader := "Message parsing error, wrong header format".toList
  nameVariable := "m_name".toList
  member := messageMember
  missingBrace := "Message parsing error, missing \x7d".toList

def serviceGrammar : FrameGrammar (List Function × ℕ) where
  header := headerOf "service".toList
  wrongHeader := "Service parsing error, wrong header format".toList
  nameVariable := "s_name".toList
  member := serviceMember
  missingBrace := "Service parsing error, missing \x7d".toList

/-- `__parse_as_message` -/
def parseAsMessage (frame : List Text) :
    Except Failure (Text × List Field) :=
  frameLoop messageGrammar frame.length none [] frame.zipIdx

/-- `__parse_as_service` -/
def parseAsService (frame : List Text) :
    Except Failure (Text × List Function) := do
  let (sName, functions) ←
    frameLoop serviceGrammar frame.length none ([], 0) frame.zipIdx
  return (sName, functions.1)

/-- The dictionaries `imessages` and `iservices`. -/
structure Idl where
  imessages : List (Text × List Field)
  iservices : List (Text × List Function)
  deriving DecidableEq

/-- The body of the parsing loop of `generate`. -/
def storeFrame (idl : Idl) :
    Text × List Text → Except Failure Idl
  | (fName, fLines) =>
      if fName = "message".toList then do
        let (name, argList) ← parseAsMessage fLines
        return { idl with imessages := dictSet name argList idl.imessages }
      else if fName = "service".toList then do
        let (name, fList) ← parseAsService fLines
        return { idl with iservices := dictSet name fList idl.iservices }
      else
        .error (.assertion "Error parsing frames, undefined token".toList)

/-- The part of `generate` before it generates: from a file to its contents. -/
def parseIdl (content : Text) : Except Failure Idl := do
  let iframes ← parseFrames (readIdlFile content)
  iframes.foldlM storeFrame ⟨[], []⟩

end Dagger.Codegen.IdlParser
