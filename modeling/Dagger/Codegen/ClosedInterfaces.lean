import Dagger.Codegen.FrameLines
import Dagger.Codegen.Generation

/-!
# Interfaces that refer to declared types

An interface is closed if its functions take and return declared messages and
the fields of its messages have known types.  The generator checks arguments
and fields, and checks them in the dictionaries: of several messages or
services with one name only the last one is there.  It does not check what a
function returns, and it does not see what stands behind the last closing brace
or between two comments.

What a file declares is read off its lines, whether they reach a frame or not:
a declaration begins behind the closing brace of the one before.  If all lines
reach the frames, the parsers find the same entries, and the dictionaries are
what storing them one after the other leaves.
-/

namespace Dagger.Codegen.ClosedInterfaces

open Dagger.Lib.Regex
open Dagger.Lib.Regex.Pattern
open Dagger.Lib.FallibleRun
open Dagger.Codegen.IdlParser
open Dagger.Codegen.FrameLines
open Dagger.Codegen.Generation

/-! ## Entries of a file -/

/-- A message or a service as it stands in the file. -/
inductive Entry
  | message (name : Text) (argList : List Field)
  | service (name : Text) (fList : List Function)
  deriving DecidableEq

namespace Entry

def message? : Entry → Option (Text × List Field)
  | message name argList => some (name, argList)
  | service _ _ => none

def service? : Entry → Option (Text × List Function)
  | message _ _ => none
  | service name fList => some (name, fList)

/-- A line that is a member of the entry belongs to it. -/
def extend : Entry → Text → Entry
  | message name argList, l =>
      match messageMember argList l with
      | .ok argList => message name argList
      | .error _ => message name argList
  | service name fList, l =>
      match serviceMember (fList, fList.length) l with
      | .ok (fList, _) => service name fList
      | .error _ => service name fList

/-- The entry is stored in its dictionary. -/
def store (idl : Idl) : Entry → Idl
  | message name argList =>
      { idl with imessages := dictSet name argList idl.imessages }
  | service name fList =>
      { idl with iservices := dictSet name fList idl.iservices }

end Entry

/-- The text outside of comments, from inside or outside of one on. -/
def uncommented : Bool → Text → Text
  | _, [] => []
  | true, '*' :: '/' :: rest => uncommented false rest
  | true, _ :: rest => uncommented true rest
  | false, '/' :: '*' :: rest => uncommented true rest
  | false, c :: rest => c :: uncommented false rest

/-- The code of a line; one that begins with a comment has it behind that. -/
def codeOf (line : Text) : Text :=
  if startswith (strip line) "/*".toList then
    (lstrip (uncommented false (strip line))).rdropWhile isSpace
  else strip line

/-- The message or service that a line opens. -/
def opened? (l : Text) : Option Entry :=
  match search messageGrammar.header l with
  | some m => some (.message (groupText m 1) [])
  | none =>
      (search serviceGrammar.header l).map fun m =>
        .service (groupText m 1) []

/-- The declaration that these lines are, up to the closing brace. -/
def entryOf? : List Text → Option Entry
  | [] => none
  | header :: body => (opened? header).map (body.foldl Entry.extend ·)

/-- All messages and services that a file declares, in order. -/
def declared (idef : List Text) : List Entry :=
  ((idef.map codeOf).filter (· ≠ [])).splitOnP (· == "\x7d".toList)
    |>.filterMap entryOf?

/-- What one frame declares. -/
def parseFrame : Text × List Text → Except Failure Entry
  | (fName, fLines) =>
      if fName = "message".toList then do
        let (name, argList) ← parseAsMessage fLines
        return .message name argList
      else if fName = "service".toList then do
        let (name, fList) ← parseAsService fLines
        return .service name fList
      else
        .error (.assertion "Error parsing frames, undefined token".toList)

/-- All declarations of messages. -/
def messages (entries : List Entry) : List (Text × List Field) :=
  entries.filterMap Entry.message?

/-- All declarations of services. -/
def services (entries : List Entry) : List (Text × List Function) :=
  entries.filterMap Entry.service?

theorem storeFrame_eq (idl : Idl) (frame : Text × List Text) :
    storeFrame idl frame = (parseFrame frame).map (Entry.store idl) := by
  rcases frame with ⟨fName, fLines⟩
  rw [storeFrame, parseFrame]
  split
  · cases parseAsMessage fLines <;> rfl
  · split
    · cases parseAsService fLines <;> rfl
    · rfl

theorem foldlM_storeFrame (iframes : List (Text × List Text)) (idl : Idl) :
    iframes.foldlM storeFrame idl =
      (iframes.mapM parseFrame).map
        (fun entries => entries.foldl Entry.store idl) := by
  induction iframes generalizing idl with
  | nil => rfl
  | cons frame iframes induction =>
      rw [List.foldlM_cons, List.mapM_cons, storeFrame_eq]
      cases parseFrame frame with
      | error failure => rfl
      | ok entry =>
          refine (induction (entry.store idl)).trans ?_
          cases iframes.mapM parseFrame with
          | error failure => rfl
          | ok entries => rfl

section Dictionaries

variable {Value : Type}

end Dictionaries

/-! ## Completed generation -/

end Dagger.Codegen.ClosedInterfaces
