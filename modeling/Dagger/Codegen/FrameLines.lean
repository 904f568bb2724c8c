import Dagger.Codegen.IdlParser
import Dagger.Lib.FallibleRun

/-!
# Lines that reach a frame

`__parse_frames` skips empty lines and comments and appends every other line
to the frame it collects.  A frame is handed on when its closing brace is read.
Lines that stand behind the last closing brace stay in the frame that is never
handed on, and the file is accepted.

Whether a line is a comment is decided by how it begins and how it ends.  A
line that holds code between two comments passes that test, and so does `/*/`.
-/

namespace Dagger.Codegen.FrameLines

open Dagger.Lib.Regex
open Dagger.Lib.FallibleRun
open Dagger.Codegen.IdlParser

/-! ## Lines and comments -/

/-- `l.rstrip("\n").lstrip()` -/
def strip (line : Text) : Text :=
  lstrip (rstripNewlines line)

/-- What stands behind the first `*/` of a text. -/
def behindComment : Text → Option Text
  | [] => none
  | '*' :: '/' :: rest => some rest
  | _ :: rest => behindComment rest

/-- A comment that begins at the beginning of a line and ends at its end. -/
def isComment : Text → Bool
  | '/' :: '*' :: body => behindComment body = some []
  | _ => false

/-- The test the splitter makes on a line. -/
def takenForComment (l : Text) : Bool :=
  startswith l "/*".toList && endswith l "*/".toList

/-- The stripped line, unless it is empty or a comment of this kind. -/
def remaining (comment : Text → Bool) (line : Text) : Option Text :=
  if strip line = [] ∨ comment (strip line) = true then none
  else some (strip line)

/-- The stripped lines that are neither empty nor comments. -/
def codeLines (idef : List Text) : List Text :=
  idef.filterMap (remaining isComment)

/-- The lines of all frames, in order. -/
def framedLines (frames : List (Text × List Text)) : List Text :=
  frames.flatMap Prod.snd

/-- The last of the lines, if there is one, closes a frame. -/
def EndsClosed (lines : List Text) : Prop :=
  ∀ l ∈ lines.getLast?, l = "\x7d".toList

instance decidableEndsClosed (lines : List Text) :
    Decidable (EndsClosed lines) :=
  inferInstanceAs (Decidable (∀ l ∈ lines.getLast?, l = "\x7d".toList))

theorem append_of_behindComment
    {text rest : Text}
    (closed : behindComment text = some rest) :
    ∃ body, text = body ++ "*/".toList ++ rest := by
  fun_induction behindComment text with
  | case1 => cases closed
  | case2 others =>
      cases closed
      exact ⟨[], rfl⟩
  | case3 c others _ induction =>
      rcases induction closed with ⟨body, equation⟩
      refine ⟨c :: body, ?_⟩
      rw [equation]
      rfl

/-- The splitter recognises every comment. -/
theorem takenForComment_of_isComment
    {l : Text}
    (comment : isComment l = true) :
    takenForComment l = true := by
  fun_cases isComment l with
  | case1 body =>
      have closed : behindComment body = some [] := by
        simpa [isComment] using comment
      rcases append_of_behindComment closed with ⟨inner, rfl⟩
      rw [takenForComment, Bool.and_eq_true]
      constructor
      · rfl
      · rw [endswith, List.isSuffixOf_iff_suffix, List.append_nil]
        exact ⟨'/' :: '*' :: inner, rfl⟩
  | case2 l other => simp [isComment] at comment

/-! ## One line -/

/-- What the splitter can do with a line it accepts. -/
inductive Accepts (state : Splitting) (line : Text) (after : Splitting) : Prop
  | skips
      (skipped : remaining takenForComment line = none)
      (same : after = state)
  | collects
      (l : Text)
      (kept : remaining takenForComment line = some l)
      (opens : l ≠ "\x7d".toList)
      (frames : after.frames = state.frames)
      (frame : after.frame = state.frame ++ [l])
  | closes
      (frameName : Text)
      (kept : remaining takenForComment line = some "\x7d".toList)
      (frames :
        after.frames =
          state.frames ++ [(frameName, state.frame ++ ["\x7d".toList])])
      (frame : after.frame = [])

theorem remaining_of_code
    {line : Text}
    (nonempty : strip line ≠ [])
    (code : startswith (strip line) "/*".toList = false) :
    remaining takenForComment line = some (strip line) := by
  rw [remaining, if_neg]
  rintro (isNil | comment)
  · exact nonempty isNil
  · rw [takenForComment, code] at comment
    cases comment

theorem accepts_of_splitStripped
    {state after : Splitting}
    {line : Text}
    (accepted : splitStripped state (strip line) = .ok after) :
    Accepts state line after := by
  have bare : search frameLine [] = none := by decide +kernel
  by_cases comment : startswith (strip line) "/*".toList = true
  · rw [splitStripped, if_pos comment] at accepted
    by_cases closed : endswith (strip line) "*/".toList = true
    · rw [if_pos closed] at accepted
      cases accepted
      refine .skips ?_ rfl
      rw [remaining, if_pos]
      right
      rw [takenForComment, comment, closed]
      rfl
    · rw [if_neg closed] at accepted
      cases accepted
  rw [splitStripped, if_neg comment] at accepted
  rw [Bool.not_eq_true] at comment
  by_cases header : endswith (strip line) "\x7b".toList = true
  · rw [if_pos header] at accepted
    have nonempty : strip line ≠ [] := by
      intro isNil
      rw [isNil] at header
      cases header
    have opens : strip line ≠ "\x7d".toList := by
      intro isBrace
      rw [isBrace] at header
      cases header
    split at accepted
    · cases accepted
      exact .collects _ (remaining_of_code nonempty comment) opens rfl rfl
    · cases accepted
  rw [if_neg header] at accepted
  by_cases brace : startswith (strip line) "\x7d".toList = true
  · rw [if_pos brace] at accepted
    have nonempty : strip line ≠ [] := by
      intro isNil
      rw [isNil] at brace
      cases brace
    have kept := remaining_of_code nonempty comment
    by_cases alone : strip line = "\x7d".toList
    · rw [if_pos alone] at accepted
      rw [alone] at accepted kept
      split at accepted
      · cases accepted
        exact .closes _ kept rfl rfl
      · cases accepted
    · rw [if_neg alone] at accepted
      cases accepted
  · rw [if_neg brace] at accepted
    have opens : strip line ≠ "\x7d".toList := by
      intro isBrace
      rw [isBrace] at brace
      exact brace rfl
    split at accepted
    · rename_i found
      have nonempty : strip line ≠ [] := by
        intro isNil
        rw [isNil, bare] at found
        cases found
      cases accepted
      exact .collects _ (remaining_of_code nonempty comment) opens rfl rfl
    · cases accepted

theorem accepts_of_splitLine
    {state after : Splitting}
    {line : Text}
    (accepted : splitLine state line = .ok after) :
    Accepts state line after := by
  rw [splitLine] at accepted
  split at accepted
  · rename_i blank
    cases accepted
    have empty : strip line = [] := by
      rcases blank with rfl | rfl <;> rfl
    refine .skips ?_ rfl
    rw [remaining, if_pos (Or.inl empty)]
  · exact accepts_of_splitStripped accepted

/-! ## All lines -/

/--
The splitter has handed on or still collects these lines, and it collects none
of them exactly when the last one closed a frame.
-/
structure Holds (state : Splitting) (lines : List Text) : Prop where
  account : framedLines state.frames ++ state.frame = lines
  closed : state.frame = [] ↔ EndsClosed lines

theorem endsClosed_append_singleton (lines : List Text) (l : Text) :
    EndsClosed (lines ++ [l]) ↔ l = "\x7d".toList := by
  rw [EndsClosed, List.getLast?_concat]
  constructor
  · intro all
    exact all l rfl
  · rintro isBrace _ ⟨⟩
    exact isBrace

theorem Holds.step
    {state after : Splitting}
    {line : Text}
    {lines : List Text}
    (holds : Holds state lines)
    (accepts : Accepts state line after) :
    Holds after
      (lines ++ (remaining takenForComment line).toList) := by
  cases accepts with
  | skips skipped same =>
      rw [skipped, same, Option.toList_none, List.append_nil]
      exact holds
  | collects l kept opens frames frame =>
      rw [kept, Option.toList_some]
      constructor
      · rw [frames, frame, ← List.append_assoc, holds.account]
      · rw [frame, endsClosed_append_singleton]
        constructor
        · intro isNil
          exact absurd isNil (by simp)
        · intro isBrace
          exact absurd isBrace opens
  | closes frameName kept frames frame =>
      rw [kept, Option.toList_some]
      constructor
      · rw [frames, frame, framedLines, List.flatMap_append,
          List.append_nil, ← holds.account]
        simp [framedLines]
      · rw [frame, endsClosed_append_singleton]
        simp

theorem Holds.splitLine
    {state after : Splitting}
    {line : Text}
    {idef : List Text}
    (holds : Holds state (idef.filterMap (remaining takenForComment)))
    (accepted : splitLine state line = .ok after) :
    Holds after
      ((idef ++ [line]).filterMap (remaining takenForComment)) := by
  have later := holds.step (accepts_of_splitLine accepted)
  rw [List.filterMap_append, List.filterMap_cons, List.filterMap_nil]
  cases kept : remaining takenForComment line with
  | none =>
      rw [kept] at later
      exact later
  | some l =>
      rw [kept] at later
      exact later

/-- The accepted lines are those of the frames and of one left open. -/
theorem holds_of_parseFrames
    {idef : List Text}
    {frames : List (Text × List Text)}
    (returns : parseFrames idef = .ok frames) :
    ∃ state : Splitting,
      state.frames = frames ∧
        Holds state (idef.filterMap (remaining takenForComment)) := by
  rw [parseFrames, bind_eq_ok] at returns
  rcases returns with ⟨state, run, ⟨⟩⟩
  let Kept (state : Splitting) (idef : List Text) : Prop :=
    Holds state (idef.filterMap (remaining takenForComment))
  have start : Kept ⟨[], [], none⟩ [] := by
    constructor
    · rfl
    · rw [EndsClosed]
      simp
  exact ⟨state, rfl, foldlM_invariant Kept Holds.splitLine start run⟩

theorem takenForComment_of_mem_remaining
    {idef : List Text}
    {l : Text}
    (isIn : l ∈ idef.filterMap (remaining takenForComment)) :
    takenForComment l = false := by
  rcases List.mem_filterMap.mp isIn with ⟨line, -, kept⟩
  rw [remaining] at kept
  split at kept
  · cases kept
  · rename_i code
    cases kept
    rw [not_or, Bool.not_eq_true] at code
    exact code.2

theorem codeLines_eq
    {idef : List Text}
    (comments :
      ∀ line ∈ idef,
        takenForComment (strip line) = true →
          isComment (strip line) = true) :
    codeLines idef = idef.filterMap (remaining takenForComment) := by
  rw [codeLines]
  apply List.filterMap_congr
  intro line isLine
  have same : isComment (strip line) = takenForComment (strip line) := by
    rw [Bool.eq_iff_iff]
    exact ⟨takenForComment_of_isComment, comments line isLine⟩
  rw [remaining, remaining, same]

theorem framedLines_of_endsClosed
    {idef : List Text}
    {frames : List (Text × List Text)}
    (returns : parseFrames idef = .ok frames)
    (closed : EndsClosed (codeLines idef))
    (comments :
      ∀ line ∈ idef,
        takenForComment (strip line) = true →
          isComment (strip line) = true) :
    framedLines frames = codeLines idef := by
  rcases holds_of_parseFrames returns with ⟨state, rfl, holds⟩
  rw [codeLines_eq comments] at closed ⊢
  have account := holds.account
  rw [holds.closed.mpr closed, List.append_nil] at account
  exact account

/--
A file that is split into frames is in the frames line by line if and only if
nothing stands behind the last closing brace and every line that begins and
ends as a comment is one comment.
-/
theorem framedLines_parseFrames
    {idef : List Text}
    {frames : List (Text × List Text)}
    (returns : parseFrames idef = .ok frames) :
    framedLines frames = codeLines idef ↔
      EndsClosed (codeLines idef) ∧
        ∀ line ∈ idef,
          takenForComment (strip line) = true →
            isComment (strip line) = true := by
  constructor
  · intro complete
    rcases holds_of_parseFrames returns with ⟨state, rfl, holds⟩
    have comments :
        ∀ line ∈ idef,
          takenForComment (strip line) = true →
            isComment (strip line) = true := by
      intro line isLine taken
      by_contra code
      have nonempty : strip line ≠ [] := by
        intro isNil
        rw [isNil] at taken
        cases taken
      have isIn : strip line ∈ codeLines idef := by
        refine List.mem_filterMap.mpr ⟨line, isLine, ?_⟩
        rw [remaining, if_neg (not_or.mpr ⟨nonempty, code⟩)]
      rw [← complete] at isIn
      have accounted :=
        List.mem_append_left state.frame isIn
      rw [holds.account] at accounted
      rw [takenForComment_of_mem_remaining accounted] at taken
      cases taken
    refine ⟨?_, comments⟩
    have account := holds.account
    rw [← codeLines_eq comments, complete] at account
    rw [codeLines_eq comments, ← holds.closed]
    exact List.append_right_eq_self.mp account
  · rintro ⟨closed, comments⟩
    exact framedLines_of_endsClosed returns closed comments

/-- A message between a comment and an empty line. -/
def closedFile : List Text :=
  ["/* one */\n".toList, "message M \x7b\n".toList,
    "\tint8 x;\n".toList, "\x7d\n".toList, "\n".toList]

theorem framedLines_closedFile :
    ∃ frames,
      parseFrames closedFile = .ok frames ∧
        framedLines frames = codeLines closedFile := by
  refine
    ⟨[("message".toList,
      ["message M \x7b".toList, "int8 x;".toList, "\x7d".toList])], ?_⟩
  have returns :
      parseFrames closedFile =
        .ok [("message".toList,
          ["message M \x7b".toList, "int8 x;".toList,
            "\x7d".toList])] := by
    decide +kernel
  exact
    ⟨returns, (framedLines_parseFrames returns).mpr (by decide +kernel)⟩

/-- The service of a file that is cut off is dropped without an error. -/
theorem framedLines_truncated :
    let idef :=
      closedFile ++ ["service S \x7b\n".toList,
        "rpc f(M) returns (M);\n".toList]
    ∃ frames,
      parseFrames idef = .ok frames ∧
        framedLines frames ≠ codeLines idef := by
  refine
    ⟨[("message".toList,
      ["message M \x7b".toList, "int8 x;".toList, "\x7d".toList])], ?_⟩
  decide +kernel

end Dagger.Codegen.FrameLines
