import Dagger.Codegen.IdlParser
import Dagger.Lib.FallibleRun

/-!
# Frames of printed declarations

A declaration is a message with its fields or a service with its functions.
It is printed as a header, one line for each member and a closing brace.  A
file holds printed lines in order, each behind any indentation, and empty lines
and comments anywhere between them.

The splitter reads, strips and classifies a file line by line.  Indentation,
empty lines and comments leave no trace in its state, and every declaration
adds one frame: its keyword and its printed lines.
-/

namespace Dagger.Codegen.IdlFrames

open Dagger.Lib.Regex
open Dagger.Lib.Regex.Pattern
open Dagger.Lib.FallibleRun
open Dagger.Codegen.IdlParser

/-! ## Declarations and how they are printed -/

/-- A text that matches `[a-zA-Z][a-zA-Z0-9_]*`. -/
abbrev Name :=
  { text : Text // isWord Char.isAlpha isNameChar text = true }

/-- A text that matches `[a-z][a-z0-9]*`. -/
abbrev TypeName :=
  { text : Text // isWord Char.isLower isTypeChar text = true }

/-- A field of a message. -/
structure DeclaredField where
  type : TypeName
  name : Name
  arraySize : Option ℕ

/-- A function of a service. -/
structure DeclaredFunction where
  name : Name
  argument : Name
  result : Name

/-- A message or a service. -/
inductive Declaration
  | message (name : Name) (fields : List DeclaredField)
  | service (name : Name) (functions : List DeclaredFunction)

namespace DeclaredField

/-- The line of a field. -/
def line (field : DeclaredField) : Text :=
  match field.arraySize with
  | none => field.type.1 ++ " ".toList ++ field.name.1 ++ ";".toList
  | some size =>
      field.type.1 ++ "[".toList ++ Nat.toDigits 10 size ++
        "] ".toList ++ field.name.1 ++ ";".toList

/-- What the parser should store of a field. -/
def entry (field : DeclaredField) : Field :=
  ⟨field.type.1, field.name.1, field.arraySize⟩

end DeclaredField

namespace DeclaredFunction

/-- The line of a function. -/
def line (function : DeclaredFunction) : Text :=
  "rpc ".toList ++ function.name.1 ++ "(".toList ++ function.argument.1 ++
    ") returns (".toList ++ function.result.1 ++ ");".toList

/-- What the parser should store of a function with this number. -/
def entry (function : DeclaredFunction) (number : ℕ) : Function :=
  ⟨function.name.1, function.argument.1, function.result.1, number⟩

end DeclaredFunction

namespace Declaration

def keyword : Declaration → Text
  | message _ _ => "message".toList
  | service _ _ => "service".toList

def name : Declaration → Name
  | message name _ => name
  | service name _ => name

/-- The lines of the members. -/
def members : Declaration → List Text
  | message _ fields => fields.map DeclaredField.line
  | service _ functions => functions.map DeclaredFunction.line

/-- The first line. -/
def header (declaration : Declaration) : Text :=
  declaration.keyword ++ " ".toList ++ declaration.name.1 ++
    " \x7b".toList

/-- A header, one line for each member and a closing brace. -/
def lines (declaration : Declaration) : List Text :=
  declaration.header :: declaration.members ++ ["\x7d".toList]

/-- The entry of a message in the dictionary of messages. -/
def message? : Declaration → Option (Text × List Field)
  | message name fields => some (name.1, fields.map DeclaredField.entry)
  | service _ _ => none

/-- The entry of a service; its functions are numbered in their order. -/
def service? : Declaration → Option (Text × List Function)
  | message _ _ => none
  | service name functions =>
      some
        (name.1,
          functions.mapIdx fun number function => function.entry number)

end Declaration

/-- The declared messages with their fields, in order. -/
def declaredMessages (declarations : List Declaration) :
    List (Text × List Field) :=
  declarations.filterMap Declaration.message?

/-- The declared services with their functions, in order. -/
def declaredServices (declarations : List Declaration) :
    List (Text × List Function) :=
  declarations.filterMap Declaration.service?

/-! ## Files -/

/-- The character does not end a line. -/
def staysInLine (c : Char) : Bool :=
  c != '\n' && c != '\r'

/-- White space in front of a line. -/
abbrev Indent :=
  { text : Text // text.all (fun c => isSpace c && staysInLine c) = true }

/-- What stands between the ends of a comment on one line. -/
abbrev CommentBody :=
  { text : Text // text.all staysInLine = true }

/-- A line of a file. -/
inductive SourceLine
  | empty
  | comment (indent : Indent) (body : CommentBody)
  | code (indent : Indent) (line : Text)

namespace SourceLine

/-- The characters of the line. -/
def text : SourceLine → Text
  | empty => []
  | comment indent body =>
      indent.1 ++ "/*".toList ++ body.1 ++ "*/".toList
  | code indent line => indent.1 ++ line

/-- The printed line behind the indentation, if there is one. -/
def code? : SourceLine → Option Text
  | empty | comment _ _ => none
  | code _ line => some line

end SourceLine

/-- The content of a file; an empty last line gives the last line an end. -/
def fileContent (file : List SourceLine) : Text :=
  List.intercalate ['\n'] (file.map SourceLine.text)

/-- The file holds the printed declarations and nothing else of substance. -/
def Prints (file : List SourceLine) (declarations : List Declaration) :
    Prop :=
  file.filterMap SourceLine.code? = declarations.flatMap Declaration.lines

/-! ## Reading the lines -/

theorem universalNewlines_of_all
    {text : Text}
    (stays : text.all (· != '\r') = true) :
    universalNewlines text = text := by
  fun_induction universalNewlines text with
  | case1 => rfl
  | case2 rest induction => simp at stays
  | case3 rest _ induction => simp at stays
  | case4 c rest _ _ induction =>
      rw [List.all_cons, Bool.and_eq_true] at stays
      rw [induction stays.2]

theorem linesFrom_append_newline
    (line : Text)
    {text : Text}
    (stays : text.all staysInLine = true)
    (rest : Text) :
    linesFrom line (text ++ '\n' :: rest) =
      (line ++ text ++ ['\n']) :: linesFrom [] rest := by
  induction text generalizing line with
  | nil => simp [linesFrom]
  | cons c text induction =>
      rw [List.all_cons, Bool.and_eq_true] at stays
      have notEnd : c ≠ '\n' := by
        rintro rfl
        exact absurd stays.1 (by decide)
      rw [List.cons_append, linesFrom, if_neg notEnd, induction _ stays.2]
      simp

theorem linesFrom_last
    (line : Text)
    {text : Text}
    (stays : text.all staysInLine = true) :
    linesFrom line text =
      if line ++ text = [] then [] else [line ++ text] := by
  induction text generalizing line with
  | nil => simp [linesFrom]
  | cons c text induction =>
      rw [List.all_cons, Bool.and_eq_true] at stays
      have notEnd : c ≠ '\n' := by
        rintro rfl
        exact absurd stays.1 (by decide)
      rw [linesFrom, if_neg notEnd, induction _ stays.2]
      simp

theorem rstripNewlines_of_all
    {text : Text}
    (stays : text.all staysInLine = true) :
    rstripNewlines text = text := by
  apply List.rdropWhile_eq_self_iff.mpr
  intro nonempty isEnd
  have last := List.all_eq_true.mp stays _ (List.getLast_mem nonempty)
  rw [decide_eq_true_iff.mp isEnd] at last
  cases last

theorem rstripNewlines_append_newline (text : Text) :
    rstripNewlines (text ++ ['\n']) = rstripNewlines text := by
  rw [rstripNewlines, List.rdropWhile_concat_pos _ _ _ rfl, rstripNewlines]

/-- The end of a line does not matter to the splitter. -/
theorem splitLine_append_newline
    (state : Splitting)
    {line : Text}
    (stays : line.all staysInLine = true) :
    splitLine state (line ++ ['\n']) = splitLine state line := by
  cases line with
  | nil => rfl
  | cons c line =>
      have notBlank : ¬(c :: line = [] ∨ c :: line = ['\n']) := by
        rintro (isNil | isNewline)
        · cases isNil
        · rw [isNewline] at stays
          cases stays
      have notBlankEnded :
          ¬(c :: line ++ ['\n'] = [] ∨ c :: line ++ ['\n'] = ['\n']) := by
        simp
      rw [splitLine, if_neg notBlankEnded, splitLine, if_neg notBlank,
        rstripNewlines_append_newline]

theorem all_intercalate_newline
    {lines : List Text}
    (stay : ∀ line ∈ lines, line.all staysInLine = true) :
    (List.intercalate ['\n'] lines).all (· != '\r') = true := by
  rw [List.all_eq_true]
  intro c isIn
  induction lines with
  | nil => cases isIn
  | cons line others induction =>
      have ofLine : c ∈ line → (c != '\r') = true := by
        intro inLine
        have stays :=
          List.all_eq_true.mp (stay line List.mem_cons_self) c inLine
        exact (Bool.and_eq_true_iff.mp stays).2
      cases others with
      | nil => exact ofLine (by simpa using isIn)
      | cons next others =>
          rw [List.intercalate_cons_cons, List.append_assoc,
            List.mem_append, List.mem_append] at isIn
          rcases isIn with inLine | isEnd | inOthers
          · exact ofLine inLine
          · rw [List.mem_singleton.mp isEnd]
            rfl
          · exact induction
              (fun other isOther =>
                stay other (List.mem_cons_of_mem line isOther))
              inOthers

/-- The splitter sees the lines of a file as they were put together. -/
theorem foldlM_readIdlFile
    {lines : List Text}
    (stay : ∀ line ∈ lines, line.all staysInLine = true)
    (state : Splitting) :
    (readIdlFile (List.intercalate ['\n'] lines)).foldlM splitLine state =
      lines.foldlM splitLine state := by
  rw [readIdlFile, universalNewlines_of_all (all_intercalate_newline stay)]
  induction lines generalizing state with
  | nil => rfl
  | cons line others induction =>
      have stays := stay line List.mem_cons_self
      cases others with
      | nil =>
          rw [List.intercalate_singleton, linesFrom_last [] stays]
          cases line with
          | nil => rfl
          | cons c line => rfl
      | cons next others =>
          rw [List.intercalate_cons_cons, List.append_assoc,
            List.singleton_append, linesFrom_append_newline [] stays,
            List.foldlM_cons, List.foldlM_cons, List.nil_append,
            splitLine_append_newline state stays]
          apply bind_congr
          intro after
          exact induction
            (fun other isOther =>
              stay other (List.mem_cons_of_mem line isOther))
            after

/-! ## Stripping the lines -/

/-- A line that begins with a letter or a brace and has no end in it. -/
structure Visible (line : Text) : Prop where
  begins : line.head?.any (fun c => !isSpace c) = true
  stays : line.all staysInLine = true

theorem lstrip_append
    (indent : Indent)
    {line : Text}
    (begins : line.head?.any (fun c => !isSpace c) = true) :
    lstrip (indent.1 ++ line) = line := by
  have blank : ∀ c ∈ indent.1, isSpace c = true := by
    intro c isIn
    exact
      (Bool.and_eq_true_iff.mp (List.all_eq_true.mp indent.2 c isIn)).1
  rw [lstrip, List.dropWhile_append_of_pos blank]
  cases line with
  | nil => rfl
  | cons c line =>
      rw [List.dropWhile_cons_of_neg]
      simpa using begins

theorem all_stays_indent (indent : Indent) :
    indent.1.all staysInLine = true := by
  rw [List.all_eq_true]
  intro c isIn
  exact (Bool.and_eq_true_iff.mp (List.all_eq_true.mp indent.2 c isIn)).2

/-- An indented line is classified as the line behind the indentation. -/
theorem splitLine_indented
    (state : Splitting)
    (indent : Indent)
    {line : Text}
    (visible : Visible line) :
    splitLine state (indent.1 ++ line) = splitStripped state line := by
  have stays : (indent.1 ++ line).all staysInLine = true := by
    rw [List.all_append, all_stays_indent, visible.stays]
    rfl
  have notBlank :
      ¬(indent.1 ++ line = [] ∨ indent.1 ++ line = ['\n']) := by
    rintro (isNil | isNewline)
    · rw [(List.append_eq_nil_iff.mp isNil).2] at visible
      cases visible.begins
    · rw [isNewline] at stays
      cases stays
  rw [splitLine, if_neg notBlank, rstripNewlines_of_all stays,
    lstrip_append indent visible.begins]

theorem visible_comment (body : CommentBody) :
    Visible ("/*".toList ++ body.1 ++ "*/".toList) := by
  constructor
  · rfl
  · rw [List.all_append, List.all_append, body.2]
    rfl

theorem splitLine_comment
    (state : Splitting)
    (indent : Indent)
    (body : CommentBody) :
    splitLine state (SourceLine.comment indent body).text = .ok state := by
  rw [SourceLine.text, List.append_assoc, List.append_assoc,
    ← List.append_assoc _ body.1,
    splitLine_indented state indent (visible_comment body), splitStripped,
    if_pos, if_pos]
  · rw [endswith, List.isSuffixOf_iff_suffix]
    exact List.suffix_append _ _
  · rfl

/-- What the splitter makes of a file depends on the printed lines only. -/
theorem foldlM_sourceLines
    {file : List SourceLine}
    (visible : ∀ line ∈ file.filterMap SourceLine.code?, Visible line)
    (state : Splitting) :
    (file.map SourceLine.text).foldlM splitLine state =
      (file.filterMap SourceLine.code?).foldlM splitStripped state := by
  induction file generalizing state with
  | nil => rfl
  | cons line file induction =>
      cases line with
      | empty => exact induction visible state
      | comment indent body =>
          rw [List.map_cons, List.foldlM_cons, splitLine_comment]
          exact induction visible state
      | code indent line =>
          rw [List.filterMap_cons_some (by rfl)] at visible ⊢
          rw [List.map_cons, List.foldlM_cons, List.foldlM_cons,
            SourceLine.text,
            splitLine_indented state indent
              (visible line List.mem_cons_self)]
          apply bind_congr
          intro after
          exact induction
            (fun other isOther =>
              visible other (List.mem_cons_of_mem line isOther))
            after

theorem all_stays_text
    {file : List SourceLine}
    (visible : ∀ line ∈ file.filterMap SourceLine.code?, Visible line) :
    ∀ line ∈ file.map SourceLine.text, line.all staysInLine = true := by
  intro text isText
  obtain ⟨line, isLine, rfl⟩ := List.mem_map.mp isText
  cases line with
  | empty => rfl
  | comment indent body =>
      rw [SourceLine.text, List.append_assoc, List.append_assoc,
        ← List.append_assoc _ body.1, List.all_append, all_stays_indent,
        (visible_comment body).stays]
      rfl
  | code indent line =>
      have isPrinted :=
        visible line (List.mem_filterMap.mpr ⟨_, isLine, rfl⟩)
      rw [SourceLine.text, List.all_append, all_stays_indent,
        isPrinted.stays]
      rfl

/-! ## Classifying the lines -/

theorem exists_head_of_mem
    {Item : Type}
    {item : Item}
    {items : List Item}
    (isIn : item ∈ items) :
    ∃ first, items.head? = some first ∧ first ∈ items := by
  cases items with
  | nil => cases isIn
  | cons first others => exact ⟨first, rfl, List.mem_cons_self⟩

/-- A text and a literal after it match `.*` and the literal to the end. -/
theorem exists_runs_anything
    {text : Text}
    (stays : text.all staysInLine = true)
    (ending : Text)
    (read : ℕ)
    (groups : List (ℕ × Text)) :
    ∃ m,
      (runs (seq anything (seq (literal ending) finish))
          ⟨read, text ++ ending, groups⟩).head? = some m ∧
        m.groups = groups := by
  have inside : text.all (· != '\n') = true := by
    rw [List.all_eq_true] at stays ⊢
    intro c isIn
    exact (Bool.and_eq_true_iff.mp (stays c isIn)).1
  have ends :
      ⟨read + text.length + ending.length, [], groups⟩ ∈
        runs (seq (literal ending) finish)
          ⟨read + text.length, ending, groups⟩ := by
    have found :=
      runs_seq_literal ending [] finish (read + text.length) groups
    rw [List.append_nil] at found
    rw [found]
    exact List.mem_singleton_self _
  obtain ⟨m, isFirst, isIn⟩ :=
    exists_head_of_mem
      (List.mem_flatMap.mpr
        ⟨_, mem_runs_many inside ending read groups, ends⟩)
  have plain :
      groupless (seq anything (seq (literal ending) finish)) = true := rfl
  exact ⟨m, isFirst, groups_of_mem_runs plain isIn⟩

theorem search_frameLine
    {text : Text}
    (stays : text.all staysInLine = true) :
    ∃ m, search frameLine (text ++ ";".toList) = some m := by
  obtain ⟨m, found, _⟩ := exists_runs_anything stays ";".toList 0 []
  refine ⟨m, ?_⟩
  rw [frameLine, search_start]
  exact found

/-- The words a header begins with. -/
def IsKeyword (keyword : Text) : Prop :=
  keyword = "message".toList ∨ keyword = "service".toList

theorem runs_keyword
    {keyword : Text}
    (isKeyword : IsKeyword keyword)
    (rest : Text) :
    runs
        (group 1
          (either (literal "message".toList) (literal "service".toList)))
        ⟨0, keyword ++ rest, []⟩ =
      [⟨7, rest, [(1, keyword)]⟩] := by
  rcases isKeyword with rfl | rfl <;>
    simp [runs, Cursor.advance, Cursor.capture]

theorem search_frameHeader
    {keyword text : Text}
    (isKeyword : IsKeyword keyword)
    (stays : text.all staysInLine = true) :
    ∃ m,
      search frameHeader
          (keyword ++ " ".toList ++ text ++ " \x7b".toList) = some m ∧
        groupText m 1 = keyword := by
  obtain ⟨m, found, captured⟩ :=
    exists_runs_anything stays " \x7b".toList 8 [(1, keyword)]
  refine ⟨m, ?_, ?_⟩
  · rw [frameHeader, search_start, runs, List.append_assoc,
      List.append_assoc, runs_keyword isKeyword, List.flatMap_singleton,
      runs_seq_literal]
    exact found
  · rw [groupText, Cursor.group?, captured]
    rfl

/-- A line that begins with a letter and ends with a semicolon. -/
structure IsMember (line : Text) : Prop where
  begins : line.head?.any Char.isAlpha = true
  ends : ";".toList <:+ line
  stays : line.all staysInLine = true

theorem not_isSpace_of_isAlpha
    {c : Char}
    (isAlpha : c.isAlpha = true) :
    isSpace c = false := by
  have between : 65 ≤ c.toNat ∧ c.toNat ≤ 122 := by
    change
      (decide (c.val ≥ 'A'.val ∧ c.val ≤ 'Z'.val) ||
        decide (c.val ≥ 'a'.val) && decide (c.val ≤ 'z'.val)) = true
      at isAlpha
    simp only [Bool.or_eq_true, Bool.and_eq_true, decide_eq_true_eq,
      ge_iff_le, UInt32.le_iff_toNat_le] at isAlpha
    change
      (65 ≤ c.toNat ∧ c.toNat ≤ 90) ∨ (97 ≤ c.toNat ∧ c.toNat ≤ 122)
      at isAlpha
    omega
  simp only [isSpace, Bool.or_eq_false_iff, Bool.and_eq_false_iff,
    decide_eq_false_iff_not]
  omega

theorem startswith_of_ne
    {first found : Char}
    (differ : found ≠ first)
    (text rest : Text) :
    startswith (found :: rest) (first :: text) = false := by
  simp [startswith, List.isPrefixOf, differ.symm]

theorem ne_of_isAlpha
    {c other : Char}
    (isAlpha : c.isAlpha = true)
    (notAlpha : other.isAlpha = false) :
    c ≠ other := by
  rintro rfl
  rw [notAlpha] at isAlpha
  cases isAlpha

theorem IsMember.visible
    {line : Text}
    (isMember : IsMember line) :
    Visible line := by
  refine ⟨?_, isMember.stays⟩
  have begins := isMember.begins
  rw [Option.any_eq_true] at begins ⊢
  obtain ⟨first, isFirst, isAlpha⟩ := begins
  exact ⟨first, isFirst, by rw [not_isSpace_of_isAlpha isAlpha]; rfl⟩

theorem splitStripped_member
    (state : Splitting)
    {line : Text}
    (isMember : IsMember line) :
    splitStripped state line =
      .ok { state with frame := state.frame ++ [line] } := by
  obtain ⟨begins, ⟨text, rfl⟩, stays⟩ := isMember
  have found : ∃ m, search frameLine (text ++ ";".toList) = some m := by
    rw [List.all_append, Bool.and_eq_true] at stays
    exact search_frameLine stays.1
  obtain ⟨m, found⟩ := found
  have notHeader :
      endswith (text ++ ";".toList) "\x7b".toList = false := by
    simp [endswith, List.isSuffixOf, List.isPrefixOf]
  have otherwise : ∀ first others, first.isAlpha = false →
      startswith (text ++ ";".toList) (first :: others) = false := by
    intro first others notAlpha
    cases whole : text ++ ";".toList with
    | nil => rfl
    | cons found rest =>
        rw [whole] at begins
        exact startswith_of_ne (ne_of_isAlpha begins notAlpha) others rest
  have notComment :
      startswith (text ++ ";".toList) "/*".toList = false :=
    otherwise '/' ['*'] rfl
  have notBrace :
      startswith (text ++ ";".toList) "\x7d".toList = false :=
    otherwise '\x7d' [] rfl
  simp only [splitStripped, notComment, notHeader, notBrace, found,
    Bool.false_eq_true, if_false]

theorem splitStripped_brace
    (state : Splitting)
    {frameName : Text}
    (named : state.frameName = some frameName) :
    splitStripped state "\x7d".toList =
      .ok
        { state with
          frames :=
            state.frames ++
              [(frameName, state.frame ++ ["\x7d".toList])]
          frame := [] } := by
  have notComment :
      startswith "\x7d".toList "/*".toList = false := rfl
  have notHeader : endswith "\x7d".toList "\x7b".toList = false := rfl
  have isBrace : startswith "\x7d".toList "\x7d".toList = true := rfl
  simp only [splitStripped, notComment, notHeader, isBrace, named,
    Bool.false_eq_true, if_false, if_true]

theorem splitStripped_header
    (state : Splitting)
    {keyword text : Text}
    (isKeyword : IsKeyword keyword)
    (stays : text.all staysInLine = true) :
    splitStripped state
        (keyword ++ " ".toList ++ text ++ " \x7b".toList) =
      .ok
        { state with
          frameName := some keyword
          frame :=
            state.frame ++
              [keyword ++ " ".toList ++ text ++ " \x7b".toList] } := by
  obtain ⟨m, found, captured⟩ := search_frameHeader isKeyword stays
  have notComment :
      startswith (keyword ++ " ".toList ++ text ++ " \x7b".toList)
        "/*".toList = false := by
    rcases isKeyword with rfl | rfl <;> rfl
  have isHeader :
      endswith (keyword ++ " ".toList ++ text ++ " \x7b".toList)
        "\x7b".toList = true := by
    simp [endswith, List.isSuffixOf, List.isPrefixOf]
  simp only [splitStripped, notComment, isHeader, found, captured,
    Bool.false_eq_true, if_false, if_true]

/-! ## The printed lines are of the three kinds -/

theorem staysInLine_of_class
    {accepts : Char → Bool}
    (notNewline : accepts '\n' = false)
    (notReturn : accepts '\r' = false)
    {c : Char}
    (inside : accepts c = true) :
    staysInLine c = true := by
  rw [staysInLine, Bool.and_eq_true, bne_iff_ne, bne_iff_ne]
  constructor
  · rintro rfl
    rw [notNewline] at inside
    cases inside
  · rintro rfl
    rw [notReturn] at inside
    cases inside

theorem all_stays_of_isWord
    {head tail : Char → Bool}
    (headEnds : head '\n' = false ∧ head '\r' = false)
    (tailEnds : tail '\n' = false ∧ tail '\r' = false)
    {text : Text}
    (isText : isWord head tail text = true) :
    text.all staysInLine = true := by
  cases text with
  | nil => rfl
  | cons first others =>
      obtain ⟨isHead, isTail⟩ := Bool.and_eq_true_iff.mp isText
      rw [List.all_cons, Bool.and_eq_true,
        staysInLine_of_class headEnds.1 headEnds.2 isHead]
      refine ⟨rfl, List.all_eq_true.mpr ?_⟩
      intro c isIn
      exact staysInLine_of_class tailEnds.1 tailEnds.2
        (List.all_eq_true.mp isTail c isIn)

theorem Name.all_stays (name : Name) :
    name.1.all staysInLine = true :=
  all_stays_of_isWord ⟨rfl, rfl⟩ ⟨rfl, rfl⟩ name.2

theorem TypeName.all_stays (typeName : TypeName) :
    typeName.1.all staysInLine = true :=
  all_stays_of_isWord ⟨rfl, rfl⟩ ⟨rfl, rfl⟩ typeName.2

theorem isWord_toDigits (size : ℕ) :
    isWord Char.isDigit Char.isDigit (Nat.toDigits 10 size) = true := by
  have digits : ∀ c ∈ Nat.toDigits 10 size, c.isDigit = true := by
    intro c isIn
    exact Nat.isDigit_of_mem_toDigits (by decide) (by decide) isIn
  cases printed : Nat.toDigits 10 size with
  | nil => exact absurd printed Nat.toDigits_ne_nil
  | cons first others =>
      rw [printed] at digits
      rw [isWord, digits first List.mem_cons_self, Bool.true_and,
        List.all_eq_true]
      intro c isIn
      exact digits c (List.mem_cons_of_mem first isIn)

theorem head_any_append
    {accepts : Char → Bool}
    {text : Text}
    (begins : text.head?.any accepts = true)
    (rest : Text) :
    (text ++ rest).head?.any accepts = true := by
  cases text with
  | nil => cases begins
  | cons first others => exact begins

theorem TypeName.begins (typeName : TypeName) :
    typeName.1.head?.any Char.isAlpha = true := by
  obtain ⟨text, isText⟩ := typeName
  cases text with
  | nil => cases isText
  | cons first others =>
      obtain ⟨isLower, _⟩ := Bool.and_eq_true_iff.mp isText
      change (first.isUpper || first.isLower) = true
      rw [isLower, Bool.or_true]

theorem DeclaredField.isMember (field : DeclaredField) :
    IsMember field.line := by
  have ofType := TypeName.all_stays field.type
  have ofName := Name.all_stays field.name
  rw [line]
  cases field.arraySize with
  | none =>
      refine ⟨?_, List.suffix_append _ _, ?_⟩
      · iterate 3 apply head_any_append
        exact TypeName.begins field.type
      · simp only [List.all_append, ofType, ofName]
        rfl
  | some size =>
      have ofSize : (Nat.toDigits 10 size).all staysInLine = true :=
        all_stays_of_isWord ⟨rfl, rfl⟩ ⟨rfl, rfl⟩ (isWord_toDigits size)
      refine ⟨?_, List.suffix_append _ _, ?_⟩
      · iterate 5 apply head_any_append
        exact TypeName.begins field.type
      · simp only [List.all_append, ofType, ofSize, ofName]
        rfl

theorem DeclaredFunction.isMember (function : DeclaredFunction) :
    IsMember function.line := by
  have ends : ";".toList <:+ ");".toList := by decide
  unfold line
  refine ⟨?_, ?_, ?_⟩
  · iterate 6 apply head_any_append
    rfl
  · apply ends.trans
    apply List.suffix_append
  · simp only [List.all_append, Name.all_stays]
    decide +kernel

namespace Declaration

theorem isKeyword (declaration : Declaration) :
    IsKeyword declaration.keyword := by
  cases declaration with
  | message => exact Or.inl rfl
  | service => exact Or.inr rfl

theorem isMember_of_mem
    {declaration : Declaration}
    {line : Text}
    (isIn : line ∈ declaration.members) :
    IsMember line := by
  cases declaration with
  | message _ fields =>
      obtain ⟨field, _, rfl⟩ := List.mem_map.mp isIn
      exact field.isMember
  | service _ functions =>
      obtain ⟨function, _, rfl⟩ := List.mem_map.mp isIn
      exact function.isMember

theorem visible_header (declaration : Declaration) :
    Visible declaration.header := by
  constructor
  · cases declaration <;> rfl
  · have ofKeyword : declaration.keyword.all staysInLine = true := by
      cases declaration <;> rfl
    simp only [header, List.all_append, ofKeyword, Name.all_stays]
    rfl

theorem visible_of_mem
    {declaration : Declaration}
    {line : Text}
    (isIn : line ∈ declaration.lines) :
    Visible line := by
  rw [lines, List.mem_append, List.mem_cons, List.mem_singleton] at isIn
  rcases isIn with (rfl | isMember) | rfl
  · exact declaration.visible_header
  · exact (isMember_of_mem isMember).visible
  · exact ⟨rfl, rfl⟩

end Declaration

/-! ## Each declaration adds its frame -/

theorem foldlM_members
    {lines : List Text}
    (areMembers : ∀ line ∈ lines, IsMember line)
    (state : Splitting) :
    lines.foldlM splitStripped state =
      .ok { state with frame := state.frame ++ lines } := by
  induction lines generalizing state with
  | nil =>
      rw [List.append_nil]
      rfl
  | cons line lines induction =>
      rw [
        foldlM_cons_ok
          (splitStripped_member state (areMembers line List.mem_cons_self)),
        induction fun other isOther =>
          areMembers other (List.mem_cons_of_mem line isOther),
        List.append_assoc, List.singleton_append]

theorem foldlM_declaration
    (declaration : Declaration)
    (frames : List (Text × List Text))
    (frameName : Option Text) :
    declaration.lines.foldlM splitStripped ⟨frames, [], frameName⟩ =
      .ok
        ⟨frames ++ [(declaration.keyword, declaration.lines)], [],
          some declaration.keyword⟩ := by
  have header :
      splitStripped ⟨frames, [], frameName⟩ declaration.header =
        .ok ⟨frames, [declaration.header], some declaration.keyword⟩ :=
    splitStripped_header _ declaration.isKeyword
      (Name.all_stays declaration.name)
  have members :
      declaration.members.foldlM splitStripped
          ⟨frames, [declaration.header], some declaration.keyword⟩ =
        .ok
          ⟨frames, declaration.header :: declaration.members,
            some declaration.keyword⟩ :=
    foldlM_members (fun line => Declaration.isMember_of_mem) _
  have brace :
      splitStripped
          ⟨frames, declaration.header :: declaration.members,
            some declaration.keyword⟩
          "\x7d".toList =
        .ok
          ⟨frames ++ [(declaration.keyword, declaration.lines)], [],
            some declaration.keyword⟩ :=
    splitStripped_brace _ rfl
  rw [Declaration.lines, List.cons_append, foldlM_cons_ok header,
    foldlM_append_ok members, foldlM_cons_ok brace]
  rfl

theorem foldlM_declarations
    (declarations : List Declaration)
    (frames : List (Text × List Text))
    (frameName : Option Text) :
    ∃ last,
      (declarations.flatMap Declaration.lines).foldlM splitStripped
          ⟨frames, [], frameName⟩ =
        .ok
          ⟨frames ++ declarations.map fun declaration =>
              (declaration.keyword, declaration.lines),
            [], last⟩ := by
  induction declarations generalizing frames frameName with
  | nil => exact ⟨frameName, by rw [List.map_nil, List.append_nil]; rfl⟩
  | cons declaration declarations induction =>
      obtain ⟨last, others⟩ :=
        induction
          (frames ++ [(declaration.keyword, declaration.lines)])
          (some declaration.keyword)
      refine ⟨last, ?_⟩
      rw [List.flatMap_cons,
        foldlM_append_ok (foldlM_declaration declaration frames frameName),
        others, List.append_assoc, List.singleton_append, List.map_cons]

/-- The frames of a file are the lines of its declarations. -/
theorem parseFrames_fileContent
    {file : List SourceLine}
    {declarations : List Declaration}
    (prints : Prints file declarations) :
    parseFrames (readIdlFile (fileContent file)) =
      .ok (declarations.map fun declaration =>
        (declaration.keyword, declaration.lines)) := by
  have visible :
      ∀ line ∈ file.filterMap SourceLine.code?, Visible line := by
    intro line isIn
    rw [prints] at isIn
    obtain ⟨declaration, _, isLine⟩ := List.mem_flatMap.mp isIn
    exact Declaration.visible_of_mem isLine
  obtain ⟨last, split⟩ := foldlM_declarations declarations [] none
  rw [parseFrames, fileContent, foldlM_readIdlFile (all_stays_text visible),
    foldlM_sourceLines visible, prints, split]
  rfl

end Dagger.Codegen.IdlFrames
