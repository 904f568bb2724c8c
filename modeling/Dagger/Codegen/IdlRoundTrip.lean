import Dagger.Codegen.IdlFrames
import Mathlib.Data.List.Nodup

/-!
# Parsing inverts printing

The frames of a file are the printed lines of its declarations.  Each regular
expression of the two parsers captures exactly the words that were printed,
because every captured word is followed by a character that no word contains;
so a frame gives back its declaration, and with distinct names the
dictionaries hold all of them in order.
-/

namespace Dagger.Codegen.IdlRoundTrip

open Dagger.Lib.Regex
open Dagger.Lib.Regex.Pattern
open Dagger.Lib.FallibleRun
open Dagger.Codegen.IdlParser
open Dagger.Codegen.IdlFrames

/-! ## The regular expressions capture the printed words -/

/-- The last captured word and the literal that ends a line. -/
theorem runs_capture_finish
    (index : ℕ)
    (word : Name)
    (ending : Text)
    (stops : ending.head?.any (fun c => !isNameChar c) = true)
    (read : ℕ)
    (groups : List (ℕ × Text)) :
    ∃ last,
      runs (seq (group index name) (seq (literal ending) finish))
          ⟨read, word.1 ++ ending, groups⟩ =
        [⟨last, [], (index, word.1) :: groups⟩] := by
  have found :=
    runs_capture_literal word.2 stops finish [] index read groups
  rw [List.append_nil] at found
  exact ⟨_, found⟩

theorem search_headerOf
    (keyword : Text)
    (word : Name) :
    ∃ last,
      search (headerOf keyword)
          (keyword ++ " ".toList ++ word.1 ++ " \x7b".toList) =
        some ⟨last, [], [(1, word.1)]⟩ := by
  obtain ⟨last, found⟩ :=
    runs_capture_finish 1 word " \x7b".toList rfl
      (0 + (keyword ++ " ".toList).length) []
  refine ⟨last, ?_⟩
  rw [headerOf, search_start, List.append_assoc (keyword ++ _),
    runs_seq_literal, found]
  rfl

theorem search_simpleField
    (type : TypeName)
    (word : Name) :
    ∃ last,
      search simpleField
          (type.1 ++ " ".toList ++ word.1 ++ ";".toList) =
        some ⟨last, [], [(2, word.1), (1, type.1)]⟩ := by
  obtain ⟨last, found⟩ :=
    runs_capture_finish 2 word ";".toList rfl
      (0 + type.1.length + " ".toList.length) [(1, type.1)]
  refine ⟨last, ?_⟩
  rw [simpleField, search_start, List.append_assoc, List.append_assoc,
    typeName, runs_capture_literal type.2 rfl, found]
  rfl

/-- The line of an array is not taken for the line of a simple field. -/
theorem search_simpleField_array
    (type : TypeName)
    (rest : Text) :
    search simpleField (type.1 ++ ("[".toList ++ rest)) = none := by
  have bracket : isTypeChar '[' = false := rfl
  have blank : isTypeChar ' ' = false := rfl
  have mismatch :=
    runs_capture_mismatch type.2 bracket blank (by decide) []
      (seq (group 2 name) (seq (literal ";".toList) finish)) rest 1 0 []
  rw [simpleField, search_start]
  exact congrArg List.head? mismatch

theorem search_arrayField
    (type : TypeName)
    (size : ℕ)
    (word : Name) :
    ∃ last,
      search arrayField
          (type.1 ++ "[".toList ++ Nat.toDigits 10 size ++ "] ".toList ++
            word.1 ++ ";".toList) =
        some
          ⟨last, [],
            [(3, word.1), (2, Nat.toDigits 10 size), (1, type.1)]⟩ := by
  obtain ⟨last, found⟩ :=
    runs_capture_finish 3 word ";".toList rfl
      (0 + type.1.length + "[".toList.length +
        (Nat.toDigits 10 size).length + "] ".toList.length)
      [(2, Nat.toDigits 10 size), (1, type.1)]
  refine ⟨last, ?_⟩
  rw [arrayField, search_start]
  simp only [List.append_assoc]
  rw [typeName, runs_capture_literal type.2 rfl, number,
    runs_capture_literal (isWord_toDigits size) rfl, found]
  rfl

theorem search_rpcLine
    (function : DeclaredFunction) :
    ∃ last,
      search rpcLine function.line =
        some
          ⟨last, [],
            [(3, function.result.1), (2, function.argument.1),
              (1, function.name.1)]⟩ := by
  obtain ⟨last, found⟩ :=
    runs_capture_finish 3 function.result ");".toList rfl
      (0 + "rpc ".toList.length + function.name.1.length +
        "(".toList.length + function.argument.1.length +
        ") returns (".toList.length)
      [(2, function.argument.1), (1, function.name.1)]
  refine ⟨last, ?_⟩
  unfold DeclaredFunction.line
  rw [rpcLine, search_start]
  simp only [List.append_assoc]
  rw [runs_seq_literal, name,
    runs_capture_literal function.name.2 rfl,
    runs_capture_literal function.argument.2 rfl, ← name, found]
  rfl

/-! ## The members of a frame -/

theorem messageMember_line
    (argList : List Field)
    (field : DeclaredField) :
    messageMember argList field.line = .ok (argList ++ [field.entry]) := by
  obtain ⟨type, word, arraySize⟩ := field
  cases arraySize with
  | none =>
      obtain ⟨last, found⟩ := search_simpleField type word
      simp only [messageMember, DeclaredField.line, found]
      rfl
  | some size =>
      obtain ⟨last, found⟩ := search_arrayField type size word
      have notSimple :
          search simpleField
            (type.1 ++ "[".toList ++ Nat.toDigits 10 size ++ "] ".toList ++
              word.1 ++ ";".toList) = none := by
        simp only [List.append_assoc, search_simpleField_array]
      have value : int (Nat.toDigits 10 size) = size :=
        Nat.ofDigitChars_toDigits (by decide) (by decide)
      have parsed :
          groupText
            ⟨last, [],
              [(3, word.1), (2, Nat.toDigits 10 size), (1, type.1)]⟩ 2 =
            Nat.toDigits 10 size := rfl
      simp only [messageMember, DeclaredField.line, notSimple, found,
        parsed, value]
      rfl

theorem serviceMember_line
    (functions : List Function × ℕ)
    (function : DeclaredFunction) :
    serviceMember functions function.line =
      .ok
        (functions.1 ++ [function.entry functions.2], functions.2 + 1) := by
  obtain ⟨last, found⟩ := search_rpcLine function
  simp only [serviceMember, found]
  rfl

theorem foldlM_messageMember
    (argList : List Field)
    (fields : List DeclaredField) :
    (fields.map DeclaredField.line).foldlM messageMember argList =
      .ok (argList ++ fields.map DeclaredField.entry) := by
  induction fields generalizing argList with
  | nil =>
      rw [List.map_nil, List.map_nil, List.append_nil]
      rfl
  | cons field fields induction =>
      rw [List.map_cons, foldlM_cons_ok (messageMember_line argList field),
        induction, List.append_assoc, List.singleton_append, List.map_cons]

theorem foldlM_serviceMember
    (fList : List Function)
    (fId : ℕ)
    (functions : List DeclaredFunction) :
    (functions.map DeclaredFunction.line).foldlM serviceMember
        (fList, fId) =
      .ok
        (fList ++
            functions.mapIdx (fun number function =>
              function.entry (fId + number)),
          fId + functions.length) := by
  induction functions generalizing fList fId with
  | nil =>
      rw [List.mapIdx_nil, List.append_nil]
      rfl
  | cons function functions induction =>
      rw [List.map_cons,
        foldlM_cons_ok (serviceMember_line (fList, fId) function),
        induction, List.append_assoc, List.singleton_append,
        List.mapIdx_cons, List.length_cons]
      simp only [Nat.add_zero, Nat.add_assoc, Nat.add_comm 1]

section Frames

variable
    {Members : Type}
    (grammar : FrameGrammar Members)

/-- The loop after the header folds the members and stops at the brace. -/
theorem frameLoop_members
    (frameName : Text)
    (lines : List Text)
    {before after : Members}
    (folded : lines.foldlM grammar.member before = .ok after)
    (index : ℕ) :
    frameLoop grammar (index + 1 + lines.length + 1) (some frameName) before
        ((lines ++ ["\x7d".toList]).zipIdx (index + 1)) =
      .ok (frameName, after) := by
  induction lines generalizing before index with
  | nil =>
      cases folded
      rw [List.nil_append, List.zipIdx_cons, frameLoop,
        if_neg (Nat.succ_ne_zero index), List.length_nil, Nat.add_zero,
        Nat.add_sub_cancel, if_neg (Nat.lt_irrefl (index + 1)),
        if_pos rfl]
  | cons line lines induction =>
      rw [List.foldlM_cons, bind_eq_ok] at folded
      rcases folded with ⟨between, first, others⟩
      have inside :
          index + 1 < index + 1 + (line :: lines).length + 1 - 1 := by
        rw [List.length_cons]
        omega
      have same :
          index + 1 + (line :: lines).length + 1 =
            index + 1 + 1 + lines.length + 1 := by
        rw [List.length_cons]
        omega
      rw [List.cons_append, List.zipIdx_cons, frameLoop,
        if_neg (Nat.succ_ne_zero index), if_pos inside, first, same]
      exact induction others (index + 1)

/-- A frame is parsed to the name in its header and its folded members. -/
theorem frameLoop_frame
    {header frameName : Text}
    (named :
      ∃ m, search grammar.header header = some m ∧
        groupText m 1 = frameName)
    (lines : List Text)
    {before after : Members}
    (folded : lines.foldlM grammar.member before = .ok after) :
    frameLoop grammar (header :: lines ++ ["\x7d".toList]).length none before
        (header :: lines ++ ["\x7d".toList]).zipIdx =
      .ok (frameName, after) := by
  obtain ⟨m, found, rfl⟩ := named
  have length :
      (header :: lines ++ ["\x7d".toList]).length =
        0 + 1 + lines.length + 1 := by
    simp [Nat.add_comm]
  rw [length, List.cons_append, List.zipIdx_cons, frameLoop, if_pos rfl,
    found]
  exact frameLoop_members grammar _ lines folded 0

end Frames

theorem parseAsMessage_lines
    (name : Name)
    (fields : List DeclaredField) :
    parseAsMessage (Declaration.message name fields).lines =
      .ok (name.1, fields.map DeclaredField.entry) := by
  obtain ⟨last, found⟩ := search_headerOf "message".toList name
  exact frameLoop_frame messageGrammar ⟨_, found, rfl⟩ _
    (foldlM_messageMember [] fields)

theorem parseAsService_lines
    (name : Name)
    (functions : List DeclaredFunction) :
    parseAsService (Declaration.service name functions).lines =
      .ok
        (name.1,
          functions.mapIdx fun number function =>
            function.entry number) := by
  obtain ⟨last, found⟩ := search_headerOf "service".toList name
  have folded := foldlM_serviceMember [] 0 functions
  simp only [Nat.zero_add, List.nil_append] at folded
  have loop :
      frameLoop serviceGrammar
          (Declaration.service name functions).lines.length none ([], 0)
          (Declaration.service name functions).lines.zipIdx =
        .ok
          (name.1,
            functions.mapIdx (fun number function =>
              function.entry number),
            functions.length) :=
    frameLoop_frame serviceGrammar ⟨_, found, rfl⟩ _ folded
  rw [parseAsService, loop]
  rfl

/-! ## The dictionaries -/

theorem dictSet_of_notMem
    {Value : Type}
    {key : Text}
    (value : Value)
    {entries : List (Text × Value)}
    (isNew : key ∉ entries.map Prod.fst) :
    dictSet key value entries = entries ++ [(key, value)] := by
  induction entries with
  | nil => rfl
  | cons entry entries induction =>
      rw [List.map_cons, List.mem_cons, not_or] at isNew
      rw [dictSet, if_neg (Ne.symm isNew.1), induction isNew.2,
        List.cons_append]

/-- A key that is new stays the only one of its name. -/
theorem notMem_of_nodup
    {Value : Type}
    {entries others : List (Text × Value)}
    {entry : Text × Value}
    (distinct : ((entries ++ entry :: others).map Prod.fst).Nodup) :
    entry.1 ∉ entries.map Prod.fst := by
  rw [List.map_append, List.map_cons, List.nodup_append] at distinct
  intro isIn
  exact distinct.2.2 _ isIn _ List.mem_cons_self rfl

theorem declaredMessages_message
    (name : Name)
    (fields : List DeclaredField)
    (declarations : List Declaration) :
    declaredMessages (Declaration.message name fields :: declarations) =
      (name.1, fields.map DeclaredField.entry) ::
        declaredMessages declarations :=
  rfl

theorem declaredServices_service
    (name : Name)
    (functions : List DeclaredFunction)
    (declarations : List Declaration) :
    declaredServices (Declaration.service name functions :: declarations) =
      (name.1,
          functions.mapIdx fun number function => function.entry number) ::
        declaredServices declarations :=
  rfl

theorem storeFrame_message
    (idl : Idl)
    (name : Name)
    (fields : List DeclaredField)
    (isNew : name.1 ∉ idl.imessages.map Prod.fst) :
    storeFrame idl
        ("message".toList, (Declaration.message name fields).lines) =
      .ok
        { idl with
          imessages :=
            idl.imessages ++
              [(name.1, fields.map DeclaredField.entry)] } := by
  rw [storeFrame, if_pos rfl, parseAsMessage_lines,
    ← dictSet_of_notMem _ isNew]
  rfl

theorem storeFrame_service
    (idl : Idl)
    (name : Name)
    (functions : List DeclaredFunction)
    (isNew : name.1 ∉ idl.iservices.map Prod.fst) :
    storeFrame idl
        ("service".toList, (Declaration.service name functions).lines) =
      .ok
        { idl with
          iservices :=
            idl.iservices ++
              [(name.1,
                functions.mapIdx fun number function =>
                  function.entry number)] } := by
  have differ : "service".toList ≠ "message".toList := by decide
  rw [storeFrame, if_neg differ, if_pos rfl, parseAsService_lines,
    ← dictSet_of_notMem _ isNew]
  rfl

theorem foldlM_storeFrame
    (declarations : List Declaration)
    (idl : Idl)
    (messages :
      ((idl.imessages ++ declaredMessages declarations).map
        Prod.fst).Nodup)
    (services :
      ((idl.iservices ++ declaredServices declarations).map
        Prod.fst).Nodup) :
    (declarations.map fun declaration =>
        (declaration.keyword, declaration.lines)).foldlM storeFrame idl =
      .ok
        ⟨idl.imessages ++ declaredMessages declarations,
          idl.iservices ++ declaredServices declarations⟩ := by
  induction declarations generalizing idl with
  | nil =>
      simp only [declaredMessages, declaredServices, List.filterMap_nil,
        List.append_nil]
      rfl
  | cons declaration declarations induction =>
      cases declaration with
      | message name fields =>
          rw [declaredMessages_message] at messages
          have stored :=
            storeFrame_message idl name fields (notMem_of_nodup messages)
          rw [List.append_cons] at messages
          rw [declaredMessages_message, List.append_cons]
          exact (foldlM_cons_ok stored _).trans
            (induction { idl with imessages := _ } messages services)
      | service name functions =>
          rw [declaredServices_service] at services
          have stored :=
            storeFrame_service idl name functions
              (notMem_of_nodup services)
          rw [List.append_cons] at services
          rw [declaredServices_service, List.append_cons]
          exact (foldlM_cons_ok stored _).trans
            (induction { idl with iservices := _ } messages services)

/--
Parsing inverts printing: a file that prints declarations, with any
indentation, empty lines and comments, is parsed to exactly the declared
messages with their fields in order and the declared services with their
functions in order, numbered from zero.
-/
theorem parseIdl_fileContent
    (declarations : List Declaration)
    (messages : ((declaredMessages declarations).map Prod.fst).Nodup)
    (services : ((declaredServices declarations).map Prod.fst).Nodup)
    (file : List SourceLine)
    (prints : Prints file declarations) :
    parseIdl (fileContent file) =
      .ok
        ⟨declaredMessages declarations, declaredServices declarations⟩ := by
  rw [parseIdl, parseFrames_fileContent prints]
  exact foldlM_storeFrame declarations ⟨[], []⟩ messages services

theorem isWord_int8 :
    isWord Char.isLower isTypeChar "int8".toList = true := by
  decide

/-- A message and a service whose members are named like keywords. -/
def keywordDeclarations : List Declaration :=
  [.message ⟨"message".toList, by decide⟩
      [⟨⟨"rpc".toList, by decide⟩, ⟨"service".toList, by decide⟩, none⟩,
        ⟨⟨"int8".toList, isWord_int8⟩, ⟨"returns".toList, by decide⟩,
          some 20⟩],
    .service ⟨"rpc".toList, by decide⟩
      [⟨⟨"rpc".toList, by decide⟩, ⟨"message".toList, by decide⟩,
          ⟨"message".toList, by decide⟩⟩,
        ⟨⟨"message".toList, by decide⟩, ⟨"message".toList, by decide⟩,
          ⟨"message".toList, by decide⟩⟩]]

/-- The declarations with indentation, an empty line and a comment. -/
def keywordFile : List SourceLine :=
  [.comment ⟨[], rfl⟩ ⟨" message x \x7b ".toList, by decide⟩,
    .code ⟨[], rfl⟩ "message message \x7b".toList,
    .code ⟨['\t'], rfl⟩ "rpc service;".toList,
    .empty,
    .code ⟨[' ', ' '], rfl⟩ "int8[20] returns;".toList,
    .code ⟨[], rfl⟩ "\x7d".toList,
    .code ⟨[], rfl⟩ "service rpc \x7b".toList,
    .code ⟨['\t'], rfl⟩ "rpc rpc(message) returns (message);".toList,
    .code ⟨['\t'], rfl⟩ "rpc message(message) returns (message);".toList,
    .code ⟨[], rfl⟩ "\x7d".toList]

theorem parseIdl_keywordFile :
    parseIdl (fileContent keywordFile) =
      .ok
        ⟨[("message".toList,
            [⟨"rpc".toList, "service".toList, none⟩,
              ⟨"int8".toList, "returns".toList, some 20⟩])],
          [("rpc".toList,
            [⟨"rpc".toList, "message".toList, "message".toList, 0⟩,
              ⟨"message".toList, "message".toList, "message".toList,
                1⟩])]⟩ :=
  parseIdl_fileContent keywordDeclarations (by decide +kernel)
    (by decide +kernel) keywordFile (by unfold Prints; decide +kernel)

end Dagger.Codegen.IdlRoundTrip
