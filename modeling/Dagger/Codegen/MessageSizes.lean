import Dagger.Codegen.Generation
import Dagger.Lib.StructLayout

/-!
# Sizes of messages

A message becomes a structure with the fields in their order.  The stubs copy
whole structures: the client its argument to the argument bytes of a packet,
the server the value of a function, which the function has written to a buffer
of the size of a line.

The generator never compares the size of a structure with that of a packet.
The copies stay inside the packet if the fields of all messages that are
passed end early enough, and only then.  The bound is lower for a message with
a field of eight bytes, because the structure is padded to a multiple of eight.

The sizes are those of the compiler.  It knows the structures of the declared
messages and other types besides, and a function may return one of those: the
generator does not look results up.  Such a type has to fit as well.
-/

namespace Dagger.Codegen.MessageSizes

open Dagger.Lib.FallibleRun
open Dagger.Lib.StructLayout
open Dagger.RpcPacket
open Dagger.Codegen.IdlParser
open Dagger.Codegen.StubCode
open Dagger.Codegen.StubGenerator
open Dagger.Codegen.GeneratedStubs
open Dagger.Codegen.StubExecution
open Dagger.Codegen.StubCalls
open Dagger.Codegen.Generation

/-! ## Sizes -/

/-- `type_dict[arg_type][1]`, for a key. -/
def typeSize (argType : Text) : ℕ :=
  match typeDict.lookup argType with
  | some (_, size) => size
  | none => 0

/-- A field is one element or an array of elements. -/
def member (field : Field) : Member where
  size := typeSize field.argType
  count := field.argArraySize.getD 1

/-- `sizeof` of the structure with these fields; an empty one has a byte. -/
def structSize (argList : List Field) : ℕ :=
  if argList = [] then 1 else structureSize (argList.map member)

/-- `sizeof` gives declared messages the size of their structure. -/
def Measures
    (sizeof : Text → ℕ)
    (imessages : List (Text × List Field)) :
    Prop :=
  ∀ name argList,
    imessages.lookup name = some argList →
      sizeof name = structSize argList

/-- The field is aligned to eight bytes. -/
def isWide (field : Field) : Bool :=
  typeSize field.argType = 8

/-- The last field ends early enough for the structure to fit. -/
def FieldsFit (argList : List Field) : Prop :=
  endOffset (argList.map member) ≤
    if argList.any isWide then 48 else 52

instance decidableFieldsFit (argList : List Field) :
    Decidable (FieldsFit argList) :=
  inferInstanceAs (Decidable (_ ≤ _))

/-- The messages that a function is passed and returns. -/
def Passes
    (imessages : List (Text × List Field))
    (f : Function)
    (argList : List Field) :
    Prop :=
  imessages.lookup f.argName = some argList ∨
    imessages.lookup f.retName = some argList

/-! ## Copies -/

/-- The copies of the two stubs of a function are defined in every state. -/
structure CopiesInside (sizeof : Text → ℕ) (f : Function) : Prop where
  /-- The client copies an argument to a slot or to a local packet. -/
  argument :
    ∀ (lDepth : ℕ) (scope : ClientScope) (state : State lDepth),
      scope.args.length = sizeof f.argName →
      state.txPtrCasted.isSome →
        (execute sizeof (.client scope) state
            (clientFilling f).data).isSome ∧
          (execute sizeof (.client scope) state
            (clientFilling f).mmioData).isSome
  /-- The function writes the buffer, which is copied in the same way. -/
  result :
    ∀ (lDepth : ℕ) (scope : ServerScope) (state : State lDepth),
      scope.rpcFnPtr[f.fId]?.isSome →
      state.control = .running →
      state.txPtrCasted.isSome →
        ∃ after,
          run sizeof (.server scope) (genCastedFCall f) state =
              some after ∧
            (execute sizeof (.server scope) after
              serverFilling.data).isSome ∧
            (execute sizeof (.server scope) after
              serverFilling.mmioData).isSome

/-- The types of a function have room in a packet. -/
structure StaysInside (sizeof : Text → ℕ) (f : Function) : Prop where
  argument : sizeof f.argName ≤ argvSize
  result : sizeof f.retName ≤ argvSize
  copies : CopiesInside sizeof f

/-! ## Sizes below the bound -/

theorem typeSize_of_known
    {argType : Text}
    (known : Known argType) :
    typeSize argType ∈ [1, 2, 4, 8] := by
  have all :
      ∀ key ∈ typeDict.map Prod.fst, typeSize key ∈ [1, 2, 4, 8] := by
    decide
  exact all argType known

theorem alignment_of_known
    {argList : List Field}
    (known : ∀ field ∈ argList, Known field.argType) :
    alignment (argList.map member) ∈ [1, 2, 4, 8] := by
  rcases alignment_mem (argList.map member) with isByte | ⟨_, isIn, isLargest⟩
  · rw [isByte]
    decide
  · rcases List.mem_map.mp isIn with ⟨field, isField, rfl⟩
    rw [← isLargest]
    exact typeSize_of_known (known field isField)

theorem alignment_eq_eight_iff
    {argList : List Field}
    (known : ∀ field ∈ argList, Known field.argType) :
    alignment (argList.map member) = 8 ↔ argList.any isWide = true := by
  rw [List.any_eq_true]
  constructor
  · intro isEight
    rcases alignment_mem (argList.map member) with
      isByte | ⟨_, isIn, isLargest⟩
    · rw [isByte] at isEight
      cases isEight
    · rcases List.mem_map.mp isIn with ⟨field, isField, rfl⟩
      refine ⟨field, isField, ?_⟩
      rw [isEight] at isLargest
      exact decide_eq_true isLargest
  · rintro ⟨field, isField, wide⟩
    have size : (member field).size = 8 := of_decide_eq_true wide
    have large : (member field).size ≤ alignment (argList.map member) :=
      size_le_alignment (List.mem_map_of_mem isField)
    rw [size] at large
    have choices := alignment_of_known known
    simp only [List.mem_cons, List.not_mem_nil, or_false] at choices
    omega

/-- The end of the last field decides whether a structure fits. -/
theorem structSize_le_iff
    {argList : List Field}
    (known : ∀ field ∈ argList, Known field.argType) :
    structSize argList ≤ argvSize ↔ FieldsFit argList := by
  rw [structSize]
  split
  · rename_i isEmpty
    rw [isEmpty]
    decide
  · rw [structureSize_le_iff, FieldsFit]
    have choices := alignment_of_known known
    by_cases wide : argList.any isWide = true
    · rw [if_pos wide, (alignment_eq_eight_iff known).mpr wide]
      rfl
    · have notEight : alignment (argList.map member) ≠ 8 := by
        intro isEight
        exact wide ((alignment_eq_eight_iff known).mp isEight)
      rw [if_neg wide]
      simp only [List.mem_cons, List.not_mem_nil, or_false, notEight]
        at choices
      rcases choices with isAlignment | isAlignment | isAlignment <;>
        rw [isAlignment] <;> rfl

/-! ## Copies that fit -/

theorem isSome_copy
    {lDepth : ℕ}
    {state : State lDepth}
    {target : Target}
    {bytes : List Byte}
    (casted : state.txPtrCasted.isSome)
    (fits : bytes.length ≤ argvSize) :
    (state.copy target bytes).isSome := by
  rw [State.copy, if_pos fits]
  cases target with
  | request => rfl
  | txPtrCasted =>
      rcases Option.isSome_iff_exists.mp casted with ⟨ptr, isPtr⟩
      rw [State.modify, isPtr]
      rfl

theorem called_txPtrCasted
    {lDepth : ℕ}
    (sizeof : Text → ℕ)
    (scope : ServerScope)
    (f : Function)
    (function : RemoteFunction)
    (state : State lDepth) :
    (called sizeof scope f function state).txPtrCasted =
      state.txPtrCasted := by
  rw [called]

theorem copiesInside_of_fits
    {sizeof : Text → ℕ}
    {f : Function}
    (fits : Fits sizeof f) :
    CopiesInside sizeof f where
  argument := by
    intro lDepth scope state size casted
    have inside : scope.args.length ≤ argvSize := size.trans_le fits.argument
    constructor
    · change Option.isSome (if _ then _ else _)
      rw [if_pos size]
      exact isSome_copy casted inside
    · change Option.isSome (if _ then _ else _)
      rw [if_pos size.ge, ← size, List.take_length]
      exact isSome_copy casted inside
  result := by
    intro lDepth scope state isThere running casted
    rcases Option.isSome_iff_exists.mp isThere with ⟨function, isFunction⟩
    have calls :
        step sizeof (.server scope) state
            (.callFunction f.argName f.retName f.fId) =
          some
            { called sizeof scope f function state with
              retSize := state.retSize } := by
      rw [step_running running]
      exact callFunction_eq isFunction fits state
    have inside :
        (resultOf sizeof scope f function state.retBuff).2.length ≤
          argvSize :=
      (length_resultOf function fits state.retBuff).trans_le fits.result
    have calledCasted :
        (called sizeof scope f function state).txPtrCasted.isSome := by
      rw [called_txPtrCasted]
      exact casted
    have copies :
        ∀ target,
          (execute sizeof (.server scope)
            (called sizeof scope f function state)
            (.memcpy target .retBuff .retSize)).isSome := by
      intro target
      rw [execute_copyResult function fits state target _ rfl
        (called_retSize sizeof scope f function state)]
      exact isSome_copy calledCasted inside
    refine ⟨called sizeof scope f function state, ?_,
      copies .txPtrCasted, copies .request⟩
    rw [genCastedFCall, run_cons _ calls]
    rcases state with ⟨⟩
    cases running
    rfl

/-! ## Generated stubs -/

theorem known_of_lookup
    {imessages : List (Text × List Field)}
    (fields :
      ∀ message ∈ imessages, ∀ field ∈ message.2, Known field.argType)
    {name : Text}
    {argList : List Field}
    (declared : imessages.lookup name = some argList) :
    ∀ field ∈ argList, Known field.argType := by
  rcases List.lookup_eq_some_iff.mp declared with
    ⟨before, after, isSplit, -⟩
  have isIn : (name, argList) ∈ imessages := by
    rw [isSplit]
    exact List.mem_append_right _ List.mem_cons_self
  exact fields (name, argList) isIn

theorem sizeof_le_iff
    {sizeof : Text → ℕ}
    {imessages : List (Text × List Field)}
    (measures : Measures sizeof imessages)
    (fields :
      ∀ message ∈ imessages, ∀ field ∈ message.2, Known field.argType)
    {name : Text}
    {argList : List Field}
    (declared : imessages.lookup name = some argList) :
    sizeof name ≤ argvSize ↔ FieldsFit argList := by
  rw [measures name argList declared]
  exact structSize_le_iff (known_of_lookup fields declared)

theorem exists_lookup_of_mem
    {imessages : List (Text × List Field)}
    {name : Text}
    (declared : name ∈ imessages.map Prod.fst) :
    ∃ argList, imessages.lookup name = some argList := by
  rw [← Option.isSome_iff_exists, Option.isSome_iff_ne_none]
  intro missing
  rcases List.mem_map.mp declared with ⟨message, isMessage, rfl⟩
  exact
    absurd (List.lookup_eq_none_iff.mp missing message isMessage) (by simp)

/--
In the files the generator writes, the copies of a function stay inside the
packet exactly if the fields of its argument and of its result end in time,
and the result fits as well if it is not a message.
-/
theorem staysInside_iff_of_generate
    {content : Text}
    {files : Option Files}
    (completes : generate content = .ok files) :
    ∃ idl,
      parseIdl content = .ok idl ∧
        ∀ sizeof, Measures sizeof idl.imessages →
          ∀ service ∈ idl.iservices, ∀ f ∈ service.2,
            StaysInside sizeof f ↔
              (∀ argList, Passes idl.imessages f argList →
                FieldsFit argList) ∧
              (idl.imessages.lookup f.retName = none →
                sizeof f.retName ≤ argvSize) := by
  rcases (completes_generate content).mp ⟨files, completes⟩ with
    ⟨idl, parses, checked⟩
  refine ⟨idl, parses, ?_⟩
  intro sizeof measures service isService f isFunction
  have fields := (checked service isService).fields
  constructor
  · rintro ⟨argument, result, -⟩
    refine ⟨?_, fun _ => result⟩
    rintro argList (isArgument | isResult)
    · exact (sizeof_le_iff measures fields isArgument).mp argument
    · exact (sizeof_le_iff measures fields isResult).mp result
  · rintro ⟨fit, other⟩
    rcases exists_lookup_of_mem
      ((checked service isService).arguments f isFunction) with
      ⟨argList, isArgument⟩
    have argument : sizeof f.argName ≤ argvSize :=
      (sizeof_le_iff measures fields isArgument).mpr
        (fit argList (.inl isArgument))
    have result : sizeof f.retName ≤ argvSize := by
      cases isResult : idl.imessages.lookup f.retName with
      | none => exact other isResult
      | some argList =>
          exact
            (sizeof_le_iff measures fields isResult).mpr
              (fit argList (.inr isResult))
    exact ⟨argument, result, copiesInside_of_fits ⟨argument, result⟩⟩

/-- The function of a service that passes and returns one message. -/
def echo : Function :=
  ⟨"echo".toList, "M".toList, "M".toList, 0⟩

/-- A service with that function, and the message with this line. -/
def echoFile (fieldLine : String) : Text :=
  ("message M \x7b\n" ++ fieldLine ++ "\n\x7d\n" ++
    "service S \x7b\nrpc echo(M) returns (M);\n\x7d\n").toList

/-- What such a file is parsed to. -/
def echoIdl (field : Field) : Idl :=
  ⟨[("M".toList, [field])], [("S".toList, [echo])]⟩

theorem completes_generate_echoFile
    {fieldLine : String}
    {field : Field}
    (parses : parseIdl (echoFile fieldLine) = .ok (echoIdl field))
    (known : Known field.argType) :
    Completes (generate (echoFile fieldLine)) := by
  refine (completes_generate _).mpr ⟨echoIdl field, parses, ?_⟩
  intro service isService
  rw [List.mem_singleton.mp isService]
  constructor
  · intro message isMessage other isField
    rw [List.mem_singleton.mp isMessage] at isField
    rw [List.mem_singleton.mp isField]
    exact known
  · intro f isFunction
    rw [List.mem_singleton.mp isFunction]
    exact List.mem_cons_self

/-- All types have the size of one message, if that is all there is. -/
theorem measures_echoIdl (field : Field) :
    Measures (fun _ => structSize [field]) (echoIdl field).imessages := by
  intro name argList declared
  rcases List.lookup_eq_some_iff.mp declared with
    ⟨before, after, isSplit, -⟩
  have isIn : (name, argList) ∈ (echoIdl field).imessages := by
    rw [isSplit]
    exact List.mem_append_right _ List.mem_cons_self
  cases List.mem_singleton.mp isIn
  rfl

theorem staysInside_six_int64 :
    ∃ idl sizeof,
      parseIdl (echoFile "int64[6] x;") = .ok idl ∧
        Measures sizeof idl.imessages ∧
        StaysInside sizeof echo := by
  let field : Field := ⟨"int64".toList, "x".toList, some 6⟩
  have parses :
      parseIdl (echoFile "int64[6] x;") = .ok (echoIdl field) := by
    decide +kernel
  rcases completes_generate_echoFile parses (by decide) with
    ⟨files, completes⟩
  rcases staysInside_iff_of_generate completes with ⟨idl, isIdl, each⟩
  cases parses.symm.trans isIdl
  have measures := measures_echoIdl field
  refine
    ⟨_, _, parses, measures,
      (each _ measures _ List.mem_cons_self echo List.mem_cons_self).mpr
        ⟨?_, fun isOther => by cases isOther⟩⟩
  rintro argList (isArgument | isResult)
  · cases isArgument
    decide
  · cases isResult
    decide

/-- The stubs of a message of the size of a line copy it behind the header. -/
theorem not_staysInside_line :
    ∃ files idl,
      generate (echoFile "char[64] x;") = .ok files ∧
        parseIdl (echoFile "char[64] x;") = .ok idl ∧
        (∃ service ∈ idl.iservices, echo ∈ service.2) ∧
        ∀ sizeof, Measures sizeof idl.imessages →
          sizeof echo.argName = 64 ∧ ¬StaysInside sizeof echo := by
  let field : Field := ⟨"char".toList, "x".toList, some 64⟩
  have parses :
      parseIdl (echoFile "char[64] x;") = .ok (echoIdl field) := by
    decide +kernel
  rcases completes_generate_echoFile parses (by decide) with
    ⟨files, completes⟩
  refine ⟨files, _, completes, parses,
    ⟨_, List.mem_cons_self, List.mem_cons_self⟩, ?_⟩
  intro sizeof measures
  have size : sizeof echo.argName = 64 := by
    rw [measures echo.argName [field] rfl]
    decide
  refine ⟨size, ?_⟩
  rintro ⟨argument, -, -⟩
  rw [size] at argument
  exact absurd argument (by decide)

end Dagger.Codegen.MessageSizes
