import Dagger.Codegen.StubAgreement

/-!
# What the generator checks

`generate` parses a file and then writes three files for each service: the
header with the structures of all messages, the server and the client.  The
files have the same names for all services, so those of the last one remain.

The generator looks types up in two places.  The type of a field is a key of
`type_dict` when the header is written, and the argument of a function is a
message when the client is written.  Nothing else is looked up.
-/

namespace Dagger.Codegen.Generation

open Dagger.Lib.FallibleRun
open Dagger.Codegen.IdlParser
open Dagger.Codegen.StubGenerator
open Dagger.Codegen.GeneratedStubs
open Dagger.Codegen.StubAgreement

/-! ## The header of types -/

/-- `type_dict`: the type in C++ and its size. -/
def typeDict : List (Text × Text × ℕ) :=
  [("char".toList, "char".toList, 1),
    ("int8".toList, "uint8_t".toList, 1),
    ("int16".toList, "uint16_t".toList, 2),
    ("int32".toList, "uint32_t".toList, 4),
    ("int64".toList, "uint64_t".toList, 8),
    ("float".toList, "float".toList, 4),
    ("double".toList, "double".toList, 8)]

/-- What ends `generate`. -/
inductive GenerateFailure
  | raised (failure : Failure)
  | keyError (key : Text)
  deriving DecidableEq

/-- `type_dict[arg_type][0]` -/
def cType (argType : Text) : Except GenerateFailure Text :=
  match typeDict.lookup argType with
  | some (cName, _) => .ok cName
  | none => .error (.keyError argType)

/-- A field of a structure. -/
def cField (field : Field) : Except GenerateFailure Text := do
  let cName ← cType field.argType
  match field.argArraySize with
  | none =>
      return "\t".toList ++ cName ++ " ".toList ++ field.argName ++
        ";\n".toList
  | some size =>
      return "\t".toList ++ cName ++ " ".toList ++ field.argName ++
        "[".toList ++ Nat.toDigits 10 size ++ "]".toList ++ ";\n".toList

/-- `__c_struct` -/
def cStruct (name : Text) (argList : List Field) :
    Except GenerateFailure Text := do
  let fields ← argList.mapM cField
  return "struct ".toList ++ name ++ " \x7b\n".toList ++ fields.flatten ++
    "\x7d;\n".toList

/-- One round of the loop of `__gen_type_hdr`. -/
def genStruct (message : Text × List Field) :
    Except GenerateFailure Text := do
  let struct ← cStruct message.1 message.2
  return struct ++ "\n".toList

/-- `__gen_type_hdr` -/
def genTypeHdr (imessages : List (Text × List Field)) :
    Except GenerateFailure Text := do
  let body ← imessages.mapM genStruct
  return lines
      ["", "#ifndef _RPC_TYPES_H_", "#define _RPC_TYPES_H_", ""] ++
    body.flatten ++ lines ["", "#endif\t// _RPC_TYPES_H_"]

/-! ## All files -/

/-- The files in the directory of the sources. -/
structure Files where
  typeHdr : Text
  stubs : Stubs

/-- An exception of a parser or of a stub generator is not caught. -/
def raised {Value : Type} : Except Failure Value → Except GenerateFailure Value
  | .ok value => .ok value
  | .error failure => .error (.raised failure)

/-- One round of the second loop of `generate`. -/
def writeService
    (imessages : List (Text × List Field))
    (_ : Option Files)
    (service : Text × List Function) :
    Except GenerateFailure (Option Files) := do
  let typeHdr ← genTypeHdr imessages
  let stubs ← raised (generateStubs imessages service.2)
  return some ⟨typeHdr, stubs⟩

/-- `generate` on a file with this content. -/
def generate (content : Text) :
    Except GenerateFailure (Option Files) := do
  let idl ← raised (parseIdl content)
  idl.iservices.foldlM (writeService idl.imessages) none

/-! ## What is checked -/

theorem completes_raised
    {Value : Type}
    (computation : Except Failure Value) :
    Completes (raised computation) ↔ Completes computation := by
  cases computation with
  | error failure =>
      exact iff_of_false (not_completes_error _) (not_completes_error _)
  | ok value => exact iff_of_true (completes_ok value) (completes_ok value)

/-- The type is a key of `type_dict`. -/
def Known (argType : Text) : Prop :=
  argType ∈ typeDict.map Prod.fst

instance decidableKnown (argType : Text) : Decidable (Known argType) :=
  inferInstanceAs (Decidable (argType ∈ typeDict.map Prod.fst))

/-- What is looked up for the files of a service. -/
structure Checked
    (imessages : List (Text × List Field))
    (sFunctions : List Function) :
    Prop where
  fields : ∀ message ∈ imessages, ∀ field ∈ message.2, Known field.argType
  arguments : ∀ f ∈ sFunctions, f.argName ∈ imessages.map Prod.fst

theorem completes_cType (argType : Text) :
    Completes (cType argType) ↔ Known argType := by
  rw [Known, cType]
  cases found : typeDict.lookup argType with
  | none =>
      rw [List.lookup_eq_none_iff] at found
      refine iff_of_false (not_completes_error _) ?_
      intro isKey
      rcases List.mem_map.mp isKey with ⟨entry, isEntry, rfl⟩
      exact absurd (found entry isEntry) (by simp)
  | some entry =>
      refine iff_of_true (completes_ok _) ?_
      rcases List.lookup_eq_some_iff.mp found with
        ⟨before, after, isSplit, -⟩
      rw [isSplit, List.map_append, List.map_cons]
      exact List.mem_append_right _ List.mem_cons_self

theorem completes_cField (field : Field) :
    Completes (cField field) ↔ Known field.argType := by
  rw [← completes_cType, cField, completes_bind_of_forall]
  intro cName
  cases field.argArraySize with
  | none => exact completes_ok _
  | some size => exact completes_ok _

theorem completes_genStruct (message : Text × List Field) :
    Completes (genStruct message) ↔
      ∀ field ∈ message.2, Known field.argType := by
  rw [genStruct, completes_bind_pure, cStruct,
    completes_bind_pure, completes_mapM]
  simp only [completes_cField]

theorem completes_genTypeHdr (imessages : List (Text × List Field)) :
    Completes (genTypeHdr imessages) ↔
      ∀ message ∈ imessages, ∀ field ∈ message.2,
        Known field.argType := by
  rw [genTypeHdr, completes_bind_pure,
    completes_mapM]
  simp only [completes_genStruct]

theorem completes_generateStubs
    (imessages : List (Text × List Field))
    (sFunctions : List Function) :
    Completes (generateStubs imessages sFunctions) ↔
      ∀ f ∈ sFunctions, f.argName ∈ imessages.map Prod.fst := by
  constructor
  · intro completes
    rw [generateStubs, genService_eq] at completes
    rcases completes_bind.mp completes with ⟨server, -, client⟩
    rw [completes_bind_pure, genClient] at client
    rcases completes_bind.mp client with ⟨bodies, each, -⟩
    intro f isFunction
    rcases completes_mapM.mp ⟨bodies, each⟩ f isFunction with ⟨body, isBody⟩
    rw [genFunction] at isBody
    split at isBody
    · assumption
    · cases isBody
  · intro declared
    exact ⟨stubsOf sFunctions, generateStubs_eq declared⟩

theorem completes_writeService
    (imessages : List (Text × List Field))
    (files : Option Files)
    (service : Text × List Function) :
    Completes (writeService imessages files service) ↔
      Checked imessages service.2 := by
  have stubs :
      Completes (raised (generateStubs imessages service.2)) ↔
        ∀ f ∈ service.2, f.argName ∈ imessages.map Prod.fst := by
    rw [completes_raised, completes_generateStubs]
  rw [writeService, completes_bind]
  constructor
  · rintro ⟨typeHdr, header, others⟩
    rw [completes_bind_pure, stubs] at others
    exact ⟨(completes_genTypeHdr imessages).mp ⟨typeHdr, header⟩, others⟩
  · rintro ⟨fields, arguments⟩
    rcases (completes_genTypeHdr imessages).mpr fields with
      ⟨typeHdr, header⟩
    refine ⟨typeHdr, header, ?_⟩
    rw [completes_bind_pure, stubs]
    exact arguments

/-- The generator completes if the file is parsed and every service checked. -/
theorem completes_generate (content : Text) :
    Completes (generate content) ↔
      ∃ idl,
        parseIdl content = .ok idl ∧
          ∀ service ∈ idl.iservices, Checked idl.imessages service.2 := by
  have loop : ∀ idl : Idl,
      Completes
          (idl.iservices.foldlM (writeService idl.imessages) none) ↔
        ∀ service ∈ idl.iservices, Checked idl.imessages service.2 := by
    intro idl
    exact completes_foldlM (completes_writeService idl.imessages) _ none
  rw [generate]
  cases parseIdl content with
  | error failure =>
      refine iff_of_false (not_completes_error _) ?_
      rintro ⟨idl, equation, -⟩
      cases equation
  | ok idl =>
      constructor
      · intro completes
        exact ⟨idl, rfl, (loop idl).mp completes⟩
      · rintro ⟨_, ⟨⟩, checked⟩
        exact (loop idl).mpr checked

end Dagger.Codegen.Generation
