import Dagger.Codegen.GeneratedStubs

/-!
# The stubs after preprocessing

One branch of the filled template survives the preprocessor: the first one
whose name is defined, and in the MMIO branch one of the two ways to write a
line.  Everything else passes unchanged, so the methods of a client keep their
order.

The polling branch casts the pointer to the slot to one that is `volatile` too.
The other two branches do not, and cannot be compiled.
-/

namespace Dagger.Codegen.CompiledStubs

open Dagger.Codegen.IdlParser
open Dagger.Codegen.StubCode
open Dagger.Codegen.StubGenerator
open Dagger.Codegen.GeneratedStubs

/-! ## Text and directives -/

/-- The piece is for the preprocessor. -/
def isDirective : Piece → Bool
  | .ifdef _ | .elif _ | .otherwise | .endif | .error => true
  | _ => false

theorem isActive_cons
    (conditional : Conditional)
    (conditionals : List Conditional) :
    isActive (conditional :: conditionals) = conditional.active :=
  rfl

theorem step_text
    (defined : Macro → Bool)
    (conditionals : List Conditional)
    (output : List Piece)
    {piece : Piece}
    (isText : isDirective piece = false) :
    Preprocessing.step defined ⟨conditionals, output⟩ piece =
      if isActive conditionals then some ⟨conditionals, output ++ [piece]⟩
      else some ⟨conditionals, output⟩ := by
  cases piece with
  | ifdef _ | elif _ | otherwise | endif | error => cases isText
  | _ => rfl

/--
Wherever the code stands, this remains of it if the place is compiled, and
nothing otherwise.
-/
def Keeps (defined : Macro → Bool) (code kept : List Piece) : Prop :=
  ∀ conditionals output,
    code.foldlM (Preprocessing.step defined) ⟨conditionals, output⟩ =
      some
        ⟨conditionals,
          if isActive conditionals then output ++ kept else output⟩

namespace Keeps

variable {defined : Macro → Bool}

/-- Text in an active branch is kept, text in another branch is dropped. -/
theorem text
    {code : List Piece}
    (isText : ∀ piece ∈ code, isDirective piece = false) :
    Keeps defined code code := by
  intro conditionals output
  induction code generalizing output with
  | nil =>
      rw [List.append_nil, ite_self]
      rfl
  | cons piece code induction =>
      have others := induction fun other isOther =>
        isText other (List.mem_cons_of_mem piece isOther)
      rw [List.foldlM_cons,
        step_text defined conditionals output
          (isText piece List.mem_cons_self)]
      cases active : isActive conditionals with
      | true =>
          refine (others (output ++ [piece])).trans ?_
          rw [active, if_pos rfl, if_pos rfl, List.append_assoc,
            List.singleton_append]
      | false =>
          refine (others output).trans ?_
          rw [active]
          rfl

theorem plain
    {code : List Piece}
    (isText : code.all (fun piece => !isDirective piece) = true) :
    Keeps defined code code := by
  apply text
  intro piece isIn
  simpa using List.all_eq_true.mp isText piece isIn

theorem append
    {first second firstKept secondKept : List Piece}
    (keepsFirst : Keeps defined first firstKept)
    (keepsSecond : Keeps defined second secondKept) :
    Keeps defined (first ++ second) (firstKept ++ secondKept) := by
  intro conditionals output
  rw [List.foldlM_append, keepsFirst]
  refine (keepsSecond conditionals _).trans ?_
  split
  · rw [List.append_assoc]
  · rfl

/-- One of two branches is kept. -/
theorem ifdef
    {first second firstKept secondKept : List Piece}
    (keepsFirst : Keeps defined first firstKept)
    (condition : Macro)
    (keepsSecond : Keeps defined second secondKept) :
    Keeps defined
      (Piece.ifdef condition ::
        (first ++ Piece.otherwise :: (second ++ [Piece.endif])))
      (if defined condition then firstKept else secondKept) := by
  intro conditionals output
  simp only [List.foldlM_cons, List.foldlM_append, List.foldlM_nil,
    Preprocessing.step, keepsFirst _ _, keepsSecond _ _, isActive_cons,
    Option.bind_eq_bind, Option.bind_some, Option.pure_def]
  cases defined condition <;> cases isActive conditionals <;> rfl

/-- The first of three branches that is selected is kept. -/
theorem chain
    {first second third firstKept secondKept thirdKept : List Piece}
    (keepsFirst : Keeps defined first firstKept)
    {a b c : Macro}
    (chosen : defined a = true ∨ defined b = true ∨ defined c = true)
    (keepsSecond : Keeps defined second secondKept)
    (keepsThird : Keeps defined third thirdKept) :
    Keeps defined
      (Piece.ifdef a ::
        (first ++ Piece.elif b ::
          (second ++ Piece.elif c ::
            (third ++ [Piece.otherwise, .error, .endif]))))
      (if defined a then firstKept
        else if defined b then secondKept else thirdKept) := by
  intro conditionals output
  have taken : (defined a || defined b || defined c) = true := by
    rw [Bool.or_eq_true, Bool.or_eq_true, or_assoc]
    exact chosen
  simp only [List.foldlM_cons, List.foldlM_append, List.foldlM_nil,
    Preprocessing.step, keepsFirst _ _, keepsSecond _ _, keepsThird _ _,
    isActive_cons, Option.bind_eq_bind, Option.bind_some, Option.pure_def,
    taken, Bool.not_true, Bool.and_false, Bool.false_eq_true, if_false]
  cases isA : defined a with
  | true => cases isActive conditionals <;> rfl
  | false =>
      cases isB : defined b with
      | true => cases isActive conditionals <;> rfl
      | false =>
          have isC : defined c = true := by
            rw [isA, isB] at taken
            exact taken
          rw [isC]
          cases isActive conditionals <;> rfl

end Keeps

/-- Outside of all conditionals, this is what remains of the code. -/
def Compiles (defined : Macro → Bool) (code compiled : List Piece) :
    Prop :=
  ∀ output,
    code.foldlM (Preprocessing.step defined) ⟨[], output⟩ =
      some ⟨[], output ++ compiled⟩

namespace Compiles

variable {defined : Macro → Bool}

theorem preprocess_eq
    {code compiled : List Piece}
    (compiles : Compiles defined code compiled) :
    preprocess defined code = some compiled := by
  rw [preprocess, compiles []]
  rfl

theorem of_keeps
    {code compiled : List Piece}
    (keeps : Keeps defined code compiled) :
    Compiles defined code compiled := by
  intro output
  exact keeps [] output

theorem text
    {code : List Piece}
    (isText : code.all (fun piece => !isDirective piece) = true) :
    Compiles defined code code :=
  of_keeps (Keeps.plain isText)

theorem append
    {first second firstCompiled secondCompiled : List Piece}
    (compilesFirst : Compiles defined first firstCompiled)
    (compilesSecond : Compiles defined second secondCompiled) :
    Compiles defined (first ++ second) (firstCompiled ++ secondCompiled) := by
  intro output
  rw [List.foldlM_append, compilesFirst output, ← List.append_assoc]
  exact compilesSecond (output ++ firstCompiled)

theorem flatMap
    {Item : Type}
    {code compiled : Item → List Piece}
    (items : List Item)
    (each : ∀ item, Compiles defined (code item) (compiled item)) :
    Compiles defined (items.flatMap code) (items.flatMap compiled) := by
  induction items with
  | nil => exact text rfl
  | cons item items induction =>
      rw [List.flatMap_cons, List.flatMap_cons]
      exact (each item).append induction

end Compiles

/-! ## The template -/

/-- The data that are laid out are no directives. -/
structure IsText (filling : Filling) : Prop where
  mmioData : isDirective filling.mmioData = false
  data : isDirective filling.data = false

/-- The template as it is compiled for polling. -/
def compiledTmpl (filling : Filling) : List Piece :=
  .layout (lines ["        // Send data"]) :: pollingBranch.map filling.fill

theorem isDirective_fill
    {filling : Filling}
    (isText : IsText filling)
    {piece : Piece}
    (notDirective : isDirective piece = false) :
    isDirective (filling.fill piece) = false := by
  cases piece with
  | marker marker =>
      cases marker with
      | dataLayout => exact isText.data
      | dataLayoutMmio => exact isText.mmioData
  | ifdef _ | elif _ | otherwise | endif | error => cases notDirective
  | _ => rfl

theorem keeps_filled
    {defined : Macro → Bool}
    {filling : Filling}
    (isText : IsText filling)
    {pieces : List Piece}
    (areText : pieces.all (fun piece => !isDirective piece) = true) :
    Keeps defined (pieces.map filling.fill) (pieces.map filling.fill) := by
  apply Keeps.text
  intro piece isIn
  rcases List.mem_map.mp isIn with ⟨source, isSource, rfl⟩
  have notDirective := List.all_eq_true.mp areText source isSource
  exact isDirective_fill isText (by simpa using notDirective)

/-- The branches of the template. -/
theorem filledTmpl_eq (filling : Filling) :
    filledTmpl filling =
      [Piece.layout (lines ["        // Send data"])] ++
        Piece.ifdef .nicCcipPolling :: (pollingBranch.map filling.fill ++
          Piece.elif .nicCcipMmio ::
            ((mmioStores.map filling.fill ++
              Piece.ifdef .platformPacA10 :: (mmioLine ++
                Piece.otherwise :: (mmioHalves ++ [Piece.endif]))) ++
            Piece.elif .nicCcipDma :: (dmaBranch.map filling.fill ++
              [Piece.otherwise, .error, .endif]))) :=
  rfl

section Branches

variable
    {defined : Macro → Bool}
    {filling : Filling}
    (isText : IsText filling)

include isText

/-- The first branch that is selected is compiled. -/
theorem compiles_selected
    (chosen :
      defined .nicCcipPolling = true ∨ defined .nicCcipMmio = true ∨
        defined .nicCcipDma = true) :
    Compiles defined (filledTmpl filling)
      ([Piece.layout (lines ["        // Send data"])] ++
        if defined .nicCcipPolling then pollingBranch.map filling.fill
        else if defined .nicCcipMmio then
          mmioStores.map filling.fill ++
            if defined .platformPacA10 then mmioLine else mmioHalves
        else dmaBranch.map filling.fill) := by
  have polling :
      Keeps defined (pollingBranch.map filling.fill)
        (pollingBranch.map filling.fill) :=
    keeps_filled isText rfl
  have stores :
      Keeps defined (mmioStores.map filling.fill)
        (mmioStores.map filling.fill) :=
    keeps_filled isText rfl
  have line : Keeps defined mmioLine mmioLine := Keeps.plain rfl
  have halves : Keeps defined mmioHalves mmioHalves := Keeps.plain rfl
  have dma :
      Keeps defined (dmaBranch.map filling.fill)
        (dmaBranch.map filling.fill) :=
    keeps_filled isText rfl
  have mmio := stores.append (line.ifdef .platformPacA10 halves)
  rw [filledTmpl_eq]
  apply Compiles.of_keeps
  exact (Keeps.plain rfl).append (polling.chain chosen mmio dma)

/-- The polling branch goes before the others. -/
theorem compiles_filledTmpl
    (polling : defined .nicCcipPolling = true) :
    Compiles defined (filledTmpl filling) (compiledTmpl filling) := by
  have compiled := compiles_selected isText (.inl polling)
  rw [if_pos polling] at compiled
  exact compiled

/-- What remains of the template without polling cannot be compiled. -/
theorem exists_illFormed
    (notPolling : defined .nicCcipPolling = false)
    (chosen :
      defined .nicCcipMmio = true ∨ defined .nicCcipDma = true) :
    ∃ template,
      Compiles defined (filledTmpl filling) template ∧
        ∃ piece ∈ template, isWellFormed piece = false := by
  refine ⟨_, compiles_selected isText (.inr chosen), ?_⟩
  rw [if_neg (by rw [notPolling]; exact Bool.false_ne_true)]
  cases defined .nicCcipMmio with
  | false =>
      refine ⟨.castTxPtr false, ?_, rfl⟩
      exact List.mem_append_right _ List.mem_cons_self
  | true =>
      cases defined .platformPacA10 with
      | true =>
          refine ⟨.storeLine, ?_, rfl⟩
          apply List.mem_append_right
          apply List.mem_append_right
          simp [mmioLine]
      | false =>
          refine ⟨.storeHalf false, ?_, rfl⟩
          apply List.mem_append_right
          apply List.mem_append_right
          simp [mmioHalves]

end Branches

theorem compile_of_all
    {defined : Macro → Bool}
    {code compiled : List Piece}
    (compiles : Compiles defined code compiled)
    (wellFormed : compiled.all isWellFormed = true) :
    compile defined code = some compiled := by
  rw [compile, compiles.preprocess_eq]
  exact if_pos wellFormed

theorem compile_of_mem
    {defined : Macro → Bool}
    {code compiled : List Piece}
    (compiles : Compiles defined code compiled)
    {piece : Piece}
    (isIn : piece ∈ compiled)
    (illFormed : isWellFormed piece = false) :
    compile defined code = none := by
  rw [compile, compiles.preprocess_eq]
  apply if_neg
  intro all
  have isHere := List.all_eq_true.mp all piece isIn
  rw [illFormed] at isHere
  cases isHere

/-! ## The two stubs -/

/-- The pieces of the dispatch are compiled as they are. -/
theorem all_dispatchCode
    {accepts : Piece → Bool}
    (ofCase : ∀ f, (caseCode f).all accepts = true)
    (ofEmpty : (dispatchCode []).all accepts = true)
    (sFunctions : List Function) :
    (dispatchCode sFunctions).all accepts = true := by
  have cases : (sFunctions.flatMap caseCode).all accepts = true := by
    rw [List.all_flatMap, List.all_eq_true]
    intro f _
    exact ofCase f
  rw [dispatchCode] at ofEmpty ⊢
  simp only [List.flatten_cons, List.flatten_nil, List.all_append,
    List.all_cons, List.flatMap_nil, List.all_nil, cases] at ofEmpty ⊢
  exact ofEmpty

/-- The callback of a server consists of its dispatch and its template. -/
theorem compiles_callBack
    {defined : Macro → Bool}
    {template : List Piece}
    (compiles : Compiles defined (filledTmpl serverFilling) template)
    (sFunctions : List Function) :
    Compiles defined
      (dispatchCode sFunctions ++ filledTmpl serverFilling ++ serverFooter)
      (dispatchCode sFunctions ++ template ++ serverFooter) := by
  have isText :
      (dispatchCode sFunctions).all (fun piece => !isDirective piece) =
        true :=
    all_dispatchCode (fun _ => rfl) rfl sFunctions
  apply Compiles.append
  · exact (Compiles.text isText).append compiles
  · exact Compiles.text rfl

theorem isText_serverFilling : IsText serverFilling :=
  ⟨rfl, rfl⟩

theorem isText_clientFilling (f : Function) : IsText (clientFilling f) :=
  ⟨rfl, rfl⟩

theorem compile_service
    {defined : Macro → Bool}
    (polling : defined .nicCcipPolling = true)
    (sFunctions : List Function) :
    compile defined
        (dispatchCode sFunctions ++ filledTmpl serverFilling ++
          serverFooter) =
      some
        (dispatchCode sFunctions ++ compiledTmpl serverFilling ++
          serverFooter) := by
  apply compile_of_all
  · exact
      compiles_callBack
        (compiles_filledTmpl isText_serverFilling polling) sFunctions
  · rw [List.all_append, List.all_append,
      all_dispatchCode (fun _ => rfl) rfl]
    rfl

/-- The body of the method of a function. -/
def methodBody (f : Function) : List Piece :=
  functionHeader ++ compiledTmpl (clientFilling f) ++
    [.layout (lines ["", ""]), .countRpc, .layout (lines [""]),
      .returnZero]

/-- The method of a function. -/
def methodCode (f : Function) : List Piece :=
  .methodBegin f.fName f.argName :: (methodBody f ++ [.methodEnd])

/-- A method consists of its frame and its template. -/
theorem compiles_functionCode
    {defined : Macro → Bool}
    {f : Function}
    {template : List Piece}
    (compiles : Compiles defined (filledTmpl (clientFilling f)) template) :
    Compiles defined (functionCode f)
      ((.methodBegin f.fName f.argName :: functionHeader) ++ template ++
        functionFooter) := by
  have header :
      Compiles defined (.methodBegin f.fName f.argName :: functionHeader)
        (.methodBegin f.fName f.argName :: functionHeader) :=
    Compiles.text rfl
  have footer : Compiles defined functionFooter functionFooter :=
    Compiles.text rfl
  exact (header.append compiles).append footer

theorem compiles_client
    {defined : Macro → Bool}
    {sFunctions : List Function}
    {compiled : Function → List Piece}
    (each : ∀ f, Compiles defined (functionCode f) (compiled f)) :
    Compiles defined
      (clientHeader ++ (sFunctions.flatMap functionCode ++ clientFooter))
      (clientHeader ++ (sFunctions.flatMap compiled ++ clientFooter)) := by
  apply Compiles.append
  · exact Compiles.text rfl
  · apply Compiles.append
    · exact Compiles.flatMap sFunctions each
    · exact Compiles.text rfl

theorem compile_client
    {defined : Macro → Bool}
    (polling : defined .nicCcipPolling = true)
    (sFunctions : List Function) :
    compile defined
        (clientHeader ++ (sFunctions.flatMap functionCode ++
          clientFooter)) =
      some
        (clientHeader ++ (sFunctions.flatMap methodCode ++
          clientFooter)) := by
  apply compile_of_all
  · apply compiles_client
    intro f
    have compiled :
        methodCode f =
          (.methodBegin f.fName f.argName :: functionHeader) ++
            compiledTmpl (clientFilling f) ++ functionFooter := by
      rw [methodCode, methodBody, List.append_assoc _ _ [Piece.methodEnd]]
      rfl
    rw [compiled]
    exact
      compiles_functionCode
        (compiles_filledTmpl (isText_clientFilling f) polling)
  · have methods :
        (sFunctions.flatMap methodCode).all isWellFormed = true := by
      rw [List.all_flatMap, List.all_eq_true]
      intro f _
      rfl
    rw [List.all_append, List.all_append, methods]
    rfl

/-- Without polling a client that has a method cannot be compiled. -/
theorem compile_client_eq_none
    {defined : Macro → Bool}
    (notPolling : defined .nicCcipPolling = false)
    (chosen :
      defined .nicCcipMmio = true ∨ defined .nicCcipDma = true)
    {sFunctions : List Function}
    {f : Function}
    (isFunction : f ∈ sFunctions) :
    compile defined
        (clientHeader ++ (sFunctions.flatMap functionCode ++
          clientFooter)) =
      none := by
  choose template compiles illFormed using fun f =>
    exists_illFormed (isText_clientFilling f) notPolling chosen
  obtain ⟨piece, isIn, isWrong⟩ := illFormed f
  refine
    compile_of_mem
      (compiles_client fun f => compiles_functionCode (compiles f))
      ?_ isWrong
  apply List.mem_append_right
  apply List.mem_append_left
  refine List.mem_flatMap.mpr ⟨f, isFunction, ?_⟩
  exact List.mem_append_left _ (List.mem_append_right _ isIn)

/-! ## The methods of a client -/

/-- Neither the beginning nor the end of a method. -/
def isStatement : Piece → Bool
  | .methodBegin _ _ | .methodEnd => false
  | _ => true

theorem methodBodies_append
    {code : List Piece}
    (statements : ∀ piece ∈ code, isStatement piece = true)
    (rest : List Piece) :
    methodBodies (code ++ rest) = methodBodies rest := by
  induction code with
  | nil => rfl
  | cons piece code induction =>
      have others := induction fun other isOther =>
        statements other (List.mem_cons_of_mem piece isOther)
      have isHere := statements piece List.mem_cons_self
      cases piece with
      | methodBegin _ _ => cases isHere
      | _ => exact others

theorem takeWhile_method
    {code : List Piece}
    (statements : ∀ piece ∈ code, isStatement piece = true)
    (rest : List Piece) :
    (code ++ .methodEnd :: rest).takeWhile
        (fun piece => !isMethodEnd piece) = code := by
  rw [List.takeWhile_append_of_pos]
  · exact List.append_nil code
  · intro piece isIn
    have isHere := statements piece isIn
    cases piece with
    | methodEnd => cases isHere
    | _ => rfl

theorem isStatement_of_mem_methodBody
    (f : Function)
    {piece : Piece}
    (isIn : piece ∈ methodBody f) :
    isStatement piece = true := by
  refine List.all_eq_true.mp ?_ piece isIn
  rfl

theorem methodBodies_methods
    (sFunctions : List Function) :
    methodBodies
        (sFunctions.flatMap methodCode ++ clientFooter) =
      sFunctions.map methodBody := by
  induction sFunctions with
  | nil => rfl
  | cons f sFunctions induction =>
      have statements : ∀ piece ∈ methodBody f,
          isStatement piece = true := by
        intro piece
        exact isStatement_of_mem_methodBody f
      have unfolded :
          (f :: sFunctions).flatMap methodCode ++ clientFooter =
            .methodBegin f.fName f.argName ::
              (methodBody f ++ .methodEnd ::
                (sFunctions.flatMap methodCode ++
                  clientFooter)) := by
        simp [methodCode]
      rw [unfolded, methodBodies, takeWhile_method statements,
        methodBodies_append statements, methodBodies, induction,
        List.map_cons]
      exact nofun

/-- The bodies of the methods are those of the functions, in their order. -/
theorem methodBodies_client
    (sFunctions : List Function) :
    methodBodies
        (clientHeader ++ (sFunctions.flatMap methodCode ++
          clientFooter)) =
      sFunctions.map methodBody := by
  refine Eq.trans ?_ (methodBodies_methods sFunctions)
  apply methodBodies_append
  apply List.all_eq_true.mp
  rfl

end Dagger.Codegen.CompiledStubs
