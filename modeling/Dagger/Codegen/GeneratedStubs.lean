import Dagger.Codegen.StubGenerator
import Dagger.Lib.FallibleRun

/-!
# What the generator produces

Both generators append the write template behind code of their own, replace
the six tokens, and lay out the data at the markers.  Whatever stands before
the template, the result is the template with every token and every marker
filled in place.
-/

namespace Dagger.Codegen.GeneratedStubs

open Dagger.Lib.FallibleRun
open Dagger.Codegen.IdlParser
open Dagger.Codegen.StubCode
open Dagger.Codegen.StubGenerator

/-! ## Filling the template -/

/-- What a generator puts in the place of tokens and markers. -/
structure Filling where
  values : Token → Expr
  mmioData : Piece
  data : Piece

/-- An expression with its token filled in. -/
def fillExpr (values : Token → Expr) : Expr → Expr
  | .hole token => values token
  | expr => expr

/-- A piece with its token filled in, or the data instead of a marker. -/
def Filling.fill (filling : Filling) : Piece → Piece
  | .store target field blanks value =>
      .store target field blanks (fillExpr filling.values value)
  | .marker .dataLayout => filling.data
  | .marker .dataLayoutMmio => filling.mmioData
  | piece => piece

/-- The template with everything filled in. -/
def filledTmpl (filling : Filling) : List Piece :=
  writeTmpl.map filling.fill

/-- A piece without tokens that is no marker. -/
def isPlain : Piece → Bool
  | .store _ _ _ (.hole _) | .memcpy _ _ (.hole _) | .marker _ => false
  | _ => true

/-- The tokens in the order in which they are replaced. -/
def allTokens : List Token :=
  [.connId, .rpcId, .funNumOfFrames, .funFunctionId, .funArgLengthBytes,
    .reqType]

/-- The calls of a generator from the template on. -/
def templateCalls (filling : Filling) : List CodeGenCall :=
  List.flatten
    [[.append writeTmpl],
      allTokens.map fun token => .replace token (filling.values token),
      layOut .dataLayoutMmio [filling.mmioData],
      layOut .dataLayout [filling.data],
      layOut .dataLayout [filling.data]]

/-- The first marker of a kind is replaced by a piece. -/
def fillFirst (marker : Marker) (data : Piece) : List Piece → List Piece
  | [] => []
  | piece :: pieces =>
      if isMarker marker piece then data :: pieces
      else piece :: fillFirst marker data pieces

theorem fillFirst_append
    (marker : Marker)
    (data : Piece)
    {before : List Piece}
    (without : ∀ piece ∈ before, isMarker marker piece = false)
    (after : List Piece) :
    fillFirst marker data (before ++ after) =
      before ++ fillFirst marker data after := by
  induction before with
  | nil => rfl
  | cons piece before induction =>
      have notHere := without piece List.mem_cons_self
      rw [List.cons_append, fillFirst, notHere]
      simp only [Bool.false_eq_true, if_false, List.cons_append]
      rw [induction fun other isOther =>
        without other (List.mem_cons_of_mem piece isOther)]

/-- Seeking a marker, removing it and appending fills the first marker. -/
theorem perform_layOut
    (marker : Marker)
    (data : Piece)
    {code : List Piece}
    (present : ∃ piece ∈ code, isMarker marker piece = true)
    (seekPtr : ℕ) :
    (layOut marker [data]).foldlM CodeGen.perform ⟨code, seekPtr⟩ =
      .ok
        ⟨fillFirst marker data code,
          (fillFirst marker data code).length⟩ := by
  obtain ⟨piece, isIn, isHere⟩ := present
  obtain ⟨found, before, after, notBefore, isFound, rfl, erased⟩ :=
    List.exists_of_eraseP isIn isHere
  have without : ∀ other ∈ before, isMarker marker other = false := by
    intro other isOther
    exact Bool.eq_false_iff.mpr (notBefore other isOther)
  have position :
      (before ++ found :: after).findIdx? (isMarker marker) =
        some before.length := by
    rw [List.findIdx?_append, List.findIdx?_eq_none_iff.mpr without,
      List.findIdx?_cons, isFound]
    simp
  have filled :
      fillFirst marker data (before ++ found :: after) =
        before ++ data :: after := by
    rw [fillFirst_append marker data without, fillFirst, isFound]
    rfl
  have performed :
      (layOut marker [data]).foldlM CodeGen.perform
          ⟨before ++ found :: after, seekPtr⟩ =
        .ok
          (CodeGen.append
            ⟨(before ++ found :: after).eraseP (isMarker marker),
              before.length⟩
            [data]) := by
    simp only [layOut, List.foldlM_cons, List.foldlM_nil, CodeGen.perform,
      CodeGen.seek, position, CodeGen.removeToken]
    rfl
  rw [performed, erased, filled, CodeGen.append]
  simp

/-- A piece with its tokens filled in and its marker kept. -/
def fillTokens (values : Token → Expr) : Piece → Piece
  | .store target field blanks value =>
      .store target field blanks (fillExpr values value)
  | .memcpy target source size =>
      .memcpy target source (fillExpr values size)
  | piece => piece

def isHole : Expr → Bool
  | .hole _ => true
  | _ => false

theorem replaceToken_hole
    (token other : Token)
    (value : Expr) :
    replaceToken token value (.hole other) =
      if other = token then value else .hole other :=
  rfl

theorem replaceToken_of_not_isHole
    (token : Token)
    (value : Expr)
    {expr : Expr}
    (closed : isHole expr = false) :
    replaceToken token value expr = expr := by
  cases expr with
  | hole _ => cases closed
  | _ => rfl

/-- Replacing the six tokens one after the other fills them all in. -/
theorem foldl_replaceToken
    {values : Token → Expr}
    (closed : ∀ token, isHole (values token) = false)
    (expr : Expr) :
    allTokens.foldl
        (fun expr token => replaceToken token (values token) expr) expr =
      fillExpr values expr := by
  cases expr with
  | hole token =>
      cases token <;>
        simp [allTokens, replaceToken_hole, fillExpr,
          fun token value other =>
            replaceToken_of_not_isHole token value (closed other)]
  | _ => rfl

theorem foldl_replacePiece
    {values : Token → Expr}
    (closed : ∀ token, isHole (values token) = false)
    (piece : Piece) :
    allTokens.foldl
        (fun piece token => replacePiece token (values token) piece)
        piece =
      fillTokens values piece := by
  cases piece with
  | store target field blanks value =>
      rw [fillTokens, ← foldl_replaceToken closed]
      rfl
  | memcpy target source size =>
      rw [fillTokens, ← foldl_replaceToken closed]
      rfl
  | _ => rfl

theorem foldlM_replace
    (values : Token → Expr)
    (tokens : List Token)
    (code : List Piece)
    (seekPtr : ℕ) :
    (tokens.map fun token =>
        CodeGenCall.replace token (values token)).foldlM
          CodeGen.perform ⟨code, seekPtr⟩ =
      .ok
        ⟨code.map fun piece =>
            tokens.foldl
              (fun piece token => replacePiece token (values token) piece)
              piece,
          seekPtr⟩ := by
  induction tokens generalizing code with
  | nil =>
      simp only [List.map_nil, List.foldlM_nil, List.foldl_nil, List.map_id']
      rfl
  | cons token tokens induction =>
      refine (induction (code.map (replacePiece token (values token)))).trans
        ?_
      rw [List.map_map]
      rfl

theorem map_fillTokens_of_isPlain
    (values : Token → Expr)
    {code : List Piece}
    (plain : ∀ piece ∈ code, isPlain piece = true) :
    code.map (fillTokens values) = code := by
  refine (List.map_congr_left ?_).trans (List.map_id code)
  intro piece isIn
  have isPlain := plain piece isIn
  cases piece with
  | store target field blanks value =>
      cases value with
      | hole token => cases isPlain
      | _ => rfl
  | memcpy target source size =>
      cases size with
      | hole token => cases isPlain
      | _ => rfl
  | _ => rfl

theorem not_isMarker_of_isPlain
    {piece : Piece}
    (plain : isPlain piece = true)
    (marker : Marker) :
    isMarker marker piece = false := by
  cases piece with
  | marker other => cases plain
  | _ => rfl

/-- Filling one marker leaves all others. -/
theorem countP_le_fillFirst
    (marker other : Marker)
    (data : Piece)
    (code : List Piece) :
    code.countP (isMarker marker) ≤
      (fillFirst other data code).countP (isMarker marker) +
        if other = marker then 1 else 0 := by
  induction code with
  | nil => exact Nat.zero_le _
  | cons piece code induction =>
      rw [fillFirst]
      cases isHere : isMarker other piece with
      | false =>
          simp only [Bool.false_eq_true, if_false, List.countP_cons]
          omega
      | true =>
          simp only [if_true, List.countP_cons]
          by_cases same : other = marker
          · rw [if_pos same]
            split <;> split <;> omega
          · have notCounted : isMarker marker piece = false := by
              cases piece with
              | marker found =>
                  have isFound : found = other := by
                    simpa [isMarker] using isHere
                  simpa [isMarker, isFound] using same
              | _ => rfl
            rw [notCounted]
            exact
              (Nat.le_add_right _ _).trans (Nat.le_add_right _ _)

/-- Appending at the end of the code, as often as one likes. -/
theorem foldlM_append
    (appended : List (List Piece))
    (code : List Piece) :
    (appended.map CodeGenCall.append).foldlM CodeGen.perform
        ⟨code, code.length⟩ =
      .ok
        ⟨code ++ appended.flatten,
          (code ++ appended.flatten).length⟩ := by
  induction appended generalizing code with
  | nil =>
      rw [List.flatten_nil, List.append_nil]
      rfl
  | cons pieces appended induction =>
      have first :
          CodeGen.append ⟨code, code.length⟩ pieces =
            ⟨code ++ pieces, (code ++ pieces).length⟩ := by
        rw [CodeGen.append]
        simp
      rw [List.flatten_cons, ← List.append_assoc, ← induction]
      exact congrArg
        ((appended.map CodeGenCall.append).foldlM CodeGen.perform) first

/-- Behind code without markers, the first marker is filled in place. -/
theorem perform_layOut_behind
    (marker : Marker)
    (data : Piece)
    {before : List Piece}
    (plain : ∀ piece ∈ before, isPlain piece = true)
    {code : List Piece}
    (positive : 0 < code.countP (isMarker marker))
    (seekPtr : ℕ) :
    (layOut marker [data]).foldlM CodeGen.perform
        ⟨before ++ code, seekPtr⟩ =
      .ok
        ⟨before ++ fillFirst marker data code,
          (before ++ fillFirst marker data code).length⟩ := by
  have without : ∀ piece ∈ before, isMarker marker piece = false := by
    intro piece isIn
    exact not_isMarker_of_isPlain (plain piece isIn) marker
  obtain ⟨piece, isIn, isHere⟩ := List.countP_pos_iff.mp positive
  rw [← fillFirst_append marker data without]
  exact
    perform_layOut marker data
      ⟨piece, List.mem_append_right before isIn, isHere⟩ seekPtr

/--
Behind code without tokens and markers, the calls from the template on leave
the filled template.
-/
theorem foldlM_templateCalls
    {filling : Filling}
    (closed : ∀ token, isHole (filling.values token) = false)
    (fills :
      fillFirst .dataLayout filling.data
          (fillFirst .dataLayout filling.data
            (fillFirst .dataLayoutMmio filling.mmioData
              (writeTmpl.map (fillTokens filling.values)))) =
        filledTmpl filling)
    {before : List Piece}
    (plain : ∀ piece ∈ before, isPlain piece = true) :
    (templateCalls filling).foldlM CodeGen.perform
        ⟨before, before.length⟩ =
      .ok
        ⟨before ++ filledTmpl filling,
          (before ++ filledTmpl filling).length⟩ := by
  have appended := foldlM_append [writeTmpl] before
  rw [List.flatten_singleton, List.map_singleton] at appended
  have tokens := foldlM_replace filling.values allTokens
    (before ++ writeTmpl) (before ++ writeTmpl).length
  rw [funext (foldl_replacePiece closed), List.map_append,
    map_fillTokens_of_isPlain filling.values plain] at tokens
  have mmioMarkers :
      (writeTmpl.map (fillTokens filling.values)).countP
        (isMarker .dataLayoutMmio) = 1 := rfl
  have dataMarkers :
      (writeTmpl.map (fillTokens filling.values)).countP
        (isMarker .dataLayout) = 2 := rfl
  revert fills tokens mmioMarkers dataMarkers
  generalize writeTmpl.map (fillTokens filling.values) = filled
  intro fills tokens mmioMarkers dataMarkers
  have afterMmio :=
    countP_le_fillFirst .dataLayout .dataLayoutMmio filling.mmioData filled
  have afterData :=
    countP_le_fillFirst .dataLayout .dataLayout filling.data
      (fillFirst .dataLayoutMmio filling.mmioData filled)
  rw [if_neg (by decide)] at afterMmio
  rw [if_pos rfl] at afterData
  have mmio :=
    perform_layOut_behind .dataLayoutMmio filling.mmioData plain
      (show 0 < filled.countP (isMarker .dataLayoutMmio) by omega)
      (before ++ writeTmpl).length
  have first :=
    perform_layOut_behind .dataLayout filling.data plain
      (show
        0 <
          (fillFirst .dataLayoutMmio filling.mmioData filled).countP
            (isMarker .dataLayout) by omega)
      (before ++ fillFirst .dataLayoutMmio filling.mmioData filled).length
  have second :=
    perform_layOut_behind .dataLayout filling.data plain
      (show
        0 <
          (fillFirst .dataLayout filling.data
            (fillFirst .dataLayoutMmio filling.mmioData filled)).countP
              (isMarker .dataLayout) by omega)
      (before ++ fillFirst .dataLayout filling.data
        (fillFirst .dataLayoutMmio filling.mmioData filled)).length
  rw [fills] at second
  rw [templateCalls, List.flatten_cons, foldlM_append_ok appended,
    List.flatten_cons, foldlM_append_ok tokens, List.flatten_cons,
    foldlM_append_ok mmio, List.flatten_cons, foldlM_append_ok first,
    List.flatten_cons, foldlM_append_ok second]
  rfl

/-! ## The two stubs -/

/-- What `__gen_client` fills in for a function. -/
def clientFilling (f : Function) : Filling where
  values
    | .connId => .clientConnId
    | .rpcId => .rpcId
    | .funNumOfFrames => .number 1
    | .funFunctionId => .number f.fId
    | .funArgLengthBytes => .sizeofType f.argName
    | .reqType => .rpcRequest
  mmioData := .memcpy .request .args (.sizeofType f.argName)
  data := .assignArgs f.argName

/-- What `__gen_service` fills in. -/
def serverFilling : Filling where
  values
    | .connId => .requestConnId
    | .rpcId => .requestRpcId
    | .funNumOfFrames => .number 1
    | .funFunctionId => .number 1
    | .funArgLengthBytes => .retSize
    | .reqType => .rpcResponse
  mmioData := .memcpy .request .retBuff .retSize
  data := .memcpy .txPtrCasted .retBuff .retSize

/-- The code of the method of a function. -/
def functionCode (f : Function) : List Piece :=
  .methodBegin f.fName f.argName ::
    (functionHeader ++ filledTmpl (clientFilling f) ++ functionFooter)

/-- The case of a function. -/
def caseCode (f : Function) : List Piece :=
  [.caseBegin f.fId,
    .layout "\t\t\t\t".toList,
    .callFunction f.argName f.retName f.fId,
    .setRetSize f.retName,
    .breakCase,
    .caseEnd]

/-- The code of the callback before the template. -/
def dispatchCode (sFunctions : List Function) : List Piece :=
  List.flatten
    [serverHeader,
      .switchBegin :: (sFunctions.flatMap caseCode ++ [.switchEnd]),
      [.layout (lines [""]), .checkRetCode],
      [.layout (lines [""]), .getWritePtr .argument, .layout (lines [""])]]

theorem switchBlock_eq (sFunctions : List Function) :
    switchBlock (sFunctions.map Function.fId)
        (sFunctions.map genCastedFCall) =
      .switchBegin :: (sFunctions.flatMap caseCode ++ [.switchEnd]) := by
  rw [switchBlock, List.zip_map', List.flatMap_map]
  simp only [List.flatten_cons, List.flatten_nil, List.append_nil,
    List.singleton_append]
  rfl

/-- Calls that append, fill the template and append again. -/
theorem build_filled
    {filling : Filling}
    (closed : ∀ token, isHole (filling.values token) = false)
    (fills :
      fillFirst .dataLayout filling.data
          (fillFirst .dataLayout filling.data
            (fillFirst .dataLayoutMmio filling.mmioData
              (writeTmpl.map (fillTokens filling.values)))) =
        filledTmpl filling)
    {before : List (List Piece)}
    (plain : ∀ piece ∈ before.flatten, isPlain piece = true)
    (after : List Piece) :
    build
        (before.map CodeGenCall.append ++ (templateCalls filling ++
          [CodeGenCall.append after])) =
      .ok (before.flatten ++ filledTmpl filling ++ after) := by
  have appended :
      (before.map CodeGenCall.append).foldlM CodeGen.perform
          CodeGen.empty =
        .ok ⟨before.flatten, before.flatten.length⟩ :=
    foldlM_append before []
  have last :
      [CodeGenCall.append after].foldlM CodeGen.perform
          ⟨before.flatten ++ filledTmpl filling,
            (before.flatten ++ filledTmpl filling).length⟩ =
        .ok
          ⟨before.flatten ++ filledTmpl filling ++ [after].flatten, _⟩ :=
    foldlM_append [after] (before.flatten ++ filledTmpl filling)
  rw [List.flatten_singleton] at last
  rw [build, foldlM_append_ok appended,
    foldlM_append_ok (foldlM_templateCalls closed fills plain), last]
  rfl

theorem build_functionCalls (f : Function) :
    build (functionCalls f) = .ok (functionCode f) := by
  have closed : ∀ token, isHole ((clientFilling f).values token) = false := by
    intro token
    cases token <;> rfl
  have plain : ∀ piece ∈
      [[Piece.methodBegin f.fName f.argName], functionHeader].flatten,
      isPlain piece = true := by
    apply List.all_eq_true.mp
    rfl
  exact build_filled closed rfl plain functionFooter

theorem isPlain_of_mem_dispatchCode
    {sFunctions : List Function}
    {piece : Piece}
    (isIn : piece ∈ dispatchCode sFunctions) :
    isPlain piece = true := by
  have header : serverHeader.all isPlain = true := rfl
  have cases : (sFunctions.flatMap caseCode).all isPlain = true := by
    rw [List.all_flatMap, List.all_eq_true]
    intro f _
    rfl
  refine List.all_eq_true.mp ?_ piece isIn
  rw [dispatchCode]
  simp only [List.flatten_cons, List.flatten_nil, List.all_append,
    List.all_cons, header, cases]
  rfl

theorem genService_eq (sFunctions : List Function) :
    genService sFunctions =
      .ok
        (dispatchCode sFunctions ++ filledTmpl serverFilling ++
          serverFooter) := by
  have closed : ∀ token, isHole (serverFilling.values token) = false := by
    intro token
    cases token <;> rfl
  rw [genService, serviceCalls, switchBlock_eq]
  exact build_filled closed rfl
    (fun _ isIn => isPlain_of_mem_dispatchCode isIn) serverFooter

theorem mapM_genFunction
    {imessages : List (Text × List Field)}
    {sFunctions : List Function}
    (declared :
      ∀ f ∈ sFunctions, f.argName ∈ imessages.map Prod.fst) :
    sFunctions.mapM (genFunction imessages) =
      .ok (sFunctions.map functionCode) := by
  induction sFunctions with
  | nil => rfl
  | cons f sFunctions induction =>
      rw [List.mapM_cons, genFunction,
        if_pos (declared f List.mem_cons_self), build_functionCalls,
        induction fun other isOther =>
          declared other (List.mem_cons_of_mem f isOther)]
      rfl

/-- A client consists of its methods. -/
theorem genClient_eq
    {imessages : List (Text × List Field)}
    {sFunctions : List Function}
    (declared :
      ∀ f ∈ sFunctions, f.argName ∈ imessages.map Prod.fst) :
    genClient imessages sFunctions =
      .ok
        (clientHeader ++ (sFunctions.flatMap functionCode ++
          clientFooter)) := by
  have calls :
      [[CodeGenCall.append clientHeader],
          (sFunctions.map functionCode).map CodeGenCall.append,
          [CodeGenCall.append clientFooter]].flatten =
        (clientHeader :: (sFunctions.map functionCode ++
          [clientFooter])).map CodeGenCall.append := by
    simp
  have appended :
      ((clientHeader :: (sFunctions.map functionCode ++
          [clientFooter])).map CodeGenCall.append).foldlM
            CodeGen.perform CodeGen.empty =
        .ok ⟨_, _⟩ :=
    foldlM_append _ []
  rw [genClient, mapM_genFunction declared]
  change build _ = _
  rw [build, calls, appended, List.nil_append, List.flatten_cons,
    List.flatten_append, List.flatten_singleton, List.flatMap_def]
  rfl

end Dagger.Codegen.GeneratedStubs
