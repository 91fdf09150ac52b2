import ErrorOrigins.Audit.Diagnostic
import ErrorOrigins.Go.Comment
import ErrorOrigins.Proofs.Go.ErrorPosition
import Mathlib.Logic.Relation

namespace ErrorOrigins.Go.Tree

variable {t t' c c' : Tree}

-- A comment that plays no role in the node around it, as all comments that are read.
def isStray (t : Tree) : Bool :=
  t.isComment && t.role.isNone

mutual

def uncommented : Tree → Tree
  | node kind role extent children => node kind role extent (uncommentedAmong children)

def uncommentedAmong : List Tree → List Tree
  | []      => []
  | t :: ts => if t.isStray then uncommentedAmong ts else t.uncommented :: uncommentedAmong ts

end

theorem uncommentedAmong_eq (ts : List Tree) :
    uncommentedAmong ts = (ts.filter (!·.isStray)).map uncommented := by
  induction ts
  case nil          => simp [uncommentedAmong]
  case cons t ts hi => cases h : t.isStray <;> simp [uncommentedAmong, h, hi]

theorem children_uncommented (t : Tree) :
    t.uncommented.children = (t.children.filter (!·.isStray)).map uncommented := by
  cases t
  rw [uncommented]
  exact uncommentedAmong_eq _

@[simp]
theorem kind_uncommented (t : Tree) : t.uncommented.kind = t.kind := by
  cases t
  rw [uncommented]
  rfl

@[simp]
theorem role_uncommented (t : Tree) : t.uncommented.role = t.role := by
  cases t
  rw [uncommented]
  rfl

@[simp]
theorem extent_uncommented (t : Tree) : t.uncommented.extent = t.extent := by
  cases t
  rw [uncommented]
  rfl

@[simp]
theorem position_uncommented (t : Tree) : t.uncommented.position = t.position := by
  simp [position]

@[simp]
theorem textIn_uncommented (source : String) (t : Tree) : t.uncommented.textIn source = t.textIn source := by
  simp [textIn]

-- A search among the parts of a node that passes over comments finds the same without them.
theorem filter_children_uncommented {p : Tree → Bool} (hs : ∀ c, c.isStray → p c = false)
    (hu : ∀ c, p c.uncommented = p c) (t : Tree) :
    t.uncommented.children.filter p = (t.children.filter p).map uncommented := by
  have hp : ∀ c : Tree, (p c.uncommented && !c.isStray) = p c := by
    intro c
    rw [hu]
    cases h : c.isStray
    case false => simp
    case true  => simp [hs c h]
  rw [children_uncommented, List.filter_map, List.filter_filter]
  simp only [Function.comp_apply, hp]

theorem parts_uncommented (t : Tree) : t.uncommented.parts = t.parts.map uncommented := by
  refine filter_children_uncommented (fun c h => ?stray) (fun c => ?same) t
  case stray => simp_all [isStray]
  case same  => simp [isComment]

theorem partsAs_uncommented (t : Tree) (role : String) :
    t.uncommented.partsAs role = (t.partsAs role).map uncommented := by
  refine filter_children_uncommented (fun c h => ?stray) (fun c => ?same) t
  case stray => simp_all [isStray]
  case same  => simp

theorem part?_eq_head? (t : Tree) (role : String) : t.part? role = (t.partsAs role).head? :=
  List.head?_filter.symm

theorem part?_uncommented (t : Tree) (role : String) :
    t.uncommented.part? role = (t.part? role).map uncommented := by
  rw [part?_eq_head?, partsAs_uncommented, List.head?_map, part?_eq_head?]

namespace Lowered

def uncommented (l : Lowered) : Lowered :=
  { l with part := l.part.uncommented }

@[simp]
theorem find?_uncommented (ls : List Lowered) (role : String) :
    find? (ls.map uncommented) role = (find? ls role).map uncommented := by
  rw [find?, List.find?_map]
  simp [find?, uncommented]

@[simp]
theorem nodes_uncommented (ls : List Lowered) : nodes (ls.map uncommented) = nodes ls := by
  simp [nodes, uncommented]

end Lowered

section Lowering

variable (source : String)

@[simp]
theorem returnResults_uncommented (ls : List Lowered) :
    returnResults (ls.map Lowered.uncommented) = returnResults ls := by
  match ls with
  | []           => rfl
  | [l]          => simp [returnResults, Lowered.uncommented]
  | _ :: _ :: _  => exact Lowered.nodes_uncommented _

theorem assemble_uncommented (t : Tree) (ls : List Lowered) :
    assemble source t.uncommented (ls.map Lowered.uncommented) = assemble source t ls := by
  have hc : callNode? t.position (ls.map Lowered.uncommented) = callNode? t.position ls := by
    simp [callNode?, Option.bind_map, Lowered.uncommented, Function.comp_def]
  have hs : selectorNode? source t.position (ls.map Lowered.uncommented) =
      selectorNode? source t.position ls := by
    simp [selectorNode?, Option.bind_map, Lowered.uncommented, Function.comp_def]
  simp [assemble, hc, hs]

theorem toNode_uncommented (t : Tree) : t.uncommented.toNode source = t.toNode source := by
  induction t using children_induction
  case step t hi =>
    have hp : t.uncommented.parts.map (lowered source) =
        (t.parts.map (lowered source)).map Lowered.uncommented := by
      rw [parts_uncommented, List.map_map, List.map_map]
      refine List.map_congr_left fun c hc => ?_
      simp [lowered, Lowered.uncommented, hi c (mem_children_of_mem_parts hc)]
    rw [toNode_eq, hp, assemble_uncommented, ← toNode_eq]

theorem toNodes_uncommented (t : Tree) : t.uncommented.toNodes source = t.toNodes source := by
  simp [toNodes_eq, parts_uncommented, toNode_uncommented]

theorem toTypeExpr_uncommented (t : Tree) : t.uncommented.toTypeExpr source = t.toTypeExpr source := by
  simp [toTypeExpr]

theorem toResultField?_uncommented (t : Tree) :
    t.uncommented.toResultField? source = t.toResultField? source := by
  simp [toResultField?, part?_uncommented, partsAs_uncommented, toTypeExpr_uncommented, Option.bind_map,
    Function.comp_def]

theorem toResultFields_uncommented (t : Tree) :
    t.uncommented.toResultFields source = t.toResultFields source := by
  simp [toResultFields, parts_uncommented, toResultField?_uncommented, toTypeExpr_uncommented,
    List.filterMap_map]

theorem toFunction_uncommented (t : Tree) : t.uncommented.toFunction source = t.toFunction source := by
  simp [toFunction, part?_uncommented, toResultFields_uncommented, toNodes_uncommented, Function.comp_def]

theorem toDecl_uncommented (t : Tree) : t.uncommented.toDecl source = t.toDecl source := by
  simp [toDecl, isFunction, toFunction_uncommented]

theorem packageName?_uncommented (t : Tree) :
    t.uncommented.packageName? source = t.packageName? source := by
  simp [packageName?, parts_uncommented, List.find?_map, Function.comp_def]

theorem toSourceTree_uncommented (path : Option String) (t : Tree) :
    t.uncommented.toSourceTree source path = t.toSourceTree source path := by
  simp [toSourceTree, parts_uncommented, isPackageClause, List.filter_map, packageName?_uncommented,
    toDecl_uncommented, Option.bind_map, Function.comp_def]

end Lowering

def comment (extent : Extent) : Tree :=
  node "comment" none extent []

-- The second tree has one comment more, at some place among the parts of some node.
inductive Inserts : Tree → Tree → Prop
  | here {kind : String} {role : Option String} {extent : Extent} {before after : List Tree} (place : Extent) :
    Inserts (node kind role extent (before ++ after)) (node kind role extent (before ++ comment place :: after))
  | within {kind : String} {role : Option String} {extent : Extent} {before after : List Tree} {c c' : Tree}
      (h : Inserts c c') :
    Inserts (node kind role extent (before ++ c :: after)) (node kind role extent (before ++ c' :: after))

-- The trees differ in comments only: any number of them can be put in or taken out.
def SameCode : Tree → Tree → Prop :=
  Relation.EqvGen Inserts

theorem Inserts.isStray_eq (h : Inserts t t') : t.isStray = t'.isStray := by
  cases h <;> rfl

theorem Inserts.uncommented_eq (h : Inserts t t') : t.uncommented = t'.uncommented := by
  induction h
  case here place =>
    have hs : (comment place).isStray := rfl
    simp [uncommented, uncommentedAmong_eq, hs]
  case within c c' h hi =>
    -- The node is left out of both trees or stays in both.
    have hc := h.isStray_eq
    cases hs : c'.isStray <;> simp [uncommented, uncommentedAmong_eq, hc, hs, hi]

theorem SameCode.uncommented_eq (h : SameCode t t') : t.uncommented = t'.uncommented := by
  induction h
  case rel h       => exact h.uncommented_eq
  case refl        => rfl
  case symm hi     => exact hi.symm
  case trans hi hj => exact hi.trans hj

theorem insertAmong_cases (comment : Tree) (ts : List Tree) :
    (∃ before after, ts = before ++ after ∧ insertAmong comment ts = before ++ comment :: after) ∨
    ∃ before c after, ts = before ++ c :: after ∧
      insertAmong comment ts = before ++ insertComment comment c :: after := by
  induction ts
  case nil => exact .inl ⟨[], [], rfl, by rw [insertAmong]; rfl⟩
  case cons child rest hi =>
    rw [insertAmong]
    split
    case isTrue => exact .inr ⟨[], child, rest, rfl, rfl⟩
    split
    case isTrue => exact .inl ⟨[], child :: rest, rfl, rfl⟩
    cases hi
    case inl hi =>
      obtain ⟨before, after, hr, he⟩ := hi
      exact .inl ⟨child :: before, after, by simp [hr], by simp [he]⟩
    case inr hi =>
      obtain ⟨before, c, after, hr, he⟩ := hi
      exact .inr ⟨child :: before, c, after, by simp [hr], by simp [he]⟩

theorem inserts_insertComment (place : Extent) (t : Tree) : Inserts t (insertComment (comment place) t) := by
  induction t using children_induction
  case step t hi =>
    rcases t with ⟨kind, role, extent, children⟩
    rw [insertComment]
    cases insertAmong_cases (comment place) children
    case inl h =>
      obtain ⟨before, after, hc, he⟩ := h
      rw [he, hc]
      exact .here place
    case inr h =>
      obtain ⟨before, c, after, hc, he⟩ := h
      have hm : c ∈ children := by simp [hc]
      rw [he, hc]
      exact .within (hi c hm)

theorem sameCode_insertComments (places : List Extent) (t : Tree) :
    SameCode t (t.insertComments (places.map comment)) := by
  induction places generalizing t
  case nil => exact .refl t
  case cons place places hi =>
    have hp : SameCode t (insertComment (comment place) t) := .rel _ _ (inserts_insertComment place t)
    exact hp.trans _ _ _ (hi _)

namespace Remarked

open Grouped (piece)

def text : String :=
  "package /* a */ p; func F() (int, /* b */ error) \x7b return /* c */ 1, e.New(/* d */ 2) \x7d // e"

def bare : Tree :=
  piece "source_file" none 0 92 [
    piece "package_clause" none 0 17 [
      piece "package_identifier" none 16 17 []],
    piece "function_declaration" none 19 87 [
      piece "identifier" (some "name") 24 25 [],
      piece "parameter_list" (some "parameters") 25 27 [],
      piece "parameter_list" (some "result") 28 48 [
        piece "parameter_declaration" none 29 32 [piece "type_identifier" (some "type") 29 32 []],
        piece "parameter_declaration" none 42 47 [piece "type_identifier" (some "type") 42 47 []]],
      piece "block" (some "body") 49 87 [
        piece "return_statement" none 51 85 [
          piece "expression_list" none 66 85 [
            piece "int_literal" none 66 67 [],
            piece "call_expression" none 69 85 [
              piece "selector_expression" (some "function") 69 74 [
                piece "identifier" (some "operand") 69 70 [],
                piece "field_identifier" (some "field") 71 74 []],
              piece "argument_list" (some "arguments") 74 85 [
                piece "int_literal" none 83 84 []]]]]]]]

def places : List Extent :=
  [(8, 15), (34, 41), (58, 65), (75, 82), (88, 92)].map fun p =>
    { row := 0, column := p.1, first := p.1, stop := p.2 }

def file : Tree :=
  bare.insertComments (places.map comment)

end Remarked

-- Trees that differ in comments only are lowered to the same source tree, and so an audit tells the same of them.
theorem toSourceTree_sameCode (h : SameCode t t') (source : String) (path : Option String) :
    t.toSourceTree source path = t'.toSourceTree source path ∧
    (t.toSourceTree source path).events = (t'.toSourceTree source path).events ∧
    collect [t.toSourceTree source path] = collect [t'.toSourceTree source path] ∧
    (t.toSourceTree source path).diagnostics = (t'.toSourceTree source path).diagnostics := by
  have hs : t.toSourceTree source path = t'.toSourceTree source path :=
    calc t.toSourceTree source path
      _ = t.uncommented.toSourceTree source path  := (toSourceTree_uncommented source path t).symm
      _ = t'.uncommented.toSourceTree source path := by rw [h.uncommented_eq]
      _ = t'.toSourceTree source path             := toSourceTree_uncommented source path t'
  exact ⟨hs, by rw [hs], by rw [hs], by rw [hs]⟩

-- One comment stands before the results of a return, where two parts would not be taken for a list.
theorem toSourceTree_remarked :
    (Remarked.file.subtrees.filter (·.isComment)).map (·.extent) = Remarked.places ∧
    SameCode Remarked.bare Remarked.file ∧
    Remarked.bare.toSourceTree Remarked.text none = Remarked.file.toSourceTree Remarked.text none ∧
    (Remarked.bare.toSourceTree Remarked.text none).events =
      (Remarked.file.toSourceTree Remarked.text none).events ∧
    Remarked.file.functions.flatMap (fun f => f.bodyReturns.map fun r => r.expressions.length) = [2] := by
  have h : SameCode Remarked.bare Remarked.file := sameCode_insertComments Remarked.places Remarked.bare
  obtain ⟨hs, he, _, _⟩ := toSourceTree_sameCode h Remarked.text none
  exact ⟨by decide, h, hs, he, by decide⟩

end ErrorOrigins.Go.Tree
