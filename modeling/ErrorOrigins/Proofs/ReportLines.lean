import ErrorOrigins.Proofs.Directive
import ErrorOrigins.Proofs.Go.Wording
import ErrorOrigins.Proofs.LoadErrors
import ErrorOrigins.Proofs.Rebuilding
import ErrorOrigins.Report
import Mathlib.Algebra.Ring.Nat

namespace ErrorOrigins

def newlines (s : String) : Nat :=
  s.toList.count '\n'

@[simp]
theorem newlines_append (s s' : String) : newlines (s ++ s') = newlines s + newlines s' := by
  simp [newlines]

theorem oneLine_iff {s : String} : OneLine s ↔ newlines s = 0 :=
  List.count_eq_zero.symm

theorem OneLine.append {s s' : String} (h : OneLine s) (h' : OneLine s') : OneLine (s ++ s') := by
  simp [oneLine_iff, oneLine_iff.mp h, oneLine_iff.mp h']

theorem newlines_between {front back : String} (hf : OneLine front) (hb : OneLine back) (s : String) :
    newlines (front ++ s ++ back) = newlines s := by
  simp [oneLine_iff.mp hf, oneLine_iff.mp hb]

theorem forall_oneLine_iff {α : Type} {as : List α} {text : α → String} :
    (∀ a ∈ as, OneLine (text a)) ↔ (as.map fun a => newlines (text a)).sum = 0 := by
  rw [List.sum_eq_zero_iff_forall_eq_nat, List.forall_mem_map]
  exact forall₂_congr fun _ _ => oneLine_iff

theorem sum_map_flatMap {α β : Type} (as : List α) (f : α → List β) (u : β → Nat) :
    ((as.flatMap f).map u).sum = (as.map fun a => ((f a).map u).sum).sum := by
  induction as
  case nil          => rfl
  case cons a as hi => simp [hi]

-- The text of some lines, each with a newline at its end.
def unlines (lines : List String) : String :=
  String.join (lines.map (· ++ "\n"))

theorem unlines_cons (line : String) (lines : List String) :
    (unlines (line :: lines)).toList = line.toList ++ '\n' :: (unlines lines).toList := by
  simp [unlines, String.join_cons]

theorem unlines_append (lines lines' : List String) : unlines (lines ++ lines') = unlines lines ++ unlines lines' := by
  simp [unlines, String.join_append]

theorem newlines_unlines (lines : List String) :
    newlines (unlines lines) = lines.length + (lines.map newlines).sum := by
  induction lines
  case nil => rfl
  case cons line lines hi =>
    rw [newlines] at hi ⊢
    rw [unlines_cons, List.count_append, List.count_cons_self, hi, List.map_cons, List.sum_cons, List.length_cons]
    rw [newlines]
    omega

-- Cut at its newlines, the text has just these lines, and nothing after the last one.
def HasLines (text : String) (lines : List String) : Prop :=
  List.splitOn '\n' text.toList = lines.map String.toList ++ [[]]

instance (text : String) (lines : List String) : Decidable (HasLines text lines) :=
  inferInstanceAs (Decidable (_ = _))

theorem hasLines_unlines_iff {lines : List String} :
    HasLines (unlines lines) lines ↔ ∀ line ∈ lines, OneLine line := by
  constructor
  case mp =>
    intro h line hl
    have hm : line.toList ∈ List.splitOn '\n' (unlines lines).toList := by
      rw [h]
      exact List.mem_append_left _ (List.mem_map_of_mem hl)
    exact (Text.between_of_mem_splitOn hm).solid
  case mpr =>
    intro h
    induction lines
    case nil => rfl
    case cons line lines hi =>
      obtain ⟨hl, hs⟩ := List.forall_mem_cons.mp h
      rw [HasLines, unlines_cons, List.splitOn_append_cons_self, List.splitOn_eq_singleton hl, hi hs]
      rfl

-- A line for the function, and one for each of its descriptors.
def Origin.lines (o : Origin) : List String :=
  (o.location.text ++ ":  " ++ o.function) :: o.descriptors.map fun d => "---" ++ d ++ " "

namespace Report

-- The lines that a report is meant to have.
def lines : Report → List String
  | origins findings => findings.origins.flatMap Origin.lines
  | diagnostics list => list.map Diagnostic.text

theorem originText_eq (o : Origin) : originText false o = unlines o.lines := by
  simp [originText, Origin.lines, line, unlines, String.join_cons, Function.comp_def]

theorem text_eq_unlines (report : Report) : report.text false = unlines report.lines := by
  cases report
  case diagnostics list => simp [text, lines, unlines, Function.comp_def]
  case origins findings =>
    rw [text, lines]
    induction findings.origins
    case nil            => rfl
    case cons o rest hi => rw [List.map_cons, String.join_cons, hi, originText_eq, List.flatMap_cons, unlines_append]

theorem length_lines_origins (findings : Findings) :
    (lines (origins findings)).length =
      findings.origins.length + (findings.origins.map (·.descriptors.length)).sum := by
  rw [lines]
  induction findings.origins
  case nil => rfl
  case cons o rest hi =>
    rw [List.flatMap_cons, List.length_append, hi]
    simp [Origin.lines]
    omega

end Report

namespace Node

def literal? : Node → Option (LiteralKind × String)
  | literal _ kind text => some (kind, text)
  | _                   => none

-- The literals in the description of an expression.
def shownLiterals : Node → List (LiteralKind × String)
  | call _ callee args => if callee.calleeName?.isSome then args.filterMap literal? else []
  | _                  => []

-- The literals that are shown for a return, which has an error at the given index.
def returnedLiterals (index : Nat) : Node → List (LiteralKind × String)
  | ret _ results => results[index]?.toList.flatMap shownLiterals
  | _             => []

end Node

-- The literals that are shown for the returns of a function, if it returns an error.
def FunctionDecl.shownLiterals (f : FunctionDecl) : List (LiteralKind × String) :=
  match f.errorIndex with
  | none       => []
  | some index => (Node.preorder (f.body.getD [])).flatMap (Node.returnedLiterals index)

def shownLiterals (trees : List SourceTree) : List (LiteralKind × String) :=
  trees.flatMap fun t => t.functions.flatMap (·.shownLiterals)

-- The newlines that the literals bring with them.
def literalNewlines (literals : List (LiteralKind × String)) : Nat :=
  (literals.map fun l => newlines l.2).sum

namespace Node

variable {n : Node} {l : LiteralKind × String}

theorem exists_of_mem_shownLiterals (h : l ∈ n.shownLiterals) : ∃ arg ∈ n.children, arg.literal? = some l := by
  cases n
  case call callee args =>
    rw [shownLiterals] at h
    split_ifs at h
    case neg => cases h
    obtain ⟨arg, ha, hl⟩ := List.mem_filterMap.mp h
    exact ⟨arg, List.mem_cons_of_mem callee ha, hl⟩
  all_goals cases h

theorem exists_of_mem_returnedLiterals {index : Nat} (h : l ∈ n.returnedLiterals index) :
    ∃ expr ∈ n.children, l ∈ expr.shownLiterals := by
  cases n
  case ret position results =>
    obtain ⟨expr, he, hl⟩ := List.mem_flatMap.mp h
    exact ⟨expr, List.mem_of_getElem? (Option.mem_toList.mp he), hl⟩
  all_goals cases h

theorem Worded.wraps (h : n.Worded) (hl : n.literal? = some l) : l.1.Wraps l.2 := by
  cases n <;> cases hl
  exact h

end Node

theorem FunctionDecl.Worded.wraps {f : FunctionDecl} (h : f.Worded) : ∀ l ∈ f.shownLiterals, l.1.Wraps l.2 := by
  intro l hl
  rw [FunctionDecl.shownLiterals] at hl
  split at hl
  case h_1 => cases hl
  case h_2 =>
    obtain ⟨n, hn, hl⟩ := List.mem_flatMap.mp hl
    obtain ⟨expr, he, hl⟩ := Node.exists_of_mem_returnedLiterals hl
    obtain ⟨arg, ha, hl⟩ := Node.exists_of_mem_shownLiterals hl
    have he := Node.mem_preorder_of_mem_children hn he
    exact (h.nodes arg (Node.mem_preorder_of_mem_children he ha)).wraps hl

namespace Node

theorem newlines_literalArguments (args : List Node) :
    newlines (literalArguments args) = literalNewlines (args.filterMap literal?) := by
  fun_induction literalArguments args
  case case1            => rfl
  case case2 text _ hi  =>
    have hc : newlines "," = 0 := rfl
    simp [hi, hc, literal?, literalNewlines]
  case case3 n rest hn hi =>
    have hl : n.literal? = none := by
      cases n
      case literal p kind text => exact absurd rfl (hn p kind text)
      all_goals rfl
    rw [hi, List.filterMap_cons_none hl]

theorem Worded.oneLine_calleeName? {n : Node} {name : String} (h : n.Worded) (hn : n.calleeName? = some name) :
    OneLine name := by
  cases n <;> cases hn <;> exact h

theorem newlines_descriptor {n : Node} (h : n.Worded) (hc : ∀ c ∈ n.children, c.Worded) :
    newlines (Classification.ofNode n).descriptor = literalNewlines n.shownLiterals := by
  cases n
  case selector operand member => exact oneLine_iff.mp (OneLine.append h (by decide))
  case call callee args =>
    rw [Classification.ofNode, shownLiterals]
    cases hn : callee.calleeName?
    case none      => rfl
    case some name =>
      have hf := ((hc callee List.mem_cons_self).oneLine_calleeName? hn).append (by decide : OneLine "(")
      exact (newlines_between hf (by decide) _).trans (newlines_literalArguments args)
  all_goals rfl

end Node

namespace FunctionDecl

variable {f : FunctionDecl}

theorem Worded.newlines_sites (h : f.Worded) (index : Nat) :
    ((f.sites index).map fun site => newlines site.descriptor).sum =
      literalNewlines ((Node.preorder (f.body.getD [])).flatMap (Node.returnedLiterals index)) := by
  rw [sites, returnSites, List.filterMap_eq_flatMap_toList, literalNewlines, sum_map_flatMap, sum_map_flatMap]
  refine congrArg List.sum (List.map_congr_left fun n hn => ?_)
  cases n
  case ret position results =>
    simp only [ReturnSite.ofNode?, ReturnSite.ofResults, Node.returnedLiterals]
    cases hr : results[index]?
    case none => rfl
    case some expr =>
      have he := Node.mem_preorder_of_mem_children hn (List.mem_of_getElem? hr)
      have hd := Node.newlines_descriptor (h.nodes expr he) fun c hc =>
        h.nodes c (Node.mem_preorder_of_mem_children he hc)
      simpa [literalNewlines] using hd
  all_goals rfl

end FunctionDecl

theorem sum_newlines_descriptors (sites : List ReturnSite) :
    ((descriptors sites).map newlines).sum = (sites.map fun site => newlines site.descriptor).sum := by
  induction sites
  case nil => rfl
  case cons site sites hi =>
    cases hd : site.hasDescriptor
    case true  => simpa [descriptors, hd] using hi
    case false =>
      have he : site.descriptor = "" := by simpa [ReturnSite.hasDescriptor] using hd
      have hz : newlines site.descriptor = 0 := he ▸ rfl
      simpa [descriptors, hd, hz] using hi

theorem oneLine_repr (n : Nat) : OneLine n.repr := by
  intro h
  rw [Nat.repr_eq_ofList_toDigits, String.toList_ofList] at h
  exact absurd (Nat.isDigit_of_mem_toDigits (by decide) (by decide) h) (by decide)

theorem Location.oneLine_text {l : Location} (h : ∀ file ∈ l.file, OneLine file) : OneLine l.text := by
  have hp : OneLine l.position.text := ((oneLine_repr _).append (by decide)).append (oneLine_repr _)
  rw [text]
  split
  case h_1         => exact hp
  case h_2 file hf => exact ((h file hf).append (by decide)).append hp

theorem Origin.newlines_lines {o : Origin} (hl : OneLine o.location.text) (hn : OneLine o.function) :
    (o.lines.map newlines).sum = (o.descriptors.map newlines).sum := by
  have hh : OneLine (o.location.text ++ ":  " ++ o.function) := (hl.append (by decide)).append hn
  rw [lines, List.map_cons, List.sum_cons, oneLine_iff.mp hh, Nat.zero_add, List.map_map]
  refine congrArg List.sum (List.map_congr_left fun d _ => ?_)
  exact newlines_between (by decide) (by decide) d

namespace Diagnostic

variable {scope : Scope}

theorem oneLine_header (hp : ∀ path ∈ scope.path, OneLine path) (hn : OneLine scope.function.name) :
    OneLine (header scope).text := by
  have hl : OneLine (scope.location.text ++ ": ") := (Location.oneLine_text hp).append (by decide)
  have hm : OneLine (" -- " ++ scope.function.name ++ "() ---") := (OneLine.append (by decide) hn).append (by decide)
  exact hl.append hm

theorem newlines_ofSite? (hp : ∀ path ∈ scope.path, OneLine path) {site : ReturnSite} (hs : site.Described) :
    ((ofSite? scope site).toList.map fun d => newlines d.text).sum = newlines site.descriptor := by
  rw [ofSite?]
  split_ifs with hk
  case pos =>
    rw [hs.kind_none_iff.mp hk]
    rfl
  case neg =>
    obtain ⟨p, he⟩ := hs.exprPosition_some hk
    have hl : OneLine ((scope.locate p).text ++ ": ") := (Location.oneLine_text hp).append (by decide)
    rw [he, Option.map_some, Option.toList_some, List.map_singleton, List.sum_singleton, text, newlines_append,
      oneLine_iff.mp hl, Nat.zero_add]
    exact newlines_between (by decide) (by decide) site.descriptor

end Diagnostic

namespace SourceTree

variable {t : SourceTree} {f : FunctionDecl}

theorem newlines_origin? (ht : ∀ path ∈ t.path, OneLine path) (hf : f.Worded) :
    (((t.origin? f).toList.flatMap Origin.lines).map newlines).sum = literalNewlines f.shownLiterals := by
  rw [FunctionDecl.shownLiterals]
  cases he : f.errorIndex
  case none => simp [origin?, scope?, he, literalNewlines]
  case some index =>
    dsimp only
    rw [origin?_of_some (scope?_eq_some_iff.mpr ⟨index, he, rfl⟩), Scope.origin?, ← hf.newlines_sites index,
      ← sum_newlines_descriptors]
    split_ifs with hn
    case pos => simp [List.isEmpty_iff.mp hn]
    case neg =>
      rw [Option.toList_some, List.flatMap_singleton]
      exact Origin.newlines_lines (Location.oneLine_text ht) hf.name

theorem newlines_functionDiagnostics (ht : ∀ path ∈ t.path, OneLine path) (hf : f.Worded) :
    ((t.functionDiagnostics f).map fun d => newlines d.text).sum = literalNewlines f.shownLiterals := by
  rw [FunctionDecl.shownLiterals]
  cases he : f.errorIndex
  case none => simp [functionDiagnostics_of_none, scope?, he, literalNewlines]
  case some index =>
    dsimp only
    rw [functionDiagnostics_of_some (scope?_eq_some_iff.mpr ⟨index, he, rfl⟩), List.map_cons, List.sum_cons,
      oneLine_iff.mp (@Diagnostic.oneLine_header ⟨t.path, f, index⟩ ht hf.name), Nat.zero_add,
      List.filterMap_eq_flatMap_toList, sum_map_flatMap, ← hf.newlines_sites index]
    refine congrArg List.sum (List.map_congr_left fun site hs => ?_)
    exact Diagnostic.newlines_ofSite? ht (described_of_mem_returnSites hs)

end SourceTree

namespace Shown

-- A source in which each literal stands on its line.
def straight : String :=
  "package p\n\nfunc F() (int, error) \x7b return 1, errs.New(\"a\", 2) \x7d\n\n" ++
  "func (t *T) G() error \x7b return io.EOF \x7d\n"

-- A raw string, a rune and a string, all with a newline in them.
def wrapped : String :=
  "package p\n\nfunc F() error \x7b return errs.New(\x60a\nb\x60, '\n', \"c\\\nd\") \x7d\n"

def file (text : String) : SourceFile :=
  { path := some "a.go", content := Text.bytes text }

def tree (text : String) (h : (Go.readText text.toList).isSome) : SourceTree :=
  ((Go.readText text.toList).get h).toSourceTree text (some "a.go")

-- Errors are all said to be at the start.
def firstError : Go.ErrorFinder :=
  fun _ => ⟨1, 1⟩

theorem parseFile_eq {text : String} (h : (Go.readText text.toList).isSome) :
    Go.parseFile firstError (file text) = pure (tree text h) :=
  Go.parseFile_of_some (text_of_bytes _ text) (by simp)

theorem isSome_straight : (Go.readText straight.toList).isSome := by
  decide +kernel

theorem isSome_wrapped : (Go.readText wrapped.toList).isSome := by
  decide +kernel

def straightTree : SourceTree :=
  tree straight isSome_straight

def wrappedTree : SourceTree :=
  tree wrapped isSome_wrapped

end Shown

section Accepted

variable {trees : List SourceTree}

theorem newlines_origins (h : ∀ t ∈ trees, t.Worded) :
    ((Report.origins (collect trees)).lines.map newlines).sum = literalNewlines (shownLiterals trees) := by
  have ho (t : SourceTree) : t.origins.flatMap Origin.lines =
      t.functions.flatMap fun f => (t.origin? f).toList.flatMap Origin.lines := by
    rw [SourceTree.origins, List.filterMap_eq_flatMap_toList, List.flatMap_assoc]
  rw [collect_eq, Report.lines, Findings.ofOrigins, List.flatMap_assoc, literalNewlines, shownLiterals,
    sum_map_flatMap, sum_map_flatMap]
  refine congrArg List.sum (List.map_congr_left fun t ht => ?_)
  rw [ho, sum_map_flatMap, sum_map_flatMap]
  refine congrArg List.sum (List.map_congr_left fun f hf => ?_)
  exact SourceTree.newlines_origin? (h t ht).path ((h t ht).functions f hf)

theorem newlines_diagnostics (h : ∀ t ∈ trees, t.Worded) :
    ((Report.diagnostics (diagnostics trees)).lines.map newlines).sum = literalNewlines (shownLiterals trees) := by
  rw [Report.lines, diagnostics, List.map_map, literalNewlines, shownLiterals, sum_map_flatMap, sum_map_flatMap]
  refine congrArg List.sum (List.map_congr_left fun t ht => ?_)
  rw [SourceTree.diagnostics_eq_flatMap, sum_map_flatMap, sum_map_flatMap]
  refine congrArg List.sum (List.map_congr_left fun f hf => ?_)
  exact SourceTree.newlines_functionDiagnostics (h t ht).path ((h t ht).functions f hf)

theorem wraps_of_mem_shownLiterals (h : ∀ t ∈ trees, t.Worded) : ∀ l ∈ shownLiterals trees, l.1.Wraps l.2 := by
  intro l hl
  obtain ⟨t, ht, hl⟩ := List.mem_flatMap.mp hl
  obtain ⟨f, hf, hl⟩ := List.mem_flatMap.mp hl
  exact ((h t ht).functions f hf).wraps l hl

theorem Report.hasLines_text_iff (report : Report) :
    HasLines (report.text false) report.lines ↔ (report.lines.map newlines).sum = 0 := by
  rw [text_eq_unlines, hasLines_unlines_iff]
  exact forall_oneLine_iff

theorem Report.newlines_text (report : Report) :
    newlines (report.text false) = report.lines.length + (report.lines.map newlines).sum := by
  rw [text_eq_unlines, newlines_unlines]

-- How many newlines the reports on accepted sources have, and when they have the lines that they are meant to have.
theorem plain_report_lines {firstError : Go.ErrorFinder} {files : List SourceFile}
    (h : files.map (Go.parseFile firstError) = trees.map pure)
    (hp : ∀ file ∈ files, ∀ path ∈ file.path, OneLine path) :
    newlines ((Report.origins (collect trees)).text false) =
      (collect trees).origins.length + ((collect trees).origins.map (·.descriptors.length)).sum +
        literalNewlines (shownLiterals trees) ∧
    newlines ((Report.diagnostics (diagnostics trees)).text false) =
      (diagnostics trees).length + literalNewlines (shownLiterals trees) ∧
    (∀ report ∈ [Report.origins (collect trees), Report.diagnostics (diagnostics trees)],
      HasLines (report.text false) report.lines ↔ ∀ l ∈ shownLiterals trees, OneLine l.2) ∧
    ∀ l ∈ shownLiterals trees, l.1.Wraps l.2 := by
  have hw : ∀ t ∈ trees, t.Worded := by
    intro t ht
    obtain ⟨file, hf, ht⟩ := List.mem_map.mp (h ▸ List.mem_map_of_mem ht)
    exact Go.worded_of_parseFile ht (hp file hf)
  have ho := newlines_origins hw
  have hd := newlines_diagnostics hw
  refine ⟨?_, ?_, ?_, wraps_of_mem_shownLiterals hw⟩
  · rw [Report.newlines_text, Report.length_lines_origins, ho]
  · rw [Report.newlines_text, hd, Report.lines, List.length_map]
  · have hl : literalNewlines (shownLiterals trees) = 0 ↔ ∀ l ∈ shownLiterals trees, OneLine l.2 :=
      forall_oneLine_iff.symm
    intro report hr
    rw [Report.hasLines_text_iff, ← hl]
    simp only [List.mem_cons, List.not_mem_nil, or_false] at hr
    rcases hr with rfl | rfl
    · rw [ho]
    · rw [hd]

end Accepted

namespace Shown

theorem plain_report_lines_straight :
    [file straight].map (Go.parseFile firstError) = [straightTree].map pure ∧
    (∀ path ∈ (file straight).path, OneLine path) ∧
    shownLiterals [straightTree] = [(.string, "\"a\""), (.int, "2")] ∧
    HasLines ((Report.origins (collect [straightTree])).text false)
      ["a.go:3:1:  F", "---New(\"a\",2,) ", "a.go:5:1:  G", "---EOF() "] ∧
    HasLines ((Report.diagnostics (diagnostics [straightTree])).text false)
      ["a.go:3:1:  -- F() ---", "a.go:3:35: -- New(\"a\",2,) --", "a.go:5:1:  -- G() ---",
        "a.go:5:32: -- EOF() --"] := by
  have hf : [file straight].map (Go.parseFile firstError) = [straightTree].map pure :=
    congrArg (· :: []) (parseFile_eq isSome_straight)
  have hp : ∀ path ∈ (file straight).path, OneLine path := by decide
  have he : shownLiterals [straightTree] = [(.string, "\"a\""), (.int, "2")] ∧
      (Report.origins (collect [straightTree])).lines =
        ["a.go:3:1:  F", "---New(\"a\",2,) ", "a.go:5:1:  G", "---EOF() "] ∧
      (Report.diagnostics (diagnostics [straightTree])).lines =
        ["a.go:3:1:  -- F() ---", "a.go:3:35: -- New(\"a\",2,) --", "a.go:5:1:  -- G() ---",
          "a.go:5:32: -- EOF() --"] := by decide +kernel
  obtain ⟨hs, hr, hd⟩ := he
  have ho : ∀ l ∈ shownLiterals [straightTree], OneLine l.2 := by
    rw [hs]
    decide
  obtain ⟨-, -, hl, -⟩ := plain_report_lines hf (List.forall_mem_singleton.mpr hp)
  refine ⟨hf, hp, hs, ?_, ?_⟩
  · exact hr ▸ (hl _ List.mem_cons_self).mpr ho
  · exact hd ▸ (hl _ (List.mem_cons_of_mem _ List.mem_cons_self)).mpr ho

-- The one descriptor of this source takes four lines.
theorem wrapped_report_lines :
    [file wrapped].map (Go.parseFile firstError) = [wrappedTree].map pure ∧
    (∀ path ∈ (file wrapped).path, OneLine path) ∧
    (collect [wrappedTree]).origins.map (·.descriptors.length) = [1] ∧
    newlines ((Report.origins (collect [wrappedTree])).text false) = 5 ∧
    ¬HasLines ((Report.origins (collect [wrappedTree])).text false) (Report.origins (collect [wrappedTree])).lines ∧
    (diagnostics [wrappedTree]).length = 2 ∧
    newlines ((Report.diagnostics (diagnostics [wrappedTree])).text false) = 5 ∧
    ¬HasLines ((Report.diagnostics (diagnostics [wrappedTree])).text false)
      (Report.diagnostics (diagnostics [wrappedTree])).lines := by
  refine ⟨congrArg (· :: []) (parseFile_eq isSome_wrapped), by decide, ?_⟩
  decide +kernel

end Shown

end ErrorOrigins
