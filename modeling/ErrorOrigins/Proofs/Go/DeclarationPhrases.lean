import ErrorOrigins.Proofs.Go.StatementPhrases
import ErrorOrigins.Proofs.Loading

namespace ErrorOrigins.Go

open Reader Lexeme Go.Tree

variable {text : String} {self : PhraseReader}

namespace DeclarationPhrase

open TypePhrase StatementPhrase

variable {start : Cursor}

theorem gives_packageClause : Gives text (Tidy text) (packageClause start) :=
  .step fun _ => (gives_wordAs (by decide)).bind fun _ hn => .close (by decide) (by simpa using hn.left.tidy)

theorem gives_importSpec : Gives text (Tidy text) importSpec := by
  refine .step fun start => .bind (.attempt (P := Tidy text) ?name) fun name hn => .step fun _ => ?_
  case name =>
    refine .step fun _ => .ite (fun _ => .close (by decide) (by simp)) fun _ => ?_
    exact (gives_wordAs (by decide)).mono fun _ hn => hn.left.tidy
  refine gives_stringLiteral.bind fun path hp => .close (by decide) ?_
  exact List.forall_mem_append.mpr ⟨tidy_toList_withRole hn, by simpa using hp⟩

theorem gives_importDeclaration : Gives text (Tidy text) (importDeclaration start) := by
  refine .step fun _ => .step fun opening => .step fun _ => .ite (fun _ => ?_) fun _ => ?_
  · refine (gives_terminated gives_importSpec _).bind fun specs hs => ?_
    exact (Gives.close (by decide) hs).bind fun list hl => .close (by decide) (by simpa using hl)
  · exact gives_importSpec.bind fun spec hs => .close (by decide) (by simpa using hs)

-- The parts of a function up to its parameters, among which its name is a word.
structure IsHead (text : String) (head : List Tree) : Prop where
  tidy : ∀ t ∈ head, t.Tidy text
  name : ∀ t ∈ head, t.role = some "name" → t.kind ∈ wordKinds
  body : ∀ t ∈ head, t.role ≠ some "body"

theorem gives_functionFrom {kind : String} {head : List Tree} (hs : ReadsPhrases text self)
    (hk : kind ∈ functionKinds) (hh : IsHead text head) :
    Gives text (Declared text) (functionFrom self start kind head) := by
  refine .step fun _ => (hs.tidy _).bind fun params hp => (gives_results? hs).bind fun results hr => .step fun _ => ?_
  extract_lets finish
  have hf (body : List Tree) (hb : ∀ t ∈ body, t.Tidy text ∧ t.role = some "body" ∧ t.kind = "block") :
      Gives text (Declared text) (finish body) := by
    have hroles : ∀ t ∈ signature params results, t.role ≠ some "name" ∧ t.role ≠ some "body" := by
      cases results <;> simp [signature]
    intro c hc t c' h
    cases h
    refine ⟨hc, .function hk ?tidy ?name ?body⟩
    case tidy =>
      have hs := List.forall_mem_append.mpr ⟨hh.tidy, tidy_signature hp hr⟩
      exact List.forall_mem_append.mpr ⟨hs, fun t ht => (hb t ht).left⟩
    all_goals
      intro t ht hrole
      simp only [List.mem_append, or_assoc] at ht
      rcases ht with ht | ht | ht
    · exact hh.name t ht hrole
    · exact absurd hrole (hroles t ht).left
    · exact absurd (hrole.symm.trans (hb t ht).right.left) (by decide)
    · exact absurd hrole (hh.body t ht)
    · exact absurd hrole (hroles t ht).right
    · exact (hb t ht).right.right
  refine .ite (fun _ => .step fun _ => hs.block.bind fun b hb => ?_) fun _ => hf [] (by simp)
  exact hf [b.withRole "body"] (by simp [hb])

theorem gives_functionDeclaration (hs : ReadsPhrases text self) :
    Gives text (Declared text) (functionDeclaration self) := by
  refine .step fun start => .step fun _ => .step fun _ => (gives_wordAs (by decide)).bind fun name hn => ?_
  refine .step fun _ => .step fun _ => ?_
  extract_lets rest
  have hr (types : List Tree) (ht : ∀ t ∈ types, t.Tidy text ∧ t.role = some "type_parameters") :
      Gives text (Declared text) (rest types) := by
    refine gives_functionFrom hs (by decide) ⟨?tidy, ?name, ?body⟩
    case tidy => exact List.forall_mem_cons.mpr ⟨by simpa using hn.left.tidy, fun t hm => (ht t hm).left⟩
    case name =>
      refine List.forall_mem_cons.mpr ⟨fun _ => ?_, fun t hm => by simp [ht t hm]⟩
      simp [hn.right, wordKinds, nameKinds]
    case body => exact List.forall_mem_cons.mpr ⟨by simp, fun t hm => by simp [ht t hm]⟩
  refine .ite (fun _ => (gives_typeParameterList hs).bind fun params hp => ?_) fun _ => hr [] (by simp)
  exact hr [params.withRole "type_parameters"] (by simpa using hp)

theorem gives_methodDeclaration (hs : ReadsPhrases text self) :
    Gives text (Declared text) (methodDeclaration self) := by
  refine .step fun start => .step fun _ => .step fun _ => (hs.tidy _).bind fun receiver hr => .step fun _ => ?_
  refine gives_typeName.bind fun name hn => .step fun _ => .step fun _ => gives_functionFrom hs (by decide) ?_
  have hn := hn.left.withKind (by decide : "field_identifier" ∈ namingKinds)
  exact ⟨by simp [hr, hn.tidy], by simp [wordKinds], by simp⟩

instance steps_methodComes : Steps text (methodComes self) := by
  unfold methodComes
  infer_instance

theorem gives_declaration (hs : ReadsPhrases text self) : Gives text (Declared text) (declaration self) := by
  have other {r : Reader Tree} (h : Gives text (Tidy text) r) : Gives text (Declared text) r :=
    h.mono fun _ => .other
  refine .step fun start => .step fun w => ?_
  split
  · exact .step fun _ => other gives_packageClause
  · exact .step fun _ => other gives_importDeclaration
  · refine .step fun _ => .ite (fun _ => gives_functionDeclaration hs) fun _ => .step fun _ => ?_
    exact .ite (fun _ => gives_methodDeclaration hs) fun _ => other (hs.tidy _)
  · exact other (hs.tidy _)

theorem gives_sourceFile (hs : ReadsPhrases text self) : Gives text (IsFile text) (sourceFile self) := by
  refine .step fun start => .bind (.many (P := Declared text) ?_) fun decls hd c hc t c' h => ?_
  · refine .step fun _ => .step fun _ => .ite (fun _ => .pureNone) fun _ => (gives_declaration hs).bind fun d hd => ?_
    exact .step fun _ => .step fun _ => .pureSome hd
  · cases h
    exact ⟨hc, rfl, hd⟩

end DeclarationPhrase

namespace Phrase

theorem readsPhrases_readWith (hs : ReadsPhrases text self) : ReadsPhrases text (readWith self) where
  block := StatementPhrase.gives_block hs
  tidy phrase := by
    cases phrase
    case type         => exact TypePhrase.gives_type hs
    case parameters   => exact TypePhrase.gives_parameters hs
    case unary        => exact ExpressionPhrase.gives_unary hs
    case expression   => exact ExpressionPhrase.gives_expression hs
    case literalValue => exact ExpressionPhrase.gives_literalValue hs
    case block        => exact (StatementPhrase.gives_block hs).mono fun _ ht => ht.left
    case statement    => exact StatementPhrase.gives_statement hs
    case ifStatement  => exact StatementPhrase.gives_ifStatement hs

theorem readsPhrases_read (depth : Nat) : ReadsPhrases text (read depth) := by
  induction depth
  case zero          => exact ⟨fun _ => .failure, .failure⟩
  case succ depth hi => exact readsPhrases_readWith hi

end Phrase

-- Comments aside, what is read from a text is a file of the grammar.
theorem exists_isFile {t : Tree} (h : readText text.toList = some t) :
    ∃ bare : Tree, bare.IsFile text ∧ SameCode bare t := by
  obtain ⟨⟨bare, stop⟩, hb, ht⟩ := Option.bind_eq_some_iff.mp h
  cases ht
  have hw : (if text.toList.head? = some byteOrderMark then (Cursor.ofChars text.toList).next
      else Cursor.ofChars text.toList).Within text := by
    split_ifs
    · exact (Cursor.within_ofChars text).advance 1
    · exact Cursor.within_ofChars text
  obtain ⟨hs, hf⟩ := DeclarationPhrase.gives_sourceFile (Phrase.readsPhrases_read _) _ hw bare stop hb
  obtain ⟨places, hp⟩ := hs.comments
  refine ⟨bare, hf, ?_⟩
  rw [hp, ← List.map_reverse]
  exact sameCode_insertComments _ bare

theorem exists_grammatical {t : Tree} (h : readText text.toList = some t) :
    ∃ bare : Tree, bare.Grammatical ∧ SameCode bare t := by
  obtain ⟨bare, hf, hs⟩ := exists_isFile h
  exact ⟨bare, hf.grammatical, hs⟩

-- The tree of a file is lowered from one of the grammar.
theorem parseFile_ok {firstError : ErrorFinder} {file : SourceFile} {tree : SourceTree}
    (h : (parseFile firstError file).Answers (.ok tree)) :
    ∃ (text : String) (bare : Tree), file.text.Answers (.ok text) ∧ bare.IsFile text ∧
      tree = bare.toSourceTree text file.path := by
  obtain ⟨text, t, ht, hr, hl⟩ := exists_of_parseFile_ok h
  obtain ⟨bare, hf, hb⟩ := exists_isFile hr
  refine ⟨text, bare, ht, hf, ?_⟩
  calc tree
    _ = t.uncommented.toSourceTree text file.path    := by rw [toSourceTree_uncommented, hl]
    _ = bare.uncommented.toSourceTree text file.path := by rw [hb.uncommented_eq]
    _ = bare.toSourceTree text file.path             := toSourceTree_uncommented ..

end ErrorOrigins.Go
