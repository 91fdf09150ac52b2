import ErrorOrigins.Go.StatementPhrase
import ErrorOrigins.Proofs.Go.ExpressionPhrases

namespace ErrorOrigins.Go

open Reader Lexeme Go.Tree

namespace StatementPhrase

open TypePhrase ExpressionPhrase

variable {text : String} {self : PhraseReader} {start : Cursor} {ends : Bool} {ctx after : Context}

theorem gives_values? (hs : ReadsPhrases text self) :
    Gives text (fun ts => ∀ t ∈ ts, t.Tidy text) (values? self ends) := by
  refine .step fun _ => .ite (fun _ => .step fun _ => ?_) fun _ => .pure (by simp)
  exact (gives_expressionList hs).bind fun values hv => .pure (by simpa using hv.left)

theorem gives_nameList : Gives text (fun ts => ∀ t ∈ ts, t.Tidy text) (nameList ends) :=
  (gives_commaSeparated (gives_wordAs (by decide)) _).bind fun _ hn =>
    .pure (tidy_map_withRole fun n hm => (hn n hm).left.tidy)

theorem gives_constSpec (hs : ReadsPhrases text self) : Gives text (Tidy text) (constSpec self) := by
  refine .step fun start => gives_nameList.bind fun names hn => (gives_values? hs).bind fun values hv => ?_
  refine .ite (fun _ => .close (by decide) (List.forall_mem_append.mpr ⟨hn, hv⟩)) fun _ => ?_
  refine .step fun _ => .step fun _ => .ite (fun _ => .step fun _ => ?_) fun _ => .close (by decide) hn
  refine (hs.tidy _).bind fun type ht => (gives_values? hs).bind fun values hv => .step fun _ => .close (by decide) ?_
  exact List.forall_mem_append.mpr ⟨hn, List.forall_mem_cons.mpr ⟨tidy_withRole_iff.mpr ht, hv⟩⟩

theorem gives_varSpec (hs : ReadsPhrases text self) : Gives text (Tidy text) (varSpec self) := by
  refine .step fun start => gives_nameList.bind fun names hn => (gives_values? hs).bind fun values hv => ?_
  refine .ite (fun _ => .close (by decide) (List.forall_mem_append.mpr ⟨hn, hv⟩)) fun _ => .step fun _ => ?_
  refine (hs.tidy _).bind fun type ht => (gives_values? hs).bind fun values hv => .close (by decide) ?_
  exact List.forall_mem_append.mpr ⟨hn, List.forall_mem_cons.mpr ⟨tidy_withRole_iff.mpr ht, hv⟩⟩

theorem gives_typeSpec (hs : ReadsPhrases text self) : Gives text (Tidy text) (typeSpec self) := by
  refine .step fun start => (gives_wordAs (by decide)).bind fun name hn => ?_
  have hn := hn.left.tidy
  refine .step fun _ => .step fun _ => .ite (fun _ => .step fun _ => ?same) fun _ => ?spec
  case same => exact (hs.tidy _).bind fun type ht => .close (by decide) (by simp [hn, ht])
  case spec =>
    refine (Gives.attempt (hs.tidy _)).bind fun type ht => ?_
    cases type
    case some type => exact .close (by decide) (by simp [hn, ht type])
    case none =>
      refine (gives_typeParameterList hs).bind fun params hp => .step fun _ => (hs.tidy _).bind fun type ht => ?_
      exact .close (by decide) (by simp [hn, hp, ht])

theorem gives_specGroup {spec : Reader Tree} (h : Gives text (Tidy text) spec) :
    Gives text (fun ts => ∀ t ∈ ts, t.Tidy text) (specGroup spec) := by
  refine .step fun _ => .many ?_
  refine .step fun _ => .ite (fun _ => .pureNone) fun _ => .step fun _ => h.bind fun s ht => ?_
  exact .step fun _ => .step fun _ => .pureSome ht

theorem gives_declaration {kind : String} {spec : Reader Tree} {listKind : Option String} (hk : kind ∉ strictKinds)
    (hl : ∀ k ∈ listKind, k ∉ strictKinds) (h : Gives text (Tidy text) spec) :
    Gives text (Tidy text) (declaration start kind spec listKind) := by
  refine .step fun _ => .step fun opening => .step fun _ => .ite (fun _ => ?group) fun _ => ?single
  case single => exact h.bind fun s hs => .close hk (by simpa using hs)
  case group =>
    refine (gives_specGroup h).bind fun specs hs => ?_
    cases listKind
    case none          => exact .close hk hs
    case some listKind => exact (Gives.close (hl listKind rfl) hs).bind fun list h => .close hk (by simpa using h)

instance steps_assignmentOperator? : Steps text (assignmentOperator? ends) := by
  unfold assignmentOperator?
  infer_instance

theorem gives_simpleFrom {first : Tree} (hs : ReadsPhrases text self) (hf : first.Tidy text) :
    Gives text (Tidy text) (simpleFrom self ctx after first) := by
  refine .step fun _ => .ite (fun _ => .step fun _ => ?send) fun _ => .step fun _ =>
    .ite (fun _ => ?increment) fun _ => ?_
  case send      => exact (hs.tidy _).bind fun value hv => .closeFrom (by decide) (by simp [hf, hv])
  case increment => exact .closeFrom (by decide) (by simpa using hf)
  refine .step fun _ => .ite (fun _ => .closeFrom (by decide) (by simpa using hf)) fun _ => ?_
  refine (gives_moreOf hs hf).bind fun left hl => ?_
  extract_lets single ends left'
  have hl' : left'.Tidy text := tidy_withRole_iff.mpr hl
  refine .step fun _ => .ite (fun _ => .step fun _ => ?define) fun _ => .step fun op => ?_
  case define => exact (gives_expressionList hs).bind fun right hr => .closeFrom (by decide) (by simp [hl', hr.left])
  cases op
  case none    => exact .step fun _ => .closeFrom (by decide) (by simpa using hf)
  case some op =>
    refine .step fun _ => .step fun _ => (gives_expressionList hs).bind fun right hr => ?_
    exact .closeFrom (by decide) (by simp [hl', hr.left])

theorem gives_simple (hs : ReadsPhrases text self) : Gives text (Tidy text) (simple self ctx after) :=
  (hs.tidy _).bind fun _ hf => gives_simpleFrom hs hf

theorem gives_labeled {label : Tree} (hs : ReadsPhrases text self) (hl : label.Tidy text) :
    Gives text (Tidy text) (labeled self start label) :=
  .step fun _ => (hs.tidy _).bind fun s ht => .close (by decide) (by simp [hl, ht])

theorem gives_label? : Gives text (fun label => ∀ t ∈ label, t.Tidy text) label? := by
  refine .attempt (.step fun start => .step fun w => .step fun _ => ?_)
  exact (Gives.close (by decide) (by simp)).bind fun label hl => .step fun _ => .step fun _ => .pure hl

theorem gives_emptyLabeled? : Gives text (fun s => ∀ t ∈ s, t.Tidy text) emptyLabeled? := by
  refine .attempt (.step fun start => gives_label?.bind fun label hl => ?_)
  cases label
  case none       => exact .failure
  case some label =>
    refine (Gives.close (by decide) ?_).bind fun tree ht => .step fun _ => .step fun _ => .pure ht
    simpa using hl

theorem gives_statementList {opened : Bool} (hs : ReadsPhrases text self) :
    Gives text (fun ts => ∀ t ∈ ts, t.Tidy text) (statementList self opened) := by
  refine .bind (.iterate (P := fun s => ∀ t ∈ s.1, t.Tidy text) (fun (statements, more) ht => ?more) (by simp))
    fun s hs => .pure (by simpa using hs)
  dsimp -zeta only at ht ⊢
  extract_lets rest
  have hr (ended : Bool) : Gives text (fun o => ∀ s ∈ o, ∀ t ∈ s.1, t.Tidy text) (rest ended) := by
    refine .ite (fun _ => .pureNone) fun _ => .step fun _ => gives_emptyLabeled?.bind fun s hl => ?_
    cases s
    case some s => exact .pureSome (List.forall_mem_cons.mpr ⟨hl s rfl, ht⟩)
    case none   =>
      refine (hs.tidy _).bind fun s hm => .step fun _ => ?_
      exact .pureSome (List.forall_mem_cons.mpr ⟨hm, ht⟩)
  exact .ite (fun _ => .step hr) fun _ => .step hr

theorem gives_block (hs : ReadsPhrases text self) :
    Gives text (fun t => t.Tidy text ∧ t.kind = "block") (block self) :=
  .step fun _ => .step fun _ => (gives_statementList hs).bind fun _ ht => .step fun _ => .closeAs (by decide) ht

theorem gives_ifStatement (hs : ReadsPhrases text self) : Gives text (Tidy text) (ifStatement self) := by
  refine .step fun start => .step fun _ => .step fun _ => (gives_simple hs).bind fun first hf => .step fun _ => ?_
  extract_lets rest
  have hr (header : List Tree) (hh : ∀ t ∈ header, t.Tidy text) : Gives text (Tidy text) (rest header) := by
    refine .step fun _ => (hs.tidy _).bind fun body hb => .step fun _ => ?_
    extract_lets finish finishWith
    have hf (alternative : List Tree) (ha : ∀ t ∈ alternative, t.Tidy text) :
        Gives text (Tidy text) (finish alternative) := by
      refine .close (by decide) (List.forall_mem_append.mpr ⟨hh, List.forall_mem_cons.mpr ⟨?_, ha⟩⟩)
      exact tidy_withRole_iff.mpr hb
    have hw (alternative : Tree) (ha : alternative.Tidy text) : Gives text (Tidy text) (finishWith alternative) :=
      hf [alternative.withRole "alternative"] (by simpa using ha)
    refine .ite (fun _ => .step fun _ => .step fun _ => ?_) fun _ => hf [] (by simp)
    exact .ite (fun _ => (hs.tidy _).bind hw) fun _ => (hs.tidy _).bind hw
  refine .ite (fun _ => .step fun _ => (hs.tidy _).bind fun condition hc => ?_) fun _ => ?_
  · exact hr [first.withRole "initializer", condition.withRole "condition"] (by simp [hf, hc])
  split
  -- A condition is read as a statement first, and taken out of it if no semicolon follows.
  case h_1 condition _ he =>
    have hc : condition.Tidy text := hf.child (he ▸ List.mem_cons_self)
    exact hr [condition.withRole "condition"] (by simpa using hc)
  case h_2 => exact .failure

theorem gives_rangeFrom {left : List Tree} (hs : ReadsPhrases text self) (hl : ∀ t ∈ left, t.Tidy text) :
    Gives text (Tidy text) (rangeFrom self start left) := by
  refine .step fun _ => .step fun _ => (hs.tidy _).bind fun right hr => .close (by decide) ?_
  exact List.forall_mem_append.mpr ⟨hl, by simpa using hr⟩

theorem gives_rangeLeft? {first : Tree} (hs : ReadsPhrases text self) (hf : first.Tidy text) :
    Gives text (fun left => ∀ t ∈ left, t.Tidy text) (rangeLeft? self first) := by
  refine .attempt ((gives_moreOf hs hf).bind fun left hl => .step fun _ => ?_)
  extract_lets rest
  have hr : Gives text (Tidy text) (rest ()) := .step fun _ => .step fun _ => .pure (by simpa using hl)
  exact .ite (fun _ => .step fun _ => hr) fun _ => hr

theorem gives_forClause {initializer : Option Tree} (hs : ReadsPhrases text self)
    (hi : ∀ t ∈ initializer, t.Tidy text) : Gives text (Tidy text) (forClause self start initializer) := by
  refine .step fun _ => .step fun _ => ?_
  extract_lets updates rest
  have hr (condition : List Tree) (hc : ∀ t ∈ condition, t.Tidy text) : Gives text (Tidy text) (rest condition) := by
    refine .step fun _ => .step fun _ => ?_
    extract_lets finish
    have hf (update : List Tree) (hu : ∀ t ∈ update, t.Tidy text) : Gives text (Tidy text) (finish update) := by
      refine .close (by decide) (List.forall_mem_append.mpr ⟨List.forall_mem_append.mpr ⟨?_, hc⟩, hu⟩)
      exact tidy_toList_withRole hi
    refine .ite (fun _ => hf [] (by simp)) fun _ => .step fun _ => (gives_simple hs).bind fun s ht => ?_
    exact hf [s.withRole "update"] (by simpa using ht)
  refine .ite (fun _ => hr [] (by simp)) fun _ => .step fun _ => (hs.tidy _).bind fun e he => ?_
  exact hr [e.withRole "condition"] (by simpa using he)

theorem gives_forHeader (hs : ReadsPhrases text self) : Gives text (Tidy text) (forHeader self) := by
  refine .step fun start => .step fun _ => .ite (fun _ => gives_rangeFrom hs (by simp)) fun _ => .step fun _ => ?_
  refine .ite (fun _ => gives_forClause hs (by simp)) fun _ => (hs.tidy _).bind fun first hf => ?_
  refine (gives_rangeLeft? hs hf).bind fun left hl => ?_
  cases left
  case some left => exact gives_rangeFrom hs (by simpa using hl)
  case none =>
    refine (gives_simpleFrom hs hf).bind fun s ht => .step fun _ => .ite (fun _ => ?_) fun _ => .step fun _ => .pure hf
    exact gives_forClause hs (by simpa using ht)

theorem gives_forStatement (hs : ReadsPhrases text self) : Gives text (Tidy text) (forStatement self start) := by
  refine .step fun _ => .step fun _ => ?_
  extract_lets rest
  have hr (header : List Tree) (hh : ∀ t ∈ header, t.Tidy text) : Gives text (Tidy text) (rest header) := by
    refine .step fun _ => (hs.tidy _).bind fun body hb => .close (by decide) ?_
    exact List.forall_mem_append.mpr ⟨hh, by simpa using hb⟩
  refine .ite (fun _ => hr [] (by simp)) fun _ => .bind (.map (gives_forHeader hs) fun t ht => ?_) hr
  exact List.forall_mem_singleton.mpr ht

theorem gives_defaultClause (hs : ReadsPhrases text self) : Gives text (Tidy text) (defaultClause self) :=
  .step fun _ => .step fun _ => .step fun _ => (gives_statementList hs).bind fun _ hb => .close (by decide) hb

section Clauses

variable {kind : String} {choice : Reader (List Tree)}

theorem gives_caseClause (hs : ReadsPhrases text self) (hk : kind ∉ strictKinds)
    (hc : Gives text (fun ts => ∀ t ∈ ts, t.Tidy text) choice) :
    Gives text (Tidy text) (caseClause self kind choice) := by
  refine .step fun _ => .step fun _ => .step fun _ => hc.bind fun chosen hc => .step fun _ => ?_
  exact (gives_statementList hs).bind fun body hb => .close hk (List.forall_mem_append.mpr ⟨hc, hb⟩)

theorem gives_clauses (hs : ReadsPhrases text self) (hk : kind ∉ strictKinds)
    (hc : Gives text (fun ts => ∀ t ∈ ts, t.Tidy text) choice) :
    Gives text (fun ts => ∀ t ∈ ts, t.Tidy text) (clauses self kind choice) := by
  refine .step fun _ => .many (.step fun _ => .ite (fun _ => .pureNone) fun _ => .step fun _ => .step fun _ => ?_)
  refine .ite (fun _ => ?_) fun _ => ?_
  · exact (gives_defaultClause hs).bind fun t ht => .pureSome ht
  · exact (gives_caseClause hs hk hc).bind fun t ht => .pureSome ht

end Clauses

instance steps_typeGuard : Steps text typeGuard := by
  unfold typeGuard
  infer_instance

theorem gives_expressionChoice (hs : ReadsPhrases text self) :
    Gives text (fun ts => ∀ t ∈ ts, t.Tidy text) (expressionChoice self) :=
  (gives_expressionList hs).bind fun _ hv => .pure (by simpa using hv.left)

theorem gives_typeChoice (hs : ReadsPhrases text self) :
    Gives text (fun ts => ∀ t ∈ ts, t.Tidy text) (typeChoice self) :=
  (gives_commaSeparated (hs.tidy _) _).bind fun _ ht => .pure (tidy_map_withRole ht)

section Switches

variable {header : List Tree}

theorem gives_typeSwitchFrom (hs : ReadsPhrases text self) (hh : ∀ t ∈ header, t.Tidy text) :
    Gives text (Tidy text) (typeSwitchFrom self start header) := by
  refine .step fun _ => (gives_clauses hs (by decide) (gives_typeChoice hs)).bind fun cs hc => .close (by decide) ?_
  exact List.forall_mem_append.mpr ⟨hh, hc⟩

theorem gives_valueSwitchFrom (hs : ReadsPhrases text self) (hh : ∀ t ∈ header, t.Tidy text) :
    Gives text (Tidy text) (valueSwitchFrom self start header) := by
  refine (gives_clauses hs (by decide) (gives_expressionChoice hs)).bind fun cs hc => .close (by decide) ?_
  exact List.forall_mem_append.mpr ⟨hh, hc⟩

end Switches

theorem gives_typeSubject? {first : Tree} (hs : ReadsPhrases text self) (hf : first.Tidy text) :
    Gives text (fun o => ∀ ts ∈ o, ∀ t ∈ ts, t.Tidy text) (typeSubject? self first) := by
  refine .bind (.attempt (P := fun ts => ∀ t ∈ ts, t.Tidy text) ?bound) fun bound hb => .step fun _ => ?_
  case bound =>
    refine (gives_moreOf hs hf).bind fun names hn => .step fun _ => .step fun _ => (hs.tidy _).bind fun subject ht => ?_
    exact .step fun _ => .step fun _ => .pure (by simp [hn, ht])
  exact .ite (fun _ => .pureSome (by simpa using hf)) fun _ => .pure hb

theorem gives_switchFrom {initializer : Tree} (hs : ReadsPhrases text self) (hi : initializer.Tidy text) :
    Gives text (Tidy text) (switchFrom self start initializer) := by
  refine .step fun _ => .ite (fun _ => gives_valueSwitchFrom hs (by simpa using hi)) fun _ => .step fun _ => ?_
  refine (hs.tidy _).bind fun first hf => (gives_typeSubject? hs hf).bind fun subject ht => ?_
  cases subject
  case some subject => exact gives_typeSwitchFrom hs (List.forall_mem_cons.mpr ⟨by simpa using hi, ht subject rfl⟩)
  case none         => exact gives_valueSwitchFrom hs (by simp [hi, hf])

theorem gives_switchStatement (hs : ReadsPhrases text self) : Gives text (Tidy text) (switchStatement self start) := by
  refine .step fun _ => .ite (fun _ => gives_valueSwitchFrom hs (by simp)) fun _ => .step fun _ => ?_
  refine (hs.tidy _).bind fun first hf => (gives_typeSubject? hs hf).bind fun subject ht => ?_
  cases subject
  case some subject => exact gives_typeSwitchFrom hs (ht subject rfl)
  case none =>
    refine (gives_simpleFrom hs hf).bind fun s ht => .step fun _ => .ite (fun _ => gives_switchFrom hs ht) fun _ => ?_
    exact .step fun _ => gives_valueSwitchFrom hs (by simpa using hf)

theorem gives_communication (hs : ReadsPhrases text self) :
    Gives text (fun ts => ∀ t ∈ ts, t.Tidy text) (communication self) := by
  have hp (t : Tree) (ht : t.Tidy text) :
      Gives text (fun ts => ∀ t ∈ ts, t.Tidy text) (pure [t.withRole "communication"]) :=
    .pure (by simpa using ht)
  refine (hs.tidy _).bind fun first hf => .step fun _ => .ite (fun _ => .step fun _ => ?send) fun _ => ?_
  case send => exact (hs.tidy _).bind fun value hv => (Gives.closeFrom (by decide) (by simp [hf, hv])).bind hp
  refine (gives_moreOf hs hf).bind fun left hl => .step fun _ => ?_
  extract_lets rest
  have hr (assigned : Bool) : Gives text (fun ts => ∀ t ∈ ts, t.Tidy text) (rest assigned) := by
    refine .ite (fun _ => .step fun _ => (hs.tidy _).bind fun right hr => ?_) fun _ => .step fun _ => ?_
    · exact (Gives.closeFrom (by decide) (by simp [hl, hr])).bind hp
    · exact (Gives.closeFrom (by decide) (by simp [hf])).bind hp
  exact .ite (fun _ => hr true) fun _ => .step hr

theorem gives_selectStatement (hs : ReadsPhrases text self) : Gives text (Tidy text) (selectStatement self start) :=
  (gives_clauses hs (by decide) (gives_communication hs)).bind fun _ hc => .close (by decide) hc

theorem gives_return (values : Option Tree) (hk : ∀ v ∈ values, v.kind = "expression_list")
    (hv : ∀ v ∈ values, v.Tidy text) : Gives text (Tidy text) (close start "return_statement" values.toList) := by
  intro c hc t c' h
  cases h
  exact ⟨hc, .return_ hk hv⟩

theorem gives_returnStatement (hs : ReadsPhrases text self) : Gives text (Tidy text) (returnStatement self start) := by
  refine .step fun _ => .ite (fun _ => ?bare) fun _ => .step fun _ => (gives_expressionList hs).bind fun values hv => ?_
  case bare => exact gives_return none (by simp) (by simp)
  exact gives_return (some values) (by simpa using hv.right) (by simpa using hv.left)

theorem gives_labelName : Gives text (Tidy text) (wordAs "label_name") :=
  (gives_wordAs (by decide)).mono fun _ ht => ht.left.tidy

theorem gives_jump {kind : String} (hk : kind ∉ strictKinds) : Gives text (Tidy text) (jump kind start) := by
  refine .step fun _ => .ite (fun _ => .close hk (by simp)) fun _ => .step fun _ => ?_
  exact gives_labelName.bind fun label hl => .close hk (by simpa using hl)

theorem gives_deferred {kind : String} (hs : ReadsPhrases text self) (hk : kind ∉ strictKinds) :
    Gives text (Tidy text) (deferred self kind start) :=
  .step fun _ => (hs.tidy _).bind fun _ he => .close hk (by simpa using he)

theorem gives_goto : Gives text (Tidy text) (goto start) :=
  .step fun _ => gives_labelName.bind fun _ hl => .close (by decide) (by simpa using hl)

theorem gives_wordStatement {w : String} (hs : ReadsPhrases text self) :
    Gives text (Tidy text) (wordStatement self w) := by
  refine .step fun start => ?_
  extract_lets after
  have ha {r : Reader Tree} (hr : Gives text (Tidy text) r) : Gives text (Tidy text) (after r) := .step fun _ => hr
  split
  · exact ha (gives_declaration (by decide) (by simp) (gives_constSpec hs))
  · exact ha (gives_declaration (by decide) (by decide) (gives_varSpec hs))
  · exact ha (gives_declaration (by decide) (by simp) (gives_typeSpec hs))
  · exact ha (gives_returnStatement hs)
  · exact ha (gives_deferred hs (by decide))
  · exact ha (gives_deferred hs (by decide))
  · exact hs.tidy _
  · exact ha (gives_forStatement hs)
  · exact ha (gives_switchStatement hs)
  · exact ha (gives_selectStatement hs)
  · exact ha (.close (by decide) (by simp))
  · exact ha (gives_jump (by decide))
  · exact ha (gives_jump (by decide))
  · exact ha gives_goto
  · refine gives_label?.bind fun label hl => ?_
    cases label
    case none       => exact gives_simple hs
    case some label => exact gives_labeled hs (hl label rfl)

theorem gives_statement (hs : ReadsPhrases text self) : Gives text (Tidy text) (statement self) := by
  refine .step fun start => ?_
  split
  · exact hs.tidy _
  · exact .step fun _ => .close (by decide) (by simp)
  · refine .step fun w => ?_
    cases w
    case none   => exact gives_simple hs
    case some w => exact gives_wordStatement hs

end StatementPhrase

end ErrorOrigins.Go
