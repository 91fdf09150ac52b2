import ErrorOrigins.Go.TypePhrase
import ErrorOrigins.Proofs.Go.Lexemes

namespace ErrorOrigins.Go

open Reader Lexeme Go.Tree

variable {text : String} {self : PhraseReader}

-- All phrases are read into tidy trees, and blocks as blocks.
structure ReadsPhrases (text : String) (read : PhraseReader) : Prop where
  tidy  : ∀ phrase, Gives text (Tidy text) (read phrase)
  block : Gives text (fun t => t.Tidy text ∧ t.kind = "block") (read .block)

namespace TypePhrase

variable {start : Cursor} {ends mixed : Bool}

theorem gives_typeName : Gives text (fun t => t.IsToken text ∧ t.kind = "type_identifier") (typeName mixed) := by
  intro c hc
  refine .get (givesFrom_word hc fun w c' hc' hs => .require fun _ t c'' h => ?_)
  cases h
  exact ⟨hc', hs.isToken hc (by decide), rfl⟩

theorem gives_typeElem {kind : String} (hs : ReadsPhrases text self) (hk : kind ∉ strictKinds) :
    Gives text (Tidy text) (typeElem self kind ends mixed) := by
  refine (hs.tidy _).bind fun first hf => (gives_manyAfter (hs.tidy _)).bind fun rest hr => .closeFrom hk ?_
  exact List.forall_mem_cons.mpr ⟨hf, hr⟩

theorem gives_typeArguments (hs : ReadsPhrases text self) : Gives text (Tidy text) (typeArguments self mixed) := by
  refine .step fun _ => .step fun _ => .step fun _ => ?_
  exact (gives_commaTerminated (gives_typeElem hs (by decide)) _).bind fun args ha => .close (by decide) ha

theorem tidy_qualifiedType {package name : Tree} (hp : package.IsToken text) (hn : name.IsToken text) :
    (qualifiedType package name).Tidy text := by
  refine .node (by decide) ?_
  have hp := (hp.withKind (by decide : "package_identifier" ∈ namingKinds)).tidy
  have hn := (hn.withKind (by decide : "type_identifier" ∈ namingKinds)).tidy
  simp [hp, hn]

theorem tidy_genericType {type args : Tree} (ht : type.Tidy text) (ha : args.Tidy text) :
    (genericType type args).Tidy text :=
  .node (by decide) (by simp [ht, ha])

theorem gives_namedFrom {first : Tree} (hs : ReadsPhrases text self) (hf : first.IsToken text) :
    Gives text (Tidy text) (namedFrom self ends first) := by
  refine .step fun _ => ?_
  -- Both branches go on with the same reader, so what it gives is told once.
  extract_lets rest
  have hr (type : Tree) (ht : type.Tidy text) : Gives text (Tidy text) (rest type) := by
    refine .step fun _ => .ite (fun _ => .step fun _ => ?_) fun _ => .pure ht
    exact (gives_typeArguments hs).bind fun args ha => .pure (tidy_genericType ht ha)
  refine .ite (fun _ => .step fun _ => ?_) fun _ => hr first hf.tidy
  exact (gives_wordAs (by decide)).bind fun second h => hr _ (tidy_qualifiedType hf h.left)

instance steps_simpleTypeComes : Steps text (simpleTypeComes ends) :=
  inferInstanceAs (Steps text (do
    if (← nextWord? ends).isSome then return true
    return (← comes "*" ends) || (← comes "[" ends) || (← comes "<-" ends) || (← comes "~" ends)))

theorem gives_results? (hs : ReadsPhrases text self) :
    Gives text (fun results => ∀ t ∈ results, t.Tidy text) (results? self ends) := by
  refine .step fun _ => .ite (fun _ => .step fun _ => ?_) fun _ => .step fun _ => .ite (fun _ => .step fun _ => ?_) ?_
  · exact (hs.tidy _).bind fun t ht => .pureSome ht
  · exact (hs.tidy _).bind fun t ht => .pureSome ht
  · exact fun _ => .pureNone

theorem tidy_signature {parameters : Tree} {results : Option Tree} (hp : parameters.Tidy text)
    (hr : ∀ t ∈ results, t.Tidy text) : ∀ t ∈ signature parameters results, t.Tidy text :=
  List.forall_mem_cons.mpr ⟨tidy_withRole_iff.mpr hp, tidy_toList_withRole hr⟩

-- The names in an entry are words.
inductive Entry.Tidy (text : String) : Entry → Prop
  | lone {type : Tree} (ht : type.Tidy text) :
    Tidy text (.lone type)
  | typed {name type : Tree} (hn : name.IsToken text) (ht : type.Tidy text) :
    Tidy text (.typed name type)
  | either {lone name type : Tree} (hl : lone.Tidy text) (hn : name.IsToken text) (ht : type.Tidy text) :
    Tidy text (.either lone name type)
  | variadic {declaration : Tree} (hd : declaration.Tidy text) :
    Tidy text (.variadic declaration)

theorem gives_variadic {name : Option Tree} (hs : ReadsPhrases text self) (hn : ∀ n ∈ name, n.Tidy text) :
    Gives text (Entry.Tidy text) (variadic self start name) := by
  refine .step fun _ => .step fun _ => (hs.tidy _).bind fun type ht => ?_
  refine .bind (.close (by decide) ?_) fun d hd => .pure (.variadic hd)
  exact List.forall_mem_append.mpr ⟨tidy_toList_withRole hn, by simpa using ht⟩

instance steps_entryEnds : Steps text entryEnds :=
  inferInstanceAs (Steps text (do return (← comes "," false) || (← comes ")" false)))

theorem gives_typeAfter? (hs : ReadsPhrases text self) :
    Gives text (fun type => ∀ t ∈ type, t.Tidy text) (typeAfter? self) := by
  refine .attempt (.step fun _ => .step fun _ => .step fun _ => (hs.tidy _).bind fun type ht => ?_)
  exact .step fun _ => .step fun _ => .pure ht

theorem gives_keywordEntry {w : String} {afterPlain : Bool} (hs : ReadsPhrases text self) :
    Gives text (Entry.Tidy text) (keywordEntry self w afterPlain) := by
  refine .get fun start hc => ?_
  extract_lets lone
  have hl : Gives text (Tidy text) lone :=
    .set hc ((hs.tidy _).bind fun type ht => .step fun _ => .step fun _ => .pure ht)
  refine (gives_wordAs (by decide)).bind fun name hn => ?_
  extract_lets found
  have hf (type : Option Tree) (ht : ∀ t ∈ type, t.Tidy text) : Gives text (Entry.Tidy text) (found type) := by
    cases type
    case none => exact hl.bind fun type ht => .pure (.lone ht)
    case some type =>
      have ht := ht type rfl
      refine .ite (fun _ => hl.ahead.bind fun lone ho => ?_) fun _ => .pure (.typed hn.left ht)
      cases lone
      case none      => exact .pure (.typed hn.left ht)
      case some lone => exact .pure (.either (ho lone rfl) hn.left ht)
  exact .ite (fun _ => (gives_typeAfter? hs).bind hf) fun _ => hf none (by simp)

theorem gives_entry {previous : Option Entry} (hs : ReadsPhrases text self) :
    Gives text (Entry.Tidy text) (entry self previous) := by
  refine .get fun start hc => .step fun _ => .ite (fun _ => gives_variadic hs (by simp)) fun _ => .step fun w => ?_
  cases w
  case none => exact (hs.tidy _).bind fun type ht => .pure (.lone ht)
  case some w =>
    refine .ite (fun _ => gives_keywordEntry hs) fun _ => (gives_wordAs (by decide)).bind fun name hn => ?_
    have hi := hn.left.withKind (by decide : "identifier" ∈ namingKinds)
    refine .step fun _ => .ite (fun _ => gives_variadic hs (by simp [hi.tidy])) fun _ => .step fun _ => ?_
    refine .ite (fun _ => .pure (.lone hn.left.tidy)) fun _ => (gives_typeAfter? hs).bind fun type ht => ?_
    cases type
    case none      => exact .set hc ((hs.tidy _).bind fun type ht => .pure (.lone ht))
    case some type => exact .pure (.typed hi (ht type rfl))

theorem tidy_declaration {names : List Tree} {type : Tree} (hn : ∀ n ∈ names, n.IsToken text) (ht : type.Tidy text) :
    (declaration names type).Tidy text := by
  refine .node (by decide) fun t hm => ?_
  rcases List.mem_append.mp hm with hm | hm
  · obtain ⟨n, hn', rfl⟩ := List.mem_map.mp hm
    exact tidy_withRole_iff.mpr ((hn n hn').withKind (by decide)).tidy
  · rw [List.mem_singleton.mp hm]
    exact tidy_withRole_iff.mpr ht

section Waiting

variable {waiting : List Tree}

theorem tidy_unnamed (hw : ∀ w ∈ waiting, w.IsToken text) : ∀ t ∈ waiting.map (declaration []), t.Tidy text := by
  intro t ht
  obtain ⟨w, hm, rfl⟩ := List.mem_map.mp ht
  exact tidy_declaration (by simp) (hw w hm).tidy

theorem tidy_sharing {name type : Tree} (hw : ∀ w ∈ waiting, w.IsToken text) (hn : name.IsToken text)
    (ht : type.Tidy text) : ∀ t ∈ sharing waiting name type, t.Tidy text := by
  rw [sharing, List.splitAt_eq]
  refine List.forall_mem_append.mpr ⟨tidy_unnamed fun w hm => hw w (List.mem_of_mem_take hm), ?_⟩
  refine List.forall_mem_singleton.mpr (tidy_declaration (List.forall_mem_append.mpr ⟨?_, by simpa using hn⟩) ht)
  exact fun w hm => hw w (List.mem_of_mem_drop hm)

theorem tidy_declarations {entries : List Entry} (hw : ∀ w ∈ waiting, w.IsToken text)
    (he : ∀ e ∈ entries, e.Tidy text) : ∀ t ∈ declarations waiting entries, t.Tidy text := by
  induction entries generalizing waiting
  case nil => exact tidy_unnamed hw
  case cons e rest hi =>
    obtain ⟨he, hr⟩ := List.forall_mem_cons.mp he
    have hn : ∀ t ∈ declarations [] rest, t.Tidy text := hi (by simp) hr
    cases he
    case lone type ht =>
      rw [declarations]
      split_ifs with hk
      case pos =>
        have htoken := ht.isToken (by simp_all [wordKinds])
        exact hi (List.forall_mem_append.mpr ⟨hw, by simpa using htoken⟩) hr
      case neg =>
        refine List.forall_mem_append.mpr ⟨tidy_unnamed hw, List.forall_mem_cons.mpr ⟨?_, hn⟩⟩
        exact tidy_declaration (by simp) ht
    case typed name type hname ht =>
      exact List.forall_mem_append.mpr ⟨tidy_sharing hw hname ht, hn⟩
    case either lone name type hl hname ht =>
      rw [declarations]
      refine List.forall_mem_append.mpr ⟨?_, hn⟩
      split_ifs
      case pos =>
        refine List.forall_mem_append.mpr ⟨tidy_unnamed hw, List.forall_mem_singleton.mpr ?_⟩
        exact tidy_declaration (by simp) hl
      case neg => exact tidy_sharing hw hname ht
    case variadic d hd =>
      exact List.forall_mem_append.mpr ⟨tidy_unnamed hw, List.forall_mem_cons.mpr ⟨hd, hn⟩⟩

end Waiting

theorem gives_parameters (hs : ReadsPhrases text self) : Gives text (Tidy text) (parameters self) := by
  refine .step fun _ => .step fun _ => (gives_commaClosedAfter (fun _ => gives_entry hs) _).bind fun entries he => ?_
  exact .close (by decide) (tidy_declarations (by simp) he)

theorem gives_typeParameterDeclaration (hs : ReadsPhrases text self) :
    Gives text (Tidy text) (typeParameterDeclaration self) := by
  refine (gives_commaSeparated (gives_wordAs (by decide)) _).bind fun names hn => .step fun _ => ?_
  refine (gives_typeElem hs (by decide)).bind fun constraint hc => .closeFrom (by decide) ?_
  exact List.forall_mem_append.mpr ⟨tidy_map_withRole fun n hm => (hn n hm).left.tidy, by simpa using hc⟩

theorem gives_typeParameterList (hs : ReadsPhrases text self) : Gives text (Tidy text) (typeParameterList self) := by
  refine .step fun _ => .step fun _ => .step fun _ => ?_
  exact (gives_commaTerminated (gives_typeParameterDeclaration hs) _).bind fun decls hd => .close (by decide) hd

instance steps_fieldEnds : Steps text fieldEnds :=
  inferInstanceAs (Steps text (do
    if ← comes "\x7d" true then return true
    return (← ahead do require (← terminator)).isSome))

theorem gives_tag? : Gives text (fun ts => ∀ t ∈ ts, t.Tidy text) tag? :=
  (Gives.attempt (.step fun _ => gives_stringLiteral)).bind fun _ ht => .pure (tidy_toList_withRole ht)

theorem gives_embeddedField (hs : ReadsPhrases text self) :
    Gives text (fun ts => ∀ t ∈ ts, t.Tidy text) (embeddedField self) := by
  refine .step fun _ => .step fun _ => (gives_wordAs (by decide)).bind fun first hf => ?_
  refine (gives_namedFrom hs hf.left).bind fun type ht => gives_tag?.bind fun tag hg => .step fun _ => .step fun _ => ?_
  exact .pure (List.forall_mem_cons.mpr ⟨tidy_withRole_iff.mpr ht, hg⟩)

theorem gives_namedField (hs : ReadsPhrases text self) :
    Gives text (fun ts => ∀ t ∈ ts, t.Tidy text) (namedField self) := by
  have hw : Gives text (Tidy text) (wordAs "field_identifier") :=
    (gives_wordAs (by decide)).mono fun _ ht => ht.left.tidy
  refine hw.bind fun first hf => .step fun _ => ?_
  extract_lets types
  have ht (rest : List Tree) (hr : ∀ t ∈ rest, t.Tidy text) :
      Gives text (fun ts => ∀ t ∈ ts, t.Tidy text) (types rest) := by
    refine .step fun _ => (hs.tidy _).bind fun type ht => gives_tag?.bind fun tag hg => .pure ?_
    exact List.forall_mem_append.mpr ⟨tidy_map_withRole (List.forall_mem_cons.mpr ⟨hf, hr⟩),
      List.forall_mem_cons.mpr ⟨tidy_withRole_iff.mpr ht, hg⟩⟩
  exact .ite (fun _ => (gives_manyAfter hw).bind ht) fun _ => ht [] (by simp)

theorem gives_fieldDeclaration (hs : ReadsPhrases text self) : Gives text (Tidy text) (fieldDeclaration self) :=
  .step fun _ => (Gives.orElse (gives_embeddedField hs) (gives_namedField hs)).bind fun _ hp => .close (by decide) hp

theorem gives_structType (hs : ReadsPhrases text self) : Gives text (Tidy text) (structType self start) := by
  refine .step fun _ => .step fun _ => .step fun _ => ?_
  refine (gives_terminated (gives_fieldDeclaration hs) _).bind fun fields hf => ?_
  exact (Gives.close (by decide) hf).bind fun list hl => .close (by decide) (by simpa using hl)

theorem gives_methodElem (hs : ReadsPhrases text self) : Gives text (Tidy text) (methodElem self) := by
  refine .step fun _ => gives_typeName.bind fun name hn => .step fun _ => (hs.tidy _).bind fun params hp => ?_
  refine (gives_results? hs).bind fun results hr => .close (by decide) ?_
  have hn := (hn.left.withKind (by decide : "field_identifier" ∈ namingKinds)).tidy
  exact List.forall_mem_cons.mpr ⟨tidy_withRole_iff.mpr hn, tidy_signature hp hr⟩

theorem gives_interfaceType (hs : ReadsPhrases text self) : Gives text (Tidy text) (interfaceType self start) := by
  refine .step fun _ => .bind (gives_terminated ?_ _) fun elems he => .close (by decide) he
  exact .orElse (gives_methodElem hs) (gives_typeElem hs (by decide))

theorem gives_mapType (hs : ReadsPhrases text self) : Gives text (Tidy text) (mapType self start ends) := by
  refine .step fun _ => .step fun _ => (hs.tidy _).bind fun key hk => .step fun _ => .step fun _ => ?_
  exact (hs.tidy _).bind fun value hv => .close (by decide) (by simp [hk, hv])

theorem gives_channelType (hs : ReadsPhrases text self) : Gives text (Tidy text) (channelType self start ends) := by
  refine .step fun _ => ?_
  extract_lets rest
  have hr : Gives text (Tidy text) (rest ()) :=
    .step fun _ => (hs.tidy _).bind fun value hv => .close (by decide) (by simpa using hv)
  exact .ite (fun _ => .step fun _ => hr) fun _ => hr

theorem gives_functionType (hs : ReadsPhrases text self) : Gives text (Tidy text) (functionType self start ends) := by
  refine .step fun _ => (hs.tidy _).bind fun params hp => (gives_results? hs).bind fun results hr => ?_
  exact .close (by decide) (tidy_signature hp hr)

theorem gives_bracketType (hs : ReadsPhrases text self) : Gives text (Tidy text) (bracketType self ends) := by
  refine .step fun _ => .step fun _ => .step fun _ =>
    .ite (fun _ => .step fun _ => ?slice) fun _ => .step fun _ => ?array
  case slice => exact (hs.tidy _).bind fun element he => .close (by decide) (by simpa using he)
  case array =>
    refine (hs.tidy _).bind fun length hl => .step fun _ => .step fun _ => ?_
    exact (hs.tidy _).bind fun element he => .close (by decide) (by simp [hl, he])

theorem gives_wordType (hs : ReadsPhrases text self) : Gives text (Tidy text) (wordType self ends mixed) := by
  refine .step fun start => .step fun w => ?_
  split
  · exact .step fun _ => gives_structType hs
  · exact .step fun _ => gives_interfaceType hs
  · exact .step fun _ => gives_mapType hs
  · exact .step fun _ => gives_channelType hs
  · exact .step fun _ => gives_functionType hs
  · exact gives_typeName.bind fun name hn => gives_namedFrom hs hn.left

theorem gives_type (hs : ReadsPhrases text self) : Gives text (Tidy text) (type self ends mixed) := by
  refine .step fun start => ?_
  split
  · exact .step fun _ => .step fun _ => (hs.tidy _).bind fun target ht => .close (by decide) (by simpa using ht)
  · exact gives_bracketType hs
  · refine .step fun _ => .step fun _ => (hs.tidy _).bind fun inner hi => .step fun _ => ?_
    exact .close (by decide) (by simpa using hi)
  · refine .step fun _ => .step fun _ => .step fun _ => (hs.tidy _).bind fun value hv => ?_
    exact .close (by decide) (by simpa using hv)
  · exact .step fun _ => .step fun _ => (hs.tidy _).bind fun inner hi => .close (by decide) (by simpa using hi)
  · exact gives_wordType hs

end TypePhrase

end ErrorOrigins.Go
