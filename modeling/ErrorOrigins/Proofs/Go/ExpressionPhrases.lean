import ErrorOrigins.Go.ExpressionPhrase
import ErrorOrigins.Proofs.Go.TypePhrases

namespace ErrorOrigins.Go

open Reader Lexeme Go.Tree TypePhrase

variable {text : String} {self : PhraseReader} {start : Cursor} {ends : Bool} {ctx : Context}

theorem mem_of_weightiest? {ts : List Tree} {t : Tree} (h : weightiest? ts = some t) : t ∈ ts := by
  induction ts generalizing t
  case nil => cases h
  case cons u rest hi =>
    rw [weightiest?] at h
    split at h
    case h_1 =>
      cases h
      exact List.mem_cons_self
    case h_2 v hv =>
      split_ifs at h <;> cases h
      · exact List.mem_cons_of_mem _ (hi hv)
      · exact List.mem_cons_self

namespace ExpressionPhrase

structure Operand.Tidy (text : String) (x : Operand) : Prop where
  value     : ∀ t ∈ x.value?, t.Tidy text
  type      : ∀ t ∈ x.type?, t.Tidy text
  instance_ : ∀ p ∈ x.instance?, p.1.Tidy text ∧ p.2.Tidy text

theorem Operand.Tidy.ofValue {t : Tree} (h : t.Tidy text) : Operand.Tidy text { value? := some t } :=
  ⟨by simpa using h, by simp, by simp⟩

theorem Operand.Tidy.ofType {t : Tree} (h : t.Tidy text) : Operand.Tidy text { value? := none, type? := some t } :=
  ⟨by simp, by simpa using h, by simp⟩

theorem gives_argument (hs : ReadsPhrases text self) : Gives text (fun a => a.1.Tidy text) (argument self) := by
  refine (hs.tidy _).bind fun e he => .step fun _ => .ite (fun _ => ?_) fun _ => .pure he
  exact (Gives.closeFrom (by decide) (by simpa using he)).bind fun t ht => .pure ht

theorem gives_arguments (hs : ReadsPhrases text self) :
    Gives text (fun a => (a.1.Tidy text ∧ a.1.kind = "argument_list") ∧ ∀ e ∈ a.2, e.1.Tidy text) (arguments self) := by
  refine .step fun start => .step fun _ => .step fun _ => ?_
  extract_lets list
  have hl (args : List (Tree × Bool)) (ha : ∀ e ∈ args, e.1.Tidy text) :
      Gives text (fun a => (a.1.Tidy text ∧ a.1.kind = "argument_list") ∧ ∀ e ∈ a.2, e.1.Tidy text) (list args) := by
    refine (Gives.closeAs (by decide) ?_).bind fun t ht => .pure ⟨ht, ha⟩
    exact fun t ht => by obtain ⟨e, he, rfl⟩ := List.mem_map.mp ht; exact ha e he
  exact .ite (fun _ => hl [] (by simp)) fun _ => .step fun _ => (gives_commaTerminated (gives_argument hs) _).bind hl

theorem gives_typeFirstArguments (hs : ReadsPhrases text self) :
    Gives text (fun t => t.Tidy text ∧ t.kind = "argument_list") (typeFirstArguments self) := by
  refine .step fun _ => .step fun _ => .step fun _ => .ite (fun _ => .closeAs (by decide) (by simp)) fun _ => ?_
  refine .step fun _ => (hs.tidy _).bind fun type ht => .bind (.many (P := Tidy text) ?more) fun rest hr =>
    .step fun _ => ?_
  case more =>
    refine .step fun _ => .ite (fun _ => .step fun _ => .ite (fun _ => .pureNone) fun _ => ?_) fun _ => .pureNone
    exact .step fun _ => (hs.tidy _).bind fun e he => .pureSome he
  exact .closeAs (by decide) (List.forall_mem_cons.mpr ⟨ht, hr⟩)

theorem gives_call {function arguments : Tree} {types : Option Tree} (hf : function.Tidy text)
    (ht : ∀ t ∈ types, t.Tidy text) (ha : arguments.Tidy text ∧ arguments.kind = "argument_list") :
    Gives text (Tidy text) (call function types arguments) := by
  intro c hc t c' h
  cases h
  exact ⟨hc, .call ha.right hf ht ha.left⟩

theorem gives_literalElement (hs : ReadsPhrases text self) : Gives text (Tidy text) (literalElement self) := by
  refine .step fun _ => ?_
  extract_lets rest
  have hr (inner : Tree) (hi : inner.Tidy text) : Gives text (Tidy text) (rest inner) :=
    .closeFrom (by decide) (by simpa using hi)
  exact .ite (fun _ => (hs.tidy _).bind hr) fun _ => (hs.tidy _).bind hr

theorem gives_keyedElement (hs : ReadsPhrases text self) : Gives text (Tidy text) (keyedElement self) := by
  refine (gives_literalElement hs).bind fun first hf => .step fun _ =>
    .ite (fun _ => .step fun _ => ?_) fun _ => .pure hf
  exact (gives_literalElement hs).bind fun value hv => .closeFrom (by decide) (by simp [hf, hv])

theorem gives_literalValue (hs : ReadsPhrases text self) : Gives text (Tidy text) (literalValue self) := by
  refine .step fun _ => .step fun _ => ?_
  exact (gives_commaClosed (gives_keyedElement hs) _).bind fun elements he => .close (by decide) he

theorem gives_composite {type : Tree} (hs : ReadsPhrases text self) (ht : type.Tidy text) :
    Gives text (Operand.Tidy text) (composite self type) := by
  refine (hs.tidy _).bind fun body hb => (Gives.closeFrom (by decide) ?_).bind fun value hv => .pure (.ofValue hv)
  simp [ht, hb]

theorem gives_countedArrayType (hs : ReadsPhrases text self) : Gives text (Tidy text) (countedArrayType self) := by
  refine .step fun _ => .step fun _ => .step fun _ => .step fun _ => .step fun _ => ?_
  exact (hs.tidy _).bind fun element he => .close (by decide) (by simpa using he)

theorem gives_typeOperand (hs : ReadsPhrases text self) : Gives text (Operand.Tidy text) (typeOperand self) :=
  (Gives.orElse (gives_countedArrayType hs) (hs.tidy _)).bind fun _ ht => .pure (.ofType ht)

theorem gives_functionOperand (hs : ReadsPhrases text self) :
    Gives text (Operand.Tidy text) (functionOperand self) := by
  refine .step fun _ => .step fun _ => .step fun _ => (hs.tidy _).bind fun params hp => ?_
  refine (gives_results? hs).bind fun results hr => .step fun _ =>
    .ite (fun _ => .step fun _ => ?literal) fun _ => ?type
  case literal =>
    refine (hs.tidy _).bind fun body hb => (Gives.close (by decide) ?_).bind fun value hv => .pure (.ofValue hv)
    exact List.forall_mem_append.mpr ⟨tidy_signature hp hr, by simpa using hb⟩
  case type => exact (Gives.close (by decide) (tidy_signature hp hr)).bind fun type ht => .pure (.ofType ht)

theorem gives_parenthesized (hs : ReadsPhrases text self) :
    Gives text (Operand.Tidy text) (parenthesized self ends) := by
  refine .get fun start hc => .bind (.attempt (P := Tidy text) ?value) fun value hv => ?_
  case value =>
    refine .step fun _ => .step fun _ => (hs.tidy _).bind fun e he => .step fun _ => ?_
    exact .close (by decide) (by simpa using he)
  refine .ite (fun _ => gives_typeOperand hs) fun _ => .get fun stop hstop => .step fun _ => .step fun _ => ?_
  refine .ite (fun _ => .pure ⟨hv, by simp, by simp⟩) fun _ => .set hc ?_
  exact (Gives.attempt (hs.tidy _)).bind fun type ht => .set hstop (.pure ⟨hv, ht, by simp⟩)

theorem gives_wordOperand (hs : ReadsPhrases text self) : Gives text (Operand.Tidy text) (wordOperand self ends) := by
  intro start hc
  refine .get (.ahead fun w => ?_)
  cases w
  case none => exact Gives.failure start hc
  case some w =>
    refine .ite (fun _ => gives_functionOperand hs start hc) fun _ =>
      .ite (fun _ => gives_typeOperand hs start hc) fun _ => ?_
    refine givesFrom_word hc fun _ stop hstop hl => .ite (fun _ => .close ?makes) fun hm =>
      .ite (fun hv => .close ?value) fun _ => .close ?name
    case makes =>
      have hn := hl.isToken hc (by decide : "identifier" ∈ namingKinds)
      refine Gives.step (fun _ => .ite (fun _ => .step fun _ => ?_) fun _ => .pure (.ofValue hn.tidy)) stop hstop
      refine (gives_typeFirstArguments hs).bind fun args ha => (gives_call hn.tidy (by simp) ha).bind fun t ht => ?_
      exact .pure (.ofValue ht)
    case value =>
      have hw : ∀ w ∈ valueWords, ¬(w == "new" || w == "make") → w ∈ namingKinds := by decide
      have hk := hw w (List.contains_iff_mem.mp hv) hm
      exact Gives.pure (.ofValue (hl.isToken hc hk).tidy) stop hstop
    case name =>
      have hn := hl.isToken hc (by decide : "identifier" ∈ namingKinds)
      have ht := hn.withKind (by decide : "type_identifier" ∈ namingKinds)
      exact Gives.pure ⟨by simpa using hn.tidy, by simpa using ht.tidy, by simp⟩ stop hstop

theorem gives_operand (hs : ReadsPhrases text self) : Gives text (Operand.Tidy text) (operand self ends) := by
  have hq : Gives text (Operand.Tidy text) (do return { value? := some (← quoted) }) :=
    gives_quoted.bind fun t ht => .pure (.ofValue ht)
  refine .step fun _ => ?_
  split
  · exact gives_parenthesized hs
  · exact gives_typeOperand hs
  · exact gives_typeOperand hs
  · exact hq
  · exact hq
  · exact hq
  · refine .ite (fun _ => ?_) fun _ => gives_wordOperand hs
    exact gives_number.bind fun t ht => .pure (.ofValue ht)
  · exact .failure

instance steps_guardComes : Steps text (guardComes ends) :=
  inferInstanceAs (Steps text (do
    return (← ahead do
      token "." ends
      token "(" false
      keyword "type" false
      token ")" false).isSome))

theorem gives_selector {operand field : Tree} (ho : operand.Tidy text) (hf : field.Tidy text)
    (hk : field.kind = "field_identifier") :
    Gives text (Tidy text)
      (closeFrom operand "selector_expression" [operand.withRole "operand", field.withRole "field"]) := by
  intro c hc t c' h
  cases h
  exact ⟨hc, .selector hk ho hf⟩

theorem gives_afterDot {value : Tree} {type? : Option Tree} (hs : ReadsPhrases text self) (hv : value.Tidy text)
    (ht : ∀ t ∈ type?, t.Tidy text) : Gives text (Operand.Tidy text) (afterDot self value type?) := by
  refine .step fun _ => .step fun _ => .ite (fun _ => .step fun _ => ?assertion) fun _ => ?selector
  case assertion =>
    refine (hs.tidy _).bind fun type ht => .step fun _ =>
      (Gives.closeFrom (by decide) ?_).bind fun t ht => .pure (.ofValue ht)
    simp [hv, ht]
  case selector =>
    refine (gives_wordAs (by decide)).bind fun field hf =>
      (gives_selector hv hf.left.tidy hf.right).bind fun t ht' => ?_
    refine .pure ⟨by simpa using ht', fun q hq => ?_, by simp⟩
    obtain ⟨package, hp, rfl⟩ := Option.map_eq_some_iff.mp hq
    obtain ⟨hp, hk⟩ := Option.filter_eq_some_iff.mp hp
    have hp := (ht package hp).isToken (by simp_all [wordKinds])
    exact tidy_qualifiedType hp hf.left

theorem gives_indexOrSlice {x : Tree} (hs : ReadsPhrases text self) (hx : x.Tidy text) :
    Gives text (Tidy text) (indexOrSlice self x) := by
  refine .step fun _ => ?_
  extract_lets bound?
  have hb : Gives text (fun o => ∀ t ∈ o, t.Tidy text) bound? := by
    refine .step fun _ => .step fun _ => .ite (fun _ => .pureNone) fun _ => .step fun _ => ?_
    exact (hs.tidy _).bind fun t ht => .pureSome ht
  refine hb.bind fun start hstart => .step fun _ => .ite (fun _ => hb.bind fun stop hstop => ?slice) fun _ => ?index
  case slice =>
    extract_lets parts rest
    have hp : ∀ t ∈ parts, t.Tidy text := by
      refine List.forall_mem_append.mpr ⟨List.forall_mem_cons.mpr ⟨?_, tidy_toList_withRole hstart⟩, ?_⟩
      · exact tidy_withRole_iff.mpr hx
      · exact tidy_toList_withRole hstop
    have hr (capped : Bool) : Gives text (Tidy text) (rest capped) := by
      refine .ite (fun _ => .step fun _ => ?_) fun _ => .step fun _ => .closeFrom (by decide) hp
      refine (hs.tidy _).bind fun capacity hc => .step fun _ => .closeFrom (by decide) ?_
      exact List.forall_mem_append.mpr ⟨hp, by simpa using hc⟩
    exact .ite (fun _ => .step hr) fun _ => hr false
  case index =>
    cases start
    case none       => exact .failure
    case some index => exact .step fun _ => .closeFrom (by decide) (by simp [hx, hstart index rfl])

theorem exists_of_mem_mapM {f : Tree → Option Tree} {ts us : List Tree} {u : Tree} (h : ts.mapM f = some us)
    (hu : u ∈ us) : ∃ t ∈ ts, f t = some u := by
  induction ts generalizing us
  case nil =>
    cases h
    cases hu
  case cons t ts hi =>
    rw [List.mapM_cons] at h
    obtain ⟨v, hv, h⟩ := Option.bind_eq_some_iff.mp h
    obtain ⟨vs, hvs, h⟩ := Option.bind_eq_some_iff.mp h
    cases h
    rcases List.mem_cons.mp hu with rfl | hu
    · exact ⟨t, List.mem_cons_self, hv⟩
    · obtain ⟨t', ht', hf⟩ := hi hvs hu
      exact ⟨t', List.mem_cons_of_mem _ ht', hf⟩

theorem tidy_singleTypes? {types : Tree} {args : List Tree} (ht : types.Tidy text)
    (h : singleTypes? types = some args) :
    ∀ t ∈ args, t.Tidy text := by
  intro t hm
  obtain ⟨elem, he, hf⟩ := exists_of_mem_mapM h hm
  split at hf
  case h_1 type hc =>
    cases hf
    exact (ht.child he).child (by simp [hc])
  case h_2 => cases hf

theorem gives_afterBracket {x : Operand} (hs : ReadsPhrases text self) (hx : x.Tidy text) :
    Gives text (Operand.Tidy text) (afterBracket self x) := by
  refine .get fun start hc => ?_
  -- Each reading starts at the bracket again, and the place where it stops is kept with it.
  extract_lets from? type
  have hf (base : Option Tree) (r : Tree → Reader Tree) (hr : ∀ t ∈ base, Gives text (Tidy text) (r t)) :
      Gives text (fun o => ∀ p ∈ o, p.1.Tidy text ∧ p.2.Within text) (from? base r) := by
    refine .set hc ?_
    cases base
    case none   => exact .pureNone
    case some t => exact .attempt ((hr t rfl).bind fun u hu => .get fun c hc => .pure ⟨hu, hc⟩)
  have ht : ∀ t ∈ type, t.Tidy text := fun t hm => hx.type t (Option.filter_eq_some_iff.mp hm).left
  refine (hf _ _ fun t hm => gives_indexOrSlice hs (hx.value t hm)).bind fun index hindex => ?_
  refine (hf _ _ fun _ _ => gives_typeArguments hs).bind fun types hts => ?_
  refine (hf _ _ fun _ _ => gives_typeArguments hs).bind fun called hcalled => ?_
  split
  case h_1 => exact .failure
  case h_2 t stop ho =>
    have hstop : stop.Within text := by
      have ho : index.or (types.or called) = some (t, stop) := by simpa using ho
      rcases Option.or_eq_some_iff.mp ho with h | ⟨-, ho⟩
      · exact (hindex _ h).right
      rcases Option.or_eq_some_iff.mp ho with h | ⟨-, h⟩
      · exact (hts _ h).right
      · exact (hcalled _ h).right
    refine .set hstop ?_
    extract_lets rest
    have hr (instance? : Option Tree) (hi : ∀ t ∈ instance?, t.Tidy text) :
        Gives text (Operand.Tidy text) (rest instance?) := by
      refine .pure ⟨fun t hw => ?value, fun t hm => ?type, fun p hm => ?instance_⟩
      case value =>
        have hm := mem_of_weightiest? hw
        simp only [List.mem_append, Option.mem_toList, Option.map_eq_some_iff] at hm
        rcases hm with hm | ⟨p, hp, rfl⟩
        · exact hi t hm
        · exact (hindex p hp).left
      case type =>
        simp only [Option.mem_def, Option.bind_eq_some_iff, Option.map_eq_some_iff] at hm
        obtain ⟨base, hb, p, hp, rfl⟩ := hm
        exact tidy_genericType (ht base (Option.filter_eq_some_iff.mp hb).left) (hts p hp).left
      case instance_ =>
        simp only [Option.mem_def, Option.bind_eq_some_iff, Option.map_eq_some_iff] at hm
        obtain ⟨function, hf, p, hp, rfl⟩ := hm
        exact ⟨hx.value function hf, (hcalled p hp).left⟩
    split
    case h_1 base args hb ha =>
      obtain ⟨p, hp, ha⟩ := Option.bind_eq_some_iff.mp ha
      have hb := ht base hb
      refine .bind (.map (.closeFrom (by decide) ?_) fun t ht => by simpa using ht) hr
      exact List.forall_mem_cons.mpr ⟨tidy_withRole_iff.mpr hb, tidy_singleTypes? (hts p hp).left ha⟩
    case h_2 => exact hr none (by simp)

theorem gives_afterParenthesis {x : Operand} (hs : ReadsPhrases text self) (hx : x.Tidy text) :
    Gives text (Operand.Tidy text) (afterParenthesis self x) := by
  refine (gives_arguments hs).bind fun found hfound => ?_
  obtain ⟨list, args⟩ := found
  obtain ⟨hl, ha⟩ := hfound
  dsimp -zeta only at hl ha ⊢
  extract_lets rest
  have hr (conversion : Option Tree) (hc : ∀ t ∈ conversion, t.Tidy text) :
      Gives text (Operand.Tidy text) (rest conversion) := by
    refine .bind (.mapM (Q := Tidy text) fun p hp => ?typed) fun typedCall ht => ?_
    case typed =>
      obtain ⟨hf, ht⟩ := hx.instance_ p hp
      exact gives_call hf (by simpa using ht) hl
    refine .bind (.mapM fun function hf => gives_call (hx.value function hf) (by simp) hl) fun plainCall hp => ?_
    split
    case h_1 => exact .failure
    case h_2 value hw =>
      have hm := mem_of_weightiest? hw
      simp only [List.mem_append, Option.mem_toList] at hm
      refine .pure (.ofValue ?_)
      rcases hm with (hm | hm) | hm
      · exact hc value hm
      · exact hp value hm
      · exact ht value hm
  split
  case h_1 type operand ht =>
    refine .ite (fun _ => hr none (by simp)) fun _ => .ite (fun _ => hr none (by simp)) fun _ => ?_
    refine .bind (.map (.closeFrom (by decide) ?_) fun t ht => by simpa using ht) hr
    simp [hx.type type ht, ha (operand, false)]
  case h_2 => exact hr none (by simp)

instance steps_literalComes {plain : Bool} : Steps text (literalComes self ctx plain) := by
  refine ⟨.step fun _ => .ite (fun _ => .pure trivial) fun _ => .ite (fun _ => .pure trivial) fun _ => ?_⟩
  exact .ite (fun _ => .pure trivial) fun _ => .step fun _ => .pure trivial

theorem gives_acrossLines? {x : Operand} (hs : ReadsPhrases text self) (hx : x.Tidy text) :
    Gives text (fun o => ∀ y ∈ o, y.Tidy text) (acrossLines? self ctx x) := by
  refine .attempt ?_
  extract_lets type y stands called
  have ht : ∀ t ∈ type, t.Tidy text := fun t hm => hx.type t (Option.filter_eq_some_iff.mp hm).left
  have hy : y.Tidy text := ⟨by simp [y], ht, hx.instance_⟩
  have hc : Gives text (Operand.Tidy text) (called ()) := gives_afterParenthesis hs hy
  have steps (phrase : Phrase) : Steps text (stands phrase) :=
    inferInstanceAs (Steps text (do
      return (← ahead do
        let _ ← self phrase
        require (← statementEnds)).isSome))
  refine .step fun _ => .step fun _ => .step fun _ => ?_
  split
  case h_1 type' _ heq _ => exact gives_composite hs (ht type' heq)
  · refine .step fun _ => ?_
    exact .ite (fun _ => .step fun _ => .ite (fun _ => .step fun _ => .step fun _ => hc) fun _ => hc) fun _ => hc
  · exact .step fun _ => .step fun _ => gives_afterBracket hs hy
  · exact .failure

theorem gives_suffix? {x : Operand} (hs : ReadsPhrases text self) (hx : x.Tidy text) :
    Gives text (fun o => ∀ y ∈ o, y.Tidy text) (suffix? self ctx x) := by
  unfold suffix?
  extract_lets ends last rest
  have hl : Gives text (fun o => ∀ y ∈ o, y.Tidy text) (last ()) :=
    .ite (fun _ => gives_acrossLines? hs hx) fun _ => .pureNone
  have hr : Gives text (fun o => ∀ y ∈ o, y.Tidy text) (rest ()) := by
    refine .step fun _ => .ite (fun _ => .step fun _ => ?_) fun _ => .step fun _ =>
      .ite (fun _ => .step fun _ => ?_) fun _ => ?_
    · exact (gives_afterParenthesis hs hx).bind fun y hy => .pureSome hy
    · exact (gives_afterBracket hs hx).bind fun y hy => .pureSome hy
    split
    case h_1 => exact hl
    case h_2 type ht =>
      extract_lets literal
      have hc (starts : Bool) : Gives text (fun o => ∀ y ∈ o, y.Tidy text) (literal starts) := by
        refine .ite (fun _ => .step fun _ => ?_) fun _ => hl
        exact (gives_composite hs (hx.type type ht)).bind fun y hy => .pureSome hy
      exact .ite (fun _ => .step hc) fun _ => .ite (fun _ => .step hc) fun _ => hc false
  split
  case h_1 => exact hr
  case h_2 value hv =>
    refine .step fun _ => .ite (fun _ => ?_) fun _ => hr
    refine .step fun _ => .step fun _ => .ite (fun _ => .pureNone) fun _ => ?_
    exact .step fun _ => (gives_afterDot hs (hx.value value hv) hx.type).bind fun y hy => .pureSome hy

theorem gives_suffixes {x : Operand} (hs : ReadsPhrases text self) (hx : x.Tidy text) :
    Gives text (Tidy text) (suffixes self ctx x) := by
  refine .bind (.iterate (fun y hy => gives_suffix? hs hy) hx) fun y hy => ?_
  split
  case h_1          => exact .failure
  case h_2 value hv => exact .pure (hy.value value hv)

theorem gives_primary (hs : ReadsPhrases text self) : Gives text (Tidy text) (primary self ctx) :=
  (gives_operand hs).bind fun _ hx => gives_suffixes hs hx

instance steps_unaryOperator? : Steps text unaryOperator? := by
  refine ⟨.step fun c => ?_⟩
  dsimp only
  split
  · exact .pure trivial
  · exact .step fun _ => .pure trivial

-- A star only changes what stands at the front of a tree.
theorem tidy_starType? {star : Extent} {t t' : Tree} (ht : t.Tidy text) (h : starType? star t = some t') :
    t'.Tidy text ∧ t'.kind = t.kind ∧ t'.role = t.role := by
  fun_induction starType? star t generalizing t'
  case case1 kind role extent first rest _ hk pointer =>
    cases h
    have hs : kind ∉ strictKinds := by
      simp only [Bool.or_eq_true, beq_iff_eq] at hk
      rcases hk with rfl | rfl <;> decide
    have hp : pointer.Tidy text := .node (by decide) (by simpa using ht.child List.mem_cons_self)
    refine ⟨.node hs (List.forall_mem_cons.mpr ⟨hp, fun c hc => ?_⟩), rfl, rfl⟩
    exact ht.child (List.mem_cons_of_mem _ hc)
  case case2 first _ _ _ _ hi =>
    obtain ⟨first', hf, rfl⟩ := Option.map_eq_some_iff.mp h
    obtain ⟨hf, hk, hr⟩ := hi (ht.child List.mem_cons_self) hf
    exact ⟨tidy_changeFirst ht hf hk hr, rfl, rfl⟩
  all_goals cases h

theorem gives_unary (hs : ReadsPhrases text self) : Gives text (Tidy text) (unary self ctx) := by
  refine .step fun start => .step fun _ => .ite (fun _ => ?_) fun _ => .step fun op => ?_
  · exact (gives_typeOperand hs).bind fun x hx => gives_suffixes hs hx
  cases op
  case none    => exact gives_primary hs
  case some op =>
    refine .step fun _ => (hs.tidy _).bind fun operand ho =>
      (Gives.close (by decide) (by simpa using ho)).bind fun t ht => ?_
    refine .ite (fun _ => .pure ?_) fun _ => .pure ht
    cases hp : starType? t.extent operand
    case none   => exact ht
    case some u => exact (tidy_starType? ho hp).left

instance steps_binaryOperator? : Steps text (binaryOperator? ctx) := by
  unfold binaryOperator?
  infer_instance

theorem gives_binary (hs : ReadsPhrases text self) (levels : List (List String)) :
    Gives text (Tidy text) (binary self ctx levels) := by
  induction levels generalizing ctx
  case nil => exact gives_unary hs
  case cons level levels hi =>
    refine hi.bind fun first hf => .iterate (fun left hl => .step fun op => ?_) hf
    cases op
    case none    => exact .pureNone
    case some op =>
      refine .ite (fun _ => .pureNone) fun _ => .step fun _ => .step fun _ => hi.bind fun right hr => ?_
      exact (Gives.closeFrom (by decide) (by simp [hl, hr])).bind fun t ht => .pureSome ht

theorem gives_expression (hs : ReadsPhrases text self) : Gives text (Tidy text) (expression self ctx) :=
  gives_binary hs _

theorem gives_moreOf {first : Tree} (hs : ReadsPhrases text self) (hf : first.Tidy text) :
    Gives text (Tidy text) (moreOf self ends first) := by
  refine .step fun _ => ?_
  extract_lets list
  have hl (rest : List Tree) (hr : ∀ t ∈ rest, t.Tidy text) : Gives text (Tidy text) (list rest) :=
    .closeFrom (by decide) (List.forall_mem_cons.mpr ⟨hf, hr⟩)
  exact .ite (fun _ => (gives_manyAfter (hs.tidy _)).bind hl) fun _ => hl [] (by simp)

theorem gives_expressionList (hs : ReadsPhrases text self) :
    Gives text (fun t => t.Tidy text ∧ t.kind = "expression_list") (expressionList self ctx) := by
  refine (gives_commaSeparated (hs.tidy _) _).bind fun es he => ?_
  cases es
  case nil       => exact .failure
  case cons e es => exact .closeFromAs (by decide) he

end ExpressionPhrase

end ErrorOrigins.Go
