import ErrorOrigins.Proofs.Go.Reading
import Mathlib.Data.List.TakeWhile

namespace ErrorOrigins.Go

variable {text : String} {α β : Type} {P : α → Prop} {c c' : Cursor}

open Reader

namespace Lexeme

instance steps_blanks (ends : Bool) : Steps text (blanks ends) := by
  refine ⟨.iterate (fun _ _ => .get fun c hc => ?_) trivial⟩
  have hn (n : Nat) : (c.advance n).Within text := hc.advance n
  split
  case h_1 => exact .pure (fun _ _ => trivial)
  case h_2 ch _ _ =>
    refine .ite (fun _ => .set (hn 1) (.pure fun _ _ => trivial)) fun _ => ?_
    split
    case h_1 => exact .pure (fun _ _ => trivial)
    case h_2 n _ =>
      refine .set ⟨(hn n).rest, ?_⟩ (.pure fun _ _ => trivial)
      obtain ⟨places, hp⟩ := (hn n).comments
      exact ⟨c.extentTo (c.advance n) :: places, congrArg (List.cons _) hp⟩

instance steps_token (s : String) (ends : Bool) : Steps text (token s ends) :=
  inferInstanceAs (Steps text (do blanks ends; exactly s))

instance steps_token? (s : String) (ends : Bool) : Steps text (token? s ends) :=
  inferInstanceAs (Steps text (do return (← attempt (token s ends)).isSome))

instance steps_tokenBut? (s follow : String) (ends : Bool) : Steps text (tokenBut? s follow ends) :=
  inferInstanceAs (Steps text (do
    return (← attempt do
      token s ends
      require (!(← startsWith follow.toList))).isSome))

instance steps_comes (s : String) (ends : Bool) : Steps text (comes s ends) :=
  inferInstanceAs (Steps text (do return (← ahead (token s ends)).isSome))

instance steps_terminator : Steps text terminator := by
  refine ⟨.get fun start hs => .step fun _ => .get fun c hc => ?_⟩
  split
  case h_1 => exact .pure trivial
  case h_2 => exact .ite (fun _ => .step fun _ => .pure trivial) fun _ => .set hs (.pure trivial)

-- Nothing between the two places is a newline.
def SameLine (c c' : Cursor) : Prop :=
  ∃ n, c' = c.advance n ∧ '\n' ∉ c.rest.take n

theorem sameLine_word {w : String} (h : word c = some (w, c')) : SameLine c c' := by
  have hs : Text.isIdentifierStart '\n' = false := by decide +kernel
  have hp : Text.isIdentifierPart '\n' = false := by decide +kernel
  obtain ⟨_, _, hg, h⟩ := bind_eq_some_iff.mp h
  cases hg
  cases hr : c.rest
  case nil =>
    simp only [hr] at h
    cases h
  case cons ch rest =>
    simp only [hr] at h
    split_ifs at h with hi
    case neg => cases h
    case pos =>
      cases h
      refine ⟨_, rfl, ?_⟩
      rw [hr, List.take_succ_cons, ← List.prefix_iff_eq_take.mp (List.takeWhile_prefix _), List.mem_cons]
      rintro (rfl | hm)
      · exact absurd hi (by simp [hs])
      · exact absurd (List.mem_takeWhile_imp hm) (by simp [hp])

instance steps_word : Steps text word := by
  refine ⟨fun c hc w c' h => ⟨?_, trivial⟩⟩
  obtain ⟨n, rfl, -⟩ := sameLine_word h
  exact hc.advance n

instance steps_nextWord? (ends : Bool) : Steps text (nextWord? ends) :=
  inferInstanceAs (Steps text (ahead do blanks ends; word))

instance steps_keyword (s : String) (ends : Bool) : Steps text (keyword s ends) :=
  inferInstanceAs (Steps text (do blanks ends; let w ← word; require (w == s)))

instance steps_keyword? (s : String) (ends : Bool) : Steps text (keyword? s ends) :=
  inferInstanceAs (Steps text (do return (← attempt do blanks ends; let w ← word; require (w == s)).isSome))

theorem SameLine.oneLine (h : SameLine c c') (hc : c.Within text) : OneLine (sliceBytes text c.offset c'.offset) := by
  obtain ⟨n, rfl, hn⟩ := h
  exact hc.oneLine_slice hn

-- A leaf from one place of a line to another.
theorem SameLine.isToken {kind : String} (h : SameLine c c') (hc : c.Within text) (hk : kind ∈ Tree.namingKinds) :
    (Tree.node kind none (c.extentTo c') []).IsToken text :=
  Tree.isToken_leaf hk (h.oneLine hc)

theorem givesFrom_word {f : String → Reader β} {Q : β → Prop} (hc : c.Within text)
    (h : ∀ w c', c'.Within text → SameLine c c' → GivesFrom text c' Q (f w)) : GivesFrom text c Q (word >>= f) := by
  intro b c'' hb
  obtain ⟨w, c', hw, hb⟩ := bind_eq_some_iff.mp hb
  have hc' := (steps_word.gives c hc w c' hw).left
  exact h w c' hc' (sameLine_word hw) b c'' hb

theorem gives_wordAs {kind : String} (hk : kind ∈ Tree.namingKinds) :
    Gives text (fun t => t.IsToken text ∧ t.kind = kind) (wordAs kind) := by
  intro c hc
  refine .get (givesFrom_word hc fun w c' hc' hs t c'' h => ?_)
  cases h
  exact ⟨hc', hs.isToken hc hk, rfl⟩

namespace Lengths

variable {a b : Lengths}

-- No text that is taken has a newline in it.
def OnLine (a : Lengths) : Prop :=
  ∀ text, ∀ n ∈ a text, '\n' ∉ text.take n

theorem onLine_char {p : Char → Bool} (h : p '\n' = false) : OnLine (char p) := by
  intro text n hn
  cases text
  case nil => simp
  case cons ch rest =>
    rw [char] at hn
    split_ifs at hn with hp
    case neg => cases hn
    case pos =>
      obtain rfl := List.mem_singleton.mp hn
      simp only [List.take_succ_cons, List.take_zero, List.mem_singleton]
      rintro rfl
      rw [h] at hp
      cases hp

theorem not_mem_take_digitsLength {isDigit : Char → Bool} (h : isDigit '\n' = false) (text : List Char) :
    '\n' ∉ text.take (digitsLength isDigit text) := by
  have hne {ch : Char} (hd : isDigit ch) : ch ≠ '\n' := by
    rintro rfl
    simp [h] at hd
  have hm (text : List Char) : '\n' ∉ text.take (digitsLength.more isDigit text) := by
    fun_induction digitsLength.more isDigit text
    case case1 ch rest hd hi   => simp [(hne hd).symm, hi]
    case case3 ch rest _ hd hi => simp [(hne hd).symm, hi]
    all_goals simp
  cases text
  case nil => simp
  case cons ch rest =>
    rw [digitsLength]
    split_ifs with hd
    case neg => simp
    case pos => simp [(hne hd).symm, hm rest]

theorem onLine_digits {isDigit : Char → Bool} (h : isDigit '\n' = false) : OnLine (digits isDigit) := by
  intro text n hn
  have hd := not_mem_take_digitsLength h text
  rw [digits] at hn
  split at hn
  case h_1 => cases hn
  case h_2 m hm =>
    obtain rfl := List.mem_singleton.mp hn
    rwa [hm] at hd

theorem OnLine.seq (ha : OnLine a) (hb : OnLine b) : OnLine (a.seq b) := by
  intro text n hn
  simp only [Lengths.seq, List.mem_flatMap, List.mem_map] at hn
  obtain ⟨i, hi, j, hj, rfl⟩ := hn
  rw [List.take_add, List.mem_append]
  exact not_or.mpr ⟨ha text i hi, hb (text.drop i) j hj⟩

theorem OnLine.alt (ha : OnLine a) (hb : OnLine b) : OnLine (a.alt b) :=
  fun text n hn => (List.mem_append.mp hn).elim (ha text n) (hb text n)

theorem OnLine.optional (ha : OnLine a) : OnLine a.optional := by
  intro text n hn
  rcases List.mem_append.mp hn with hn | hn
  · exact ha text n hn
  · obtain rfl := List.mem_singleton.mp hn
    simp

theorem OnLine.longest (ha : OnLine a) (text : List Char) : '\n' ∉ text.take (a.longest text) := by
  suffices h : ∀ (ns : List Nat) (m : Nat), '\n' ∉ text.take m → (∀ n ∈ ns, '\n' ∉ text.take n) →
      '\n' ∉ text.take (ns.foldl max m) from h (a text) 0 (by simp) (ha text)
  intro ns
  induction ns
  case nil => exact fun m hm _ => hm
  case cons n ns hi =>
    intro m hm hns
    rw [List.forall_mem_cons] at hns
    refine hi (max m n) ?_ hns.right
    rcases max_choice m n with he | he <;> rw [he]
    · exact hm
    · exact hns.left

end Lengths

open Lengths in
theorem onLine_exponent {marks : Char → Bool} (h : marks '\n' = false) : OnLine (exponent marks) :=
  (onLine_char h).seq ((onLine_char rfl).optional.seq (onLine_digits rfl))

open Lengths in
theorem onLine_intLengths : OnLine intLengths := by
  have hz : OnLine (char (· = '0')) := onLine_char rfl
  have hl : OnLine (char (· = '_')).optional := (onLine_char rfl).optional
  have hb {marks isDigit : Char → Bool} (hm : marks '\n' = false) (hd : isDigit '\n' = false) :
      OnLine ((char (· = '0')).seq ((char marks).seq ((char (· = '_')).optional.seq (digits isDigit)))) :=
    hz.seq ((onLine_char hm).seq (hl.seq (onLine_digits hd)))
  exact (hb rfl rfl).alt <| (hb rfl rfl).alt <|
    (hz.seq ((onLine_char rfl).optional.seq (hl.seq (onLine_digits rfl)))).alt <|
    hz.alt ((onLine_char rfl).seq (hl.seq (onLine_digits rfl)).optional)

open Lengths in
theorem onLine_floatLengths : OnLine floatLengths := by
  have hd : OnLine (char (· = '.')) := onLine_char rfl
  have ht : OnLine (exponent fun c => c = 'e' || c = 'E') := onLine_exponent rfl
  have hn : OnLine (digits isDecimal) := onLine_digits rfl
  have hx : OnLine (digits isHex) := onLine_digits rfl
  have hh : OnLine ((char (· = '_')).optional.seq (digits isHex)) := (onLine_char rfl).optional.seq hx
  have hm : OnLine ((char (· = '0')).seq (char fun c => c = 'x' || c = 'X')) := (onLine_char rfl).seq (onLine_char rfl)
  exact (hn.seq (hd.seq (hn.optional.seq ht.optional))).alt <| (hn.seq ht).alt <|
    (hd.seq (hn.seq ht.optional)).alt <|
    hm.seq (((hh.seq (hd.seq hx.optional)).alt (hh.alt (hd.seq hx))).seq (onLine_exponent rfl))

open Lengths in
theorem onLine_imaginaryLengths : OnLine imaginaryLengths :=
  ((onLine_digits rfl).alt (onLine_intLengths.alt onLine_floatLengths)).seq (onLine_char rfl)

theorem gives_number : Gives text (Tree.Tidy text) number := by
  intro c hc
  refine .get (.require fun _ t c' h => ?_)
  cases h
  refine ⟨hc.advance _, .token ?kind (hc.oneLine_slice ?line)⟩
  case kind =>
    split_ifs <;> decide
  case line =>
    have hi := onLine_intLengths.longest c.rest
    have hf := onLine_floatLengths.longest c.rest
    have hm := onLine_imaginaryLengths.longest c.rest
    rcases max_choice (floatLengths.longest c.rest) (imaginaryLengths.longest c.rest) with he | he <;> rw [he]
    all_goals
      rcases max_choice (intLengths.longest c.rest) _ with he | he <;> rw [he] <;> assumption

theorem isChain_take_stringLength? {chars : List Char} {n : Nat} (h : stringLength? chars = some n) (a : Char) :
    (a :: chars.take n).IsChain fun a b => b = '\n' → a = '\\' := by
  fun_induction stringLength? chars generalizing n a
  case case1 =>
    cases h
    simp
  case case3 c rest _ hi =>
    obtain ⟨m, hm, rfl⟩ := Option.map_eq_some_iff.mp h
    simpa using hi hm c
  case case6 ch rest _ hn _ _ hi =>
    obtain ⟨m, hm, rfl⟩ := Option.map_eq_some_iff.mp h
    refine List.isChain_cons_cons.mpr ⟨fun hc => ?_, hi hm ch⟩
    exact absurd hc hn
  all_goals cases h

theorem not_mem_of_all {p : Char → Bool} {chars : List Char} (hp : p '\n' = false) (h : chars.all p) :
    '\n' ∉ chars := by
  intro hm
  simpa [hp] using List.all_eq_true.mp h _ hm

theorem not_mem_take_runeEscapeLength? {chars : List Char} {n : Nat} (h : runeEscapeLength? chars = some n) :
    '\n' ∉ chars.take n := by
  cases chars
  case nil => simp
  case cons c rest =>
    have hn {m : Nat} (hc : c ≠ '\n') (hr : '\n' ∉ rest.take m) : '\n' ∉ (c :: rest).take (m + 1) := by
      simp [hc.symm, hr]
    rw [runeEscapeLength?] at h
    dsimp only at h
    split_ifs at h with hd ha ho ha hc
    all_goals cases h
    · refine hn (fun hc => ?_) (not_mem_of_all rfl (Bool.and_eq_true_iff.mp ha).right)
      exact absurd (hc ▸ hd) (by decide)
    · refine hn (fun hc => ?_) (not_mem_of_all rfl (Bool.and_eq_true_iff.mp ha).right)
      exact absurd (hc ▸ ho) (by decide)
    · refine hn (fun he => ?_) (by simp)
      exact absurd (he ▸ hc) (by decide)

theorem take_runeLength? {chars : List Char} {n : Nat} (h : runeLength? chars = some n) :
    chars.take n = ['\n', '\''] ∨ '\n' ∉ chars.take n := by
  unfold runeLength? at h
  split at h
  case h_1 rest =>
    obtain ⟨m, hm, h⟩ := Option.bind_eq_some_iff.mp h
    split_ifs at h with hq
    cases h
    have hn := not_mem_take_runeEscapeLength? hm
    have ht : ('\\' :: rest).take (m + 2) = '\\' :: rest.take m ++ ['\''] := by
      rw [List.take_succ_cons, List.take_add_one, hq]
      rfl
    exact .inr (by simp [ht, hn])
  case h_3 c rest _ _ =>
    cases h
    by_cases hc : c = '\n'
    case pos => exact .inl (by simp [hc])
    case neg => exact .inr (by simp [Ne.symm hc])
  all_goals cases h

theorem gives_quoted : Gives text (Tree.Tidy text) quoted := by
  intro c hc
  refine .get ?_
  extract_lets found
  have hf (kind : String) (n? : Option Nat) (hk : kind ∈ Tree.quotedKinds)
      (hw : ∀ n ∈ n?, ∀ literal ∈ Tree.literalKind? kind, literal.Wraps (String.ofList (c.rest.take (n + 1)))) :
      GivesFrom text c (Tree.Tidy text) (found (kind, n?)) := by
    cases n?
    case none   => exact Gives.failure c hc
    case some n =>
      intro t c' h
      cases h
      refine ⟨hc.advance _, .quoted hk fun literal hl => ?_⟩
      rcases List.mem_cons.mp (hc.slice (n + 1)) with hs | hs
      · exact hs ▸ hw n rfl literal hl
      · exact .oneLine (List.mem_singleton.mp hs ▸ by decide)
  split
  case h_1 rest hr =>
    refine hf _ _ (by decide) fun n hn literal hl => ?_
    cases hl
    refine .escaped (by simp [hr]) ?_
    simpa [hr] using isChain_take_stringLength? hn '"'
  case h_2 rest hr =>
    refine hf _ _ (by decide) fun n hn literal hl => ?_
    cases hl
    exact .raw (by simp [hr])
  case h_3 rest hr =>
    refine hf _ _ (by decide) fun n hn literal hl => ?_
    cases hl
    rw [hr, List.take_succ_cons]
    rcases take_runeLength? hn with hn | hn
    · rw [hn]
      exact .rune
    · exact .oneLine (by simpa [OneLine] using hn)
  case h_4 => exact Gives.failure c hc

theorem gives_stringLiteral : Gives text (Tree.Tidy text) stringLiteral :=
  gives_quoted.bind fun _ ht => .step fun _ => .pure ht

end Lexeme

open Lexeme

section Items

variable {item : Reader α}

-- Items after the first one, each after something that separates it from the one before.
theorem gives_manyAfter {separator : Reader Bool} [Steps text separator] (h : Gives text P item) :
    Gives text (fun as => ∀ a ∈ as, P a) (many do
      if ← separator then
        blanks false
        return some (← item)
      else return none) :=
  .many (.step fun _ => .ite (fun _ => .step fun _ => h.bind fun _ ha => .pureSome ha) fun _ => .pureNone)

theorem gives_commaSeparated (h : Gives text P item) (ends : Bool) :
    Gives text (fun as => ∀ a ∈ as, P a) (commaSeparated item ends) :=
  h.bind fun _ hf => (gives_manyAfter h).bind fun _ hr => .pure (List.forall_mem_cons.mpr ⟨hf, hr⟩)

theorem gives_commaTerminatedAfter {item : Option α → Reader α} (h : ∀ previous, Gives text P (item previous))
    (closing : String) : Gives text (fun as => ∀ a ∈ as, P a) (commaTerminatedAfter item closing) := by
  refine (h none).bind fun first hf => .bind (.iterate (P := fun as => ∀ a ∈ as, P a) (fun items hi => ?more) ?first)
    fun items hi => .step fun _ => .pure (by simpa using hi)
  case first => simpa using hf
  case more =>
    refine .step fun _ => .ite (fun _ => .step fun _ => .ite (fun _ => .pureNone) fun _ => ?_) fun _ => .pureNone
    exact .step fun _ => (h _).bind fun a ha => .pureSome (List.forall_mem_cons.mpr ⟨ha, hi⟩)

theorem gives_commaTerminated (h : Gives text P item) (closing : String) :
    Gives text (fun as => ∀ a ∈ as, P a) (commaTerminated item closing) :=
  gives_commaTerminatedAfter (fun _ => h) closing

theorem gives_commaClosedAfter {item : Option α → Reader α} (h : ∀ previous, Gives text P (item previous))
    (closing : String) : Gives text (fun as => ∀ a ∈ as, P a) (commaClosedAfter item closing) := by
  have hn : ∀ a ∈ ([] : List α), P a := by simp
  refine .step fun _ => .ite (fun _ => .pure hn) fun _ => .step fun _ => .ite (fun _ => ?_) fun _ => ?_
  · exact .step fun _ => .pure hn
  · exact .step fun _ => gives_commaTerminatedAfter h closing

theorem gives_commaClosed (h : Gives text P item) (closing : String) :
    Gives text (fun as => ∀ a ∈ as, P a) (commaClosed item closing) :=
  gives_commaClosedAfter (fun _ => h) closing

theorem gives_terminated (h : Gives text P item) (closing : String) :
    Gives text (fun as => ∀ a ∈ as, P a) (terminated item closing) := by
  refine .bind (.iterate (P := fun s => ∀ a ∈ s.1, P a) (fun (items, more) hi => ?more) (by simp))
    fun s hs => .step fun _ => .pure (by simpa using hs)
  case more =>
    refine .ite (fun _ => .pureNone) fun _ => .step fun _ => .ite (fun _ => .pureNone) fun _ => .step fun _ => ?_
    exact h.bind fun a ha => .step fun _ => .pureSome (List.forall_mem_cons.mpr ⟨ha, hi⟩)

end Items

instance steps_clauseEnds (ends : Bool) : Steps text (clauseEnds ends) := by
  refine ⟨.step fun _ => .ite (fun _ => .pure trivial) fun _ => .step fun w => ?_⟩
  cases w <;> exact .pure trivial

instance steps_statementEnds : Steps text statementEnds :=
  inferInstanceAs (Steps text (do
    if (← ahead (do require (← terminator))).isSome then return true
    clauseEnds true))

end ErrorOrigins.Go
