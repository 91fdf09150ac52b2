import ErrorOrigins.Go.Phrase
import ErrorOrigins.Proofs.Go.Comments
import ErrorOrigins.Proofs.Go.Tidy
import Mathlib.Data.String.Basic

namespace ErrorOrigins.Go

variable {text : String} {α β : Type} {P : α → Prop} {Q : β → Prop} {c c' : Cursor}

namespace Cursor

-- The cursor is at some place in the text, and the comments it has met are comments.
structure Within (text : String) (c : Cursor) : Prop where
  rest     : ∃ before, text.toList = before ++ c.rest ∧ c.offset = String.utf8Len before
  comments : ∃ places : List Extent, c.comments = places.map Tree.comment

theorem within_ofChars (text : String) : (ofChars text.toList).Within text :=
  ⟨⟨[], rfl, rfl⟩, ⟨[], rfl⟩⟩

theorem next_of_cons {ch : Char} {rest : List Char} (h : c.rest = ch :: rest) :
    c.next.rest = rest ∧ c.next.offset = c.offset + ch.utf8Size ∧ c.next.comments = c.comments := by
  rw [next, h]
  dsimp only
  split_ifs <;> exact ⟨rfl, rfl, rfl⟩

theorem next_of_nil (h : c.rest = []) : c.next = c := by
  rw [next, h]

theorem advance_eq (n : Nat) (c : Cursor) :
    (c.advance n).rest = c.rest.drop n ∧ (c.advance n).offset = c.offset + String.utf8Len (c.rest.take n) ∧
      (c.advance n).comments = c.comments := by
  induction n generalizing c
  case zero => simp [advance]
  case succ n hi =>
    obtain ⟨hr, ho, hc⟩ := hi c.next
    rw [advance]
    cases h : c.rest
    case nil =>
      rw [next_of_nil h] at hr ho hc ⊢
      simp [hr, ho, hc, h]
    case cons ch rest =>
      obtain ⟨hr', ho', hc'⟩ := next_of_cons h
      rw [hr'] at hr ho
      refine ⟨hr, ?_, hc.trans hc'⟩
      rw [ho, ho', List.take_succ_cons, String.utf8Len_cons]
      omega

theorem Within.advance (h : c.Within text) (n : Nat) : (c.advance n).Within text := by
  obtain ⟨before, ht, ho⟩ := h.rest
  obtain ⟨hr', ho', hc'⟩ := advance_eq n c
  refine ⟨⟨before ++ c.rest.take n, ?_, ?_⟩, hc' ▸ h.comments⟩
  · rw [hr', List.append_assoc, List.take_append_drop, ht]
  · rw [ho', ho, String.utf8Len_append]

-- The text between two places on the way of a cursor. A range that splits a character would have none.
theorem Within.slice (h : c.Within text) (n : Nat) :
    sliceBytes text c.offset (c.advance n).offset ∈ [String.ofList (c.rest.take n), ""] := by
  obtain ⟨before, ht, ho⟩ := h.rest
  have hs : text = String.ofList (before ++ c.rest.take n ++ c.rest.drop n) := by
    rw [List.append_assoc, List.take_append_drop, ← ht, String.ofList_toList]
  rw [sliceBytes, (advance_eq n c).right.left, ho]
  split_ifs
  case pos =>
    rw [hs, String.extract_of_valid]
    exact List.mem_cons_self
  case neg => simp

theorem Within.oneLine_slice {n : Nat} (h : c.Within text) (hn : '\n' ∉ c.rest.take n) :
    OneLine (sliceBytes text c.offset (c.advance n).offset) := by
  rcases List.mem_cons.mp (h.slice n) with hs | hs
  · rw [hs, OneLine, String.toList_ofList]
    exact hn
  · rw [List.mem_singleton.mp hs]
    decide

end Cursor

namespace Reader

variable {r s : Reader α} {f : α → Reader β}

-- From the given place the reader stops within the text, if at all, and what it gives has the property.
def GivesFrom (text : String) (c : Cursor) (P : α → Prop) (r : Reader α) : Prop :=
  ∀ a c', r c = some (a, c') → c'.Within text ∧ P a

def Gives (text : String) (P : α → Prop) (r : Reader α) : Prop :=
  ∀ c, c.Within text → GivesFrom text c P r

-- The reader stays within the text. What it gives does not matter.
class Steps (text : String) (r : Reader α) : Prop where
  gives : Gives text (fun _ => True) r

theorem bind_eq_some_iff {b : β} {c'' : Cursor} :
    (r >>= f) c = some (b, c'') ↔ ∃ a c', r c = some (a, c') ∧ f a c' = some (b, c'') := by
  have hb : (r >>= f) c = (r c).bind fun p => f p.1 p.2 := rfl
  rw [hb, Option.bind_eq_some_iff, Prod.exists]

theorem GivesFrom.bind (h : GivesFrom text c P r) (hf : ∀ a c', c'.Within text → P a → GivesFrom text c' Q (f a)) :
    GivesFrom text c Q (r >>= f) := by
  intro b c'' hb
  obtain ⟨a, c', ha, hb⟩ := bind_eq_some_iff.mp hb
  obtain ⟨hc', hp⟩ := h a c' ha
  exact hf a c' hc' hp b c'' hb

theorem GivesFrom.ite {p : Prop} [Decidable p] (h : p → GivesFrom text c P r) (h' : ¬p → GivesFrom text c P s) :
    GivesFrom text c P (if p then r else s) := by
  split_ifs with hp
  · exact h hp
  · exact h' hp

theorem GivesFrom.require {b : Bool} {f : Unit → Reader β} (h : b → GivesFrom text c Q (f ())) :
    GivesFrom text c Q (require b >>= f) := by
  cases b
  case false => intro _ _ hb; cases hb
  case true  => exact h rfl

theorem GivesFrom.ahead {f : Option α → Reader β} (h : ∀ o, GivesFrom text c Q (f o)) :
    GivesFrom text c Q (ahead r >>= f) := by
  intro b c'' hb
  obtain ⟨o, c', ho, hf⟩ := bind_eq_some_iff.mp hb
  obtain rfl : c' = c := by
    rw [Reader.ahead] at ho
    split at ho <;> cases ho <;> rfl
  exact h o b c'' hf

theorem GivesFrom.get {f : Cursor → Reader β} (h : GivesFrom text c Q (f c)) : GivesFrom text c Q (get >>= f) :=
  h

-- A node that is made on the way ends where the reader is.
theorem GivesFrom.close {start : Cursor} {kind : String} {children : List Tree} {f : Tree → Reader β}
    (h : GivesFrom text c Q (f (.node kind none (start.extentTo c) children))) :
    GivesFrom text c Q (close start kind children >>= f) :=
  h

namespace Gives

theorem bind (h : Gives text P r) (hf : ∀ a, P a → Gives text Q (f a)) : Gives text Q (r >>= f) :=
  fun c hc => (h c hc).bind fun a c' hc' hp => hf a hp c' hc'

theorem mono {P' : α → Prop} (h : Gives text P r) (hp : ∀ a, P a → P' a) : Gives text P' r := by
  intro c hc a c' ha
  obtain ⟨hc', h⟩ := h c hc a c' ha
  exact ⟨hc', hp a h⟩

theorem step [h : Steps text r] (hf : ∀ a, Gives text Q (f a)) : Gives text Q (r >>= f) :=
  h.gives.bind fun a _ => hf a

protected theorem pure {a : α} (h : P a) : Gives text P (pure a) := by
  intro c hc a' c' ha
  cases ha
  exact ⟨hc, h⟩

theorem pureSome {a : α} (h : P a) : Gives text (fun o => ∀ a ∈ o, P a) (pure (some a)) :=
  .pure (by simpa using h)

theorem pureNone : Gives text (fun o => ∀ a ∈ o, P a) (pure none) :=
  .pure (by simp)

protected theorem failure : Gives text P failure := by
  intro c _ a c' ha
  cases ha

theorem ite {p : Prop} [Decidable p] (h : p → Gives text P r) (h' : ¬p → Gives text P s) :
    Gives text P (if p then r else s) := by
  split_ifs with hp
  · exact h hp
  · exact h' hp

theorem map {g : α → β} (h : Gives text P r) (hg : ∀ a, P a → Q (g a)) : Gives text Q (g <$> r) :=
  h.bind fun a hp => .pure (hg a hp)

theorem mapM {o : Option α} (h : ∀ a ∈ o, Gives text Q (f a)) :
    Gives text (fun o' => ∀ b ∈ o', Q b) (o.mapM f) := by
  cases o
  case none   => exact .pureNone
  case some a => exact (h a rfl).bind fun b hb => .pureSome hb

theorem orElse (h : Gives text P r) (h' : Gives text P s) : Gives text P (r <|> s) := by
  intro c hc a c' ha
  have ho : (r <|> s) c = (r c <|> s c) := rfl
  rw [ho] at ha
  cases hr : r c
  case none   => exact h' c hc a c' (by simpa [hr] using ha)
  case some p => exact h c hc a c' (by simpa [hr] using ha)

-- The place where a reader starts can be gone back to.
theorem get {f : Cursor → Reader β} (h : ∀ c, c.Within text → Gives text Q (f c)) : Gives text Q (get >>= f) :=
  fun c hc => h c hc c hc

theorem set {f : PUnit → Reader β} (hc : c.Within text) (h : Gives text Q (f ⟨⟩)) : Gives text Q (set c >>= f) :=
  fun _ _ => h c hc

theorem attempt (h : Gives text P r) : Gives text (fun o => ∀ a ∈ o, P a) (attempt r) := by
  intro c hc o c' ho
  rw [Reader.attempt] at ho
  cases hr : r c
  case none =>
    simp only [hr] at ho
    cases ho
    exact ⟨hc, by simp⟩
  case some p =>
    obtain ⟨a, c''⟩ := p
    simp only [hr] at ho
    cases ho
    simpa using h c hc a c' hr

theorem ahead (h : Gives text P r) : Gives text (fun o => ∀ a ∈ o, P a) (ahead r) := by
  intro c hc o c' ho
  rw [Reader.ahead] at ho
  cases hr : r c
  case none =>
    simp only [hr] at ho
    cases ho
    exact ⟨hc, by simp⟩
  case some p =>
    obtain ⟨a, c''⟩ := p
    simp only [hr] at ho
    cases ho
    simpa [hc] using (h c hc a c'' hr).right

theorem iterate {step : α → Reader (Option α)} {a : α}
    (hs : ∀ a, P a → Gives text (fun o => ∀ a' ∈ o, P a') (step a)) (ha : P a) :
    Gives text P (iterate step a) := by
  intro c hc
  suffices go : ∀ n a c, P a → c.Within text → ∀ a' c', Reader.iterate.go step n a c = some (a', c') →
      c'.Within text ∧ P a' from go _ a c ha hc
  intro n
  induction n
  case zero => intro a c _ _ a' c' h; cases h
  case succ n hi =>
    intro a c ha hc a' c' h
    rw [iterate.go] at h
    split at h
    case h_1 => cases h
    case h_2 c'' hs' =>
      cases h
      exact ⟨(hs a ha c hc _ _ hs').left, ha⟩
    case h_3 a'' c'' hs' =>
      obtain ⟨hc'', ha''⟩ := hs a ha c hc _ _ hs'
      exact hi a'' c'' (ha'' a'' rfl) hc'' a' c' h

theorem many {item : Reader (Option α)} (h : Gives text (fun o => ∀ a ∈ o, P a) item) :
    Gives text (fun as => ∀ a ∈ as, P a) (many item) := by
  refine .bind (P := fun as => ∀ a ∈ as, P a) (iterate (fun as has => h.bind fun o ho => .pure ?_) (by simp))
    fun as has => .pure (by simpa using has)
  intro as' has' a' ha'
  obtain ⟨a, ha, rfl⟩ := Option.map_eq_some_iff.mp has'
  rcases List.mem_cons.mp ha' with rfl | ha'
  · exact ho _ ha
  · exact has a' ha'

-- A node of which no more is asked than of its parts.
theorem closeAs {start : Cursor} {kind : String} {children : List Tree} (hk : kind ∉ Tree.strictKinds)
    (hc : ∀ t ∈ children, t.Tidy text) :
    Gives text (fun t => t.Tidy text ∧ t.kind = kind) (Reader.close start kind children) := by
  intro c hw t c' h
  cases h
  exact ⟨hw, .node hk hc, rfl⟩

theorem closeFromAs {start : Tree} {kind : String} {children : List Tree} (hk : kind ∉ Tree.strictKinds)
    (hc : ∀ t ∈ children, t.Tidy text) :
    Gives text (fun t => t.Tidy text ∧ t.kind = kind) (Reader.closeFrom start kind children) := by
  intro c hw t c' h
  cases h
  exact ⟨hw, .node hk hc, rfl⟩

theorem close {start : Cursor} {kind : String} {children : List Tree} (hk : kind ∉ Tree.strictKinds)
    (hc : ∀ t ∈ children, t.Tidy text) : Gives text (Tree.Tidy text) (Reader.close start kind children) :=
  (closeAs hk hc).mono fun _ ht => ht.left

theorem closeFrom {start : Tree} {kind : String} {children : List Tree} (hk : kind ∉ Tree.strictKinds)
    (hc : ∀ t ∈ children, t.Tidy text) : Gives text (Tree.Tidy text) (Reader.closeFrom start kind children) :=
  (closeFromAs hk hc).mono fun _ ht => ht.left

end Gives

section Steps

instance {a : α} : Steps text (pure a : Reader α) :=
  ⟨.pure trivial⟩

instance : Steps text (failure : Reader α) :=
  ⟨.failure⟩

instance [Steps text r] [h : ∀ a, Steps text (f a)] : Steps text (r >>= f) :=
  ⟨.step fun a => (h a).gives⟩

instance {p : Prop} [Decidable p] [h : Steps text r] [h' : Steps text s] : Steps text (if p then r else s) :=
  ⟨.ite (fun _ => h.gives) fun _ => h'.gives⟩

instance : Steps text (get : Reader Cursor) :=
  ⟨fun c hc _ _ h => by cases h; exact ⟨hc, trivial⟩⟩

instance (n : Nat) : Steps text (modify (Cursor.advance n) : Reader PUnit) :=
  ⟨fun c hc _ _ h => by cases h; exact ⟨hc.advance n, trivial⟩⟩

instance : Steps text (modify Cursor.next : Reader PUnit) :=
  inferInstanceAs (Steps text (modify (Cursor.advance 1) : Reader PUnit))

-- Whatever a reader does that looks ahead, the text is put back.
instance : Steps text (ahead r) := by
  refine ⟨fun c hc o c' ho => ?_⟩
  rw [ahead] at ho
  split at ho <;> cases ho <;> exact ⟨hc, trivial⟩

instance [h : Steps text r] : Steps text (attempt r) := by
  refine ⟨fun c hc o c' ho => ⟨?_, trivial⟩⟩
  exact (h.gives.attempt c hc o c' ho).left

instance (b : Bool) : Steps text (require b) :=
  inferInstanceAs (Steps text (if b then pure () else failure))

instance (chars : List Char) : Steps text (startsWith chars) :=
  inferInstanceAs (Steps text (do return chars.isPrefixOf (← get).rest))

instance (chars : String) : Steps text (exactly chars) :=
  inferInstanceAs (Steps text (do
    if ← startsWith chars.toList then modify (Cursor.advance chars.toList.length) else failure))

end Steps

end Reader

end ErrorOrigins.Go
