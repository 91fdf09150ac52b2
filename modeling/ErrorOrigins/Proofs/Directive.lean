import ErrorOrigins.Files.Module
import ErrorOrigins.Proofs.Lookup
import Mathlib.Data.List.Chain
import Mathlib.Data.List.DropRight
import Mathlib.Data.List.Infix

namespace ErrorOrigins

namespace Text

-- A text, and what is left of it without the characters of a kind at its ends.
structure Trimmed (p : Char → Bool) (text core : List Char) : Prop where
  around : ∃ left right, text = left ++ core ++ right ∧ (∀ c ∈ left, p c) ∧ ∀ c ∈ right, p c
  front  : ∀ c ∈ core.head?, ¬p c
  back   : ∀ c ∈ core.getLast?, ¬p c

section Trimming

variable {p : Char → Bool} {text core left right : List Char}

theorem trim_eq (p : Char → Bool) (text : List Char) : trim p text = (text.dropWhile p).rdropWhile p :=
  rfl

theorem dropWhile_append (hl : ∀ c ∈ left, p c) (hc : ∀ c ∈ core.head?, ¬p c) : (left ++ core).dropWhile p = core := by
  rw [List.dropWhile_append_of_pos hl]
  cases core
  case nil         => rfl
  case cons c core => exact List.dropWhile_cons_of_neg (hc c rfl)

theorem rdropWhile_append (hr : ∀ c ∈ right, p c) (hc : ∀ c ∈ core.getLast?, ¬p c) :
    (core ++ right).rdropWhile p = core := by
  rw [List.rdropWhile, List.reverse_append, dropWhile_append, List.reverse_reverse]
  case hl => exact fun c h => hr c (List.mem_reverse.mp h)
  case hc => rwa [List.head?_reverse]

theorem not_of_mem_head?_dropWhile : ∀ c ∈ (text.dropWhile p).head?, ¬p c := by
  intro c hc
  have h := List.head?_dropWhile_not p text
  rw [hc] at h
  exact Bool.eq_false_iff.mp h

theorem Trimmed.trim_eq (h : Trimmed p text core) : trim p text = core := by
  obtain ⟨⟨left, right, rfl, hl, hr⟩, hf, hb⟩ := h
  rw [Text.trim_eq]
  cases core
  case nil =>
    have ha : ∀ c ∈ left ++ [] ++ right, p c := by
      intro c hc
      rw [List.append_nil] at hc
      exact (List.mem_append.mp hc).elim (hl c) (hr c)
    rw [List.dropWhile_eq_nil_iff.mpr ha, List.rdropWhile_nil]
  case cons c core =>
    have hd : (left ++ c :: core ++ right).dropWhile p = c :: core ++ right := by
      rw [List.append_assoc]
      exact dropWhile_append hl hf
    rw [hd, rdropWhile_append hr hb]

theorem trimmed_trim (p : Char → Bool) (text : List Char) : Trimmed p text (trim p text) := by
  rw [Text.trim_eq]
  refine ⟨⟨text.takeWhile p, (text.dropWhile p).rtakeWhile p, ?_, ?_, ?_⟩, ?front, ?back⟩
  · rw [List.append_assoc, List.rdropWhile_append_rtakeWhile, List.takeWhile_append_dropWhile]
  · exact fun c => List.mem_takeWhile_imp
  · exact fun c => List.mem_rtakeWhile_imp
  case front =>
    intro c hc
    obtain ⟨rest, hr⟩ := List.rdropWhile_prefix p (l := text.dropWhile p)
    have hd : c ∈ (text.dropWhile p).head? := by
      rw [← hr, List.head?_append, hc]
      rfl
    exact not_of_mem_head?_dropWhile c hd
  case back =>
    rw [List.rdropWhile, List.getLast?_reverse]
    exact not_of_mem_head?_dropWhile

theorem Trimmed.concat {c : Char} (h : Trimmed p text core) (hc : p c) : Trimmed p (text ++ [c]) core := by
  obtain ⟨⟨left, right, rfl, hl, hr⟩, hf, hb⟩ := h
  refine ⟨⟨left, right ++ [c], by simp, hl, fun d hd => ?_⟩, hf, hb⟩
  rcases List.mem_append.mp hd with hd | hd
  case inl => exact hr d hd
  case inr => rwa [List.mem_singleton.mp hd]

end Trimming

end Text

namespace Module

open Text

-- A line, and what stands in front of the first comment mark in it.
inductive Cut : List Char → List Char → Prop
  | whole (code : List Char) (h : ¬['/', '/'] <:+: code) : Cut code code
  | marked (code comment : List Char) (h : ¬['/', '/'] <:+: code ++ ['/']) : Cut (code ++ '/' :: '/' :: comment) code

-- The line declares a module of the given name: what is left of it without comment and blanks is the keyword, and after
-- it, set off by a blank or a quote, the name in blanks and quotes.
inductive Directive (line name : List Char) : Prop
  | intro (code rest value : List Char) (cut : Cut line code) (keyword : Trimmed isBlank code ("module".toList ++ rest))
      (apart : ∃ c ∈ rest.head?, isBlank c ∨ c = '"') (unspaced : Trimmed isBlank rest value)
      (unquoted : Trimmed (· == '"') value name) (named : name ≠ [])

def HasForm (line : List Char) : Prop :=
  ∃ name, Directive line name

section Form

variable {line code name : List Char}

theorem beforeComment_cons {c : Char} {rest : List Char} (h : ¬['/', '/'] <+: c :: rest) :
    beforeComment (c :: rest) = c :: beforeComment rest := by
  rw [beforeComment]
  rintro rest' rfl rfl
  exact h ⟨rest', rfl⟩

-- Only the next character matters, and it is the same if more follows it.
theorem mark_front_iff {c : Char} {code rest : List Char} :
    ['/', '/'] <+: c :: (code ++ '/' :: rest) ↔ ['/', '/'] <+: c :: (code ++ ['/']) := by
  cases code <;> simp

theorem Cut.beforeComment_eq (h : Cut line code) : beforeComment line = code := by
  cases h
  case whole h =>
    induction line
    case nil => rfl
    case cons c line hi =>
      obtain ⟨hp, hl⟩ := not_or.mp (mt List.infix_cons_iff.mpr h)
      rw [beforeComment_cons hp, hi hl]
  case marked comment h =>
    induction code
    case nil => rfl
    case cons c code hi =>
      obtain ⟨hp, hc⟩ := not_or.mp (mt List.infix_cons_iff.mpr h)
      rw [List.cons_append, beforeComment_cons (mt mark_front_iff.mp hp), hi hc]

theorem Cut.cons {c : Char} (h : Cut line code) (hc : ¬['/', '/'] <+: c :: line) : Cut (c :: line) (c :: code) := by
  cases h
  case whole h => exact .whole _ (mt List.infix_cons_iff.mp (not_or.mpr ⟨hc, h⟩))
  case marked comment h =>
    exact .marked (c :: code) comment (mt List.infix_cons_iff.mp (not_or.mpr ⟨mt mark_front_iff.mpr hc, h⟩))

theorem cut_beforeComment (line : List Char) : Cut line (beforeComment line) := by
  fun_induction beforeComment line
  case case1 comment => exact .marked [] comment (by decide)
  case case2 c rest hn hi =>
    refine hi.cons ?_
    rintro ⟨rest', hr⟩
    obtain ⟨rfl, rfl⟩ := List.cons.inj hr
    exact hn rest' rfl rfl
  case case3 => exact .whole [] (by decide)

theorem guard_eq_some_iff {p : Prop} [Decidable p] : (∃ u, (guard p : Option Unit) = some u) ↔ p := by
  change (∃ u, (if p then pure () else failure : Option Unit) = some u) ↔ p
  split_ifs with h <;> simp [h]

theorem apart_iff {rest : List Char} :
    (rest.head?.any fun c => isBlank c || c == '"') ↔ ∃ c ∈ rest.head?, isBlank c ∨ c = '"' := by
  simp [Option.any_eq_true]

theorem ofList?_eq_some_iff {name' : List Char} :
    (if name'.isEmpty then none else some (String.ofList name')) = some (String.ofList name) ↔
      name' = name ∧ name ≠ [] := by
  cases name'
  case nil => simp
  case cons c name' =>
    rw [if_neg (by simp), Option.some_inj, String.ofList_inj]
    exact ⟨fun h => ⟨h, h ▸ List.cons_ne_nil c name'⟩, And.left⟩

theorem directive?_eq_some_iff : directive? line = some (String.ofList name) ↔ Directive line name := by
  constructor
  case mp =>
    intro h
    obtain ⟨rest, hk, h⟩ := Option.bind_eq_some_iff.mp h
    obtain ⟨u, ha, h⟩ := Option.bind_eq_some_iff.mp h
    obtain ⟨hu, hn⟩ := ofList?_eq_some_iff.mp h
    have hk := List.isPrefixOf?_eq_some_iff_append_eq.mp hk
    have ha := apart_iff.mp (guard_eq_some_iff.mp ⟨u, ha⟩)
    exact ⟨_, rest, _, cut_beforeComment line, hk ▸ trimmed_trim .., ha, trimmed_trim .., hu ▸ trimmed_trim .., hn⟩
  case mpr =>
    rintro ⟨code, rest, value, hc, hk, ha, hs, hu, hn⟩
    obtain ⟨u, hg⟩ := guard_eq_some_iff.mpr (apart_iff.mpr ha)
    refine Option.bind_eq_some_iff.mpr ⟨rest, ?_, Option.bind_eq_some_iff.mpr ⟨u, hg, ?_⟩⟩
    · exact List.isPrefixOf?_eq_some_iff_append_eq.mpr (by rw [hc.beforeComment_eq, hk.trim_eq])
    · exact ofList?_eq_some_iff.mpr ⟨by rw [hs.trim_eq, hu.trim_eq], hn⟩

theorem directive?_eq_none_iff : directive? line = none ↔ ¬HasForm line := by
  constructor
  case mp =>
    rintro hd ⟨name, h⟩
    cases hd.symm.trans (directive?_eq_some_iff.mpr h)
  case mpr =>
    intro h
    cases hd : directive? line
    case none      => rfl
    case some name =>
      rw [← String.ofList_toList (s := name)] at hd
      exact absurd ⟨name.toList, directive?_eq_some_iff.mp hd⟩ h

-- A carriage return at the end is a blank or belongs to the comment.
theorem Cut.withReturn (h : Cut line code) : Cut (line ++ ['\r']) code ∨ Cut (line ++ ['\r']) (code ++ ['\r']) := by
  cases h
  case whole h =>
    refine .inr (.whole _ fun hm => ?_)
    rcases List.infix_concat_iff.mp hm with ⟨rest, hr⟩ | hm
    case inl => simpa using congrArg List.getLast? hr
    case inr => exact h hm
  case marked comment h =>
    refine .inl ?_
    rw [List.append_assoc]
    exact .marked code (comment ++ ['\r']) h

theorem directive?_withReturn (line : List Char) : directive? (line ++ ['\r']) = directive? line := by
  have ht : trim isBlank (beforeComment (line ++ ['\r'])) = trim isBlank (beforeComment line) := by
    rcases (cut_beforeComment line).withReturn with h | h
    case inl => rw [h.beforeComment_eq]
    case inr =>
      rw [h.beforeComment_eq]
      exact ((trimmed_trim ..).concat rfl).trim_eq
  rw [directive?, ht, directive?]

end Form

-- A line of a text without what ends it: a newline, a newline after a carriage return, or the end of the text.
structure IsLine (text line : List Char) : Prop where
  solid  : '\n' ∉ line
  around : ∃ before after, text = before ++ line ++ after ∧ (before = [] ∨ ∃ front, before = front ++ ['\n']) ∧
    (after = [] ∨ (∃ rest, after = '\n' :: rest ∧ '\r' ∉ line.getLast?) ∨ ∃ rest, after = '\r' :: '\n' :: rest)

section Lines

variable {text line piece : List Char}

theorem IsLine.between (h : IsLine text line) : Between '\n' text line ∨ Between '\n' text (line ++ ['\r']) := by
  obtain ⟨hs, before, after, ht, hb, rfl | ⟨rest, rfl, hr⟩ | ⟨rest, rfl⟩⟩ := h
  · exact .inl ⟨hs, before, [], ht, hb, .inl rfl⟩
  · exact .inl ⟨hs, before, '\n' :: rest, ht, hb, .inr ⟨rest, rfl⟩⟩
  · refine .inr ⟨by simpa using hs, before, '\n' :: rest, by simpa using ht, hb, .inr ⟨rest, rfl⟩⟩

theorem isLine_of_between (h : Between '\n' text piece) :
    IsLine text piece ∨ ∃ line, piece = line ++ ['\r'] ∧ IsLine text line := by
  obtain ⟨hs, before, after, ht, hb, rfl | ⟨rest, rfl⟩⟩ := h
  case inl => exact .inl ⟨hs, before, [], ht, hb, .inl rfl⟩
  case inr =>
    by_cases hr : '\r' ∈ piece.getLast?
    case neg => exact .inl ⟨hs, before, '\n' :: rest, ht, hb, .inr (.inl ⟨rest, rfl, hr⟩)⟩
    case pos =>
      obtain ⟨line, rfl⟩ := List.getLast?_eq_some_iff.mp hr
      refine .inr ⟨line, rfl, fun h => hs (List.mem_append_left _ h), before, '\r' :: '\n' :: rest, ?_, hb, ?_⟩
      · simpa using ht
      · exact .inr (.inr ⟨rest, rfl⟩)

theorem forall_splitOn_iff :
    (∀ piece ∈ List.splitOn '\n' text, directive? piece = none) ↔ ∀ line, IsLine text line → ¬HasForm line := by
  simp only [← directive?_eq_none_iff]
  constructor
  case mp =>
    intro h line hl
    rcases hl.between with hb | hb
    case inl => exact h line hb.mem_splitOn
    case inr => exact directive?_withReturn line ▸ h _ hb.mem_splitOn
  case mpr =>
    intro h piece hp
    rcases isLine_of_between (between_of_mem_splitOn hp) with hl | ⟨line, rfl, hl⟩
    case inl => exact h piece hl
    case inr => exact (directive?_withReturn line).trans (h line hl)

theorem name?_eq_none_iff (text : String) :
    name? text = none ↔ ∀ line, IsLine text.toList line → ¬HasForm line := by
  rw [name?, List.findSome?_eq_none_iff, forall_splitOn_iff]

end Lines

def Spaces (gap : List Char) : Prop :=
  ∀ c ∈ gap, c = ' ' ∨ c = '\t'

instance (gap : List Char) : Decidable (Spaces gap) :=
  inferInstanceAs (Decidable (∀ c ∈ gap, _))

structure IsPath (name : List Char) : Prop where
  nonempty : name ≠ []
  plain    : ∀ c ∈ name, ¬isBlank c ∧ c ≠ '"'
  unmarked : ¬['/', '/'] <:+: name

-- What may stand after the keyword.
inductive Spelled (name : List Char) : List Char → Prop
  | bare (gap : List Char) (hg : Spaces gap) (hn : gap ≠ []) : Spelled name (gap ++ name)
  | quoted (gap : List Char) (hg : Spaces gap) : Spelled name (gap ++ '"' :: name ++ ['"'])

-- What may stand after the name.
inductive Trailing : List Char → Prop
  | blank (gap : List Char) (hg : Spaces gap) : Trailing gap
  | remark (gap comment : List Char) (hg : Spaces gap) (hn : gap ≠ []) (hc : '\n' ∉ comment) :
      Trailing (gap ++ '/' :: '/' :: comment)

inductive Written (name : List Char) : List Char → Prop
  | intro (indent spelled trailing : List Char) (hi : Spaces indent) (hs : Spelled name spelled)
      (ht : Trailing trailing) : Written name (indent ++ "module".toList ++ spelled ++ trailing)

-- How a line ends if a text follows.
inductive Ending : List Char → List Char → Prop
  | newline (post : List Char)  : Ending ['\n'] post
  | returned (post : List Char) : Ending ['\r', '\n'] post
  | last                        : Ending [] []

-- The text declares the name in some line, and no line before that one has the form of a directive.
inductive Introduces (name : List Char) : List Char → Prop
  | intro (pre line ending post : List Char) (complete : pre = [] ∨ ∃ front, pre = front ++ ['\n'])
      (before : ∀ line, IsLine pre line → ¬HasForm line) (written : Written name line) (ended : Ending ending post) :
      Introduces name (pre ++ line ++ ending ++ post)

section Unmarked

variable {xs ys : List Char}

theorem unmarked_iff : ¬['/', '/'] <:+: xs ↔ xs.IsChain fun c d => ¬(c = '/' ∧ d = '/') := by
  rw [List.isChain_iff_forall_rel_of_append_cons_cons]
  constructor
  case mp =>
    rintro h c d front rest rfl ⟨rfl, rfl⟩
    exact h ⟨front, rest, by simp⟩
  case mpr =>
    rintro h ⟨front, rest, rfl⟩
    exact h (List.append_assoc ..) ⟨rfl, rfl⟩

theorem unmarked_of_not_mem (h : '/' ∉ xs) : ¬['/', '/'] <:+: xs :=
  fun hm => h (hm.subset List.mem_cons_self)

theorem unmarked_append (hx : ¬['/', '/'] <:+: xs) (hy : ¬['/', '/'] <:+: ys)
    (h : '/' ∉ xs.getLast? ∨ '/' ∉ ys.head?) : ¬['/', '/'] <:+: xs ++ ys := by
  rw [unmarked_iff] at *
  refine hx.append hy ?_
  rintro c hc d hd ⟨rfl, rfl⟩
  exact h.elim (· hc) (· hd)

end Unmarked

section Writing

variable {name gap spelled line : List Char}

theorem Spaces.isBlank (h : Spaces gap) : ∀ c ∈ gap, isBlank c := by
  intro c hc
  rcases h c hc with rfl | rfl <;> decide

theorem Spaces.not_mem (h : Spaces gap) {c : Char} (hs : c ≠ ' ') (ht : c ≠ '\t') : c ∉ gap :=
  fun hc => (h c hc).elim hs ht

theorem IsPath.head? (hp : IsPath name) : ∀ c ∈ name.head?, ¬isBlank c ∧ c ≠ '"' :=
  fun c hc => hp.plain c (List.mem_of_mem_head? hc)

theorem IsPath.getLast? (hp : IsPath name) : ∀ c ∈ name.getLast?, ¬isBlank c ∧ c ≠ '"' :=
  fun c hc => hp.plain c (List.mem_of_mem_getLast? hc)

theorem IsPath.trimmed_self (hp : IsPath name) : Trimmed (· == '"') name name :=
  ⟨⟨[], [], by simp⟩, by simpa using fun c hc => (hp.head? c hc).right,
    by simpa using fun c hc => (hp.getLast? c hc).right⟩

theorem IsPath.trimmed_quoted (hp : IsPath name) : Trimmed (· == '"') ('"' :: name ++ ['"']) name :=
  ⟨⟨['"'], ['"'], by simp⟩, hp.trimmed_self.front, hp.trimmed_self.back⟩

theorem Spelled.back (hp : IsPath name) (h : Spelled name spelled) : ∃ c, spelled.getLast? = some c ∧ ¬isBlank c := by
  cases h
  case bare gap hg hn =>
    have hl := List.getLast?_eq_some_getLast hp.nonempty
    refine ⟨name.getLast hp.nonempty, ?_, (hp.getLast? _ hl).left⟩
    rw [List.getLast?_append, hl, Option.some_or]
  case quoted gap hg => exact ⟨'"', List.getLast?_concat .., by decide⟩

theorem Spelled.apart (h : Spelled name spelled) : ∃ c ∈ spelled.head?, isBlank c ∨ c = '"' := by
  cases h
  case bare gap hg hn =>
    obtain ⟨c, gap, rfl⟩ := List.exists_cons_of_ne_nil hn
    exact ⟨c, rfl, .inl (hg.isBlank c List.mem_cons_self)⟩
  case quoted gap hg =>
    cases gap
    case nil        => exact ⟨'"', rfl, .inr rfl⟩
    case cons c gap => exact ⟨c, rfl, .inl (hg.isBlank c List.mem_cons_self)⟩

theorem Spelled.value (hp : IsPath name) (h : Spelled name spelled) :
    ∃ value, Trimmed isBlank spelled value ∧ Trimmed (· == '"') value name := by
  obtain ⟨last, hl, hb⟩ := h.back hp
  cases h
  case bare gap hg hn =>
    refine ⟨name, ⟨⟨gap, [], by simp, hg.isBlank, by simp⟩, ?_, ?_⟩, hp.trimmed_self⟩
    · exact fun c hc => (hp.head? c hc).left
    · exact fun c hc => (hp.getLast? c hc).left
  case quoted gap hg =>
    refine ⟨'"' :: name ++ ['"'], ⟨⟨gap, [], by simp, hg.isBlank, by simp⟩, ?_, ?_⟩, hp.trimmed_quoted⟩
    · rintro c ⟨⟩
      decide
    · intro c hc
      cases hc.symm.trans (List.getLast?_concat ..)
      decide

theorem Spelled.unmarked (hp : IsPath name) (h : Spelled name spelled) : ¬['/', '/'] <:+: spelled := by
  cases h
  case bare gap hg hn =>
    have hs : '/' ∉ gap := hg.not_mem (by decide) (by decide)
    exact unmarked_append (unmarked_of_not_mem hs) hp.unmarked (.inl (mt List.mem_of_mem_getLast? hs))
  case quoted gap hg =>
    have hs : '/' ∉ gap ++ ['"'] := by simpa using hg.not_mem (c := '/') (by decide) (by decide)
    have hn : ¬['/', '/'] <:+: gap ++ ['"'] ++ name :=
      unmarked_append (unmarked_of_not_mem hs) hp.unmarked (.inl (mt List.mem_of_mem_getLast? hs))
    rw [List.append_cons gap '"' name]
    exact unmarked_append hn (by decide) (.inr (by decide))

-- What stands in front of the comment.
theorem Written.code (hp : IsPath name) (hs : Spelled name spelled) {indent gap : List Char} (hi : Spaces indent)
    (hg : Spaces gap) :
    Trimmed isBlank (indent ++ "module".toList ++ spelled ++ gap) ("module".toList ++ spelled) ∧
      ¬['/', '/'] <:+: indent ++ "module".toList ++ spelled ++ gap := by
  have hm : '/' ∉ indent ++ "module".toList := by simpa using hi.not_mem (c := '/') (by decide) (by decide)
  have hn : '/' ∉ gap := hg.not_mem (by decide) (by decide)
  obtain ⟨last, hl, hb⟩ := hs.back hp
  refine ⟨⟨⟨indent, gap, by simp, hi.isBlank, hg.isBlank⟩, ?front, ?back⟩, ?unmarked⟩
  case front =>
    rintro c ⟨⟩
    decide
  case back =>
    intro c hc
    rw [List.getLast?_append, hl] at hc
    cases hc
    exact hb
  case unmarked =>
    refine unmarked_append ?_ (unmarked_of_not_mem hn) (.inr (mt List.mem_of_mem_head? hn))
    exact unmarked_append (unmarked_of_not_mem hm) (hs.unmarked hp) (.inl (mt List.mem_of_mem_getLast? hm))

theorem Written.directive (hp : IsPath name) (h : Written name line) : Directive line name := by
  obtain ⟨indent, spelled, trailing, hi, hs, ht⟩ := h
  obtain ⟨value, hv, hn⟩ := hs.value hp
  cases ht
  case blank hg =>
    obtain ⟨hk, hu⟩ := Written.code hp hs hi hg
    exact ⟨_, spelled, value, .whole _ hu, hk, hs.apart, hv, hn, hp.nonempty⟩
  case remark gap comment hg hne hc =>
    obtain ⟨hk, hu⟩ := Written.code hp hs hi hg
    refine ⟨_, spelled, value, ?_, hk, hs.apart, hv, hn, hp.nonempty⟩
    rw [← List.append_assoc]
    refine .marked _ comment (unmarked_append hu (by decide) (.inl fun hl => ?_))
    rw [List.getLast?_append, List.getLast?_eq_some_getLast hne] at hl
    exact hg.not_mem (c := '/') (by decide) (by decide) (Option.some.inj hl ▸ List.getLast_mem hne)

theorem Spelled.not_newline (hp : IsPath name) (h : Spelled name spelled) : '\n' ∉ spelled := by
  have hn : '\n' ∉ name := fun hc => (hp.plain '\n' hc).left (by decide)
  cases h
  case bare gap hg _ => simp [hn, hg.not_mem (c := '\n')]
  case quoted gap hg => simp [hn, hg.not_mem (c := '\n')]

theorem Written.not_newline (hp : IsPath name) (h : Written name line) : '\n' ∉ line := by
  obtain ⟨indent, spelled, trailing, hi, hs, ht⟩ := h
  have hf : '\n' ∉ trailing := by
    cases ht
    case blank hg                 => exact hg.not_mem (by decide) (by decide)
    case remark gap comment hg _ hc => simp [hc, hg.not_mem (c := '\n')]
  simp [hf, hs.not_newline hp, hi.not_mem (c := '\n')]

theorem findSome?_written {ending post : List Char} (hp : IsPath name) (hw : Written name line)
    (he : Ending ending post) :
    (List.splitOn '\n' (line ++ ending ++ post)).findSome? directive? = some (String.ofList name) := by
  have hd : directive? line = some (String.ofList name) := directive?_eq_some_iff.mpr (hw.directive hp)
  have hl : '\n' ∉ line := hw.not_newline hp
  cases he
  case newline =>
    rw [List.append_assoc, List.singleton_append, List.splitOn_append_cons_self, List.splitOn_eq_singleton hl,
      List.singleton_append, List.findSome?_cons_of_isSome (by simp [hd]), hd]
  case returned =>
    have hr : '\n' ∉ line ++ ['\r'] := by simpa using hl
    rw [List.append_cons, List.append_assoc, List.singleton_append, List.splitOn_append_cons_self,
      List.splitOn_eq_singleton hr, List.singleton_append, List.findSome?_cons_of_isSome (by simp [directive?_withReturn, hd]),
      directive?_withReturn, hd]
  case last =>
    rw [List.append_nil, List.append_nil, List.splitOn_eq_singleton hl, List.findSome?_singleton, hd]

theorem name?_of_introduces {text : String} (hp : IsPath name) (h : Introduces name text.toList) :
    name? text = some (String.ofList name) := by
  rw [name?]
  generalize text.toList = chars at h
  obtain ⟨pre, line, ending, post, hc, hb, hw, he⟩ := h
  have hf := findSome?_written hp hw he
  rcases hc with rfl | ⟨front, rfl⟩
  case inl => rwa [List.nil_append]
  case inr =>
    have hn : (List.splitOn '\n' front).findSome? directive? = none := by
      refine List.findSome?_eq_none_iff.mpr fun piece hm => forall_splitOn_iff.mpr hb piece ?_
      rw [List.splitOn_append_cons_self]
      exact List.mem_append_left _ hm
    have ht : front ++ ['\n'] ++ line ++ ending ++ post = front ++ '\n' :: (line ++ ending ++ post) := by simp
    rw [ht, List.splitOn_append_cons_self, List.findSome?_append, hn, Option.none_or, hf]

end Writing

namespace Sample

def name : String := "quoted/mod"

def pre : String := "// module a\nmodules b\nmodule \"\" // c\n"

def line : String := "\tmodule\"quoted/mod\" // main"

def post : String := "module other\n"

def text : String := pre ++ line ++ "\r\n" ++ post

theorem isPath : IsPath name.toList := by
  have hp : name.toList.all fun c => !isBlank c && c != '"' := by decide
  exact ⟨by decide, by simpa using List.all_eq_true.mp hp, by decide⟩

theorem written : Written name.toList line.toList :=
  .intro ['\t'] _ _ (by simp [Spaces]) (.quoted [] (by simp [Spaces]))
    (.remark [' '] " main".toList (by simp [Spaces]) (by decide) (by decide))

theorem introduces : Introduces name.toList text.toList := by
  have ht : text.toList = pre.toList ++ line.toList ++ ['\r', '\n'] ++ post.toList := by decide
  rw [ht]
  refine .intro _ _ _ _ (.inr ⟨pre.toList.dropLast, by decide⟩) ?_ written (.returned _)
  exact forall_splitOn_iff.mp (by decide)

end Sample

-- A name is read back from every way of writing its directive after lines that have no such form, and there is no name
-- if and only if no line has the form.
theorem name?_directive (text : String) :
    (∀ name, IsPath name → Introduces name text.toList → name? text = some (String.ofList name)) ∧
    (name? text = none ↔ ∀ line, IsLine text.toList line → ¬HasForm line) :=
  ⟨fun _ => name?_of_introduces, name?_eq_none_iff text⟩

theorem name?_directive_sample :
    IsPath Sample.name.toList ∧ Introduces Sample.name.toList Sample.text.toList ∧
    name? Sample.text = some (String.ofList Sample.name.toList) :=
  ⟨Sample.isPath, Sample.introduces, (name?_directive Sample.text).left _ Sample.isPath Sample.introduces⟩

end Module
end ErrorOrigins
