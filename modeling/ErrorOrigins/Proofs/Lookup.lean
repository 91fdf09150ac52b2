import ErrorOrigins.FileSystem
import ErrorOrigins.Proofs.Answers
import Mathlib.Data.List.Induction
import Mathlib.Tactic.MkIffOfInductiveProp

namespace ErrorOrigins

namespace Text

variable {separator : Char} {text piece : List Char}

-- The piece is the whole of what stands between two separators, or between a separator and an end of the text.
structure Between (separator : Char) (text piece : List Char) : Prop where
  solid  : separator ∉ piece
  around : ∃ before after, text = before ++ piece ++ after ∧ (before = [] ∨ ∃ front, before = front ++ [separator]) ∧
    (after = [] ∨ ∃ rest, after = separator :: rest)

theorem between_whole (h : separator ∉ text) : Between separator text text :=
  ⟨h, [], [], by simp, .inl rfl, .inl rfl⟩

theorem Between.mem_splitOn (h : Between separator text piece) : piece ∈ List.splitOn separator text := by
  obtain ⟨hs, before, after, rfl, hb, ha⟩ := h
  have hp : piece ∈ List.splitOn separator (piece ++ after) := by
    rcases ha with rfl | ⟨rest, rfl⟩
    case inl => simp [List.splitOn_eq_singleton hs]
    case inr => simp [List.splitOn_append_cons_self, List.splitOn_eq_singleton hs]
  rcases hb with rfl | ⟨front, rfl⟩
  case inl => simpa using hp
  case inr => simp [List.splitOn_append_cons_self, hp]

theorem between_of_mem_splitOn (h : piece ∈ List.splitOn separator text) : Between separator text piece := by
  induction hn : text.length using Nat.strongRecOn generalizing text
  case ind n hi =>
    by_cases hs : separator ∈ text
    case neg =>
      obtain rfl : piece = text := by rwa [List.splitOn_eq_singleton hs, List.mem_singleton] at h
      exact between_whole hs
    case pos =>
      obtain ⟨first, rest, rfl, hf⟩ := List.eq_append_cons_of_mem hs
      rw [List.splitOn_append_cons_self, List.splitOn_eq_singleton hf, List.singleton_append, List.mem_cons] at h
      rcases h with rfl | h
      case inl => exact ⟨hf, [], separator :: rest, rfl, .inl rfl, .inr ⟨rest, rfl⟩⟩
      case inr =>
        have hr : rest.length < n := by
          rw [← hn, List.length_append, List.length_cons]
          omega
        obtain ⟨hp, before, after, rfl, hb, ha⟩ := hi rest.length hr h rfl
        refine ⟨hp, first ++ separator :: before, after, by simp, .inr ?_, ha⟩
        rcases hb with rfl | ⟨front, rfl⟩
        case inl => exact ⟨first, rfl⟩
        case inr => exact ⟨first ++ separator :: front, by simp⟩

end Text

-- What an entry of a directory can be called.
@[mk_iff]
structure ValidName (name : String) : Prop where
  nonempty : name ≠ ""
  notHere  : name ≠ "."
  notUp    : name ≠ ".."
  noSlash  : '/' ∉ name.toList
  noNul    : '\x00' ∉ name.toList
  short    : name.utf8ByteSize ≤ FileSystem.nameLimit

instance (name : String) : Decidable (ValidName name) :=
  decidable_of_iff _ (validName_iff name).symm

namespace Entry

-- The names in a directory are valid, and no two of them are equal.
inductive Valid : Entry → Prop
  | file (content : Except Fault (List UInt8)) : Valid (.file content)
  | link (target : String) : Valid (.link target)
  | dir {entries : List (String × Entry)} (obstacle : Option Obstacle) (distinct : (entries.map (·.1)).Nodup)
      (names : ∀ p ∈ entries, ValidName p.1) (children : ∀ p ∈ entries, Valid p.2) : Valid (.dir entries obstacle)

theorem get?_append (e : Entry) (way way' : List String) :
    e.get? (way ++ way') = (e.get? way).bind (·.get? way') := by
  induction way generalizing e
  case nil => rfl
  case cons name way hi =>
    rw [List.cons_append, get?, get?, Option.bind_assoc]
    congr 1
    funext child
    exact hi child

theorem get?_cons_of_not_dir {e : Entry} (h : ¬e.isDir) (name : String) (way : List String) :
    e.get? (name :: way) = none := by
  cases e <;> simp_all [get?, child?, entries, isDir]

end Entry

namespace FileSystem

section Follow

variable {root : Entry} {through : Bool} {links : Nat} {here there : List String}

section Step

variable {step : String} {way : List String}
variable (hh : step ≠ ".") (hu : step ≠ "..") (hs : step.utf8ByteSize ≤ nameLimit)

include hh hu hs

theorem follow_dir {entries : List (String × Entry)} {obstacle : Option Obstacle}
    (hg : root.get? (here ++ [step]) = some (.dir entries obstacle)) :
    follow root through links here (step :: way) = follow root through links (here ++ [step]) way := by
  rw [follow, if_neg hh, if_neg hu, if_neg (Nat.not_lt.mpr hs)]
  simp [hg]

theorem follow_link {target : String} (hg : root.get? (here ++ [step]) = some (.link target)) :
    follow root true (links + 1) here (step :: way) =
      follow root true links (startOf target here) (steps target ++ way) := by
  rw [follow, if_neg hh, if_neg hu, if_neg (Nat.not_lt.mpr hs)]
  simp [hg]

theorem follow_file {content : Except Fault (List UInt8)} (hg : root.get? (here ++ [step]) = some (.file content)) :
    follow root through links here (step :: way) =
      if way.isEmpty then .ok (here ++ [step], some (.file content)) else .error .notADirectory := by
  rw [follow, if_neg hh, if_neg hu, if_neg (Nat.not_lt.mpr hs)]
  simp [hg]

theorem follow_missing (hg : root.get? (here ++ [step]) = none) :
    follow root through links here (step :: way) =
      if way.isEmpty then .ok (here ++ [step], none) else .error .notFound := by
  rw [follow, if_neg hh, if_neg hu, if_neg (Nat.not_lt.mpr hs)]
  simp [hg]

theorem follow_noLinks {target : String} (hg : root.get? (here ++ [step]) = some (.link target)) :
    follow root true 0 here (step :: way) = .error .tooManyLinks := by
  rw [follow, if_neg hh, if_neg hu, if_neg (Nat.not_lt.mpr hs)]
  simp [hg]

end Step

-- Names are followed as they are: where they lead somewhere, all on the way but the last are directories.
theorem follow_names {names : List String} {e : Entry} (hn : ∀ name ∈ names, ValidName name)
    (hg : root.get? (here ++ names) = some e) (he : ¬e.isLink) :
    follow root through links here names = .ok (here ++ names, some e) := by
  induction names generalizing here
  case nil =>
    rw [List.append_nil] at hg ⊢
    rw [follow, hg]
  case cons name names hi =>
    obtain ⟨hv, hn⟩ := List.forall_mem_cons.mp hn
    rw [List.append_cons] at hg ⊢
    have hb := hg
    rw [Entry.get?_append] at hb
    obtain ⟨child, hc, hb⟩ := Option.bind_eq_some_iff.mp hb
    cases names
    case nil =>
      cases Option.some.inj hb
      rw [List.append_nil]
      cases e
      case dir          => rw [follow_dir hv.notHere hv.notUp hv.short hc, follow, hc]
      case file         => exact follow_file hv.notHere hv.notUp hv.short hc
      case link         => exact absurd rfl he
    case cons next names =>
      cases child
      case dir =>
        rw [follow_dir hv.notHere hv.notUp hv.short hc]
        exact hi hn hg
      all_goals simp [Entry.get?_cons_of_not_dir, Entry.isDir] at hb

theorem follow_get? {way : List String} {e : Option Entry}
    (h : follow root through links here way = .ok (there, e)) : root.get? there = e := by
  fun_induction follow root through links here way
  case case1 links here =>
    obtain ⟨rfl, he⟩ := Prod.mk.inj (Except.ok.inj h)
    exact he
  all_goals simp_all

theorem follow_dots {dots : List String} (hd : ∀ step ∈ dots, step = ".") :
    follow root through links here dots = .ok (here, root.get? here) := by
  induction dots
  case nil => rw [follow]
  case cons step dots hi =>
    obtain ⟨hs, hd⟩ := List.forall_mem_cons.mp hd
    rw [follow, if_pos hs]
    exact hi hd

-- Steps that lead to a directory lead there whatever comes after them. Some links are used up on the way.
theorem follow_append {way dots : List String} {entries : List (String × Entry)} {obstacle : Option Obstacle}
    (hd : ∀ step ∈ dots, step = ".")
    (h : follow root true links here (way ++ dots) = .ok (there, some (.dir entries obstacle))) :
    ∃ links', ∀ rest, follow root true links here (way ++ rest) = follow root true links' there rest := by
  fun_induction follow root true links here way
  case case1 links here =>
    rw [List.nil_append, follow_dots hd] at h
    obtain ⟨rfl, _⟩ := Prod.mk.inj (Except.ok.inj h)
    exact ⟨links, fun rest => rfl⟩
  case case2 links here way hi =>
    simp only [List.cons_append, follow, if_true] at h ⊢
    exact hi h
  case case3 links here way _ hi =>
    simp only [List.cons_append, follow] at h ⊢
    exact hi h
  case case9 links here step way hh hu hs _ _ _ hg hi =>
    have hf : ∀ rest, follow root true links here (step :: rest) = follow root true links (here ++ [step]) rest :=
      fun rest => follow_dir hh hu (Nat.not_lt.mp hs) hg
    simp only [List.cons_append, hf] at h ⊢
    exact hi h
  case case12 here step way hh hu hs _ target hg _ links hi =>
    have hf : ∀ rest, follow root true (links + 1) here (step :: rest) =
        follow root true links (startOf target here) (steps target ++ rest) :=
      fun rest => follow_link hh hu (Nat.not_lt.mp hs) hg
    simp only [List.cons_append, hf, ← List.append_assoc] at h ⊢
    exact hi h
  -- The other steps lead to no directory.
  case case4 hh hu hs => simp [follow, hh, hu, hs] at h
  case case5 hh hu hs _ hg _ | case6 hh hu hs _ hg _ =>
    rw [List.cons_append, follow_missing hh hu (Nat.not_lt.mp hs) hg] at h
    split at h <;> cases h
  case case7 hh hu hs _ _ hg _ | case8 hh hu hs _ _ hg _ =>
    rw [List.cons_append, follow_file hh hu (Nat.not_lt.mp hs) hg] at h
    split at h <;> cases h
  case case10 hl => simp at hl
  case case11 hh hu hs _ _ hg _ =>
    rw [List.cons_append, follow_noLinks hh hu (Nat.not_lt.mp hs) hg] at h
    cases h

end Follow

-- The names in a path, without what a slash at its end asks for.
def names (text : String) : List String :=
  ((List.splitOn '/' text.toList).map String.ofList).filter (· ≠ "")

theorem steps_eq (text : String) : ∃ dots, steps text = names text ++ dots ∧ ∀ step ∈ dots, step = "." := by
  refine ⟨_, rfl, fun step hs => ?_⟩
  split at hs
  case isTrue  => exact List.mem_singleton.mp hs
  case isFalse => cases hs

end FileSystem

namespace Path

-- The path that some names lead to from a path.
def below (p : Path) (way : List String) : Path :=
  way.foldl join p

variable {p : Path} {name : String} {way : List String}

theorem below_concat : p.below (way ++ [name]) = (p.below way).join name :=
  List.foldl_append

theorem isAbsolute_of_noSlash (h : '/' ∉ name.toList) : ¬isAbsolute name := by
  intro ha
  exact h (List.mem_of_head? (of_decide_eq_true ha))

section Join

variable (hv : ValidName name)

include hv

-- A slash is put between a path and a name, unless there is one.
theorem join_text :
    ∃ gap, (p.join name).text.toList = p.text.toList ++ gap ++ name.toList ∧
      (gap = ['/'] ∧ p.text.toList ≠ [] ∨
        gap = [] ∧ (p.text.toList = [] ∨ ∃ front, p.text.toList = front ++ ['/'])) := by
  rw [join, if_neg (isAbsolute_of_noSlash hv.noSlash)]
  split
  case isTrue h =>
    refine ⟨[], by simp, .inr ⟨rfl, ?_⟩⟩
    rw [Bool.or_eq_true, decide_eq_true_eq, decide_eq_true_eq, List.getLast?_eq_some_iff] at h
    exact h.imp_left fun he => by simp [he]
  case isFalse h =>
    refine ⟨['/'], by simp, .inl ⟨rfl, fun he => h ?_⟩⟩
    simp [String.toList_eq_nil_iff.mp he]

theorem splitOn_join :
    ∃ pieces, List.splitOn '/' (p.join name).text.toList = pieces ++ [name.toList] ∧
      (List.splitOn '/' p.text.toList = pieces ∨ List.splitOn '/' p.text.toList = pieces ++ [[]]) := by
  have hs : List.splitOn '/' name.toList = [name.toList] := List.splitOn_eq_singleton hv.noSlash
  obtain ⟨gap, ht, ⟨rfl, _⟩ | ⟨rfl, hp | ⟨front, hp⟩⟩⟩ := @join_text p name hv
  · exact ⟨List.splitOn '/' p.text.toList, by simp [ht, List.splitOn_append_cons_self, hs], .inl rfl⟩
  · exact ⟨[], by simp [ht, hp, hs], .inr (by simp [hp])⟩
  · refine ⟨List.splitOn '/' front, by simp [ht, hp, List.splitOn_append_cons_self, hs], .inr ?_⟩
    rw [hp, List.splitOn_append_cons_self]
    rfl

theorem names_join : FileSystem.names (p.join name).text = FileSystem.names p.text ++ [name] := by
  have hn := hv.nonempty
  obtain ⟨pieces, hs, hp | hp⟩ := @splitOn_join p name hv <;> simp [FileSystem.names, hs, hp, hn]

theorem steps_join : FileSystem.steps (p.join name).text = FileSystem.names p.text ++ [name] := by
  have hn := hv.nonempty
  obtain ⟨pieces, hs, hp⟩ := @splitOn_join p name hv
  rw [← names_join hv]
  simp [FileSystem.steps, FileSystem.names, hs, hn]

theorem startOf_join (hp : p.text ≠ "") (here : List String) :
    FileSystem.startOf (p.join name).text here = FileSystem.startOf p.text here := by
  have hl : p.text.toList ≠ [] := by simpa using hp
  obtain ⟨gap, ht, _⟩ := @join_text p name hv
  simp [FileSystem.startOf, isAbsolute, ht, List.head?_append, List.head?_eq_some_head hl]

theorem not_mem_join {c : Char} (hc : c ≠ '/') (hp : c ∉ p.text.toList) (hn : c ∉ name.toList) :
    c ∉ (p.join name).text.toList := by
  obtain ⟨gap, ht, ⟨rfl, _⟩ | ⟨rfl, _⟩⟩ := @join_text p name hv <;> simp [ht, hp, hn, hc]

theorem size_join : p.text.utf8ByteSize + 1 ≤ (p.join name).text.utf8ByteSize := by
  obtain ⟨gap, ht, _⟩ := @join_text p name hv
  have hj : (p.join name).text = p.text ++ String.ofList gap ++ name := String.toList_inj.mp (by simp [ht])
  have hn : name.utf8ByteSize ≠ 0 := mt String.utf8ByteSize_eq_zero_iff.mp hv.nonempty
  rw [hj, String.utf8ByteSize_append, String.utf8ByteSize_append]
  omega

end Join

section Below

variable (hw : ∀ name ∈ way, ValidName name)

include hw

theorem names_below : FileSystem.names (p.below way).text = FileSystem.names p.text ++ way := by
  induction way using List.reverseRecOn
  case nil => exact (List.append_nil _).symm
  case append_singleton way name hi =>
    obtain ⟨hw, hn⟩ := List.forall_mem_append.mp hw
    rw [below_concat, names_join (hn name List.mem_cons_self), hi hw, List.append_assoc]

theorem steps_below (hne : way ≠ []) : FileSystem.steps (p.below way).text = FileSystem.names p.text ++ way := by
  obtain rfl | ⟨way, name, rfl⟩ := List.eq_nil_or_concat' way
  case inl => exact absurd rfl hne
  case inr =>
    obtain ⟨hw, hn⟩ := List.forall_mem_append.mp hw
    rw [below_concat, steps_join (hn name List.mem_cons_self), names_below hw, List.append_assoc]

theorem nonempty_below (hp : p.text ≠ "") : (p.below way).text ≠ "" := by
  induction way using List.reverseRecOn
  case nil => exact hp
  case append_singleton way name hi =>
    obtain ⟨_, hn⟩ := List.forall_mem_append.mp hw
    obtain ⟨gap, ht, _⟩ := @join_text (p.below way) name (hn name List.mem_cons_self)
    have hv := (hn name List.mem_cons_self).nonempty
    rw [below_concat]
    intro h
    simp [h, hv] at ht

theorem startOf_below (hp : p.text ≠ "") (here : List String) :
    FileSystem.startOf (p.below way).text here = FileSystem.startOf p.text here := by
  induction way using List.reverseRecOn
  case nil => rfl
  case append_singleton way name hi =>
    obtain ⟨hw, hn⟩ := List.forall_mem_append.mp hw
    rw [below_concat, startOf_join (hn name List.mem_cons_self) (nonempty_below hw hp), hi hw]

theorem noNul_below (hp : '\x00' ∉ p.text.toList) : '\x00' ∉ (p.below way).text.toList := by
  induction way using List.reverseRecOn
  case nil => exact hp
  case append_singleton way name hi =>
    obtain ⟨hw, hn⟩ := List.forall_mem_append.mp hw
    have hv := hn name List.mem_cons_self
    rw [below_concat]
    exact not_mem_join hv (by decide) (hi hw) hv.noNul

theorem size_below : p.text.utf8ByteSize + way.length ≤ (p.below way).text.utf8ByteSize := by
  induction way using List.reverseRecOn
  case nil => exact Nat.le_refl _
  case append_singleton way name hi =>
    obtain ⟨hw, hn⟩ := List.forall_mem_append.mp hw
    have hj := @size_join (p.below way) name (hn name List.mem_cons_self)
    have hb := hi hw
    rw [below_concat, List.length_append, List.length_singleton]
    omega

-- A path only gets longer on its way.
theorem size_below_le {front : List String} (hf : front <+: way) :
    (p.below front).text.utf8ByteSize ≤ (p.below way).text.utf8ByteSize := by
  obtain ⟨back, rfl⟩ := hf
  have hb : p.below (front ++ back) = (p.below front).below back := List.foldl_append
  rw [hb]
  exact Nat.le_of_add_right_le (size_below (List.forall_mem_append.mp hw).right)

end Below

-- What a path needs to be looked up at all.
@[mk_iff]
structure Searchable (p : Path) : Prop where
  noNul    : '\x00' ∉ p.text.toList
  nonempty : p.text ≠ ""
  short    : p.text.utf8ByteSize ≤ FileSystem.pathLimit

instance (p : Path) : Decidable p.Searchable :=
  decidable_of_iff _ (searchable_iff p).symm

end Path

namespace FileSystem

variable {fs : FileSystem} {p : Path} {e : Entry}

theorem resolve_eq (h : p.Searchable) (through : Bool) :
    fs.resolve through p = follow fs.root through linkLimit (startOf p.text fs.cwd) (steps p.text) := by
  have hn : p.text.toList.contains '\x00' = false := by simpa using h.noNul
  have hs : ¬p.text.utf8ByteSize > pathLimit := Nat.not_lt.mpr h.short
  rw [resolve, hn, if_neg h.nonempty, if_neg hs]
  rfl

theorem get_eq_ok_iff : fs.get p = .ok e ↔ ∃ there, fs.resolve true p = .ok (there, some e) := by
  rw [get]
  cases fs.resolve true p
  case error fault => simp
  case ok result   => obtain ⟨there, _ | e'⟩ := result <;> simp

theorem readFile_eq_ok_iff {content : List UInt8} :
    fs.readFile p = .ok content ↔ fs.get p = .ok (.file (.ok content)) := by
  rw [readFile]
  cases fs.get p
  case error fault => simp
  case ok entry    => cases entry <;> simp

theorem isDir_iff : fs.isDir p ↔ ∃ entries obstacle, fs.get p = .ok (.dir entries obstacle) := by
  rw [isDir]
  cases fs.get p
  case error fault => simp
  case ok e        => cases e <;> simp [Entry.isDir]

theorem not_isDir_of_error {fault : Fault} (h : fs.get p = .error fault) : ¬fs.isDir p := by
  rw [isDir_iff, h]
  rintro ⟨_, _, he⟩
  cases he

theorem searchable_of_get (h : fs.get p = .ok e) : p.Searchable := by
  obtain ⟨there, h⟩ := get_eq_ok_iff.mp h
  rw [resolve] at h
  split at h
  case isTrue => cases h
  split at h
  case isTrue => cases h
  split at h
  case isTrue => cases h
  case isFalse hn he hs => exact ⟨by simpa using hn, he, Nat.not_lt.mp hs⟩

-- A path without links leads where its names lead.
theorem resolve_names {through : Bool} (h : p.Searchable) (hn : ∀ name ∈ steps p.text, ValidName name)
    (hg : fs.root.get? (startOf p.text fs.cwd ++ steps p.text) = some e) (he : ¬e.isLink) :
    fs.resolve through p = .ok (startOf p.text fs.cwd ++ steps p.text, some e) := by
  rw [resolve_eq h]
  exact follow_names hn hg he

theorem get_names (h : p.Searchable) (hn : ∀ name ∈ steps p.text, ValidName name)
    (hg : fs.root.get? (startOf p.text fs.cwd ++ steps p.text) = some e) (he : ¬e.isLink) : fs.get p = .ok e :=
  get_eq_ok_iff.mpr ⟨_, resolve_names h hn hg he⟩

theorem get_missing {name : String} (h : p.Searchable) (hp : steps p.text = [name]) (hv : ValidName name)
    (hg : fs.root.get? (startOf p.text fs.cwd ++ [name]) = none) : fs.get p = .error .notFound := by
  rw [get, resolve_eq h, hp, follow_missing hv.notHere hv.notUp hv.short hg]
  rfl

-- A name that a directory does not have.
theorem get_missing_below {names : List String} {name : String} {entries : List (String × Entry)}
    {obstacle : Option Obstacle} (h : p.Searchable)
    (hp : steps p.text = names ++ [name]) (hn : ∀ name' ∈ names ++ [name], ValidName name')
    (hd : fs.root.get? (startOf p.text fs.cwd ++ names) = some (.dir entries obstacle))
    (hg : fs.root.get? (startOf p.text fs.cwd ++ names ++ [name]) = none) : fs.get p = .error .notFound := by
  obtain ⟨hn, hv⟩ := List.forall_mem_append.mp hn
  have hv := hv name List.mem_cons_self
  have hf := @follow_names fs.root true linkLimit _ _ _ hn hd nofun
  obtain ⟨links, ha⟩ := @follow_append _ _ _ _ names [] entries obstacle nofun (by rwa [List.append_nil])
  rw [get, resolve_eq h, hp, ha, follow_missing hv.notHere hv.notUp hv.short hg]
  rfl

theorem resolve_dots {through : Bool} (h : p.Searchable) (hd : ∀ step ∈ steps p.text, step = ".") :
    fs.resolve through p = .ok (startOf p.text fs.cwd, fs.root.get? (startOf p.text fs.cwd)) := by
  rw [resolve_eq h]
  exact follow_dots hd

-- A directory is entered by joining names to its path. Only a path that gets too long cannot be looked up.
theorem get_below {entries : List (String × Entry)} {obstacle : Option Obstacle} {way : List String}
    (h : fs.get p = .ok (.dir entries obstacle)) (hw : ∀ name ∈ way, ValidName name)
    (hg : (Entry.dir entries obstacle).get? way = some e) (he : ¬e.isLink)
    (hs : (p.below way).text.utf8ByteSize ≤ pathLimit) : fs.get (p.below way) = .ok e := by
  have hp := searchable_of_get h
  have hb : (p.below way).Searchable := ⟨Path.noNul_below hw hp.noNul, Path.nonempty_below hw hp.nonempty, hs⟩
  obtain ⟨there, hr⟩ := get_eq_ok_iff.mp h
  rw [resolve_eq hp] at hr
  -- The path leads to `there`, and the names lead on from there.
  obtain ⟨dots, hd, hdots⟩ := steps_eq p.text
  rw [hd] at hr
  obtain ⟨links, hf⟩ := follow_append hdots hr
  have ht : fs.root.get? (there ++ way) = some e := by
    rw [Entry.get?_append, follow_get? hr]
    exact hg
  by_cases hne : way = []
  case pos =>
    subst hne
    cases Option.some.inj hg
    exact h
  case neg =>
    refine get_eq_ok_iff.mpr ⟨there ++ way, ?_⟩
    rw [resolve_eq hb, Path.startOf_below hw hp.nonempty, Path.steps_below hw hne, hf]
    exact follow_names hw ht he

end FileSystem

end ErrorOrigins
