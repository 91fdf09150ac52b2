import ErrorOrigins.Proofs.ByteOrder
import ErrorOrigins.Source.Generated

namespace ErrorOrigins.Generated

section Scanning

variable {line : List UInt8}

theorem line_induction {motive : List UInt8 → Prop} (last : ∀ line, newline ∉ line → motive line)
    (next : ∀ line rest, newline ∉ line → motive rest → motive (line ++ newline :: rest))
    (source : List UInt8) : motive source := by
  induction hn : source.length using Nat.strong_induction_on generalizing source
  case h n hi =>
    by_cases h : newline ∈ source
    case neg => exact last source h
    case pos =>
      obtain ⟨line, rest, rfl, hl⟩ := List.eq_append_cons_of_mem h
      have hr : rest.length < n := by
        rw [← hn, List.length_append, List.length_cons]
        omega
      exact next line rest hl (hi rest.length hr rest rfl)

theorem ne_newline_of_mem (h : newline ∉ line) : ∀ b ∈ line, (b != newline) = true := by
  intro b hb
  have hn : b ≠ newline := fun he => h (he ▸ hb)
  exact bne_iff_ne.mpr hn

theorem isGenerated_last (h : newline ∉ line) : isGenerated line = isMarker (trimReturn line) := by
  have hb := ne_newline_of_mem h
  have ht : line.takeWhile (· != newline) = line := by
    simpa using @List.takeWhile_append_of_pos _ _ line [] hb
  have hd : line.dropWhile (· != newline) = [] := by
    simpa using @List.dropWhile_append_of_pos _ _ line [] hb
  rw [isGenerated, ht]
  split
  case isTrue hm => exact hm.symm
  case isFalse hm =>
    rw [Bool.eq_false_iff.mpr hm]
    split
    case isTrue  => rfl
    case isFalse =>
      split
      case h_1    => rfl
      case h_2 hc => cases hd.symm.trans hc

theorem isGenerated_next (h : newline ∉ line) (rest : List UInt8) :
    isGenerated (line ++ newline :: rest) =
      (isMarker (trimReturn line) || !isPackageLine (trimReturn line) && isGenerated rest) := by
  have hb := ne_newline_of_mem h
  have ht : (line ++ newline :: rest).takeWhile (· != newline) = line := by
    rw [List.takeWhile_append_of_pos hb]
    simp
  have hd : (line ++ newline :: rest).dropWhile (· != newline) = newline :: rest := by
    rw [List.dropWhile_append_of_pos hb]
    simp
  rw [isGenerated, ht]
  split
  case isTrue hm => rw [hm, Bool.true_or]
  case isFalse hm =>
    rw [Bool.eq_false_iff.mpr hm, Bool.false_or]
    split
    case isTrue hp  => rw [hp, Bool.not_true, Bool.false_and]
    case isFalse hp =>
      rw [Bool.eq_false_iff.mpr hp, Bool.not_false, Bool.true_and]
      split
      case h_1 hc => cases hd.symm.trans hc
      case h_2 hc =>
        cases hd.symm.trans hc
        rfl

-- The lines of a file, without the carriage returns at their ends.
def lines (source : List UInt8) : List (List UInt8) :=
  (source.splitOn newline).map trimReturn

-- Some line is a marker, and no line before it starts the package clause.
def scan : List (List UInt8) → Bool
  | []           => false
  | line :: rest => isMarker line || !isPackageLine line && scan rest

theorem isGenerated_eq_scan (source : List UInt8) : isGenerated source = scan (lines source) := by
  induction source using line_induction
  case last line h =>
    rw [isGenerated_last h, lines, List.splitOn_eq_singleton h]
    simp [scan]
  case next line rest h hi =>
    have hl : lines (line ++ newline :: rest) = trimReturn line :: lines rest := by
      rw [lines, List.splitOn_append_cons_self_of_not_mem h]
      rfl
    rw [isGenerated_next h, hi, hl]
    rfl

theorem scan_iff {texts : List (List UInt8)} :
    scan texts ↔ ∃ before text after, texts = before ++ text :: after ∧ isMarker text ∧
      ∀ text' ∈ before, ¬isPackageLine text' := by
  induction texts
  case nil => simp [scan]
  case cons first texts hi =>
    rw [scan, Bool.or_eq_true, Bool.and_eq_true, hi, Bool.not_eq_true']
    constructor
    case mp =>
      rintro (hm | ⟨hp, before, text, after, rfl, hm, hb⟩)
      case inl => exact ⟨[], first, texts, rfl, hm, List.forall_mem_nil _⟩
      case inr =>
        have hf : ¬isPackageLine first := Bool.eq_false_iff.mp hp
        exact ⟨first :: before, text, after, rfl, hm, List.forall_mem_cons.mpr ⟨hf, hb⟩⟩
    case mpr =>
      rintro ⟨_ | ⟨first', before⟩, text, after, ht, hm, hb⟩
      case nil =>
        obtain ⟨rfl, -⟩ := List.cons.inj ht
        exact .inl hm
      case cons =>
        obtain ⟨rfl, rfl⟩ := List.cons.inj ht
        obtain ⟨hf, hb⟩ := List.forall_mem_cons.mp hb
        exact .inr ⟨Bool.eq_false_iff.mpr hf, before, text, after, rfl, hm, hb⟩

-- Nothing is looked at below the package clause.
theorem scan_package {text : List UInt8} (h : isPackageLine text) (before after after' : List (List UInt8)) :
    scan (before ++ text :: after) = scan (before ++ text :: after') := by
  induction before
  case nil             => simp [scan, h]
  case cons first _ hi => simp [scan, hi]

end Scanning

-- A line, and what is left of it without one carriage return at its end.
inductive Trimmed : List UInt8 → List UInt8 → Prop
  | ended (text : List UInt8) : Trimmed (text ++ [carriageReturn]) text
  | plain (text : List UInt8) (h : ∀ front, text ≠ front ++ [carriageReturn]) : Trimmed text text

-- The line starts the package clause.
def StartsPackage (line : List UInt8) : Prop :=
  ∃ text, Trimmed line text ∧ (text = Text.bytes "package" ∨ Text.bytes "package " <+: text)

-- The bytes are whole lines.
def Closed (above : List UInt8) : Prop :=
  above = [] ∨ ∃ front, above = front ++ [newline]

-- What can follow a line, after its last byte that is no carriage return.
def Ends (below : List UInt8) : Prop :=
  below = [] ∨ [newline] <+: below ∨ [carriageReturn, newline] <+: below ∨ below = [carriageReturn]

-- A marker stands between some lines above it, which do not start the package clause, and what is below it.
structure Marks (above tool below source : List UInt8) : Prop where
  source    : source = above ++ Text.bytes "// Code generated " ++ tool ++ Text.bytes " DO NOT EDIT." ++ below
  oneLine   : newline ∉ Text.bytes "// Code generated " ++ tool ++ Text.bytes " DO NOT EDIT."
  closed    : Closed above
  ends      : Ends below
  noPackage : ∀ line ∈ above.splitOn newline, ¬StartsPackage line

-- Some of the lines that a newline ends starts the package clause.
def HasPackage (source : List UInt8) : Prop :=
  ∃ above line below, source = above ++ line ++ newline :: below ∧ Closed above ∧ newline ∉ line ∧ StartsPackage line

-- The same lines, with a carriage return at the end of each.
def withReturns (source : List UInt8) : List UInt8 :=
  source.flatMap fun b => if b = newline then [carriageReturn, newline] else [b]

section Bytes

variable {above line text tool source : List UInt8}

theorem trimReturn_concat (text : List UInt8) : trimReturn (text ++ [carriageReturn]) = text := by
  simp [trimReturn]

theorem trimReturn_of_ne (h : ∀ front, line ≠ front ++ [carriageReturn]) : trimReturn line = line := by
  have hl : line.getLast? ≠ some carriageReturn := by
    intro hl
    obtain ⟨front, hf⟩ := List.getLast?_eq_some_iff.mp hl
    exact h front hf
  rw [trimReturn, if_neg hl]

theorem trimmed_trimReturn (line : List UInt8) : Trimmed line (trimReturn line) := by
  by_cases h : ∃ front, line = front ++ [carriageReturn]
  case pos =>
    obtain ⟨front, rfl⟩ := h
    rw [trimReturn_concat]
    exact .ended front
  case neg =>
    have hn := not_exists.mp h
    rw [trimReturn_of_ne hn]
    exact .plain line hn

theorem trimmed_iff : Trimmed line text ↔ trimReturn line = text := by
  constructor
  case mp =>
    intro h
    cases h
    case ended   => exact trimReturn_concat text
    case plain h => exact trimReturn_of_ne h
  case mpr =>
    rintro rfl
    exact trimmed_trimReturn line

theorem isPackageLine_iff : isPackageLine text ↔ text = Text.bytes "package" ∨ Text.bytes "package " <+: text := by
  have hb : asciiBytes "package " = Text.bytes "package " := rfl
  have hp : asciiBytes "package" = Text.bytes "package" := rfl
  rw [isPackageLine, Bool.or_eq_true, beq_iff_eq, List.isPrefixOf_iff_prefix, or_comm, hb, hp]

theorem startsPackage_iff : StartsPackage line ↔ isPackageLine (trimReturn line) := by
  simp only [StartsPackage, trimmed_iff, exists_eq_left', isPackageLine_iff]

-- Header and footer do not overlap, so something, maybe nothing, stands between them.
theorem isMarker_iff : isMarker text ↔ ∃ tool, text = header ++ tool ++ footer := by
  simp only [isMarker, Bool.and_eq_true, decide_eq_true_eq, List.isPrefixOf_iff_prefix, List.isSuffixOf_iff_suffix]
  constructor
  case mp =>
    rintro ⟨⟨hl, front, rfl⟩, hs⟩
    rw [List.length_append, Nat.add_le_add_iff_left] at hl
    obtain ⟨tool, rfl⟩ := List.suffix_of_suffix_length_le hs (List.suffix_append header front) hl
    exact ⟨tool, (List.append_assoc _ _ _).symm⟩
  case mpr =>
    rintro ⟨tool, rfl⟩
    refine ⟨⟨?_, ?_⟩, List.suffix_append _ _⟩
    · simp only [List.length_append]
      omega
    · rw [List.append_assoc]
      exact List.prefix_append _ _

theorem trimmed_marker {gap : List UInt8} (h : gap = [] ∨ gap = [carriageReturn]) :
    Trimmed (header ++ tool ++ footer ++ gap) (header ++ tool ++ footer) := by
  rcases h with rfl | rfl
  case inr => exact .ended _
  case inl =>
    rw [List.append_nil]
    refine .plain _ fun front hf => ?_
    have hl := congrArg List.getLast? hf
    rw [List.getLast?_append, List.getLast?_concat] at hl
    have hd : (0x2e : UInt8) = carriageReturn := Option.some.inj hl
    exact absurd hd (by decide)

theorem Trimmed.gap (h : Trimmed line text) : ∃ gap, line = text ++ gap ∧ (gap = [] ∨ gap = [carriageReturn]) := by
  cases h
  case ended => exact ⟨[carriageReturn], rfl, .inr rfl⟩
  case plain => exact ⟨[], (List.append_nil _).symm, .inl rfl⟩

end Bytes

section Places

variable {above below line source : List UInt8}

-- A line ends in front of the bytes.
def Breaks (below : List UInt8) : Prop :=
  below = [] ∨ ∃ rest, below = newline :: rest

theorem ends_iff :
    Ends below ↔ ∃ gap rest, below = gap ++ rest ∧ (gap = [] ∨ gap = [carriageReturn]) ∧ Breaks rest := by
  constructor
  case mp =>
    rintro (rfl | ⟨rest, rfl⟩ | ⟨rest, rfl⟩ | rfl)
    · exact ⟨[], [], rfl, .inl rfl, .inl rfl⟩
    · exact ⟨[], newline :: rest, rfl, .inl rfl, .inr ⟨rest, rfl⟩⟩
    · exact ⟨[carriageReturn], newline :: rest, rfl, .inr rfl, .inr ⟨rest, rfl⟩⟩
    · exact ⟨[carriageReturn], [], rfl, .inr rfl, .inl rfl⟩
  case mpr =>
    rintro ⟨gap, below, rfl, rfl | rfl, rfl | ⟨rest, rfl⟩⟩
    · exact .inl rfl
    · exact .inr (.inl ⟨rest, rfl⟩)
    · exact .inr (.inr (.inr rfl))
    · exact .inr (.inr (.inl ⟨rest, rfl⟩))

theorem Closed.splitOn (h : Closed above) :
    above.splitOn newline = (above.splitOn newline).dropLast ++ [[]] := by
  rcases h with rfl | ⟨front, rfl⟩
  case inl => rfl
  case inr =>
    rw [List.splitOn_append_cons_self, List.splitOn_nil, List.dropLast_concat]

theorem Closed.splitOn_append (h : Closed above) (rest : List UInt8) :
    (above ++ rest).splitOn newline = (above.splitOn newline).dropLast ++ rest.splitOn newline := by
  rcases h with rfl | ⟨front, rfl⟩
  case inl => rfl
  case inr =>
    rw [List.append_assoc, List.singleton_append, List.splitOn_append_cons_self, List.splitOn_append_cons_self,
      List.splitOn_nil, List.dropLast_concat]

theorem Closed.lines_append (h : Closed above) (rest : List UInt8) :
    lines (above ++ rest) = (above.splitOn newline).dropLast.map trimReturn ++ lines rest := by
  rw [lines, h.splitOn_append, List.map_append]
  rfl

theorem Breaks.splitOn_append (h : Breaks below) (hl : newline ∉ line) :
    ∃ after, (line ++ below).splitOn newline = line :: after := by
  rcases h with rfl | ⟨rest, rfl⟩
  case inl => exact ⟨[], by rw [List.append_nil, List.splitOn_eq_singleton hl]⟩
  case inr => exact ⟨_, List.splitOn_append_cons_self_of_not_mem hl rest⟩

-- Every line of a file stands between whole lines above it and what is below it.
theorem exists_closed_of_splitOn {before after : List (List UInt8)}
    (h : source.splitOn newline = before ++ line :: after) :
    ∃ above below, source = above ++ line ++ below ∧ Closed above ∧ newline ∉ line ∧ Breaks below ∧
      (above.splitOn newline).dropLast = before := by
  induction source using line_induction generalizing before
  case last first hf =>
    rw [List.splitOn_eq_singleton hf] at h
    cases before
    case nil =>
      obtain ⟨rfl, -⟩ := List.cons.inj h
      exact ⟨[], [], (List.append_nil _).symm, .inl rfl, hf, .inl rfl, rfl⟩
    case cons => simp at h
  case next first rest hf hi =>
    rw [List.splitOn_append_cons_self_of_not_mem hf] at h
    cases before
    case nil =>
      obtain ⟨rfl, -⟩ := List.cons.inj h
      exact ⟨[], newline :: rest, rfl, .inl rfl, hf, .inr ⟨rest, rfl⟩, rfl⟩
    case cons first' before =>
      obtain ⟨rfl, ht⟩ := List.cons.inj h
      obtain ⟨above, below, rfl, hc, hl, hb, rfl⟩ := hi ht
      refine ⟨first ++ newline :: above, below, by simp, .inr ?_, hl, hb, ?_⟩
      · rcases hc with rfl | ⟨front, rfl⟩
        case inl => exact ⟨first, rfl⟩
        case inr => exact ⟨first ++ newline :: front, by simp⟩
      · rw [List.splitOn_append_cons_self_of_not_mem hf]
        exact List.dropLast_cons_of_ne_nil (List.splitOn_ne_nil _ _)

end Places

section Main

variable {source : List UInt8}

theorem header_eq : header = Text.bytes "// Code generated " :=
  rfl

theorem footer_eq : footer = Text.bytes " DO NOT EDIT." :=
  rfl

theorem marks_of_isGenerated (h : isGenerated source) : ∃ above tool below, Marks above tool below source := by
  rw [isGenerated_eq_scan, scan_iff] at h
  obtain ⟨before, text, after, hs, hm, hb⟩ := h
  obtain ⟨before, rest, hs, rfl, hr⟩ := List.map_eq_append_iff.mp hs
  obtain ⟨line, after, rfl, ht, -⟩ := List.map_eq_cons_iff.mp hr
  obtain ⟨above, below, rfl, hc, hl, hbr, rfl⟩ := exists_closed_of_splitOn hs
  obtain ⟨tool, rfl⟩ := isMarker_iff.mp hm
  obtain ⟨gap, rfl, hg⟩ := (trimmed_iff.mpr ht).gap
  refine ⟨above, tool, gap ++ below, ?_⟩
  constructor
  case source    => simp only [header_eq, footer_eq, List.append_assoc]
  case oneLine   => exact fun hn => hl (List.mem_append_left gap hn)
  case closed    => exact hc
  case ends      => exact ends_iff.mpr ⟨gap, below, rfl, hg, hbr⟩
  case noPackage =>
    rw [hc.splitOn]
    intro line hl hp
    rw [startsPackage_iff] at hp
    rcases List.mem_append.mp hl with hl | hl
    case inl => exact hb _ (List.mem_map_of_mem hl) hp
    case inr =>
      rw [List.mem_singleton.mp hl] at hp
      exact absurd hp (by decide)

theorem isGenerated_of_marks {above tool below : List UInt8} (h : Marks above tool below source) :
    isGenerated source := by
  obtain ⟨rfl, ho, hc, he, hf⟩ := h
  obtain ⟨gap, below, rfl, hg, hb⟩ := ends_iff.mp he
  rw [← header_eq, ← footer_eq] at ho ⊢
  have hl : newline ∉ header ++ tool ++ footer ++ gap := by
    rw [List.mem_append, not_or]
    refine ⟨ho, ?_⟩
    rcases hg with rfl | rfl <;> decide
  have ht : trimReturn (header ++ tool ++ footer ++ gap) = header ++ tool ++ footer :=
    trimmed_iff.mp (trimmed_marker hg)
  have hs : above ++ header ++ tool ++ footer ++ (gap ++ below) =
      above ++ (header ++ tool ++ footer ++ gap ++ below) := by
    simp only [List.append_assoc]
  obtain ⟨after, ha⟩ := hb.splitOn_append hl
  rw [isGenerated_eq_scan, scan_iff, hs, hc.lines_append, lines, ha, List.map_cons, ht]
  refine ⟨_, _, _, rfl, isMarker_iff.mpr ⟨tool, rfl⟩, fun text ht hp => ?_⟩
  obtain ⟨line, hm, rfl⟩ := List.mem_map.mp ht
  exact hf line (List.dropLast_subset _ hm) (startsPackage_iff.mpr hp)

theorem isGenerated_append_of_hasPackage (h : HasPackage source) (rest : List UInt8) :
    isGenerated (source ++ rest) = isGenerated source := by
  obtain ⟨above, line, below, rfl, hc, hl, hp⟩ := h
  have hs : ∀ below, lines (above ++ line ++ newline :: below) =
      (above.splitOn newline).dropLast.map trimReturn ++ trimReturn line :: lines below := by
    intro below
    rw [List.append_assoc, hc.lines_append, lines, List.splitOn_append_cons_self_of_not_mem hl]
    rfl
  rw [List.append_assoc, List.cons_append, isGenerated_eq_scan, isGenerated_eq_scan, hs, hs]
  exact scan_package (startsPackage_iff.mp hp) _ _ _

theorem withReturns_of_not_mem {line : List UInt8} (h : newline ∉ line) : withReturns line = line := by
  induction line
  case nil => rfl
  case cons b line hi =>
    obtain ⟨hb, hl⟩ := not_or.mp (mt List.mem_cons.mpr h)
    rw [withReturns, List.flatMap_cons, if_neg (Ne.symm hb)]
    exact congrArg (b :: ·) (hi hl)

theorem withReturns_next {line : List UInt8} (h : newline ∉ line) (rest : List UInt8) :
    withReturns (line ++ newline :: rest) = line ++ [carriageReturn] ++ newline :: withReturns rest := by
  have hl := withReturns_of_not_mem h
  rw [withReturns] at hl
  rw [withReturns, List.flatMap_append, hl]
  simp [withReturns]

theorem lines_withReturns (h : carriageReturn ∉ source) : lines (withReturns source) = lines source := by
  induction source using line_induction
  case last line hl => rw [withReturns_of_not_mem hl]
  case next line rest hl hi =>
    obtain ⟨hn, hr⟩ := not_or.mp (mt List.mem_append.mpr h)
    have hc : newline ∉ line ++ [carriageReturn] := by
      rw [List.mem_append, not_or]
      exact ⟨hl, by decide⟩
    have ht : trimReturn line = line := trimReturn_of_ne fun front hf => hn (by simp [hf])
    have hi := hi (mt (List.mem_cons_of_mem newline) hr)
    rw [lines] at hi
    rw [withReturns_next hl, lines, lines, List.splitOn_append_cons_self_of_not_mem hc,
      List.splitOn_append_cons_self_of_not_mem hl, List.map_cons, List.map_cons, hi, trimReturn_concat, ht]
    rfl

end Main

-- A file is generated exactly if a marker stands above its package clause. So nothing below that clause matters, and it
-- makes no difference whether lines end in a newline or in a carriage return and a newline.
theorem isGenerated_marks (source : List UInt8) :
    (isGenerated source ↔ ∃ above tool below, Marks above tool below source) ∧
    (HasPackage source → ∀ rest, isGenerated (source ++ rest) = isGenerated source) ∧
    (carriageReturn ∉ source → isGenerated (withReturns source) = isGenerated source) := by
  refine ⟨⟨marks_of_isGenerated, ?_⟩, isGenerated_append_of_hasPackage, fun h => ?_⟩
  · rintro ⟨above, tool, below, h⟩
    exact isGenerated_of_marks h
  · rw [isGenerated_eq_scan, isGenerated_eq_scan, lines_withReturns h]

namespace Sample

def above : List UInt8 := Text.bytes "// +build linux\n\n"

def tool : List UInt8 := Text.bytes "by stringer;"

def below : List UInt8 := Text.bytes "\npackage kind\n"

def source : List UInt8 :=
  Text.bytes "// +build linux\n\n// Code generated by stringer; DO NOT EDIT.\npackage kind\n"

theorem marks : Marks above tool below source where
  source    := rfl
  oneLine   := by decide
  closed    := .inr ⟨Text.bytes "// +build linux\n", rfl⟩
  ends      := .inr (.inl ⟨Text.bytes "package kind\n", rfl⟩)
  noPackage := by
    simp only [startsPackage_iff]
    decide

theorem hasPackage : HasPackage source := by
  refine ⟨Text.bytes "// +build linux\n\n// Code generated by stringer; DO NOT EDIT.\n", Text.bytes "package kind", [],
    rfl, .inr ⟨Text.bytes "// +build linux\n\n// Code generated by stringer; DO NOT EDIT.", rfl⟩, by decide, ?_⟩
  rw [startsPackage_iff]
  decide

end Sample

open Sample in
theorem isGenerated_marks_sample :
    HasPackage source ∧ carriageReturn ∉ source ∧ isGenerated (withReturns source) ∧
    ∀ rest, isGenerated (source ++ rest) := by
  obtain ⟨hm, hp, hr⟩ := isGenerated_marks source
  have hc : carriageReturn ∉ source := by decide
  have hg : isGenerated source := hm.mpr ⟨above, tool, below, marks⟩
  refine ⟨hasPackage, hc, ?_, fun rest => ?_⟩
  · rw [hr hc]
    exact hg
  · rw [hp hasPackage]
    exact hg

end ErrorOrigins.Generated
