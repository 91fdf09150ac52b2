import ErrorOrigins.Go.File
import ErrorOrigins.Proofs.Decoding
import ErrorOrigins.Proofs.Marker

namespace ErrorOrigins

namespace Text

-- A name that can stand in a package clause.
def IsIdentifier (name : String) : Prop :=
  ∃ first rest, name.toList = first :: rest ∧ isIdentifierStart first ∧ ∀ c ∈ rest, isIdentifierPart c

theorem IsIdentifier.isIdentifierPart {name : String} (h : IsIdentifier name) {c : Char} (hc : c ∈ name.toList) :
    isIdentifierPart c := by
  obtain ⟨first, rest, hn, hf, hr⟩ := h
  rw [hn] at hc
  rcases List.mem_cons.mp hc with rfl | hc
  case inl => rw [Text.isIdentifierPart, hf, Bool.true_or]
  case inr => exact hr c hc

theorem bytes_ne_nil {text : String} (h : text.toList ≠ []) : bytes text ≠ [] := by
  obtain ⟨c, rest, ht⟩ := List.exists_cons_of_ne_nil h
  rw [bytes_eq, ht, List.flatMap_cons]
  exact List.append_ne_nil_of_left_ne_nil String.utf8EncodeChar_ne_nil _

-- The bytes of other characters are greater.
theorem newline_not_mem_bytes {text : String} (h : '\n' ∉ text.toList) : Generated.newline ∉ bytes text := by
  rw [bytes_eq, List.mem_flatMap]
  rintro ⟨c, hc, hn⟩
  have hb : Generated.newline.toNat = 0x0a := rfl
  have hv : c.val.toNat = 0x0a := by
    have hs := sequence_utf8EncodeChar c
    generalize String.utf8EncodeChar c = sequence at hs hn
    cases hs
    all_goals
      simp only [List.mem_cons, List.not_mem_nil, or_false] at hn
      grind
  have he : c = '\n' := Char.ext (UInt32.toNat_inj.mp hv)
  exact h (he ▸ hc)

end Text

namespace Generated

def space : UInt8 := 0x20

def tab : UInt8 := 0x09

def IsBlank (b : UInt8) : Prop :=
  b = space ∨ b = tab

-- A line that starts a package clause: maybe a byte order mark, maybe blanks, the keyword, blanks, a name and what
-- follows the name.
structure Clause where
  marked     : Bool
  indent     : List UInt8
  gap        : List UInt8
  name       : String
  rest       : List UInt8
  indented   : ∀ b ∈ indent, IsBlank b
  gapped     : ∀ b ∈ gap, IsBlank b
  nonempty   : gap ≠ []
  identifier : Text.IsIdentifier name
  oneLine    : newline ∉ rest

-- The line is a marker.
def MarksLine (line : List UInt8) : Prop :=
  ∃ tool, Trimmed line (Text.bytes "// Code generated " ++ tool ++ Text.bytes " DO NOT EDIT.")

namespace Clause

def mark (c : Clause) : List UInt8 :=
  if c.marked then Text.bytes "\ufeff" else []

def line (c : Clause) : List UInt8 :=
  c.mark ++ c.indent ++ Text.bytes "package" ++ c.gap ++ Text.bytes c.name ++ c.rest

-- The keyword starts the line, and a space follows it.
structure Straight (c : Clause) : Prop where
  unmarked : ¬c.marked
  flush    : c.indent = []
  spaced   : [space] <+: c.gap

variable (c : Clause)

theorem newline_not_mem_line : newline ∉ c.line := by
  have hb : ¬IsBlank newline := by rintro (h | h) <;> cases h
  have hm : newline ∉ c.mark := by
    rw [mark]
    split <;> decide
  have hn : newline ∉ Text.bytes c.name :=
    Text.newline_not_mem_bytes fun hn => absurd (c.identifier.isIdentifierPart hn) (by decide)
  simp only [line, List.mem_append, not_or]
  exact ⟨⟨⟨⟨⟨hm, mt (c.indented _) hb⟩, by decide⟩, mt (c.gapped _) hb⟩, hn⟩, c.oneLine⟩

variable {c}

-- What the line starts with tells whether the keyword starts it.
theorem head?_line {b : UInt8} (h : c.line.head? = some b) :
    b = 0x70 ∧ ¬c.marked ∧ c.indent = [] ∨ b = 0xef ∨ IsBlank b := by
  have hl : c.line.head? = c.mark.head?.or (c.indent.head?.or (some 0x70)) := by
    simp only [line, List.head?_append, Option.or_assoc]
    rfl
  rw [hl, mark] at h
  cases hm : c.marked
  case true =>
    rw [hm] at h
    exact .inr (.inl (Option.some.inj h).symm)
  case false =>
    rw [hm] at h
    cases hi : c.indent
    case nil =>
      rw [hi] at h
      exact .inl ⟨(Option.some.inj h).symm, Bool.false_ne_true, rfl⟩
    case cons first indent =>
      rw [hi] at h
      refine .inr (.inr ?_)
      rw [← Option.some.inj h]
      exact c.indented first (hi ▸ List.mem_cons_self)

theorem not_marksLine_line (c : Clause) : ¬MarksLine c.line := by
  rintro ⟨tool, ht⟩
  obtain ⟨gap, hl, -⟩ := ht.gap
  have hh : c.line.head? = some 0x2f := by
    rw [hl]
    rfl
  rcases head?_line hh with ⟨h, -⟩ | h | h | h <;> cases h

theorem flush_of_keyword (h : Text.bytes "package" <+: c.line) : ¬c.marked ∧ c.indent = [] := by
  have hh : c.line.head? = some 0x70 := by
    obtain ⟨more, hm⟩ := h
    rw [← hm]
    rfl
  rcases head?_line hh with ⟨-, h⟩ | h | h | h
  · exact h
  all_goals cases h

theorem line_of_flush (hm : ¬c.marked) (hi : c.indent = []) :
    c.line = Text.bytes "package" ++ (c.gap ++ Text.bytes c.name ++ c.rest) := by
  simp [line, mark, hm, hi]

theorem spaced_of_prefix {more : List UInt8} (h : [space] <+: c.gap ++ more) : [space] <+: c.gap := by
  obtain ⟨b, blanks, hb⟩ := List.exists_cons_of_ne_nil c.nonempty
  rw [hb] at h ⊢
  obtain ⟨rest, hr⟩ := h
  rw [← (List.cons.inj hr).left]
  exact List.prefix_append [space] blanks

theorem straight_of_startsPackage (h : StartsPackage c.line) : c.Straight := by
  obtain ⟨text, ht, hp⟩ := h
  obtain ⟨gap, hl, hg⟩ := ht.gap
  have hk : Text.bytes "package" <+: text := by
    rcases hp with rfl | hp
    case inl => exact List.prefix_refl _
    case inr => exact List.IsPrefix.trans (by decide) hp
  obtain ⟨hm, hi⟩ := flush_of_keyword (hk.trans (hl ▸ List.prefix_append text gap))
  refine ⟨hm, hi, ?_⟩
  rw [line_of_flush hm hi] at hl
  rcases hp with rfl | ⟨more, rfl⟩
  case inl =>
    -- The gap is not empty, and a carriage return is no blank.
    have he : c.gap ++ Text.bytes c.name ++ c.rest = gap := List.append_cancel_left hl
    obtain ⟨b, blanks, hb⟩ := List.exists_cons_of_ne_nil c.nonempty
    have hc : IsBlank b := c.gapped b (hb ▸ List.mem_cons_self)
    rw [hb] at he
    rcases hg with rfl | rfl
    case inl => cases he
    case inr =>
      rw [(List.cons.inj he).left] at hc
      rcases hc with hc | hc <;> cases hc
  case inr =>
    have he : Text.bytes "package " = Text.bytes "package" ++ [space] := rfl
    rw [he, List.append_assoc, List.append_assoc, List.append_assoc] at hl
    exact spaced_of_prefix ⟨more ++ gap, (List.append_cancel_left hl).symm⟩

theorem Straight.startsPackage (h : c.Straight) : StartsPackage c.line := by
  obtain ⟨blanks, hb⟩ := h.spaced
  have hs : c.line = Text.bytes "package " ++ (blanks ++ (Text.bytes c.name ++ c.rest)) := by
    rw [line_of_flush h.unmarked h.flush, ← hb]
    simp only [List.append_assoc]
    rfl
  have ht := trimmed_trimReturn c.line
  obtain ⟨gap, hl, hg⟩ := ht.gap
  refine ⟨_, ht, .inr (List.prefix_of_prefix_length_le ⟨_, hs.symm⟩ ⟨gap, hl.symm⟩ ?_)⟩
  -- At most one byte is trimmed, and the name has at least one.
  obtain ⟨first, rest, hn, -⟩ := c.identifier
  have hn : 0 < (Text.bytes c.name).length :=
    List.length_pos_of_ne_nil (Text.bytes_ne_nil (hn ▸ List.cons_ne_nil first rest))
  have hc := congrArg List.length (hs.symm.trans hl)
  simp only [List.length_append] at hc
  have hg : gap.length ≤ 1 := by rcases hg with rfl | rfl <;> simp
  omega

theorem startsPackage_line_iff : StartsPackage c.line ↔ c.Straight :=
  ⟨straight_of_startsPackage, Straight.startsPackage⟩

end Clause

section Below

variable {above line : List UInt8}

theorem marksLine_iff : MarksLine line ↔ isMarker (trimReturn line) := by
  rw [isMarker_iff, MarksLine, ← header_eq, ← footer_eq]
  simp only [trimmed_iff]

-- Lines that are no markers matter only if one of them starts the package clause.
theorem scan_append {before : List (List UInt8)} (h : ∀ text ∈ before, ¬isMarker text) (after : List (List UInt8)) :
    scan (before ++ after) ↔ (∀ text ∈ before, ¬isPackageLine text) ∧ scan after := by
  induction before
  case nil => simp
  case cons first before hi =>
    obtain ⟨hf, hb⟩ := List.forall_mem_cons.mp h
    rw [List.cons_append, scan, Bool.eq_false_iff.mpr hf, Bool.false_or, Bool.and_eq_true, hi hb,
      List.forall_mem_cons, and_assoc, Bool.not_eq_true', Bool.eq_false_iff]

theorem isGenerated_append (hc : Closed above) (hm : ∀ line ∈ above.splitOn newline, ¬MarksLine line)
    (rest : List UInt8) :
    isGenerated (above ++ rest) ↔ (∀ line ∈ above.splitOn newline, ¬StartsPackage line) ∧ isGenerated rest := by
  have hn : ∀ text ∈ (above.splitOn newline).dropLast.map trimReturn, ¬isMarker text := by
    intro text ht
    obtain ⟨line, hm', rfl⟩ := List.mem_map.mp ht
    rw [← marksLine_iff]
    exact hm line (List.dropLast_subset _ hm')
  have he : ¬StartsPackage [] := by
    rw [startsPackage_iff]
    decide
  rw [isGenerated_eq_scan, isGenerated_eq_scan, hc.lines_append, scan_append hn, hc.splitOn, List.dropLast_concat]
  simp only [List.forall_mem_map, List.forall_mem_append, List.forall_mem_singleton, ← startsPackage_iff, he,
    not_false_iff, and_true]

theorem not_isGenerated_line (c : Clause) : ¬isGenerated c.line := by
  rw [isGenerated_last c.newline_not_mem_line, ← marksLine_iff]
  exact c.not_marksLine_line

-- The search ends at a straight clause and goes on after any other.
theorem isGenerated_line_next (c : Clause) (below : List UInt8) :
    isGenerated (c.line ++ newline :: below) ↔ ¬c.Straight ∧ isGenerated below := by
  have hm : isMarker (trimReturn c.line) = false := by
    rw [Bool.eq_false_iff, ne_eq, ← marksLine_iff]
    exact c.not_marksLine_line
  rw [isGenerated_next c.newline_not_mem_line, hm, Bool.false_or, Bool.and_eq_true, Bool.not_eq_true',
    Bool.eq_false_iff, ne_eq, ← startsPackage_iff, Clause.startsPackage_line_iff]

-- A text that makes a file generated wherever the search gets to it.
def marker : List UInt8 :=
  Text.bytes "// Code generated x. DO NOT EDIT.\n"

theorem isGenerated_marker : isGenerated marker := by
  have h : marker = Text.bytes "// Code generated x. DO NOT EDIT." ++ newline :: [] := rfl
  rw [h, isGenerated_next (by decide)]
  decide

end Below

-- Below a package clause with no marker above it, a marker counts if the clause is not straight and no line above is
-- taken for one. So no text below the clause makes a file generated exactly if one of the two stops the search.
theorem isGenerated_clause (c : Clause) {above : List UInt8} (hc : Closed above)
    (hm : ∀ line ∈ above.splitOn newline, ¬MarksLine line) :
    ¬isGenerated (above ++ c.line) ∧
    (∀ below, isGenerated (above ++ (c.line ++ newline :: below)) ↔
      (∀ line ∈ above.splitOn newline, ¬StartsPackage line) ∧ ¬c.Straight ∧ isGenerated below) ∧
    ((∀ below, ¬isGenerated (above ++ (c.line ++ newline :: below))) ↔
      (∃ line ∈ above.splitOn newline, StartsPackage line) ∨ c.Straight) := by
  have hb : ∀ below, isGenerated (above ++ (c.line ++ newline :: below)) ↔
      (∀ line ∈ above.splitOn newline, ¬StartsPackage line) ∧ ¬c.Straight ∧ isGenerated below := by
    intro below
    rw [isGenerated_append hc hm, isGenerated_line_next]
  refine ⟨fun h => ?last, hb, ?always⟩
  case last => exact not_isGenerated_line c ((isGenerated_append hc hm _).mp h).right
  case always =>
    simp only [hb, not_and]
    constructor
    case mp =>
      intro h
      by_contra hn
      obtain ⟨ha, hs⟩ := not_or.mp hn
      exact h marker (by simpa using ha) hs isGenerated_marker
    case mpr =>
      rintro (⟨line, hl, hp⟩ | hs) below ha hn
      case inl => exact absurd hp (ha line hl)
      case inr => exact absurd hs hn

namespace SampleClause

-- The clause of a package `p`, with one blank behind the keyword.
def clause (marked : Bool) (indent : List UInt8) (blank : UInt8) (hi : ∀ b ∈ indent, IsBlank b) (hb : IsBlank blank) :
    Clause where
  marked     := marked
  indent     := indent
  gap        := [blank]
  name       := "p"
  rest       := []
  indented   := hi
  gapped     := List.forall_mem_singleton.mpr hb
  nonempty   := List.cons_ne_nil blank []
  identifier := ⟨'p', [], rfl, by decide, List.forall_mem_nil _⟩
  oneLine    := List.not_mem_nil

def straight : Clause := clause false [] space (List.forall_mem_nil _) (.inl rfl)

def tabbed : Clause := clause false [] tab (List.forall_mem_nil _) (.inr rfl)

def indented : Clause := clause false [space] space (List.forall_mem_singleton.mpr (.inl rfl)) (.inl rfl)

def marked : Clause := clause true [] space (List.forall_mem_nil _) (.inl rfl)

def above : List UInt8 := Text.bytes "// The package p.\n"

-- Go takes the first line of a text for a package clause, and the text is generated by what stands below.
structure Misread (text : String) (c : Clause) (below : List UInt8) : Prop where
  source    : Text.bytes text = c.line ++ newline :: below
  package   : ((Go.readText text.toList).bind fun tree => (tree.toSourceTree text none).package) = some c.name
  generated : isGenerated (Text.bytes text)

theorem Misread.of_not_straight {text : String} {c : Clause} (hc : ¬c.Straight)
    (hs : Text.bytes text = c.line ++ newline :: marker)
    (hp : ((Go.readText text.toList).bind fun tree => (tree.toSourceTree text none).package) = some c.name) :
    Misread text c marker := by
  refine ⟨hs, hp, ?_⟩
  rw [hs, isGenerated_line_next]
  exact ⟨hc, isGenerated_marker⟩

end SampleClause

open SampleClause in
theorem isGenerated_clause_sample :
    Closed above ∧ (∀ line ∈ above.splitOn newline, ¬MarksLine line) ∧
    (∀ below, ¬isGenerated (above ++ (straight.line ++ newline :: below))) ∧
    isGenerated (above ++ (tabbed.line ++ newline :: marker)) := by
  have hc : Closed above := .inr ⟨Text.bytes "// The package p.", rfl⟩
  have hm : ∀ line ∈ above.splitOn newline, ¬MarksLine line := by
    simp only [marksLine_iff]
    decide
  have hp : ∀ line ∈ above.splitOn newline, ¬StartsPackage line := by
    simp only [startsPackage_iff]
    decide
  obtain ⟨-, -, hs⟩ := isGenerated_clause straight hc hm
  obtain ⟨-, ht, -⟩ := isGenerated_clause tabbed hc hm
  have hn : ¬tabbed.Straight := fun h => absurd h.spaced (by decide)
  refine ⟨hc, hm, hs.mpr (.inr ?_), (ht marker).mpr ⟨hp, hn, isGenerated_marker⟩⟩
  exact ⟨Bool.false_ne_true, rfl, List.prefix_refl _⟩

open SampleClause in
-- A marker below the package clause makes a file generated if the clause has a tab behind the keyword, a blank in front
-- of it, or a byte order mark.
theorem isGenerated_below_clause :
    Misread "package\tp\n// Code generated x. DO NOT EDIT.\n" tabbed marker ∧
    Misread " package p\n// Code generated x. DO NOT EDIT.\n" indented marker ∧
    Misread "\ufeffpackage p\n// Code generated x. DO NOT EDIT.\n" marked marker := by
  refine ⟨.of_not_straight ?_ rfl (by decide +kernel), .of_not_straight ?_ rfl (by decide +kernel),
    .of_not_straight ?_ rfl (by decide +kernel)⟩
  · exact fun h => absurd h.spaced (by decide)
  · exact fun h => absurd h.flush (by decide)
  · exact fun h => h.unmarked rfl

end Generated
end ErrorOrigins
