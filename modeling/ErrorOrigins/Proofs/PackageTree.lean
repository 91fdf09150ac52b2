import ErrorOrigins.Proofs.ByteOrder
import ErrorOrigins.Proofs.Components
import ErrorOrigins.Proofs.Selecting

namespace ErrorOrigins

namespace Entry

variable {e child : Entry} {entries : List (String × Entry)} {obstacle : Option Obstacle} {name : String}
  {way : List String}

theorem Valid.distinct (hv : e.Valid) : (e.entries.map (·.1)).Nodup := by
  cases hv
  case file | link => exact .nil
  case dir         => assumption

theorem child?_eq_some_iff (hd : (e.entries.map (·.1)).Nodup) :
    e.child? name = some child ↔ (name, child) ∈ e.entries := by
  rw [child?]
  generalize e.entries = entries at hd ⊢
  induction entries
  case nil => simp
  case cons p entries hi =>
    obtain ⟨key, value⟩ := p
    obtain ⟨hk, hd⟩ := List.nodup_cons.mp hd
    by_cases h : name = key
    case pos =>
      subst h
      have hm : (name, child) ∉ entries := fun hm => hk (List.mem_map.mpr ⟨_, hm, rfl⟩)
      simp [hm, eq_comm]
    case neg =>
      have hb : (name == key) = false := by simpa using h
      rw [List.lookup_cons, hb]
      simpa [h] using hi hd

-- The entries of a directory that are seen in its listing. A directory that cannot be opened shows none.
def seen (e : Entry) : List (String × Entry) :=
  (e.listing.toOption.map (·.entries)).getD []

theorem seen_of_listing {listing : Listing} (h : e.listing = .ok listing) : e.seen = listing.entries := by
  rw [seen, h]
  rfl

theorem seen_dir (entries : List (String × Entry)) (obstacle : Option Obstacle) :
    (dir entries obstacle).seen = entries.take (Obstacle.shown entries.length obstacle) := by
  obtain _ | ⟨fault⟩ | ⟨shown, fault⟩ := obstacle
  case none        => exact (List.take_length).symm
  case some.closed => rfl
  case some.broken => rfl

theorem seen_sublist (e : Entry) : e.seen.Sublist e.entries := by
  cases e
  case dir entries obstacle =>
    rw [seen_dir]
    exact List.take_sublist ..
  all_goals exact List.nil_sublist _

-- The ways that go on through an entry of a directory.
def waysThrough (p : String × Entry) : List (List String) :=
  if isSkippedDir p.1 then [] else p.2.packageWays.map (p.1 :: ·)

theorem packageWaysIn_eq (shown : Nat) (entries : List (String × Entry)) :
    packageWaysIn shown entries = (entries.take shown).flatMap waysThrough := by
  induction entries generalizing shown
  case nil => cases shown <;> rfl
  case cons p entries hi =>
    cases shown
    case zero => rfl
    case succ shown =>
      rw [List.take_succ_cons, List.flatMap_cons, ← hi]
      rfl

theorem packageWays_dir (entries : List (String × Entry)) (obstacle : Option Obstacle) :
    (dir entries obstacle).packageWays = [] :: (dir entries obstacle).seen.flatMap waysThrough := by
  rw [packageWays, packageWaysIn_eq, seen_dir]

theorem mem_waysThrough {p : String × Entry} :
    way ∈ waysThrough p ↔ ¬isSkippedDir p.1 ∧ ∃ rest ∈ p.2.packageWays, way = p.1 :: rest := by
  rw [waysThrough]
  by_cases hs : isSkippedDir p.1 <;> simp [hs, eq_comm]

-- Each name on the way is seen in the directory before it.
def Shows (e : Entry) (way : List String) : Prop :=
  ∀ front name back, way = front ++ name :: back → ∃ d, e.get? front = some d ∧ name ∈ d.seen.map (·.1)

theorem shows_nil (e : Entry) : e.Shows [] :=
  fun front name back h => absurd h.symm (by simp)

theorem shows_cons_iff (hc : e.child? name = some child) :
    e.Shows (name :: way) ↔ name ∈ e.seen.map (·.1) ∧ child.Shows way := by
  have hg : ∀ front, e.get? (name :: front) = child.get? front := fun front => by simp [get?, hc]
  constructor
  case mp =>
    intro h
    refine ⟨?first, fun front next back hw => ?rest⟩
    case first =>
      obtain ⟨d, hd, hm⟩ := h [] name way rfl
      cases hd
      exact hm
    case rest => exact hg front ▸ h (name :: front) next back (by rw [hw, List.cons_append])
  case mpr =>
    rintro ⟨hm, hs⟩ (_ | ⟨first, front⟩) next back hw
    case nil =>
      obtain ⟨rfl, -⟩ := List.cons.inj hw
      exact ⟨e, rfl, hm⟩
    case cons =>
      obtain ⟨rfl, hr⟩ := List.cons.inj hw
      rw [hg]
      exact hs front next back hr

-- The ways lead to all directories that can be reached by names that are seen, without entering one that is skipped.
theorem mem_packageWays (hv : e.Valid) :
    way ∈ e.packageWays ↔
      (∃ d, e.get? way = some d ∧ d.isDir) ∧ e.Shows way ∧ ∀ name ∈ way, ¬isSkippedDir name := by
  induction way generalizing e
  case nil =>
    cases e
    case dir         => simp [packageWays, get?, isDir, shows_nil]
    case file | link => simp [packageWays, get?, isDir]
  case cons name way hi =>
    cases hv
    case file | link => simp [packageWays, get?, child?, Entry.entries]
    case dir entries obstacle hd hn hc =>
      have hm : ∀ {child}, (dir entries obstacle).child? name = some child ↔ (name, child) ∈ entries :=
        child?_eq_some_iff hd
      rw [packageWays_dir, List.mem_cons, or_iff_right (List.cons_ne_nil _ _), List.mem_flatMap, List.forall_mem_cons]
      constructor
      case mp =>
        rintro ⟨⟨key, child⟩, hp, hw⟩
        obtain ⟨hs, rest, hr, he⟩ := mem_waysThrough.mp hw
        obtain ⟨rfl, rfl⟩ := List.cons.inj he
        have hp' := (seen_sublist _).subset hp
        obtain ⟨⟨d, hg, hd⟩, hs', hk⟩ := (hi (hc _ hp')).mp hr
        refine ⟨⟨d, ?_, hd⟩, (shows_cons_iff (hm.mpr hp')).mpr ⟨List.mem_map.mpr ⟨_, hp, rfl⟩, hs'⟩, hs, hk⟩
        rw [get?, hm.mpr hp']
        exact hg
      case mpr =>
        rintro ⟨⟨d, hg, hd⟩, hs, hk, hk'⟩
        obtain ⟨child, he, hg'⟩ := Option.bind_eq_some_iff.mp hg
        obtain ⟨hn, hs'⟩ := (shows_cons_iff he).mp hs
        obtain ⟨⟨key, child'⟩, hp, rfl⟩ := List.mem_map.mp hn
        -- Names are distinct, so what is seen under the name is what the name leads to.
        cases he.symm.trans (hm.mpr ((seen_sublist _).subset hp))
        exact ⟨_, hp, mem_waysThrough.mpr ⟨hk, way, (hi (hc _ (hm.mp he))).mpr ⟨⟨d, hg', hd⟩, hs', hk'⟩, rfl⟩⟩

theorem packageWays_nodup (hv : e.Valid) : e.packageWays.Nodup := by
  induction hv
  case file | link => exact .nil
  case dir entries obstacle hd hn hc hi =>
    have hs := seen_sublist (dir entries obstacle)
    rw [packageWays_dir]
    refine List.Pairwise.cons ?top (List.pairwise_flatMap.mpr ⟨?each, ?between⟩)
    case top =>
      rintro way hw rfl
      obtain ⟨p, -, hw⟩ := List.mem_flatMap.mp hw
      obtain ⟨-, rest, -, hw⟩ := mem_waysThrough.mp hw
      cases hw
    case each =>
      intro p hp
      rw [waysThrough]
      split
      case isTrue  => exact .nil
      case isFalse =>
        exact List.Pairwise.map _ (fun way way' hw h => hw (List.cons.inj h).right) (hi p (hs.subset hp))
    case between =>
      -- Ways through different names differ in their first name.
      refine (List.pairwise_map.mp (hd.sublist (hs.map _))).imp fun {p p'} hne way hw way' hw' h => hne ?_
      obtain ⟨-, rest, -, rfl⟩ := mem_waysThrough.mp hw
      obtain ⟨-, rest', -, he⟩ := mem_waysThrough.mp hw'
      exact (List.cons.inj (h.trans he)).left

theorem valid_of_get? (hv : e.Valid) {e' : Entry} (hg : e.get? way = some e') :
    e'.Valid ∧ ∀ name ∈ way, ValidName name := by
  induction way generalizing e
  case nil =>
    cases Option.some.inj hg
    exact ⟨hv, by simp⟩
  case cons name way hi =>
    obtain ⟨child, he, hc⟩ := Option.bind_eq_some_iff.mp hg
    cases hv
    case file | link => simp [child?, Entry.entries] at he
    case dir entries obstacle hd hn hv =>
      have hm := (@child?_eq_some_iff (dir entries obstacle) _ _ hd).mp he
      obtain ⟨hv', hw⟩ := hi (hv _ hm) hc
      exact ⟨hv', List.forall_mem_cons.mpr ⟨hn _ hm, hw⟩⟩

end Entry

section Order

variable {a b c : String} {way way' way'' : List String}

theorem wayLe_cons : wayLe (a :: way) (b :: way') ↔ a < b ∨ a = b ∧ wayLe way way' := by
  simp [wayLe]

theorem wayLe_trans (h : wayLe way way') (h' : wayLe way' way'') : wayLe way way'' := by
  induction way generalizing way' way''
  case nil => rfl
  case cons a way hi =>
    cases way'
    case nil => cases h
    case cons b way' =>
      cases way''
      case nil => cases h'
      case cons c way'' =>
        rw [wayLe_cons] at h h' ⊢
        obtain hab | ⟨rfl, hw⟩ := h
        case inl =>
          obtain hbc | ⟨rfl, _⟩ := h'
          case inl => exact .inl (lt_trans hab hbc)
          case inr => exact .inl hab
        case inr =>
          obtain hac | ⟨rfl, hw'⟩ := h'
          case inl => exact .inl hac
          case inr => exact .inr ⟨rfl, hi hw hw'⟩

theorem wayLe_total (way way' : List String) : wayLe way way' || wayLe way' way := by
  rw [Bool.or_eq_true]
  induction way generalizing way'
  case nil => exact .inl rfl
  case cons a way hi =>
    cases way'
    case nil => exact .inr rfl
    case cons b way' =>
      rw [wayLe_cons, wayLe_cons]
      obtain hab | rfl | hba := lt_trichotomy a b
      · exact .inl (.inl hab)
      · exact (hi way').imp (.inr ⟨rfl, ·⟩) (.inr ⟨rfl, ·⟩)
      · exact .inr (.inl hba)

theorem lex_of_wayLe (h : wayLe way way') (hne : way ≠ way') : List.Lex Text.Precedes way way' := by
  induction way generalizing way'
  case nil =>
    cases way'
    case nil  => exact absurd rfl hne
    case cons => exact .nil
  case cons a way hi =>
    cases way'
    case nil => cases h
    case cons b way' =>
      obtain hab | ⟨rfl, hw⟩ := wayLe_cons.mp h
      case inl => exact .rel (Text.precedes_of_lt hab)
      case inr => exact .cons (hi hw fun h => hne (by rw [h]))

end Order

namespace Entry

-- All ways to packages, in their order.
def sortedWays (e : Entry) : List (List String) :=
  e.packageWays.mergeSort wayLe

theorem sortedWays_pairwise {e : Entry} (hv : e.Valid) : e.sortedWays.Pairwise (List.Lex Text.Precedes) := by
  have hs : e.sortedWays.Pairwise fun way way' => wayLe way way' :=
    @List.pairwise_mergeSort _ wayLe (fun _ _ _ => wayLe_trans) wayLe_total e.packageWays
  have hn : e.sortedWays.Nodup := (List.mergeSort_perm _ _).nodup_iff.mpr (packageWays_nodup hv)
  exact hs.imp₂ (fun way way' => lex_of_wayLe) hn

-- The names of the source files among some entries, in their order.
def sourceNames (extensions : List String) (entries : List (String × Entry)) : List String :=
  ((entries.filter (FileSystem.isSource extensions)).map (·.1)).mergeSort (· ≤ ·)

theorem sourceNames_pairwise {extensions : List String} {entries : List (String × Entry)}
    (hd : (entries.map (·.1)).Nodup) : (sourceNames extensions entries).Pairwise Text.Precedes := by
  have hs : (sourceNames extensions entries).Pairwise fun a b => decide (a ≤ b) :=
    List.pairwise_mergeSort (by simpa using fun a b c => le_trans) (by simpa using le_total) _
  have hn : (sourceNames extensions entries).Nodup :=
    (List.mergeSort_perm _ _).nodup_iff.mpr (hd.sublist (List.filter_sublist.map _))
  refine hs.imp₂ (fun a b hle hne => ?_) hn
  exact Text.precedes_of_lt (lt_of_le_of_ne (of_decide_eq_true hle) hne)

end Entry

section Extension

variable {name ending : String}

-- A name read from its end: the ending up to the last dot, the dot and at least one more character.
theorem Path.nameExtension?_eq_of_reverse {front rest : List Char} (hd : '.' ∉ front)
    (h : name.toList.reverse = front ++ '.' :: rest) :
    nameExtension? name = if rest = [] then none else some (String.ofList front.reverse) := by
  have hf : ∀ c ∈ front, decide (c ≠ '.') = true := fun c hc => decide_eq_true fun h => hd (h ▸ hc)
  have ht : (front ++ '.' :: rest).takeWhile (· ≠ '.') = front := by
    rw [List.takeWhile_append_of_pos hf]
    simp
  simp only [nameExtension?, h, ht, List.drop_left]
  cases rest <;> rfl

theorem Path.nameExtension?_eq_some_iff :
    nameExtension? name = some ending ↔
      ∃ stem, name = stem ++ "." ++ ending ∧ stem ≠ "" ∧ '.' ∉ ending.toList := by
  constructor
  case mp =>
    intro h
    by_cases hd : '.' ∈ name.toList.reverse
    case pos =>
      obtain ⟨front, rest, hn, hf⟩ := List.eq_append_cons_of_mem hd
      rw [nameExtension?_eq_of_reverse hf hn] at h
      split at h
      case isTrue => cases h
      case isFalse hr =>
        cases Option.some.inj h
        refine ⟨String.ofList rest.reverse, ?_, by simpa using hr, by simpa using hf⟩
        rw [← String.toList_inj, ← List.reverse_inj, hn]
        simp
    case neg =>
      have hf : ∀ c ∈ name.toList.reverse, decide (c ≠ '.') = true :=
        fun c hc => decide_eq_true fun h => hd (h ▸ hc)
      have ht : name.toList.reverse.takeWhile (· ≠ '.') = name.toList.reverse := by
        have hw := @List.takeWhile_append_of_pos _ (fun c => decide (c ≠ '.')) _ [] hf
        simpa using hw
      simp only [nameExtension?, ht, List.drop_length] at h
      cases h
  case mpr =>
    rintro ⟨stem, rfl, hs, hd⟩
    have hn : (stem ++ "." ++ ending).toList.reverse = ending.toList.reverse ++ '.' :: stem.toList.reverse := by
      simp
    rw [nameExtension?_eq_of_reverse (by simpa using hd) hn]
    simp [hs]

end Extension

namespace FileSystem

variable {fs : FileSystem} {p : Path} {extensions : List String} {entries : List (String × Entry)}

theorem isSource_iff {name : String} {e : Entry} :
    isSource extensions (name, e) ↔
      (∃ content, e = .file content) ∧ ¬isHidden name ∧
        ∃ ending ∈ extensions, Path.nameExtension? name = some ending := by
  cases e <;> simp [isSource, Option.any_eq_true, and_comm]

theorem readDir_eq_ok_iff {listing : Listing} :
    fs.readDir p = .ok listing ↔ ∃ e, fs.get p = .ok e ∧ e.listing = .ok listing :=
  Except.bind_eq_ok_iff

theorem readDir_of_get {e : Entry} (h : fs.get p = .ok e) : fs.readDir p = e.listing := by
  rw [readDir, h]
  rfl

end FileSystem

theorem Entry.mem_sourceNames {extensions : List String} {e : Entry} {name : String}
    (hd : (e.entries.map (·.1)).Nodup) :
    name ∈ sourceNames extensions e.entries ↔
      (∃ content, e.child? name = some (.file content)) ∧ ¬isHidden name ∧
        ∃ ending ∈ extensions, Path.nameExtension? name = some ending := by
  rw [sourceNames, List.mem_mergeSort, List.mem_map]
  constructor
  case mp =>
    rintro ⟨⟨name, child⟩, hm, rfl⟩
    obtain ⟨hm, hs⟩ := List.mem_filter.mp hm
    obtain ⟨⟨content, rfl⟩, hn⟩ := FileSystem.isSource_iff.mp hs
    exact ⟨⟨content, (child?_eq_some_iff hd).mpr hm⟩, hn⟩
  case mpr =>
    rintro ⟨⟨content, hc⟩, hs⟩
    have hm := (child?_eq_some_iff hd).mp hc
    exact ⟨_, List.mem_filter.mpr ⟨hm, FileSystem.isSource_iff.mpr ⟨⟨content, rfl⟩, hs⟩⟩, rfl⟩

end ErrorOrigins
