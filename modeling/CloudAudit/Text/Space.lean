import CloudAudit.Text.Runs

/-! White space of Unicode, and texts without it at their ends. -/
namespace CloudAudit.Text

def whiteSpace : Runs :=
  [(0x9, 0xD), (0x20, 0x20), (0x85, 0x85), (0xA0, 0xA0), (0x1680, 0x1680), (0x2000, 0x200A),
  (0x2028, 0x2029), (0x202F, 0x202F), (0x205F, 0x205F), (0x3000, 0x3000)]

def isSpace (c : Char) : Bool := whiteSpace.has c

def trimChars (s : List Char) : List Char :=
  ((s.dropWhile isSpace).reverse.dropWhile isSpace).reverse

def trim (s : String) : String := String.ofList (trimChars s.toList)

structure Trimmed (s : List Char) : Prop where
  start : ∀ c ∈ s.head?, isSpace c = false
  finish : ∀ c ∈ s.getLast?, isSpace c = false

instance (s : List Char) : Decidable (Trimmed s) :=
  decidable_of_iff (s.head?.all (isSpace · = false) ∧ s.getLast?.all (isSpace · = false)) <| by
    rw [Option.all_eq_true, Option.all_eq_true]
    exact ⟨fun ⟨start, finish⟩ => ⟨by simpa using start, by simpa using finish⟩,
      fun ⟨start, finish⟩ => ⟨by simpa using start, by simpa using finish⟩⟩

theorem dropWhile_isSpace {s : List Char} (start : ∀ c ∈ s.head?, isSpace c = false) :
    s.dropWhile isSpace = s := by
  cases s with
  | nil => rfl
  | cons c rest => rw [List.dropWhile_cons_of_neg (by simp [start c rfl])]

/-- White space after a trimmed text is all that trimming takes away. -/
theorem trimChars_append {s blank : List Char} (trimmed : Trimmed s)
    (spaces : ∀ c ∈ blank, isSpace c = true) : trimChars (s ++ blank) = s := by
  have ended : s.reverse.dropWhile isSpace = s.reverse := by
    apply dropWhile_isSpace
    simpa using trimmed.finish
  have backwards : (s ++ blank).reverse.dropWhile isSpace = s.reverse := by
    rw [List.reverse_append, List.dropWhile_append_of_pos (by simpa using spaces), ended]
  cases s with
  | nil =>
    have gone : (blank ++ []).dropWhile isSpace = [] := List.dropWhile_append_of_pos spaces
    rw [List.append_nil] at gone
    simp [trimChars, gone]
  | cons c rest =>
    have begun : (c :: rest ++ blank).dropWhile isSpace = c :: rest ++ blank :=
      dropWhile_isSpace trimmed.start
    rw [trimChars, begun, backwards, List.reverse_reverse]

theorem trimChars_of_trimmed {s : List Char} (trimmed : Trimmed s) : trimChars s = s := by
  simpa using trimChars_append trimmed (List.forall_mem_nil fun c => isSpace c = true)

theorem trimChars_behind_space (s : List Char) : trimChars s <+: s.dropWhile isSpace := by
  rw [← List.reverse_suffix, trimChars, List.reverse_reverse]
  exact List.dropWhile_suffix isSpace

theorem trimChars_infix (s : List Char) : trimChars s <:+: s :=
  (trimChars_behind_space s).isInfix.trans (List.dropWhile_suffix isSpace).isInfix

theorem visible_head_dropWhile (s : List Char) :
    ∀ c ∈ (s.dropWhile isSpace).head?, isSpace c = false := by
  intro c first
  have stops := List.head?_dropWhile_not isSpace s
  rw [Option.mem_def.1 first] at stops
  simpa using stops

theorem trimmed_trimChars (s : List Char) : Trimmed (trimChars s) where
  start c first := by
    obtain ⟨rest, begins⟩ := List.head?_eq_some_iff.1 first
    obtain ⟨after, split⟩ := trimChars_behind_space s
    apply visible_head_dropWhile s
    rw [← split, begins]
    rfl
  finish c last := by
    rw [trimChars, List.getLast?_reverse] at last
    exact visible_head_dropWhile _ c last

theorem trimChars_white_append {blank : List Char} (white : ∀ c ∈ blank, isSpace c = true)
    (s : List Char) : trimChars (blank ++ s) = trimChars s := by
  rw [trimChars, List.dropWhile_append_of_pos white]
  rfl

def isBlank (s : String) : Bool := s.toList.all isSpace

theorem isBlank_eq_false_iff {s : String} :
    isBlank s = false ↔ ∃ c ∈ s.toList, isSpace c = false := by
  simp [isBlank]

/-- Of trimmed texts only the empty one is blank. -/
theorem isBlank_iff_of_trimmed {s : String} (trimmed : Trimmed s.toList) :
    isBlank s = true ↔ s = "" := by
  constructor
  · intro blank
    rw [← String.toList_eq_nil_iff]
    cases begins : s.toList with
    | nil => rfl
    | cons c rest =>
      have white : isSpace c = true := List.all_eq_true.1 blank c (begins ▸ List.mem_cons_self)
      rw [trimmed.start c (begins ▸ rfl)] at white
      cases white
  · rintro rfl
    rfl

end CloudAudit.Text
