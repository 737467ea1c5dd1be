import Mathlib
import NonlinearProgram.Text.Words

/-!
# Texts and their words

A text is made of words and separators in one way only, so `words` is determined by what it says of
a text, `words_eq_iff`. Words that are joined by one separator are found again, and the texts that
arise so are those with no other separator, none at their ends and no two in a row.
-/

namespace NonlinearProgram

variable {separates : Char → Bool} {text : List Char} {pieces : List (List Char)}

/-- A run of characters that do not separate, with at least one of them. -/
structure IsWord (separates : Char → Bool) (word : List Char) : Prop where
  ne_nil : word ≠ []
  plain : ∀ char ∈ word, ¬separates char

/-- The text is a sequence of words and separators, and the pieces are the words in order. A word
ends at a separator or at the end of the text. -/
inductive HasWords (separates : Char → Bool) : List Char → List (List Char) → Prop where
  | nil : HasWords separates [] []
  | separator {char : Char} {rest : List Char} {pieces : List (List Char)} :
      separates char → HasWords separates rest pieces → HasWords separates (char :: rest) pieces
  | word {word rest : List Char} {pieces : List (List Char)} :
      IsWord separates word → (∀ char ∈ rest.head?, separates char) →
      HasWords separates rest pieces → HasWords separates (word ++ rest) (word :: pieces)

theorem HasWords.isWord (splits : HasWords separates text pieces) :
    ∀ piece ∈ pieces, IsWord separates piece := by
  induction splits with
  | nil => exact nofun
  | separator _ _ ih => exact ih
  | word isWord _ _ ih => exact List.forall_mem_cons.2 ⟨isWord, ih⟩

theorem HasWords.mem (splits : HasWords separates text pieces) {piece : List Char}
    (here : piece ∈ pieces) : ∀ char ∈ piece, char ∈ text := by
  induction splits with
  | nil => cases here
  | separator _ _ ih => exact fun char member => List.mem_cons_of_mem _ (ih here char member)
  | word _ _ _ ih =>
      intro char member
      rcases List.mem_cons.1 here with same | later
      · exact List.mem_append_left _ (same ▸ member)
      · exact List.mem_append_right _ (ih later char member)

/-! ## Finding words -/

section Finding

variable {char : Char} {word rest : List Char}

theorem words_cons (is : separates char) (rest : List Char) :
    words separates (char :: rest) = words separates rest := by
  simp [words, splitWords, is]

theorem splitWords_cons (is : separates char) (rest : List Char) :
    splitWords separates (char :: rest) = ([], words separates rest) := by
  simp [words, splitWords, is]

theorem splitWords_cons_of_not (plain : ¬separates char) (rest : List Char) :
    splitWords separates (char :: rest) =
      (char :: (splitWords separates rest).1, (splitWords separates rest).2) := by
  simp [splitWords, plain]

/-- Characters that do not separate only lengthen the word that begins a text. -/
theorem splitWords_append (plain : ∀ char ∈ word, ¬separates char) (rest : List Char) :
    splitWords separates (word ++ rest) =
      (word ++ (splitWords separates rest).1, (splitWords separates rest).2) := by
  induction word with
  | nil => rfl
  | cons char word ih =>
      obtain ⟨here, plain⟩ := List.forall_mem_cons.1 plain
      rw [List.cons_append, splitWords_cons_of_not here, ih plain]
      rfl

/-- No word begins at a separator or at the end of a text. -/
theorem splitWords_of_boundary (boundary : ∀ char ∈ rest.head?, separates char) :
    splitWords separates rest = ([], words separates rest) := by
  cases rest with
  | nil => rfl
  | cons char rest =>
      have is : separates char := boundary char rfl
      rw [words_cons is, splitWords_cons is]

theorem words_append (isWord : IsWord separates word)
    (boundary : ∀ char ∈ rest.head?, separates char) :
    words separates (word ++ rest) = word :: words separates rest := by
  rw [words, splitWords_append isWord.plain, splitWords_of_boundary boundary]
  simp [isWord.ne_nil]

/-- A text has the words that are left after the run with which it begins, and the run itself if it
is not empty. -/
theorem hasWords_of_splitWords
    (plain : ∀ char ∈ (splitWords separates text).1, ¬separates char)
    (boundary : ∀ char ∈ rest.head?, separates char)
    (parts : text = (splitWords separates text).1 ++ rest)
    (later : HasWords separates rest (splitWords separates text).2) :
    HasWords separates text (words separates text) := by
  rw [words]
  rcases run : splitWords separates text with ⟨first, others⟩
  rw [run] at plain parts later
  subst parts
  cases first with
  | nil => exact later
  | cons char first => exact .word ⟨List.cons_ne_nil char first, plain⟩ boundary later

/-- A text begins with a run of characters that do not separate, and the words of the rest are
found in it. -/
theorem exists_rest_of_splitWords (separates : Char → Bool) (text : List Char) :
    ∃ rest, (∀ char ∈ (splitWords separates text).1, ¬separates char) ∧
      (∀ char ∈ rest.head?, separates char) ∧
      text = (splitWords separates text).1 ++ rest ∧
      HasWords separates rest (splitWords separates text).2 := by
  induction text with
  | nil => exact ⟨[], nofun, nofun, rfl, .nil⟩
  | cons char tail ih =>
      obtain ⟨rest, plain, boundary, parts, later⟩ := ih
      by_cases is : separates char
      · rw [splitWords_cons is]
        have known := hasWords_of_splitWords plain boundary parts later
        refine ⟨char :: tail, nofun, ?_, rfl, .separator is known⟩
        rintro _ ⟨⟩
        exact is
      · rw [splitWords_cons_of_not is]
        exact ⟨rest, List.forall_mem_cons.2 ⟨is, plain⟩, boundary, congrArg (char :: ·) parts, later⟩

theorem hasWords_words (separates : Char → Bool) (text : List Char) :
    HasWords separates text (words separates text) := by
  obtain ⟨rest, plain, boundary, parts, later⟩ := exists_rest_of_splitWords separates text
  exact hasWords_of_splitWords plain boundary parts later

/-- A text has the words that are found in it, and no others. -/
theorem words_eq_iff : words separates text = pieces ↔ HasWords separates text pieces := by
  constructor
  · rintro rfl
    exact hasWords_words separates text
  · intro splits
    induction splits with
    | nil => rfl
    | separator is _ ih => rw [words_cons is, ih]
    | word isWord boundary _ ih => rw [words_append isWord boundary, ih]

end Finding

/-- A change of characters that keeps separators and the others apart changes the words alone. -/
theorem HasWords.map {change : Char → Char} (keeps : ∀ char, separates (change char) = separates char)
    (splits : HasWords separates text pieces) :
    HasWords separates (text.map change) (pieces.map (List.map change)) := by
  induction splits with
  | nil => exact .nil
  | separator is _ ih => exact .separator ((keeps _).trans is) ih
  | @word word rest pieces isWord boundary _ ih =>
      rw [List.map_append]
      refine .word ⟨mt List.map_eq_nil_iff.1 isWord.ne_nil, ?_⟩ ?_ ih
      · intro char member
        obtain ⟨before, inside, rfl⟩ := List.mem_map.1 member
        rw [keeps]
        exact isWord.plain before inside
      · intro char head
        rw [List.head?_map] at head
        obtain ⟨before, first, rfl⟩ := Option.mem_map.1 head
        rw [keeps]
        exact boundary before first

/-! ## Joining words -/

/-- The only separator in the text is the blank, which is not at its ends and never doubled. -/
structure IsSpaced (separates : Char → Bool) (blank : Char) (text : List Char) : Prop where
  only : ∀ char ∈ text, separates char → char = blank
  start : ∀ char ∈ text.head?, ¬separates char
  finish : ∀ char ∈ text.getLast?, ¬separates char
  single : text.IsChain fun char next => ¬(separates char ∧ separates next)

section Joining

variable {blank : Char} {word rest : List Char}

theorem isSpaced_nil : IsSpaced separates blank [] := ⟨nofun, nofun, nofun, .nil⟩

theorem IsWord.isChain (isWord : IsWord separates word) :
    word.IsChain fun char next => ¬(separates char ∧ separates next) := by
  have everywhere : word.Pairwise fun char next => ¬(separates char ∧ separates next) :=
    List.pairwise_of_forall_mem_list fun char member _ _ both => isWord.plain char member both.1
  exact everywhere.isChain

theorem IsWord.isSpaced (isWord : IsWord separates word) : IsSpaced separates blank word where
  only char member is := (isWord.plain char member is).elim
  start char head := isWord.plain char (List.mem_of_mem_head? head)
  finish char last := isWord.plain char (List.mem_of_mem_getLast? last)
  single := isWord.isChain

/-- A word before a spaced text, with a blank between them. -/
theorem IsWord.isSpaced_append (isWord : IsWord separates word)
    (spaced : IsSpaced separates blank rest) (more : rest ≠ []) :
    IsSpaced separates blank (word ++ blank :: rest) where
  only char member is := by
    rcases List.mem_append.1 member with inWord | later
    · exact (isWord.plain char inWord is).elim
    · rcases List.mem_cons.1 later with same | inRest
      · exact same
      · exact spaced.only char inRest is
  start char head := by
    rw [List.head?_append_of_ne_nil _ isWord.ne_nil] at head
    exact isWord.plain char (List.mem_of_mem_head? head)
  finish char last := by
    rw [List.getLast?_append_of_ne_nil _ (List.cons_ne_nil blank rest),
      List.getLast?_cons_of_ne_nil more] at last
    exact spaced.finish char last
  single := by
    refine List.isChain_append.2 ⟨isWord.isChain, ?_, ?_⟩
    · refine List.isChain_cons.2 ⟨fun next head both => ?_, spaced.single⟩
      exact spaced.start next head both.2
    · intro char last _ _ both
      exact isWord.plain char (List.mem_of_mem_getLast? last) both.1

theorem intercalate_cons_ne_nil (isWord : IsWord separates word) (later : List (List Char)) :
    [blank].intercalate (word :: later) ≠ [] := by
  cases later with
  | nil =>
      rw [List.intercalate_singleton]
      exact isWord.ne_nil
  | cons next later =>
      rw [List.intercalate_cons_cons]
      simp

theorem mem_intercalate {char : Char} (member : char ∈ [blank].intercalate pieces) :
    char = blank ∨ ∃ piece ∈ pieces, char ∈ piece := by
  induction pieces with
  | nil => cases member
  | cons first later ih =>
      cases later with
      | nil =>
          rw [List.intercalate_singleton] at member
          exact .inr ⟨first, List.mem_cons_self, member⟩
      | cons next later =>
          rw [List.intercalate_cons_cons, List.append_assoc, List.mem_append] at member
          rcases member with here | member
          · exact .inr ⟨first, List.mem_cons_self, here⟩
          · rcases List.mem_cons.1 member with same | member
            · exact .inl same
            · exact (ih member).imp_right fun ⟨piece, known, here⟩ =>
                ⟨piece, List.mem_cons_of_mem _ known, here⟩

/-- Words that are joined by a blank are spaced by it. -/
theorem isSpaced_intercalate (areWords : ∀ piece ∈ pieces, IsWord separates piece) :
    IsSpaced separates blank ([blank].intercalate pieces) := by
  induction pieces with
  | nil => exact isSpaced_nil
  | cons word later ih =>
      obtain ⟨isWord, areWords⟩ := List.forall_mem_cons.1 areWords
      cases later with
      | nil =>
          rw [List.intercalate_singleton]
          exact isWord.isSpaced
      | cons next later =>
          have more : [blank].intercalate (next :: later) ≠ [] :=
            intercalate_cons_ne_nil (List.forall_mem_cons.1 areWords).1 later
          rw [List.intercalate_cons_cons, List.append_assoc]
          exact isWord.isSpaced_append (ih areWords) more

/-- Words that are joined by a separator are the words of the text. -/
theorem hasWords_intercalate (is : separates blank)
    (areWords : ∀ piece ∈ pieces, IsWord separates piece) :
    HasWords separates ([blank].intercalate pieces) pieces := by
  induction pieces with
  | nil => exact .nil
  | cons word later ih =>
      obtain ⟨isWord, areWords⟩ := List.forall_mem_cons.1 areWords
      cases later with
      | nil =>
          have alone : HasWords separates (word ++ []) [word] := .word isWord (by simp) .nil
          rw [List.append_nil] at alone
          rwa [List.intercalate_singleton]
      | cons next later =>
          rw [List.intercalate_cons_cons, List.append_assoc]
          refine .word isWord ?_ (.separator is (ih areWords))
          rintro _ ⟨⟩
          exact is

/-- A text whose blanks are single and not at its end is its words, joined by the blank, with one
blank before them if it begins with one. -/
theorem HasWords.eq_or_eq_cons (splits : HasWords separates text pieces)
    (only : ∀ char ∈ text, separates char → char = blank)
    (finish : ∀ char ∈ text.getLast?, ¬separates char)
    (single : text.IsChain fun char next => ¬(separates char ∧ separates next)) :
    text = [blank].intercalate pieces ∨
      pieces ≠ [] ∧ text = blank :: [blank].intercalate pieces := by
  induction splits with
  | nil => exact .inl rfl
  | @separator char rest pieces is splits ih =>
      have known : char = blank := only char List.mem_cons_self is
      have more : rest ≠ [] := by
        rintro rfl
        exact finish char rfl is
      rw [List.getLast?_cons_of_ne_nil more] at finish
      obtain ⟨apart, single⟩ := List.isChain_cons.1 single
      rcases ih (fun other member => only other (List.mem_cons_of_mem _ member)) finish single with
        joined | ⟨_, joined⟩
      · refine .inr ⟨?_, by rw [known, ← joined]⟩
        rintro rfl
        exact more joined
      · exact (apart blank (by rw [joined]; rfl) ⟨is, known ▸ is⟩).elim
  | @word word rest pieces isWord boundary splits ih =>
      left
      by_cases more : rest = []
      · subst more
        have none : pieces = [] := (words_eq_iff.2 splits).symm
        rw [none, List.intercalate_singleton, List.append_nil]
      · rw [List.getLast?_append_of_ne_nil _ more] at finish
        rcases ih (fun other member => only other (List.mem_append_right _ member)) finish
            (List.isChain_append.1 single).2.1 with joined | ⟨some, joined⟩
        · obtain ⟨char, head⟩ := Option.isSome_iff_exists.1 (List.isSome_head?.2 more)
          have spaced : IsSpaced separates blank rest := joined ▸ isSpaced_intercalate splits.isWord
          exact (spaced.start char head (boundary char head)).elim
        · rw [List.intercalate_cons_of_ne_nil some, joined]
          simp

/-- A spaced text is its words, joined by the blank. -/
theorem HasWords.intercalate_eq (is : separates blank) (splits : HasWords separates text pieces)
    (spaced : IsSpaced separates blank text) : [blank].intercalate pieces = text := by
  rcases splits.eq_or_eq_cons spaced.only spaced.finish spaced.single with joined | ⟨_, joined⟩
  · exact joined.symm
  · exact (spaced.start blank (by rw [joined]; rfl) is).elim

end Joining

end NonlinearProgram
