import NonlinearProgram.AugmentedLagrangian.Solver
import NonlinearProgram.Proofs.Text.Words

/-!
# Keys of settings

A key is looked at through its words in lower case. `canonicalKey` is the one spelling that stands
for all keys with these words: it is spaced by single blanks and has no capitals, and a key is its
own canonical spelling exactly if it is of this form.
-/

namespace NonlinearProgram

/-! ## Case of ASCII letters -/

section Case

variable {char : Char}

theorem isUpper_iff : char.isUpper ↔ 65 ≤ char.toNat ∧ char.toNat ≤ 90 := by
  simp [Char.isUpper, UInt32.le_iff_toNat_le]

theorem toNat_toLower (capital : char.isUpper) : char.toLower.toNat = char.toNat + 32 := by
  have small : char.val.toNat ≤ 90 := (isUpper_iff.1 capital).2
  have letters : 'A'.val ≤ char.val ∧ char.val ≤ 'Z'.val := by simpa [Char.isUpper] using capital
  rw [Char.toLower, dif_pos letters]
  change (char.val + 32).toNat = char.val.toNat + 32
  rw [UInt32.toNat_add]
  change (char.val.toNat + 32) % 2 ^ 32 = char.val.toNat + 32
  omega

theorem toLower_eq_self (small : ¬char.isUpper) : char.toLower = char := by
  rw [Char.toLower, dif_neg]
  simpa [Char.isUpper] using small

theorem not_isUpper_toLower (char : Char) : ¬char.toLower.isUpper := by
  by_cases capital : char.isUpper
  · have least := (isUpper_iff.1 capital).1
    rw [isUpper_iff, toNat_toLower capital]
    omega
  · rwa [toLower_eq_self capital]

/-- Between the blank and the first control beyond ASCII there is no white space. -/
theorem isBlank_eq_false (above : 0x20 < char.toNat) (below : char.toNat < 0x85) :
    isBlank char = false := by
  simp only [isBlank, inRanges, blankRanges, List.any_cons, List.any_nil, Bool.or_false,
    Bool.or_eq_false_iff, Bool.and_eq_false_iff, decide_eq_false_iff_not]
  omega

theorem isBlank_toLower (char : Char) : isBlank char.toLower = isBlank char := by
  by_cases capital : char.isUpper
  · obtain ⟨least, most⟩ := isUpper_iff.1 capital
    have lowered := toNat_toLower capital
    rw [isBlank_eq_false (by omega) (by omega), isBlank_eq_false (by omega) (by omega)]
  · rw [toLower_eq_self capital]

end Case

namespace AugmentedLagrangian

/-- A key in its canonical spelling: no white space but single blanks between words, and no
capitals. -/
structure IsCanonicalKey (key : String) : Prop where
  spaced : IsSpaced isBlank ' ' key.toList
  lower : ∀ char ∈ key.toList, ¬char.isUpper

/-- Two keys have the same words but for the case of ASCII letters. -/
def SameWords (key key' : String) : Prop :=
  ∃ pieces pieces', HasWords isBlank key.toList pieces ∧ HasWords isBlank key'.toList pieces' ∧
    List.Forall₂ (List.Forall₂ fun char char' => char.toLower = char'.toLower) pieces pieces'

variable {key key' : String} {pieces pieces' : List (List Char)}

theorem forall₂_iff_map_eq {α β : Type} {view : α → β} {left right : List α} :
    List.Forall₂ (fun value value' => view value = view value') left right ↔
      left.map view = right.map view := by
  rw [← List.forall₂_eq_eq_eq, List.forall₂_map_left_iff, List.forall₂_map_right_iff]

/-- Words agree but for the case of their letters exactly if they agree in lower case. -/
theorem forall₂_lower_iff :
    List.Forall₂ (List.Forall₂ fun char char' => char.toLower = char'.toLower) pieces pieces' ↔
      pieces.map (List.map Char.toLower) = pieces'.map (List.map Char.toLower) := by
  have words : (List.Forall₂ fun char char' : Char => char.toLower = char'.toLower) =
      fun word word' => word.map Char.toLower = word'.map Char.toLower :=
    funext₂ fun _ _ => propext forall₂_iff_map_eq
  rw [words]
  exact forall₂_iff_map_eq

theorem toList_canonicalKey (splits : HasWords isBlank key.toList pieces) :
    (canonicalKey key).toList = [' '].intercalate (pieces.map (List.map Char.toLower)) := by
  rw [canonicalKey, words_eq_iff.2 splits, String.toList_intercalate, List.map_map]
  exact congrArg _ (List.map_congr_left fun _ _ => String.toList_ofList)

theorem hasWords_lower (splits : HasWords isBlank key.toList pieces) :
    HasWords isBlank (key.toList.map Char.toLower) (pieces.map (List.map Char.toLower)) :=
  splits.map isBlank_toLower

/-- The canonical spelling has the words of the key in lower case. -/
theorem hasWords_canonicalKey (splits : HasWords isBlank key.toList pieces) :
    HasWords isBlank (canonicalKey key).toList (pieces.map (List.map Char.toLower)) := by
  rw [toList_canonicalKey splits]
  exact hasWords_intercalate (by decide) (hasWords_lower splits).isWord

theorem isCanonicalKey_canonicalKey (key : String) : IsCanonicalKey (canonicalKey key) := by
  have splits := hasWords_words isBlank key.toList
  constructor
  case spaced =>
    rw [toList_canonicalKey splits]
    exact isSpaced_intercalate (hasWords_lower splits).isWord
  case lower =>
    intro char member
    rw [toList_canonicalKey splits] at member
    rcases mem_intercalate member with rfl | ⟨_, lowered, here⟩
    · decide
    · obtain ⟨piece, _, rfl⟩ := List.mem_map.1 lowered
      obtain ⟨before, _, rfl⟩ := List.mem_map.1 here
      exact not_isUpper_toLower before

/-- A key is its own canonical spelling exactly if it is of the canonical form. -/
theorem canonicalKey_eq_self_iff : canonicalKey key = key ↔ IsCanonicalKey key := by
  refine ⟨fun same => same ▸ isCanonicalKey_canonicalKey key, fun canonical => ?_⟩
  have splits := hasWords_words isBlank key.toList
  have kept : (words isBlank key.toList).map (List.map Char.toLower) = words isBlank key.toList := by
    refine (List.map_congr_left fun piece here => ?_).trans (List.map_id _)
    refine (List.map_congr_left fun char member => ?_).trans (List.map_id piece)
    exact toLower_eq_self (canonical.lower char (splits.mem here char member))
  rw [← String.toList_inj, toList_canonicalKey splits, kept]
  exact splits.intercalate_eq (by decide) canonical.spaced

/-- Keys have one canonical spelling exactly if they have the same words. -/
theorem canonicalKey_eq_iff : canonicalKey key = canonicalKey key' ↔ SameWords key key' := by
  constructor
  · intro same
    have splits := hasWords_words isBlank key.toList
    have splits' := hasWords_words isBlank key'.toList
    refine ⟨_, _, splits, splits', ?_⟩
    have found := hasWords_canonicalKey splits
    rw [same] at found
    refine forall₂_lower_iff.2 ?_
    exact (words_eq_iff.2 found).symm.trans (words_eq_iff.2 (hasWords_canonicalKey splits'))
  · rintro ⟨pieces, pieces', splits, splits', alike⟩
    rw [← String.toList_inj, toList_canonicalKey splits, toList_canonicalKey splits',
      forall₂_lower_iff.1 alike]

/-- The canonical spelling of a key is of the canonical form, and exactly the keys of this form are
their own canonical spellings. It has the words of the key in lower case, so two keys have the same
one exactly if they have the same words but for the case of ASCII letters. No setter tells such keys
apart. -/
theorem canonicalKey_represents (key : String) :
    canonicalKey (canonicalKey key) = canonicalKey key ∧ IsCanonicalKey (canonicalKey key) ∧
      (canonicalKey key = key ↔ IsCanonicalKey key) ∧
      (∀ pieces, HasWords isBlank key.toList pieces →
        HasWords isBlank (canonicalKey key).toList (pieces.map (List.map Char.toLower))) ∧
      ∀ key', (canonicalKey key = canonicalKey key' ↔ SameWords key key') ∧
        (SameWords key key' →
          ∀ {R : Type} [Arith R] (value : OptionValue R) (solver : AugmentedLagrangian R),
            setOption key value solver = setOption key' value solver) := by
  have canonical := isCanonicalKey_canonicalKey key
  refine ⟨canonicalKey_eq_self_iff.2 canonical, canonical, canonicalKey_eq_self_iff,
    fun _ => hasWords_canonicalKey, fun key' => ⟨canonicalKey_eq_iff, ?_⟩⟩
  intro alike R _ value solver
  simp only [setOption, Settings.set, canonicalKey_eq_iff.2 alike]

/-- A key with capitals, several blanks and a blank beyond ASCII names what its canonical spelling
does. -/
theorem canonicalKey_represents_respelled :
    SameWords " \tMajor\u00a0ITERATIONS  limit" "major iterations limit" ∧
      ∀ (value : OptionValue Double) (solver : AugmentedLagrangian Double),
        setOption " \tMajor\u00a0ITERATIONS  limit" value solver =
          setOption "major iterations limit" value solver := by
  obtain ⟨_, _, _, _, spellings⟩ := canonicalKey_represents " \tMajor\u00a0ITERATIONS  limit"
  obtain ⟨same, setters⟩ := spellings "major iterations limit"
  have alike := same.1 (by decide +kernel)
  exact ⟨alike, setters alike⟩

end AugmentedLagrangian

end NonlinearProgram
