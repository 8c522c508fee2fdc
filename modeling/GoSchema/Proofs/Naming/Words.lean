import GoSchema.Naming
import GoSchema.Proofs.Text.CaseMaps
import GoSchema.Proofs.Text.Lines

/-!
# The words of a Go name

The folding of a Go name walks over its characters and looks one character back and one ahead.  Seen
from the result it does something simpler.  It cuts the name into words (`words`), writes each of
them in small letters (`folded`), and puts underscores between them (`toList_snakeCase`).  If the
name itself has no underscores, they are where the folded name is cut again, so spelling it out goes
over the same words one by one (`goCase_snakeCase`).
-/

namespace GoSchema.Naming

open Text

/-! ## Folding -/

/-- What the folding makes of a character. -/
def small (c : Char) : List Char := if isUppercase c then lowercase c else [c]

/-- What the folding makes of a word. -/
def folded (word : List Char) : List Char := word.flatMap small

theorem small_of_isUppercase {c : Char} (h : isUppercase c) : small c = lowercase c := if_pos h

theorem small_of_not_isUppercase {c : Char} (h : isUppercase c = false) : small c = [c] :=
  if_neg (Bool.not_eq_true _ ▸ h)

theorem folded_cons (c : Char) (rest : List Char) : folded (c :: rest) = small c ++ folded rest :=
  List.flatMap_cons

/-! ## Cutting -/

/-- The rest of a name after a given character, cut in two: what belongs to the same word, and the
words that follow. -/
def cutAfter (before? : Option Char) : List Char → List Char × List (List Char)
  | [] => ([], [])
  | c :: rest =>
    let cut := cutAfter (some c) rest
    if isUppercase c && startsWord before? rest.head? then ([], (c :: cut.1) :: cut.2)
    else (c :: cut.1, cut.2)

/-- The words of a Go name, which begin where the folding puts an underscore. -/
def words (name : List Char) : List (List Char) :=
  (cutAfter none name).1 :: (cutAfter none name).2

theorem cutAfter_append (before? : Option Char) (name : List Char) :
    (cutAfter before? name).1 ++ (cutAfter before? name).2.flatten = name := by
  induction name generalizing before? with
  | nil => rfl
  | cons c rest ih =>
      rw [cutAfter]
      split
      all_goals simp [ih]

/-- The words of a name are all of it. -/
theorem flatten_words (name : List Char) : (words name).flatten = name :=
  cutAfter_append none name

theorem mem_of_mem_words {name word : List Char} (h : word ∈ words name) {c : Char}
    (hc : c ∈ word) : c ∈ name := by
  rw [← flatten_words name]
  exact List.mem_flatten.mpr ⟨word, h, hc⟩

/-- Each word but the first begins with a capital. -/
theorem exists_capital_of_mem_cutAfter {before? : Option Char} {name word : List Char}
    (h : word ∈ (cutAfter before? name).2) : ∃ c rest, word = c :: rest ∧ isUppercase c := by
  induction name generalizing before? with
  | nil => cases h
  | cons c rest ih =>
      rw [cutAfter] at h
      split at h
      case isTrue hcut =>
        rcases List.mem_cons.mp h with rfl | h
        · exact ⟨c, _, rfl, (Bool.and_eq_true_iff.mp hcut).1⟩
        · exact ih h
      case isFalse => exact ih h

theorem snakeAfter_eq (before? : Option Char) (name : List Char) :
    snakeAfter before? name = folded (cutAfter before? name).1 ++
      (cutAfter before? name).2.flatMap fun word => '_' :: folded word := by
  induction name generalizing before? with
  | nil => rfl
  | cons c rest ih =>
      rw [snakeAfter, cutAfter, ih]
      by_cases hupper : isUppercase c
      · rw [if_pos hupper, hupper, Bool.true_and]
        split
        all_goals simp [folded, small_of_isUppercase hupper]
      · rw [Bool.not_eq_true] at hupper
        simp [hupper, folded, small_of_not_isUppercase hupper]

/-! ## There and back -/

/-- What is in a part of a text is in the text. -/
theorem mem_of_mem_splitOn {sep c : Char} {s part : List Char} (h : part ∈ s.splitOn sep)
    (hc : c ∈ part) : c ∈ s := by
  have hjoin : [sep].intercalate (s.splitOn sep) = s := List.intercalate_splitOn sep
  rw [← hjoin]
  cases hparts : s.splitOn sep with
  | nil =>
      rw [hparts] at h
      cases h
  | cons first rest =>
      rw [hparts] at h
      rw [intercalate_cons, List.mem_append, List.mem_flatMap]
      rcases List.mem_cons.mp h with rfl | h
      · exact Or.inl hc
      · exact Or.inr ⟨part, h, List.mem_cons_of_mem _ hc⟩

/-- The folded name of a Go name: its words in small letters, with underscores between them. -/
theorem toList_snakeCase (name : String) :
    (snakeCase name).toList = ['_'].intercalate ((words name.toList).map folded) := by
  rw [snakeCase, String.toList_ofList, snakeAfter_eq, words, List.map_cons, intercalate_cons,
    List.flatMap_map]

theorem goWord_nil : goWord [] = [] := by decide

/-- The first character is written as a capital in any case. -/
theorem goWord_cons (c : Char) (rest : List Char) :
    goWord (c :: rest) = uppercase c ++
      if acronyms.contains (String.ofList ((c :: rest).flatMap uppercase)) then
        rest.flatMap uppercase
      else rest := by
  rw [goWord, apply_ite (uppercase c ++ ·), ← List.flatMap_cons]

/-- Nothing is spelled out for an empty word. -/
theorem toList_goCase (name : String) :
    (goCase name).toList = (name.toList.splitOn '_').flatMap goWord := by
  rw [goCase, String.toList_ofList, snakeWords]
  induction name.toList.splitOn '_' with
  | nil => rfl
  | cons word rest ih =>
      cases word with
      | nil => rw [List.filter_cons_of_neg (by simp), List.flatMap_cons, goWord_nil, ih]; rfl
      | cons c cs => rw [List.filter_cons_of_pos rfl, List.flatMap_cons, List.flatMap_cons, ih]

theorem eq_underscore_of_mem_lowercase {c : Char} (h : '_' ∈ lowercase c) : c = '_' :=
  eq_of_mem_mapCase wellFormed_lower (by decide +kernel) h

theorem eq_underscore_of_mem_uppercase {c : Char} (h : '_' ∈ uppercase c) : c = '_' :=
  eq_of_mem_mapCase wellFormed_upper (by decide +kernel) h

theorem mem_goWord {word : List Char} {d : Char} (h : d ∈ goWord word) :
    (∃ c ∈ word, d ∈ uppercase c) ∨ d ∈ word := by
  cases word with
  | nil =>
      rw [goWord_nil] at h
      cases h
  | cons c rest =>
      rw [goWord_cons, List.mem_append] at h
      rcases h with h | h
      · exact Or.inl ⟨c, List.mem_cons_self, h⟩
      · split at h
        · obtain ⟨e, he, h⟩ := List.mem_flatMap.mp h
          exact Or.inl ⟨e, List.mem_cons_of_mem _ he, h⟩
        · exact Or.inr (List.mem_cons_of_mem _ h)

/-- Spelling out a word adds no underscores. -/
theorem underscore_notMem_goWord {word : List Char} (h : '_' ∉ word) : '_' ∉ goWord word := by
  intro hmem
  rcases mem_goWord hmem with ⟨c, hc, hupper⟩ | hmem
  · rw [eq_underscore_of_mem_uppercase hupper] at hc
    exact h hc
  · exact h hmem

theorem eq_underscore_of_mem_small {c : Char} (h : '_' ∈ small c) : c = '_' := by
  by_cases hupper : isUppercase c
  · rw [small_of_isUppercase hupper] at h
    exact eq_underscore_of_mem_lowercase h
  · rw [small_of_not_isUppercase (Bool.not_eq_true _ ▸ hupper)] at h
    exact (List.mem_singleton.mp h).symm

theorem underscore_mem_of_mem_folded {word : List Char} (h : '_' ∈ folded word) : '_' ∈ word := by
  obtain ⟨c, hc, hmem⟩ := List.mem_flatMap.mp h
  rwa [← eq_underscore_of_mem_small hmem]

/-- A Go name without underscores, folded and spelled out again, is spelled out word by word. -/
theorem goCase_snakeCase {name : String} (h : '_' ∉ name.toList) :
    (goCase (snakeCase name)).toList =
      (words name.toList).flatMap fun word => goWord (folded word) := by
  have hfree : ∀ word ∈ (words name.toList).map folded, '_' ∉ word := by
    intro part hpart hmem
    obtain ⟨word, hword, rfl⟩ := List.mem_map.mp hpart
    exact h (mem_of_mem_words hword (underscore_mem_of_mem_folded hmem))
  rw [toList_goCase, toList_snakeCase, List.splitOn_intercalate '_' hfree (by simp [words]),
    List.flatMap_map]

end GoSchema.Naming
