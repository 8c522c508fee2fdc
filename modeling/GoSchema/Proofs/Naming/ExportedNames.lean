import GoSchema.Mapping.Message
import GoSchema.Proofs.Naming.Words

/-!
# Exported names

An exported name is made by folding an identifier and spelling it out.  Folding it again gives other
words than the first time if two words have grown together: `http_api` is spelled `HTTPAPI`, which
is a single word, and comes back as `Httpapi`.

So an exported name comes back from the round trip exactly if each of its words does
(`goCase_snakeCase_eq_iff`).  A word does if it is an acronym, or if it is not spelled like one and
has no capitals after its first character that could be made small (`KeepsSpelling`).  Words cannot
make up for each other: what a word comes back as either is the word, or differs from it before one
of the two ends (`goWord_folded_of_comparable`), so the first word that changes its spelling changes
the name.

Both rest on what spelling out makes of a folded name (`spelled_exportedName`): it leaves no
underscores, each of its capitals is the capital of its small form, and the first character has no
other capital.
-/

namespace GoSchema.Naming

open Text

/-- Whether a word of a Go name is spelled the same after it has been folded: it is an acronym, or
it is no variant of one and folding changes nothing after its first character. -/
def KeepsSpelling (word : List Char) : Prop :=
  String.ofList word ∈ acronyms ∨
    String.ofList (word.flatMap uppercase) ∉ acronyms ∧ ∀ c ∈ word.tail, small c = [c]

instance (word : List Char) : Decidable (KeepsSpelling word) :=
  have : Decidable (∀ c ∈ word.tail, small c = [c]) := List.decidableBAll _ _
  inferInstanceAs (Decidable (_ ∨ _ ∧ _))

/-- All capitals have a single small form, and are the capital of it. -/
def Paired (name : List Char) : Prop :=
  ∀ c ∈ name, isUppercase c → ∃ l, lowercase c = [l] ∧ uppercase l = [c]

theorem Paired.tail {c : Char} {rest : List Char} (h : Paired (c :: rest)) : Paired rest :=
  fun d hd => h d (List.mem_cons_of_mem _ hd)

/-- Folding makes one character of each, which has the same capital. -/
theorem Paired.exists_small {name : List Char} (h : Paired name) {c : Char} (hc : c ∈ name) :
    ∃ l, small c = [l] ∧ uppercase l = uppercase c := by
  cases hupper : isUppercase c with
  | false => exact ⟨c, small_of_not_isUppercase hupper, rfl⟩
  | true =>
      obtain ⟨l, hlower, hback⟩ := h c hc hupper
      rw [small_of_isUppercase hupper, uppercase_of_isUppercase hupper]
      exact ⟨l, hlower, hback⟩

/-- A name as it is when it has been spelled out. -/
structure Spelled (name : List Char) : Prop where
  joined : '_' ∉ name
  paired : Paired name
  front : ∀ c ∈ name.head?, uppercase c = [c]

/-! ## One word -/

section Word

variable {c : Char} {word rest : List Char}

/-- Folding a word does not change how it is written in capitals. -/
theorem flatMap_uppercase_folded (h : Paired word) :
    (folded word).flatMap uppercase = word.flatMap uppercase := by
  rw [folded, List.flatMap_assoc]
  refine List.flatMap_congr fun c hc => ?_
  obtain ⟨l, hsmall, hback⟩ := h.exists_small hc
  rw [hsmall, List.flatMap_singleton, hback]

/-- Folding changes the characters of a word one by one. -/
theorem length_folded (h : Paired word) : (folded word).length = word.length := by
  induction word with
  | nil => rfl
  | cons c rest ih =>
      obtain ⟨l, hsmall, -⟩ := h.exists_small List.mem_cons_self
      rw [folded_cons, hsmall, List.singleton_append, List.length_cons, ih h.tail, List.length_cons]

theorem folded_eq_self_iff (h : Paired word) :
    folded word = word ↔ ∀ c ∈ word, small c = [c] := by
  induction word with
  | nil => exact iff_of_true rfl (by simp)
  | cons c rest ih =>
      obtain ⟨l, hsmall, -⟩ := h.exists_small List.mem_cons_self
      rw [folded_cons, hsmall, List.singleton_append, List.cons.injEq, ih h.tail,
        List.forall_mem_cons, hsmall, List.singleton_inj]

/-- The capital in front is put back; the other characters stay small. -/
theorem goWord_folded_cons (h : Spelled (c :: rest)) :
    goWord (folded (c :: rest)) =
      if acronyms.contains (String.ofList ((c :: rest).flatMap uppercase)) then
        (c :: rest).flatMap uppercase
      else c :: folded rest := by
  obtain ⟨l, hsmall, hback⟩ := h.paired.exists_small List.mem_cons_self
  have hcapitals := flatMap_uppercase_folded h.paired
  have hcons : folded (c :: rest) = l :: folded rest := by rw [folded_cons, hsmall]; rfl
  rw [hcons] at hcapitals ⊢
  rw [goWord, hcapitals, hback, h.front c rfl]
  rfl

/-- Acronyms are written in capitals throughout. -/
theorem flatMap_uppercase_of_mem_acronyms (h : String.ofList word ∈ acronyms) :
    word.flatMap uppercase = word := by
  have hall : ∀ a ∈ acronyms, a.toList.flatMap uppercase = a.toList := by decide +kernel
  simpa only [String.toList_ofList] using hall _ h

theorem goWord_folded_eq_iff (h : Spelled word) :
    goWord (folded word) = word ↔ KeepsSpelling word := by
  cases word with
  | nil => exact iff_of_true goWord_nil (Or.inr ⟨by decide +kernel, nofun⟩)
  | cons c rest =>
      rw [goWord_folded_cons h]
      split
      case isTrue hacronym =>
        rw [List.contains_iff_mem] at hacronym
        constructor
        · intro heq
          rw [heq] at hacronym
          exact Or.inl hacronym
        · rintro (hmem | ⟨hno, -⟩)
          · exact flatMap_uppercase_of_mem_acronyms hmem
          · exact absurd hacronym hno
      case isFalse hother =>
        rw [List.contains_iff_mem] at hother
        rw [List.cons.injEq, and_iff_right rfl, folded_eq_self_iff h.paired.tail]
        constructor
        · exact fun hsmall => Or.inr ⟨hother, hsmall⟩
        · rintro (hmem | ⟨-, hsmall⟩)
          · rw [flatMap_uppercase_of_mem_acronyms hmem] at hother
            exact absurd hmem hother
          · exact hsmall

/-- A text in capitals that agrees with the text itself as far as both go is the text. -/
theorem flatMap_uppercase_of_comparable
    (h : word.flatMap uppercase <+: word ∨ word <+: word.flatMap uppercase) :
    word.flatMap uppercase = word := by
  induction word with
  | nil => rfl
  | cons c rest ih =>
      rw [List.flatMap_cons] at h ⊢
      obtain ⟨d, more, hmore⟩ := List.exists_cons_of_ne_nil (uppercase_ne_nil c)
      have hfront : d = c := by
        rw [hmore] at h
        rcases h with h | h
        · exact (List.cons_prefix_cons.mp h).1
        · exact (List.cons_prefix_cons.mp h).1.symm
      have hself : uppercase c = [c] := by
        refine uppercase_of_mem_uppercase (c := c) ?_
        rw [hmore, hfront]
        exact List.mem_cons_self
      rw [hself, List.singleton_append] at h ⊢
      rw [ih (by simpa only [List.cons_prefix_cons, true_and] using h)]

/-- A word that comes back differently differs before the end. -/
theorem goWord_folded_of_comparable (h : Spelled word)
    (hcomparable : goWord (folded word) <+: word ∨ word <+: goWord (folded word)) :
    goWord (folded word) = word := by
  cases word with
  | nil => exact goWord_nil
  | cons c rest =>
      rw [goWord_folded_cons h] at hcomparable ⊢
      split at hcomparable
      case isTrue hacronym =>
        rw [if_pos hacronym]
        exact flatMap_uppercase_of_comparable hcomparable
      case isFalse hother =>
        rw [if_neg hother]
        have hlength : (c :: folded rest).length = (c :: rest).length := by
          rw [List.length_cons, List.length_cons, length_folded h.paired.tail]
        rcases hcomparable with h | h
        · exact h.eq_of_length hlength
        · exact (h.eq_of_length hlength.symm).symm

end Word

/-! ## A name -/

/-- Where what replaces a part is the part itself or differs from it before one of the two ends, the
parts together are left as they are exactly if each of them is. -/
theorem flatMap_eq_flatten_iff {α : Type} {f : List α → List α} {parts : List (List α)}
    (h : ∀ part ∈ parts, f part <+: part ∨ part <+: f part → f part = part) :
    parts.flatMap f = parts.flatten ↔ ∀ part ∈ parts, f part = part := by
  induction parts with
  | nil => exact iff_of_true rfl (by simp)
  | cons part rest ih =>
      rw [List.flatMap_cons, List.flatten_cons, List.forall_mem_cons,
        ← ih fun part hpart => h part (List.mem_cons_of_mem _ hpart)]
      constructor
      · intro heq
        have hfirst : f part = part := by
          refine h part List.mem_cons_self ?_
          refine List.prefix_or_prefix_of_prefix (List.prefix_append _ (rest.flatMap f)) ?_
          rw [heq]
          exact List.prefix_append _ _
        rw [hfirst] at heq
        exact ⟨hfirst, List.append_cancel_left heq⟩
      · rintro ⟨hfirst, hrest⟩
        rw [hfirst, hrest]

/-- The words of a spelled name are spelled. -/
theorem Spelled.of_mem_words {name word : List Char} (h : Spelled name)
    (hword : word ∈ words name) : Spelled word where
  joined hmem := h.joined (mem_of_mem_words hword hmem)
  paired c hc := h.paired c (mem_of_mem_words hword hc)
  front c hc := by
    rcases List.mem_cons.mp hword with rfl | hlater
    · refine h.front c ?_
      -- a first word that is not empty begins the name
      rw [← flatten_words name, words, List.flatten_cons, List.head?_append, Option.mem_def.mp hc]
      rfl
    · obtain ⟨d, rest, rfl, hupper⟩ := exists_capital_of_mem_cutAfter hlater
      obtain rfl : d = c := Option.some_inj.mp hc
      exact uppercase_of_isUppercase hupper

/-- A spelled name comes back from the round trip exactly if each of its words does. -/
theorem goCase_snakeCase_eq_iff {name : String} (h : Spelled name.toList) :
    goCase (snakeCase name) = name ↔ ∀ word ∈ words name.toList, KeepsSpelling word := by
  calc goCase (snakeCase name) = name
      ↔ (words name.toList).flatMap (fun word => goWord (folded word)) =
          (words name.toList).flatten := by
        rw [← String.toList_inj, goCase_snakeCase h.joined, flatten_words]
    _ ↔ ∀ word ∈ words name.toList, goWord (folded word) = word :=
        flatMap_eq_flatten_iff fun word hword =>
          goWord_folded_of_comparable (h.of_mem_words hword)
    _ ↔ ∀ word ∈ words name.toList, KeepsSpelling word :=
        forall₂_congr fun word hword => goWord_folded_eq_iff (h.of_mem_words hword)

/-! ## What is spelled out -/

/-- A folded name holds no capitals that could be made small. -/
theorem lowercase_of_mem_snakeAfter {before? : Option Char} {name : List Char} {d : Char}
    (h : d ∈ snakeAfter before? name) (hd : d ≠ '_') (hupper : isUppercase d) :
    lowercase d = [d] := by
  rw [snakeAfter_eq, List.mem_append, List.mem_flatMap] at h
  obtain ⟨word, hword⟩ : ∃ word, d ∈ folded word := by
    rcases h with h | ⟨word, -, h⟩
    · exact ⟨_, h⟩
    · exact ⟨word, (List.mem_cons.mp h).resolve_left hd⟩
  obtain ⟨c, -, hc⟩ := List.mem_flatMap.mp hword
  cases hcapital : isUppercase c with
  | false =>
      rw [small_of_not_isUppercase hcapital, List.mem_singleton] at hc
      rw [← hc, hupper] at hcapital
      cases hcapital
  | true =>
      rw [small_of_isUppercase hcapital] at hc
      exact lowercase_of_mem_lowercase hc

/-- What is spelled out begins with a capital, if there is one. -/
theorem exists_of_head?_flatMap_goWord {parts : List (List Char)} {d : Char}
    (h : (parts.flatMap goWord).head? = some d) : ∃ c, d ∈ uppercase c := by
  induction parts with
  | nil => cases h
  | cons word rest ih =>
      rw [List.flatMap_cons] at h
      cases word with
      | nil =>
          rw [goWord_nil] at h
          exact ih h
      | cons c cs =>
          obtain ⟨first, more, hmore⟩ := List.exists_cons_of_ne_nil (uppercase_ne_nil c)
          rw [goWord_cons, hmore] at h
          obtain rfl : first = d := Option.some_inj.mp h
          exact ⟨c, by rw [hmore]; exact List.mem_cons_self⟩

theorem spelled_exportedName (s : String) : Spelled (exportedName s).toList := by
  rw [exportedName, toList_goCase]
  constructor
  case joined =>
    intro hmem
    obtain ⟨word, hword, hmem⟩ := List.mem_flatMap.mp hmem
    rw [List.splitOn_eq_splitOnP] at hword
    have hfree : '_' ∉ word := fun h => by simpa using not_of_mem_splitOnP hword h
    exact underscore_notMem_goWord hfree hmem
  case paired =>
    intro d hd hupper
    obtain ⟨word, hword, hmem⟩ := List.mem_flatMap.mp hd
    have hfixed : d ∈ word → lowercase d = [d] := by
      intro hd
      have hfolded := mem_of_mem_splitOn hword hd
      rw [snakeCase, String.toList_ofList] at hfolded
      refine lowercase_of_mem_snakeAfter hfolded ?_ hupper
      rintro rfl
      exact absurd hupper (by decide)
    rcases mem_goWord hmem with ⟨c, hc, himage⟩ | hmem
    · rcases exists_small_of_mem_uppercase himage with hback | ⟨rfl, -⟩
      · exact hback
      · exact ⟨d, hfixed hc, uppercase_of_isUppercase hupper⟩
    · exact ⟨d, hfixed hmem, uppercase_of_isUppercase hupper⟩
  case front =>
    intro d hd
    obtain ⟨c, hc⟩ := exists_of_head?_flatMap_goWord hd
    exact uppercase_of_mem_uppercase hc

/-- A field needs a Go name of its own unless its name comes back. -/
theorem customName?_extensionsOf_eq_none_iff (f : Go.Field) (name : String) (embedded : Bool) :
    (Mapping.extensionsOf f name embedded).customName? = none ↔
      goCase (snakeCase name) = name := by
  unfold Mapping.extensionsOf
  split
  case isTrue heq => exact iff_of_true rfl heq
  case isFalse hne => exact iff_of_false (Option.some_ne_none _) hne

/-- **When an exported name comes back.**  An exported name that is folded and spelled out again is
the same, and a field of this name does without a Go name of its own, exactly if each word of the
name keeps its spelling. -/
theorem goCase_snakeCase_exportedName_iff (s : String) :
    (goCase (snakeCase (exportedName s)) = exportedName s ↔
        ∀ word ∈ words (exportedName s).toList, KeepsSpelling word) ∧
      ∀ (f : Go.Field) (embedded : Bool),
        (Mapping.extensionsOf f (exportedName s) embedded).customName? = none ↔
          ∀ word ∈ words (exportedName s).toList, KeepsSpelling word := by
  have hname := goCase_snakeCase_eq_iff (spelled_exportedName s)
  exact ⟨hname, fun f embedded =>
    (customName?_extensionsOf_eq_none_iff f _ embedded).trans hname⟩

example : (words (exportedName "page_token_ids").toList).all (KeepsSpelling ·) := by
  decide +kernel

/-- Two acronyms in a row grow into one word, which is no acronym. -/
theorem exportedName_httpApi_lost :
    ¬∀ s, goCase (snakeCase (exportedName s)) = exportedName s := by
  intro h
  have hlost : goCase (snakeCase (exportedName "HttpApi")) ≠ exportedName "HttpApi" := by
    decide +kernel
  exact hlost (h "HttpApi")

end GoSchema.Naming
