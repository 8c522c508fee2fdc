import GoSchema.Proofs.Naming.Words

/-!
# Schema names that come back

A schema name consists of words in small letters with underscores between them.  Spelling it out
drops the underscores, and folding the result puts one in front of each capital that begins a word.
So the name comes back exactly if the folding sees a new word wherever one begins
(`snakeCase_goCase_schemaName_iff`).

## Strategy

* A word by itself always comes back (`snakeAfter_goWord_none`).  This is plain for a word with a
  capital in front; for the acronyms, one of which ends in a digit, it is looked up in their list.
* What the folding makes of a word depends on what follows only if that begins with a small letter
  (`snakeAfter_append`), and a spelled word begins with a capital.  So a name is folded word by
  word, and all that is carried from one word to the next is its last character.
* That character and the second one of the next word decide whether there is an underscore in front
  of the next word (`startsWord_goWord`).  Where it is missing, the words cannot make up for it
  later, as the next one begins with a letter.
-/

namespace GoSchema.Naming

open Text

/-! ## Words of schema names -/

/-- A word of a schema name: a small letter, and then small letters and digits. -/
def isSchemaWord : List Char → Bool
  | [] => false
  | c :: rest => c.isLower && rest.all fun d => d.isLower || d.isDigit

/-- The schema name that consists of some words. -/
def schemaName (words : List (List Char)) : String := String.ofList (['_'].intercalate words)

/-- Whether a word is written in capitals throughout. -/
def isAcronym (word : List Char) : Bool :=
  acronyms.contains (String.ofList (word.flatMap uppercase))

/-- Whether a word that is spelled out does not end in a capital: it has two characters at least,
and is not an acronym that ends in a letter. -/
def endsSmall (word : List Char) : Bool :=
  2 ≤ word.length && !(isAcronym word && word.getLast?.any Char.isLower)

/-- Whether a word that is spelled out has a small letter after its capital: it is no acronym, and
its second character is a letter. -/
def hasSmallSecond (word : List Char) : Bool :=
  !isAcronym word && word[1]?.any Char.isLower

/-- Two words that can still be told apart when they are spelled out next to each other. -/
def StayApart (first second : List Char) : Prop := endsSmall first ∨ hasSmallSecond second

instance (first second : List Char) : Decidable (StayApart first second) :=
  inferInstanceAs (Decidable (_ ∨ _))

/-! ## Characters -/

/-- A small letter or a digit.  It has a single capital, the capital has a single small form, and
only a letter has case. -/
structure IsPart (c : Char) : Prop where
  uppercase_eq : uppercase c = [c.toUpper]
  lowercase_toUpper : lowercase c.toUpper = [c]
  isUppercase_toUpper : isUppercase c.toUpper = c.isLower
  isLowercase_toUpper : isLowercase c.toUpper = false
  isUppercase_eq : isUppercase c = false
  isLowercase_eq : isLowercase c = c.isLower

theorem isPart_of_isLower_or_isDigit {c : Char} (h : c.isLower || c.isDigit) : IsPart c := by
  have hall : ∀ n < 123, 48 ≤ n ∧ n ≤ 57 ∨ 97 ≤ n →
      uppercase (.ofNat n) = [(Char.ofNat n).toUpper] ∧
      lowercase (Char.ofNat n).toUpper = [.ofNat n] ∧
      isUppercase (Char.ofNat n).toUpper = (Char.ofNat n).isLower ∧
      isLowercase (Char.ofNat n).toUpper = false ∧
      isUppercase (.ofNat n) = false ∧
      isLowercase (.ofNat n) = (Char.ofNat n).isLower := by
    decide +kernel
  have hbounds : c.toNat < 123 ∧ (48 ≤ c.toNat ∧ c.toNat ≤ 57 ∨ 97 ≤ c.toNat) := by
    rcases Bool.or_eq_true_iff.mp h with hletter | hdigit
    · obtain ⟨hlow, hhigh⟩ := Bool.and_eq_true_iff.mp hletter
      have hlow' : 97 ≤ c.toNat := of_decide_eq_true hlow
      have hhigh' : c.toNat ≤ 122 := of_decide_eq_true hhigh
      omega
    · obtain ⟨hlow, hhigh⟩ := Bool.and_eq_true_iff.mp hdigit
      have hlow' : 48 ≤ c.toNat := of_decide_eq_true hlow
      have hhigh' : c.toNat ≤ 57 := of_decide_eq_true hhigh
      omega
  have hc := hall c.toNat hbounds.1 hbounds.2
  rw [Char.ofNat_toNat] at hc
  obtain ⟨hupper, hback, hcapital, hnotSmall, hnotCapital, hsmall⟩ := hc
  exact ⟨hupper, hback, hcapital, hnotSmall, hnotCapital, hsmall⟩

section Word

variable {word : List Char}

theorem isLower_or_isDigit_of_mem (h : isSchemaWord word) {c : Char} (hc : c ∈ word) :
    c.isLower || c.isDigit := by
  cases word with
  | nil => cases h
  | cons first rest =>
      rw [isSchemaWord, Bool.and_eq_true, List.all_eq_true] at h
      rcases List.mem_cons.mp hc with rfl | hc
      · rw [h.1]
        rfl
      · exact h.2 c hc

theorem isPart_of_mem (h : isSchemaWord word) {c : Char} (hc : c ∈ word) : IsPart c :=
  isPart_of_isLower_or_isDigit (isLower_or_isDigit_of_mem h hc)

theorem underscore_notMem_of_isSchemaWord (h : isSchemaWord word) : '_' ∉ word := by
  intro hmem
  exact absurd (isLower_or_isDigit_of_mem h hmem) (by decide)

theorem exists_letter_of_isSchemaWord (h : isSchemaWord word) :
    ∃ c rest, word = c :: rest ∧ c.isLower := by
  cases word with
  | nil => cases h
  | cons c rest => exact ⟨c, rest, rfl, (Bool.and_eq_true_iff.mp h).1⟩

/-! ## Spelling out a word -/

theorem flatMap_uppercase_of_isPart (h : ∀ c ∈ word, IsPart c) :
    word.flatMap uppercase = word.map Char.toUpper := by
  rw [List.map_eq_flatMap]
  exact List.flatMap_congr fun c hc => (h c hc).uppercase_eq

/-- The Go spelling of a word of a schema name. -/
theorem goWord_of_isPart {c : Char} {rest : List Char} (h : ∀ d ∈ c :: rest, IsPart d) :
    goWord (c :: rest) =
      c.toUpper :: if isAcronym (c :: rest) then rest.map Char.toUpper else rest := by
  have hrest : ∀ d ∈ rest, IsPart d := fun d hd => h d (List.mem_cons_of_mem _ hd)
  rw [goWord_cons, (h c List.mem_cons_self).uppercase_eq, flatMap_uppercase_of_isPart hrest]
  rfl

theorem goWord_ne_nil (h : isSchemaWord word) : goWord word ≠ [] := by
  obtain ⟨c, rest, rfl, -⟩ := exists_letter_of_isSchemaWord h
  rw [goWord_of_isPart fun d hd => isPart_of_mem h hd]
  exact List.cons_ne_nil _ _

/-- A spelled word begins with a capital. -/
theorem isLowercase_head?_goWord (h : isSchemaWord word) :
    (goWord word).head?.any isLowercase = false := by
  obtain ⟨c, rest, rfl, -⟩ := exists_letter_of_isSchemaWord h
  rw [goWord_of_isPart fun d hd => isPart_of_mem h hd]
  exact (isPart_of_mem h List.mem_cons_self).isLowercase_toUpper

/-- The second character of a spelled word is a small letter if the word has one there that is not
written as a capital. -/
theorem isLowercase_second_goWord (h : isSchemaWord word) :
    (goWord word).tail.head?.any isLowercase = hasSmallSecond word := by
  obtain ⟨c, rest, rfl, -⟩ := exists_letter_of_isSchemaWord h
  rw [goWord_of_isPart fun d hd => isPart_of_mem h hd, List.tail_cons, hasSmallSecond]
  cases rest with
  | nil => simp
  | cons d more =>
      have hd : IsPart d := isPart_of_mem h (by simp)
      cases isAcronym (c :: d :: more) with
      | true => simpa using hd.isLowercase_toUpper
      | false => simpa using hd.isLowercase_eq

/-- What a spelled word ends in. -/
theorem isUppercase_last_goWord (h : isSchemaWord word) :
    (goWord word).getLast?.any isUppercase = !endsSmall word := by
  obtain ⟨c, rest, rfl, hletter⟩ := exists_letter_of_isSchemaWord h
  rw [goWord_of_isPart fun d hd => isPart_of_mem h hd, endsSmall]
  rcases List.eq_nil_or_concat' rest with rfl | ⟨more, d, rfl⟩
  · have hc : IsPart c := isPart_of_mem h List.mem_cons_self
    simp [hc.isUppercase_toUpper, hletter]
  · have hd : IsPart d := isPart_of_mem h (by simp)
    have hlast (first last : Char) (middle : List Char) :
        (first :: (middle ++ [last])).getLast? = some last := by
      rw [← List.cons_append, List.getLast?_concat]
    rw [hlast]
    cases isAcronym (c :: (more ++ [d])) with
    | true => simp [hlast, hd.isUppercase_toUpper]
    | false => simp [hlast, hd.isUppercase_eq]

/-! ## Folding a word -/

/-- A name without capitals is left as it is. -/
theorem snakeAfter_of_no_capitals {before? : Option Char} {name : List Char}
    (h : ∀ c ∈ name, isUppercase c = false) : snakeAfter before? name = name := by
  induction name generalizing before? with
  | nil => rfl
  | cons c rest ih =>
      rw [snakeAfter, ih fun d hd => h d (List.mem_cons_of_mem _ hd)]
      simp [h c List.mem_cons_self]

/-- The capital in front of a word. -/
theorem snakeAfter_toUpper_cons {before? : Option Char} {c : Char} (hc : IsPart c)
    (hletter : c.isLower) (rest : List Char) :
    snakeAfter before? (c.toUpper :: rest) =
      (if startsWord before? rest.head? then ['_'] else []) ++
        c :: snakeAfter (some c.toUpper) rest := by
  rw [snakeAfter, hc.isUppercase_toUpper, hletter, if_pos rfl, hc.lowercase_toUpper]
  split
  · rfl
  · rfl

/-- **A word by itself comes back.** -/
theorem snakeAfter_goWord_none (h : isSchemaWord word) : snakeAfter none (goWord word) = word := by
  have hparts : ∀ c ∈ word, IsPart c := fun c hc => isPart_of_mem h hc
  obtain ⟨c, rest, rfl, hletter⟩ := exists_letter_of_isSchemaWord h
  rw [goWord_of_isPart hparts]
  cases hacronym : isAcronym (c :: rest) with
  | true =>
      have hall : ∀ a ∈ acronyms, snakeAfter none a.toList = a.toList.flatMap lowercase := by
        decide +kernel
      have hfold := hall _ (List.contains_iff_mem.mp hacronym)
      rw [String.toList_ofList, flatMap_uppercase_of_isPart hparts, List.flatMap_map] at hfold
      rw [if_pos rfl, ← List.map_cons, hfold]
      calc (c :: rest).flatMap (fun d => lowercase d.toUpper)
          = (c :: rest).flatMap fun d => [d] :=
            List.flatMap_congr fun d hd => (hparts d hd).lowercase_toUpper
        _ = c :: rest := List.flatMap_singleton' _
  | false =>
      have hrest : ∀ d ∈ rest, isUppercase d = false := fun d hd =>
        (hparts d (List.mem_cons_of_mem _ hd)).isUppercase_eq
      rw [if_neg Bool.false_ne_true,
        snakeAfter_toUpper_cons (hparts c List.mem_cons_self) hletter,
        snakeAfter_of_no_capitals hrest]
      rfl

/-- A word after other characters is left with an underscore in front of it or without one. -/
theorem snakeAfter_goWord (h : isSchemaWord word) (before? : Option Char) :
    snakeAfter before? (goWord word) =
      (if startsWord before? (goWord word).tail.head? then ['_'] else []) ++ word := by
  have halone := snakeAfter_goWord_none h
  obtain ⟨c, rest, rfl, hletter⟩ := exists_letter_of_isSchemaWord h
  have hc : IsPart c := isPart_of_mem h List.mem_cons_self
  rw [goWord_of_isPart fun d hd => isPart_of_mem h hd] at halone ⊢
  rw [snakeAfter_toUpper_cons hc hletter] at halone ⊢
  -- no word begins in front of the first character
  obtain ⟨-, hrest⟩ := List.cons.inj (show c :: _ = c :: rest from halone)
  rw [hrest, List.tail_cons]

end Word

/-! ## Folding a name -/

/-- What follows counts for the folding only if it begins with a small letter. -/
theorem snakeAfter_append {before? : Option Char} {first rest : List Char}
    (h : rest.head?.any isLowercase = false) :
    snakeAfter before? (first ++ rest) =
      snakeAfter before? first ++ snakeAfter (first.getLast?.or before?) rest := by
  induction first generalizing before? with
  | nil => rfl
  | cons c more ih =>
      have hnext : startsWord before? (more ++ rest).head? = startsWord before? more.head? := by
        cases more with
        | nil => cases before? <;> simp [startsWord, h]
        | cons d more => rfl
      rw [List.cons_append, snakeAfter, snakeAfter, ih, hnext, List.getLast?_cons]
      cases more.getLast? <;> simp

/-- Whether there is an underscore between two words. -/
theorem startsWord_goWord {first second : List Char} (hfirst : isSchemaWord first)
    (hsecond : isSchemaWord second) :
    startsWord (goWord first).getLast? (goWord second).tail.head? =
      decide (StayApart first second) := by
  have hlast := isUppercase_last_goWord hfirst
  have hnext := isLowercase_second_goWord hsecond
  have hfree := underscore_notMem_goWord (underscore_notMem_of_isSchemaWord hfirst)
  cases hend : (goWord first).getLast? with
  | none => exact absurd (List.getLast?_eq_none_iff.mp hend) (goWord_ne_nil hfirst)
  | some c =>
      have hc : c ≠ '_' := by
        rintro rfl
        exact hfree (List.mem_of_getLast? hend)
      rw [hend, Option.any_some] at hlast
      rw [startsWord, hlast, hnext, bne_iff_ne.mpr hc, Bool.true_and, Bool.not_not, Bool.eq_iff_iff,
        Bool.or_eq_true, decide_eq_true_iff, StayApart]

/-- A spelled name begins with a capital. -/
theorem isLowercase_head?_flatMap_goWord {words : List (List Char)}
    (h : ∀ word ∈ words, isSchemaWord word) :
    (words.flatMap goWord).head?.any isLowercase = false := by
  cases words with
  | nil => rfl
  | cons word rest =>
      have hne : goWord word ≠ [] := goWord_ne_nil (h word List.mem_cons_self)
      rw [List.flatMap_cons, List.head?_append_of_ne_nil _ hne]
      exact isLowercase_head?_goWord (h word List.mem_cons_self)

/-- The words after a given one come back exactly if all neighbours stay apart. -/
theorem snakeAfter_flatMap_goWord_iff {first : List Char} {rest : List (List Char)}
    (hfirst : isSchemaWord first) (hrest : ∀ word ∈ rest, isSchemaWord word) :
    snakeAfter (goWord first).getLast? (rest.flatMap goWord) = rest.flatMap ('_' :: ·) ↔
      (first :: rest).IsChain StayApart := by
  induction rest generalizing first with
  | nil => exact iff_of_true rfl (.singleton first)
  | cons second more ih =>
      obtain ⟨hsecond, hmore⟩ := List.forall_mem_cons.mp hrest
      rw [List.flatMap_cons, snakeAfter_append (isLowercase_head?_flatMap_goWord hmore),
        snakeAfter_goWord hsecond, startsWord_goWord hfirst hsecond, List.flatMap_cons,
        List.isChain_cons_cons, ← ih hsecond hmore]
      have hlast : (goWord second).getLast?.or (goWord first).getLast? =
          (goWord second).getLast? := by
        rw [List.getLast?_eq_some_getLast (goWord_ne_nil hsecond), Option.some_or]
      rw [hlast]
      by_cases hapart : StayApart first second
      · simp [hapart]
      · -- what comes next is a letter and no underscore
        obtain ⟨c, cs, rfl, hletter⟩ := exists_letter_of_isSchemaWord hsecond
        have hne : c ≠ '_' := by
          rintro rfl
          exact absurd hletter (by decide)
        simp [hapart, hne]

/-- **When a schema name comes back.**  A schema name that is spelled out and folded again is the
same exactly if of each two neighbouring words the first is not spelled with a capital at its end,
or the second is spelled with a small letter after its capital. -/
theorem snakeCase_goCase_schemaName_iff {words : List (List Char)}
    (h : ∀ word ∈ words, isSchemaWord word) :
    (snakeCase (goCase (schemaName words)) = schemaName words ↔ words.IsChain StayApart) ∧
      ∀ word ∈ words, endsSmall word = !(goWord word).getLast?.any isUppercase := by
  constructor
  · cases words with
    | nil => exact iff_of_true (by decide +kernel) .nil
    | cons first rest =>
        obtain ⟨hfirst, hrest⟩ := List.forall_mem_cons.mp h
        have hsplit : (schemaName (first :: rest)).toList.splitOn '_' = first :: rest := by
          rw [schemaName, String.toList_ofList]
          exact List.splitOn_intercalate '_'
            (fun word hword => underscore_notMem_of_isSchemaWord (h word hword))
            (List.cons_ne_nil _ _)
        rw [← snakeAfter_flatMap_goWord_iff hfirst hrest, ← String.toList_inj, snakeCase,
          String.toList_ofList, toList_goCase, hsplit, List.flatMap_cons,
          snakeAfter_append (isLowercase_head?_flatMap_goWord hrest),
          snakeAfter_goWord_none hfirst, schemaName, String.toList_ofList, intercalate_cons,
          List.append_right_inj, Option.or_none]
  · intro word hword
    rw [isUppercase_last_goWord (h word hword), Bool.not_not]

/-! ## Examples -/

/-- Two acronyms of which the first ends in a digit, and words with and without a second letter. -/
def keyWords : List (List Char) := ["utf8", "api", "key", "v2", "id"].map String.toList

/-- An acronym before a word without a second letter. -/
def versionWords : List (List Char) := ["user", "id", "v2"].map String.toList

theorem snakeCase_goCase_keyWords_versionWords :
    ((∀ word ∈ keyWords, isSchemaWord word) ∧ keyWords.IsChain StayApart ∧
        snakeCase (goCase (schemaName keyWords)) = schemaName keyWords) ∧
      (∀ word ∈ versionWords, isSchemaWord word) ∧ ¬versionWords.IsChain StayApart ∧
        snakeCase (goCase (schemaName versionWords)) ≠ schemaName versionWords := by
  have hkey : ∀ word ∈ keyWords, isSchemaWord word := by decide +kernel
  have hversion : ∀ word ∈ versionWords, isSchemaWord word := by decide +kernel
  have hapart : keyWords.IsChain StayApart := by decide +kernel
  have hgrown : ¬versionWords.IsChain StayApart := by decide +kernel
  refine ⟨⟨hkey, hapart, ?_⟩, hversion, hgrown, fun heq => hgrown ?_⟩
  · exact (snakeCase_goCase_schemaName_iff hkey).1.mpr hapart
  · exact (snakeCase_goCase_schemaName_iff hversion).1.mp heq

end GoSchema.Naming
