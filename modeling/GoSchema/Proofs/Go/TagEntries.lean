import GoSchema.Go.Tag
import Mathlib.Data.List.TakeWhile

/-!
# What the entries of a tag are

An entry stands in a text as its key, a colon and its value between quotes.  `Value` lists what can
stand between the quotes, and `entryAt?_eq_some_iff` says that an entry is found at the beginning of
a text exactly if the text begins with one.  Everything about the entries of a text follows from
there: they can be put into a text again (`entriesOf_intercalate`), and a text without quotes adds
none to those in front of it (`entriesOf_append`).
-/

namespace GoSchema.Go

namespace Tag

open Text

/-! ## Values -/

/-- What can stand between the quotes of an entry.  A quote is there only behind a backslash. -/
inductive Value : List Char → Prop
  | nil : Value []
  | plain {c : Char} {s : List Char} (hquote : c ≠ '"') (hescape : c ≠ '\\') (rest : Value s) :
      Value (c :: s)
  | escaped {c : Char} {s : List Char} (hline : c ≠ '\n') (rest : Value s) : Value ('\\' :: c :: s)

theorem Value.readValue?_append {value : List Char} (h : Value value) (rest : List Char) :
    readValue? (value ++ '"' :: rest) = some (value, rest) := by
  induction h with
  | nil => rfl
  | plain hquote hescape _ ih =>
      rw [List.cons_append, readValue?, if_neg hescape, ih]
      · rfl
      · exact hquote
      · exact fun _ _ heq _ => hescape heq
  | escaped hline _ ih =>
      rw [List.cons_append, List.cons_append, readValue?, if_neg hline, ih]
      rfl

/-- No value is read where no quote ends it. -/
theorem Value.readValue?_eq_none {value : List Char} (h : Value value) :
    readValue? value = none := by
  induction h with
  | nil => rfl
  | plain hquote hescape _ ih =>
      rw [readValue?, if_neg hescape, ih]
      · rfl
      · exact hquote
      · exact fun _ _ heq _ => hescape heq
  | escaped hline _ ih =>
      rw [readValue?, if_neg hline, ih]
      rfl

theorem value_of_readValue? {s value rest : List Char} (h : readValue? s = some (value, rest)) :
    Value value ∧ s = value ++ '"' :: rest := by
  fun_induction readValue? s generalizing value rest with
  | case1 => cases h
  | case2 s =>
      cases h
      exact ⟨.nil, rfl⟩
  | case3 => cases h
  | case4 c s hline ih =>
      obtain ⟨⟨value', rest'⟩, hread, heq⟩ := Option.map_eq_some_iff.mp h
      cases heq
      obtain ⟨hvalue, rfl⟩ := ih hread
      exact ⟨.escaped hline hvalue, rfl⟩
  | case5 => cases h
  | case6 c s hquote _ hescape ih =>
      obtain ⟨⟨value', rest'⟩, hread, heq⟩ := Option.map_eq_some_iff.mp h
      cases heq
      obtain ⟨hvalue, rfl⟩ := ih hread
      exact ⟨.plain hquote hescape hvalue, rfl⟩

/-! ## Entries -/

/-- An entry as it stands in a tag: the key, a colon and the value in quotes. -/
def entryText (entry : String × String) : String :=
  entry.1 ++ ":\"" ++ entry.2 ++ "\""

/-- An entry with a key and a value that can be read. -/
structure ReadableEntry (entry : String × String) : Prop where
  key_ne : entry.1 ≠ ""
  key : ∀ c ∈ entry.1.toList, isKeyChar c
  value : Value entry.2.toList

theorem toList_entryText (entry : String × String) :
    (entryText entry).toList = entry.1.toList ++ ':' :: '"' :: (entry.2.toList ++ ['"']) := by
  simp [entryText]

/-- An entry ends with a quote. -/
theorem exists_entryText_eq (entry : String × String) :
    ∃ init, (entryText entry).toList = init ++ ['"'] :=
  ⟨entry.1.toList ++ ':' :: '"' :: entry.2.toList, by simp [toList_entryText]⟩

/-- What is found behind a key. -/
theorem entryAt?_of_key {key rest : List Char} (hne : key ≠ []) (hkey : ∀ c ∈ key, isKeyChar c) :
    entryAt? (key ++ ':' :: '"' :: rest) =
      (readValue? rest).map fun (value, rest) =>
        ((String.ofList key, String.ofList value), rest) := by
  have hcolon : isKeyChar ':' = false := by decide
  have htake : (key ++ ':' :: '"' :: rest).takeWhile isKeyChar = key := by
    rw [List.takeWhile_append_of_pos hkey, List.takeWhile_cons_of_neg (by simp [hcolon]),
      List.append_nil]
  have hdrop : (key ++ ':' :: '"' :: rest).dropWhile isKeyChar = ':' :: '"' :: rest := by
    rw [List.dropWhile_append_of_pos hkey, List.dropWhile_cons_of_neg (by simp [hcolon])]
  rw [entryAt?, htake, hdrop]
  cases key with
  | nil => exact absurd rfl hne
  | cons c key => rfl

/-- An entry is found up to its last quote. -/
theorem ReadableEntry.entryAt?_append {entry : String × String} (h : ReadableEntry entry) (rest : List Char) :
    entryAt? ((entryText entry).toList ++ rest) = some (entry, rest) := by
  have hne : entry.1.toList ≠ [] := fun hnil => h.key_ne (String.toList_eq_nil_iff.mp hnil)
  rw [toList_entryText, List.append_assoc, List.cons_append, List.cons_append, List.append_assoc,
    List.singleton_append, entryAt?_of_key hne h.key, h.value.readValue?_append, Option.map_some]
  simp only [String.ofList_toList]

/-- An entry is found where its text is. -/
theorem entryAt?_eq_some_iff {s rest : List Char} {entry : String × String} :
    entryAt? s = some (entry, rest) ↔ ReadableEntry entry ∧ s = (entryText entry).toList ++ rest := by
  constructor
  · intro h
    have hkey : ∀ c ∈ s.takeWhile isKeyChar, isKeyChar c := fun c hc => List.mem_takeWhile_imp hc
    have hparts := List.takeWhile_append_dropWhile (p := isKeyChar) (l := s)
    simp only [entryAt?] at h
    split at h
    · next c key rest' htake hdrop =>
      rw [htake] at h hkey hparts
      rw [hdrop] at hparts
      obtain ⟨⟨value, rest''⟩, hread, heq⟩ := Option.map_eq_some_iff.mp h
      obtain ⟨hvalue, rfl⟩ := value_of_readValue? hread
      cases heq
      refine ⟨⟨by simp, by simpa using hkey, by simpa using hvalue⟩, ?_⟩
      rw [← hparts, toList_entryText]
      simp
    · cases h
  · rintro ⟨hentry, rfl⟩
    exact hentry.entryAt?_append rest

/-! ## The entries of a text -/

theorem entriesOf_nil : entriesOf [] = [] := by rw [entriesOf]

theorem entriesOf_of_some {s after : List Char} {entry : String × String}
    (h : entryAt? s = some (entry, after)) : entriesOf s = entry :: entriesOf after := by
  cases s with
  | nil => cases h
  | cons c s =>
      rw [entriesOf]
      split
      · next entry' after' h' =>
        rw [h] at h'
        cases h'
        rfl
      · next h' =>
        rw [h] at h'
        cases h'

theorem entriesOf_of_none {c : Char} {s : List Char} (h : entryAt? (c :: s) = none) :
    entriesOf (c :: s) = entriesOf s := by
  rw [entriesOf]
  split
  · next h' =>
    rw [h] at h'
    cases h'
  · rfl

/-- Going through a text from entry to entry, and from character to character where there is none. -/
theorem entries_induction {motive : List Char → Prop} (nil : motive [])
    (entry : ∀ s entry after, entryAt? s = some (entry, after) → motive after → motive s)
    (char : ∀ c s, entryAt? (c :: s) = none → motive s → motive (c :: s)) (s : List Char) :
    motive s := by
  fun_induction entriesOf s with
  | case1 => exact nil
  | case2 c s found after h _ ih => exact entry (c :: s) found after h ih
  | case3 c s h ih => exact char c s h ih

theorem readable_of_mem_entriesOf {s : List Char} :
    ∀ {entry : String × String}, entry ∈ entriesOf s → ReadableEntry entry := by
  induction s using entries_induction with
  | nil =>
      intro entry h
      rw [entriesOf_nil] at h
      cases h
  | entry s found after h ih =>
      intro entry hmem
      rw [entriesOf_of_some h] at hmem
      cases hmem with
      | head => exact (entryAt?_eq_some_iff.mp h).1
      | tail _ hmem => exact ih hmem
  | char c s h ih =>
      intro entry hmem
      exact ih (entriesOf_of_none h ▸ hmem)

/-- The blanks between entries are passed over. -/
theorem entriesOf_blank (s : List Char) : entriesOf (' ' :: s) = entriesOf s :=
  entriesOf_of_none rfl

theorem entriesOf_intercalate {entries : List (String × String)}
    (h : ∀ entry ∈ entries, ReadableEntry entry) :
    entriesOf ([' '].intercalate (entries.map fun entry => (entryText entry).toList)) =
      entries := by
  induction entries with
  | nil => exact entriesOf_nil
  | cons entry entries ih =>
      obtain ⟨hentry, hentries⟩ := List.forall_mem_cons.mp h
      have hfirst := fun rest => entriesOf_of_some (hentry.entryAt?_append rest)
      cases entries with
      | nil =>
          rw [List.map_singleton, List.intercalate_singleton,
            ← List.append_nil (entryText entry).toList, hfirst, entriesOf_nil]
      | cons next entries =>
          rw [List.map_cons, List.map_cons, List.intercalate_cons_cons, List.append_assoc, hfirst,
            List.singleton_append, entriesOf_blank]
          exact congrArg (entry :: ·) (ih hentries)

/-- An entry ends with a quote, so it does not reach into a text that has none. -/
theorem entryAt?_append_eq_some_iff {s t rest : List Char} {entry : String × String}
    (h : '"' ∉ t) :
    entryAt? (s ++ t) = some (entry, rest) ↔
      ∃ after, rest = after ++ t ∧ entryAt? s = some (entry, after) := by
  simp only [entryAt?_eq_some_iff]
  constructor
  · rintro ⟨hentry, heq⟩
    obtain ⟨init, hinit⟩ := exists_entryText_eq entry
    obtain ⟨more, hmore, rfl⟩ | ⟨after, rfl, rfl⟩ := List.append_eq_append_iff.mp heq
    · -- The last quote would be in the second text.
      obtain rfl | ⟨more, c, rfl⟩ := List.eq_nil_or_concat more
      · exact ⟨[], rfl, hentry, by simpa using hmore.symm⟩
      · rw [hinit, List.concat_eq_append, ← List.append_assoc] at hmore
        obtain rfl : '"' = c := by simpa using List.append_inj_right' hmore rfl
        exact absurd (by simp) h
    · exact ⟨after, rfl, hentry, rfl⟩
  · rintro ⟨after, rfl, hentry, rfl⟩
    exact ⟨hentry, List.append_assoc ..⟩

/-- There are no entries without a colon in front of a quote. -/
theorem entriesOf_eq_nil {s : List Char} (h : ∀ pre post, s ≠ pre ++ ':' :: '"' :: post) :
    entriesOf s = [] := by
  induction s with
  | nil => exact entriesOf_nil
  | cons c s ih =>
      have hnone : entryAt? (c :: s) = none := by
        rw [Option.eq_none_iff_forall_ne_some]
        rintro ⟨entry, rest⟩ heq
        have htext := (entryAt?_eq_some_iff.mp heq).2
        rw [toList_entryText, List.append_assoc] at htext
        exact h _ _ htext
      rw [entriesOf_of_none hnone]
      exact ih fun pre post heq => h (c :: pre) post (congrArg (c :: ·) heq)

/-- A text without quotes adds no entries to those in front of it. -/
theorem entriesOf_append (s : List Char) {t : List Char} (h : '"' ∉ t) :
    entriesOf (s ++ t) = entriesOf s := by
  induction s using entries_induction with
  | nil =>
      rw [List.nil_append, entriesOf_nil]
      refine entriesOf_eq_nil fun pre post heq => h ?_
      simp [heq]
  | entry s found after hfound ih =>
      have hfound' := (entryAt?_append_eq_some_iff h).mpr ⟨after, rfl, hfound⟩
      rw [entriesOf_of_some hfound, entriesOf_of_some hfound', ih]
  | char c s hnone ih =>
      have hnone' : entryAt? (c :: (s ++ t)) = none := by
        rw [Option.eq_none_iff_forall_ne_some]
        rintro ⟨entry, rest⟩ heq
        obtain ⟨after, -, heq⟩ := (entryAt?_append_eq_some_iff (s := c :: s) h).mp heq
        rw [hnone] at heq
        cases heq
      rw [List.cons_append, entriesOf_of_none hnone, entriesOf_of_none hnone', ih]

/-! ## Literals -/

theorem trimEndWhile_concat_of_pos {p : Char → Bool} {c : Char} (h : p c) (s : List Char) :
    trimEndWhile p (s ++ [c]) = trimEndWhile p s := by
  rw [trimEndWhile, List.reverse_concat, List.dropWhile_cons_of_pos h, trimEndWhile]

theorem trimEndWhile_concat_of_neg {p : Char → Bool} {c : Char} (h : ¬p c) (s : List Char) :
    trimEndWhile p (s ++ [c]) = s ++ [c] := by
  rw [trimEndWhile, List.reverse_concat, List.dropWhile_cons_of_neg h, ← List.reverse_concat,
    List.reverse_reverse]

/-- Marks are trimmed only where they are. -/
theorem trimEndWhile_eq_self {c : Char} {s : List Char} (h : s.getLast? ≠ some c) :
    trimEndWhile (· == c) s = s := by
  obtain rfl | ⟨init, d, rfl⟩ := List.eq_nil_or_concat s
  · rfl
  · rw [List.concat_eq_append] at h ⊢
    refine trimEndWhile_concat_of_neg (fun heq => h ?_) init
    rw [List.getLast?_concat, eq_of_beq heq]

/-- What is between the marks of a raw string.  Only a mark at its end would be taken for one more
closing mark. -/
theorem content_raw_of_getLast? {body : List Char} (h : body.getLast? ≠ some '`') :
    content ('`' :: (body ++ ['`'])) = body := by
  rw [content, trimEndWhile_concat_of_pos (by decide), trimEndWhile_eq_self h]

theorem content_raw {body : List Char} (h : '\x60' ∉ body) :
    content ('\x60' :: (body ++ ['\x60'])) = body :=
  content_raw_of_getLast? fun hlast => h (List.mem_of_getLast? hlast)

end Tag

end GoSchema.Go
