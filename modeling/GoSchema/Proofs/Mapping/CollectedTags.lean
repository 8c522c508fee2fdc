import GoSchema.Mapping.Message
import GoSchema.Proofs.Go.TagEntries

/-!
# Collected tags can be read back

A field keeps what its tag says beyond its name as one text, the entries with blanks between them.
Between the marks of a raw string that text is a tag again, and it has just these entries
(`moreTags?_ofLiteral`), although nothing in them is escaped: what was read as a value is in the form
of a value still.  A value may have marks in it, but the text ends with a quote, so only the closing
mark is trimmed.
-/

namespace GoSchema.Mapping

open Go (Tag)

/-- The part of a value up to its first comma. -/
def mainPart (value : String) : String := String.ofList (value.toList.takeWhile (· ≠ ','))

theorem differingTags_eq (tag : Tag) (fieldName : String) :
    differingTags tag fieldName = tag.entries.filter fun entry => mainPart entry.2 ≠ fieldName := by
  refine List.filter_congr fun entry _ => ?_
  have hpart : (mainPart entry.2).toList = entry.2.toList.takeWhile (· ≠ ',') := by
    rw [mainPart, String.toList_ofList]
  have hiff : entry.2.toList.takeWhile (· ≠ ',') = fieldName.toList ↔
      mainPart entry.2 = fieldName := by
    rw [← hpart, String.toList_inj]
  simp only [bne, decide_not, beq_eq_decide] at hiff ⊢
  rw [decide_eq_decide.mpr hiff]

theorem moreTags?_eq (tag : Tag) (fieldName : String) :
    moreTags? tag fieldName =
      match differingTags tag fieldName with
      | [] => none
      | entries => some (" ".intercalate (entries.map Tag.entryText)) := rfl

/-- A text of entries ends with the quote of its last one. -/
theorem getLast?_intercalate_entryText {entries : List (String × String)} (h : entries ≠ []) :
    ([' '].intercalate (entries.map fun entry => (Tag.entryText entry).toList)).getLast? =
      some '"' := by
  induction entries with
  | nil => exact absurd rfl h
  | cons entry entries ih =>
      cases entries with
      | nil =>
          obtain ⟨init, hinit⟩ := Tag.exists_entryText_eq entry
          rw [List.map_singleton, List.intercalate_singleton, hinit, List.getLast?_concat]
      | cons next entries =>
          have hlast := ih (List.cons_ne_nil next entries)
          rw [List.map_cons] at hlast
          rw [List.map_cons, List.map_cons, List.intercalate_cons_cons, List.getLast?_append, hlast,
            Option.some_or]

/-- Entries that can be read are read back from a raw string. -/
theorem ofLiteral_entries {entries : List (String × String)} (hne : entries ≠ [])
    (h : ∀ entry ∈ entries, Tag.ReadableEntry entry) :
    Tag.ofLiteral ("\x60" ++ " ".intercalate (entries.map Tag.entryText) ++ "\x60") =
      ⟨entries⟩ := by
  have htext : (" ".intercalate (entries.map Tag.entryText)).toList =
      [' '].intercalate (entries.map fun entry => (Tag.entryText entry).toList) := by
    rw [String.toList_intercalate, List.map_map]
    rfl
  have hmark : ([' '].intercalate (entries.map fun entry =>
      (Tag.entryText entry).toList)).getLast? ≠ some '\x60' := by
    rw [getLast?_intercalate_entryText hne]
    decide
  have hliteral : ("\x60" ++ " ".intercalate (entries.map Tag.entryText) ++ "\x60").toList =
      '\x60' :: ([' '].intercalate (entries.map fun entry =>
        (Tag.entryText entry).toList) ++ ['\x60']) := by
    rw [String.toList_append, String.toList_append, htext]
    rfl
  rw [Tag.ofLiteral, hliteral, Tag.content_raw_of_getLast? hmark, Tag.entriesOf_intercalate h]

/-- What is collected from the tag of a literal is, between the marks of a raw string, the tag of the
entries whose main part is not the name of the field.  Nothing is collected if there are none. -/
theorem moreTags?_ofLiteral (literal fieldName : String) :
    (∀ text, moreTags? (Tag.ofLiteral literal) fieldName = some text →
      (Tag.ofLiteral ("\x60" ++ text ++ "\x60")).entries =
        (Tag.ofLiteral literal).entries.filter fun entry => mainPart entry.2 ≠ fieldName) ∧
    (moreTags? (Tag.ofLiteral literal) fieldName = none ↔
      ¬∃ entry ∈ (Tag.ofLiteral literal).entries, mainPart entry.2 ≠ fieldName) := by
  have hentries : ∀ entry ∈ differingTags (Tag.ofLiteral literal) fieldName, Tag.ReadableEntry entry :=
    fun entry hmem => Tag.readable_of_mem_entriesOf (List.mem_filter.mp hmem).1
  have hnil : differingTags (Tag.ofLiteral literal) fieldName = [] ↔
      ¬∃ entry ∈ (Tag.ofLiteral literal).entries, mainPart entry.2 ≠ fieldName := by
    rw [differingTags_eq, List.filter_eq_nil_iff]
    simp
  rw [← hnil, ← differingTags_eq, moreTags?_eq]
  cases hdiffering : differingTags (Tag.ofLiteral literal) fieldName with
  | nil => exact ⟨fun text h => (nomatch h), iff_of_true rfl rfl⟩
  | cons entry entries =>
      rw [hdiffering] at hentries
      refine ⟨fun text h => ?_, iff_of_false (fun h => (nomatch h)) (List.cons_ne_nil entry entries)⟩
      cases h
      rw [ofLiteral_entries (List.cons_ne_nil entry entries) hentries]

/-- An interpreted literal whose second value has a mark and a comma. -/
theorem moreTags?_ofLiteral_stock :
    (Tag.ofLiteral ("\x60" ++ "db:\"s\x60x,y\"" ++ "\x60")).entries =
      (Tag.ofLiteral "\"json:\\\"stock,omitempty\\\" db:\\\"s\x60x,y\\\" \"").entries.filter
        fun entry => mainPart entry.2 ≠ "stock" :=
  (moreTags?_ofLiteral "\"json:\\\"stock,omitempty\\\" db:\\\"s\x60x,y\\\" \"" "stock").1 _
    (by decide +kernel)

end GoSchema.Mapping
