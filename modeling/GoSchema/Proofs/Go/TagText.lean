import GoSchema.Proofs.Go.TagEntries
import GoSchema.Proofs.Go.TypeText

/-!
# Tags are read as they are printed

A tag is written as a raw string with its entries between blanks.  What is between the marks of the
string comes back as it is, and from the left each entry is found again, provided that no character
of a value ends it or the literal.
-/

namespace GoSchema.Go

namespace Tag

open Text

/-! ## Printing tags -/

/-- What is between the marks of the literal. -/
def text (tag : Tag) : String := " ".intercalate (tag.entries.map entryText)

/-- A character that ends neither a value nor its line nor the literal, and keeps no other one from
doing so. -/
def isValueChar (c : Char) : Bool := c != '"' && c != '\\' && c != '\x60' && c != '\n'

/-- Whether an entry can be written.  Its key is not empty. -/
def isEntry (entry : String × String) : Bool :=
  !entry.1.isEmpty && entry.1.toList.all isKeyChar && entry.2.toList.all isValueChar

/-- Whether a tag can be written. -/
def isPrintable (tag : Tag) : Bool := tag.entries.all isEntry

/-! ## Reading tags -/

theorem value_of_isValueChar {value : List Char} (h : ∀ c ∈ value, isValueChar c) :
    Value value := by
  induction value with
  | nil => exact .nil
  | cons c value ih =>
      obtain ⟨hc, hvalue⟩ := List.forall_mem_cons.mp h
      simp only [isValueChar, Bool.and_eq_true, bne_iff_ne] at hc
      obtain ⟨⟨⟨hquote, hescape⟩, -⟩, -⟩ := hc
      exact .plain hquote hescape (ih hvalue)

theorem isEntry_iff {entry : String × String} :
    isEntry entry ↔ entry.1 ≠ "" ∧ (∀ c ∈ entry.1.toList, isKeyChar c) ∧
      ∀ c ∈ entry.2.toList, isValueChar c := by
  simp only [isEntry, Bool.and_eq_true, Bool.not_eq_true', String.isEmpty_eq_false_iff,
    List.all_eq_true, and_assoc]

theorem readable_of_isEntry {entry : String × String} (h : isEntry entry) : ReadableEntry entry := by
  obtain ⟨hne, hkey, hvalue⟩ := isEntry_iff.mp h
  exact ⟨hne, hkey, value_of_isValueChar hvalue⟩

theorem entriesOf_text {tag : Tag} (h : tag.isPrintable) :
    entriesOf tag.text.toList = tag.entries := by
  rw [text, String.toList_intercalate, List.map_map]
  exact entriesOf_intercalate fun entry hmem =>
    readable_of_isEntry (List.all_eq_true.mp h entry hmem)

theorem mark_notMem_entryText {entry : String × String} (h : isEntry entry) :
    '\x60' ∉ (entryText entry).toList := by
  obtain ⟨-, hkey, hvalue⟩ := isEntry_iff.mp h
  have hkeyMark : '\x60' ∉ entry.1.toList := fun hmem => absurd (hkey _ hmem) (by decide)
  have hvalueMark : '\x60' ∉ entry.2.toList := fun hmem => absurd (hvalue _ hmem) (by decide)
  simp [entryText, hkeyMark, hvalueMark]

theorem mark_notMem_text {tag : Tag} (h : tag.isPrintable) : '\x60' ∉ tag.text.toList := by
  have hentries := List.all_eq_true.mp h
  rw [text, String.toList_intercalate, List.map_map]
  generalize tag.entries = entries at hentries ⊢
  induction entries with
  | nil => exact List.not_mem_nil
  | cons entry entries ih =>
      obtain ⟨hentry, hentries⟩ := List.forall_mem_cons.mp hentries
      have hfirst := mark_notMem_entryText hentry
      cases entries with
      | nil =>
          rw [List.map_singleton, List.intercalate_singleton]
          exact hfirst
      | cons next entries =>
          rw [List.map_cons, List.map_cons, List.intercalate_cons_cons]
          simp only [List.mem_append, not_or]
          exact ⟨⟨hfirst, by decide⟩, ih hentries⟩

theorem ofLiteral_text {tag : Tag} (h : tag.isPrintable) :
    ofLiteral ("\x60" ++ tag.text ++ "\x60") = tag := by
  have hliteral : ("\x60" ++ tag.text ++ "\x60").toList =
      '\x60' :: (tag.text.toList ++ ['\x60']) := by
    simp
  rw [ofLiteral, hliteral, content_raw (mark_notMem_text h), entriesOf_text h]

end Tag

end GoSchema.Go
