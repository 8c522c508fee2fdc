import GoSchema.Proofs.Go.TagEntries

/-!
# The two forms of a tag literal

The content of a tag can be written as it is between the marks of a raw string, or with its quotes
and backslashes escaped between double quotes.  The second form does not always come back.  All
quotes at the end of the literal are taken for closing ones, also an escaped one that ends the
content, and what is left of it is its backslash.

So the two forms have the same entries unless the content ends in the closing quote of an entry
(`EndsInEntry`), and then the second form lacks that entry (`ofLiteral_interpreted`).

## Strategy

`content_interpreted` and `content_interpreted_quote` give what is between the double quotes.  In the
second case the contents are `s` with a quote and `s` with a backslash.  The backslash adds nothing
to the entries of `s` (`entriesOf_append`).  The quote adds something only where it closes an entry
that `s` leaves open, and in such an open entry no other one is found (`entriesOf_open`).
-/

namespace GoSchema.Go

namespace Tag

open Text

/-! ## Writing the literals -/

/-- The text with a backslash in front of each quote and each backslash. -/
def escape (s : List Char) : List Char :=
  s.flatMap fun c => if c = '"' ∨ c = '\\' then ['\\', c] else [c]

/-- A literal between the marks of a raw string. -/
def rawLiteral (body : String) : String := "\x60" ++ body ++ "\x60"

/-- A literal between double quotes. -/
def interpretedLiteral (body : String) : String :=
  "\"" ++ String.ofList (escape body.toList) ++ "\""

/-! ## What is between the double quotes -/

/-- The text with its backslashes doubled. -/
def double (s : List Char) : List Char :=
  s.flatMap fun c => if c = '\\' then ['\\', '\\'] else [c]

@[simp] theorem escape_nil : escape [] = [] := rfl

@[simp] theorem double_nil : double [] = [] := rfl

theorem escape_cons (c : Char) (s : List Char) :
    escape (c :: s) = (if c = '"' ∨ c = '\\' then ['\\', c] else [c]) ++ escape s := rfl

theorem double_cons (c : Char) (s : List Char) :
    double (c :: s) = (if c = '\\' then ['\\', '\\'] else [c]) ++ double s := rfl

theorem head?_escape_append {t : List Char} (ht : t.head? ≠ some '"') (s : List Char) :
    (escape s ++ t).head? ≠ some '"' := by
  cases s with
  | nil => exact ht
  | cons c s =>
      rw [escape_cons]
      split
      · simp
      · next h => simpa using fun heq => h (.inl heq)

theorem unescape_of_ne {c d : Char} (h : d ≠ '\\') (s : List Char) :
    unescape c (d :: s) = d :: unescape c s :=
  unescape.eq_3 c d s fun _ _ heq _ => h heq

/-- A backslash in front of another character stays. -/
theorem unescape_of_head? {c : Char} {s : List Char} (h : s.head? ≠ some c) :
    unescape c ('\\' :: s) = '\\' :: unescape c s := by
  cases s with
  | nil => rw [unescape.eq_3 c '\\' [] fun d s _ heq => List.cons_ne_nil d s heq.symm]
  | cons d s => rw [unescape, if_neg fun heq => h (by rw [heq, List.head?_cons])]

theorem unescape_escape_append {t : List Char} (ht : t.head? ≠ some '"') (s : List Char) :
    unescape '"' (escape s ++ t) = double s ++ unescape '"' t := by
  induction s with
  | nil => rfl
  | cons c s ih =>
      have hhead := head?_escape_append ht s
      rw [escape_cons, double_cons]
      by_cases hescape : c = '\\'
      · subst hescape
        rw [if_pos (.inr rfl), if_pos rfl]
        simp only [List.cons_append, List.nil_append]
        rw [unescape_of_head? (by simp), unescape_of_head? hhead, ih]
      · rw [if_neg hescape]
        by_cases hquote : c = '"'
        · subst hquote
          rw [if_pos (.inl rfl)]
          simp only [List.cons_append, List.nil_append]
          rw [unescape, if_pos rfl, ih]
        · rw [if_neg (not_or.mpr ⟨hquote, hescape⟩)]
          simp only [List.cons_append, List.nil_append]
          rw [unescape_of_ne hescape, ih]

theorem unescape_double_append (s t : List Char) :
    unescape '\\' (double s ++ t) = s ++ unescape '\\' t := by
  induction s with
  | nil => rfl
  | cons c s ih =>
      rw [double_cons]
      by_cases hescape : c = '\\'
      · subst hescape
        rw [if_pos rfl]
        simp only [List.cons_append, List.nil_append]
        rw [unescape, if_pos rfl, ih]
      · rw [if_neg hescape]
        simp only [List.cons_append, List.nil_append]
        rw [unescape_of_ne hescape, ih]

theorem escape_append (s t : List Char) : escape (s ++ t) = escape s ++ escape t :=
  List.flatMap_append

theorem getLast?_escape (s : List Char) : (escape s).getLast? = s.getLast? := by
  obtain rfl | ⟨init, c, rfl⟩ := List.eq_nil_or_concat s
  · rfl
  · rw [List.concat_eq_append, escape_append, escape_cons, escape_nil, List.append_nil,
      List.getLast?_concat]
    split
    · rw [← List.singleton_append, ← List.append_assoc, List.getLast?_concat]
    · rw [List.getLast?_concat]

/-- What is between the double quotes is what was escaped. -/
theorem content_interpreted {s : List Char} (h : s.getLast? ≠ some '"') :
    content ('"' :: (escape s ++ ['"'])) = s := by
  have htrim : trimEndWhile (· == '"') (escape s) = escape s :=
    trimEndWhile_eq_self ((getLast?_escape s).symm ▸ h)
  have hquote := unescape_escape_append (t := []) (by simp) s
  have hescape := unescape_double_append s []
  simp only [unescape, List.append_nil] at hquote hescape
  rw [content, trimEndWhile_concat_of_pos (by decide), htrim, hquote, hescape]

/-- An escaped quote at the end is taken for a closing one, and its backslash stays. -/
theorem content_interpreted_quote (s : List Char) :
    content ('"' :: (escape (s ++ ['"']) ++ ['"'])) = s ++ ['\\'] := by
  have hlast : escape (s ++ ['"']) = (escape s ++ ['\\']) ++ ['"'] := by
    rw [escape_append, List.append_assoc]
    rfl
  have hkept : unescape '"' ['\\'] = ['\\'] := by decide +kernel
  have hkept' : unescape '\\' ['\\'] = ['\\'] := by decide +kernel
  rw [content, trimEndWhile_concat_of_pos (by decide), hlast,
    trimEndWhile_concat_of_pos (by decide), trimEndWhile_concat_of_neg (by decide),
    unescape_escape_append (by simp), hkept, unescape_double_append, hkept']

/-! ## Entries at the end of a text -/

/-- The last quote of the text closes an entry of it. -/
inductive EndsInEntry : List Char → Prop
  | last {s : List Char} {entry : String × String} (h : entryAt? s = some (entry, [])) :
      EndsInEntry s
  | later {s after : List Char} {entry : String × String} (h : entryAt? s = some (entry, after))
      (rest : EndsInEntry after) : EndsInEntry s
  | past {c : Char} {s : List Char} (h : entryAt? (c :: s) = none) (rest : EndsInEntry s) :
      EndsInEntry (c :: s)

theorem not_endsInEntry_nil : ¬EndsInEntry [] := by
  rintro (h | h) <;> cases h

theorem endsInEntry_iff_of_some {s after : List Char} {entry : String × String}
    (h : entryAt? s = some (entry, after)) : EndsInEntry s ↔ after = [] ∨ EndsInEntry after := by
  constructor
  · rintro (h' | ⟨h', hrest⟩ | h')
    · cases h.symm.trans h'
      exact .inl rfl
    · cases h.symm.trans h'
      exact .inr hrest
    · cases h.symm.trans h'
  · rintro (rfl | hrest)
    · exact .last h
    · exact .later h hrest

theorem endsInEntry_iff_of_none {c : Char} {s : List Char} (h : entryAt? (c :: s) = none) :
    EndsInEntry (c :: s) ↔ EndsInEntry s := by
  constructor
  · rintro (h' | h' | ⟨-, hrest⟩)
    · cases h.symm.trans h'
    · cases h.symm.trans h'
    · exact hrest
  · exact .past h

theorem exists_concat_of_endsInEntry {s : List Char} (h : EndsInEntry s) :
    ∃ init, s = init ++ ['"'] := by
  induction h with
  | @last s entry h =>
      obtain ⟨init, hinit⟩ := exists_entryText_eq entry
      exact ⟨init, by rw [(entryAt?_eq_some_iff.mp h).2, List.append_nil, hinit]⟩
  | later h _ ih =>
      obtain ⟨init, rfl⟩ := ih
      exact ⟨_, (entryAt?_eq_some_iff.mp h).2.trans (List.append_assoc ..).symm⟩
  | past _ _ ih =>
      obtain ⟨init, rfl⟩ := ih
      exact ⟨_ :: init, rfl⟩

/-! ## Entries that are left open -/

/-- In a value no quote is directly behind a colon. -/
theorem Value.ne_colon_quote {value : List Char} (h : Value value) (pre post : List Char) :
    value ≠ pre ++ ':' :: '"' :: post := by
  have hfirst : ∀ s : List Char, ¬Value ('"' :: s) := by
    rintro s (_ | ⟨hquote, -, -⟩)
    exact hquote rfl
  induction h generalizing pre with
  | nil => simp
  | plain hquote hescape hrest ih =>
      rintro heq
      cases pre with
      | nil =>
          cases heq
          exact hfirst post hrest
      | cons c pre => exact ih pre (List.cons.inj heq).2
  | escaped hline hrest ih =>
      rintro heq
      match pre with
      | [] => cases heq
      | [_] =>
          cases heq
          exact hfirst post hrest
      | _ :: _ :: pre => exact ih pre (List.cons.inj (List.cons.inj heq).2).2

/-- In an entry that is not closed there is no other one. -/
theorem entriesOf_open {key value : List Char} (hkey : ∀ c ∈ key, isKeyChar c)
    (hvalue : Value value) : entriesOf (key ++ ':' :: '"' :: value) = [] := by
  induction key with
  | nil =>
      have hcolon : entryAt? (':' :: '"' :: value) = none := rfl
      have hquote : entryAt? ('"' :: value) = none := rfl
      rw [List.nil_append, entriesOf_of_none hcolon, entriesOf_of_none hquote]
      exact entriesOf_eq_nil hvalue.ne_colon_quote
  | cons c key ih =>
      have hnone : entryAt? (c :: (key ++ ':' :: '"' :: value)) = none := by
        rw [← List.cons_append, entryAt?_of_key (List.cons_ne_nil c key) hkey,
          hvalue.readValue?_eq_none, Option.map_none]
      rw [List.cons_append, entriesOf_of_none hnone]
      exact ih (List.forall_mem_cons.mp hkey).2

/-- A quote at the end of a text adds an entry if it closes one, and nothing otherwise. -/
theorem entriesOf_concat_quote (s : List Char) :
    (EndsInEntry (s ++ ['"']) ∧ ∃ entry, entriesOf (s ++ ['"']) = entriesOf s ++ [entry]) ∨
      (¬EndsInEntry (s ++ ['"']) ∧ entriesOf (s ++ ['"']) = entriesOf s) := by
  induction s using entries_induction with
  | nil =>
      have hquote : entryAt? ['"'] = none := rfl
      rw [List.nil_append, endsInEntry_iff_of_none hquote, entriesOf_of_none hquote]
      exact .inr ⟨not_endsInEntry_nil, rfl⟩
  | entry s found after h ih =>
      obtain ⟨hentry, rfl⟩ := entryAt?_eq_some_iff.mp h
      have h' := hentry.entryAt?_append (after ++ ['"'])
      rw [List.append_assoc, endsInEntry_iff_of_some h', entriesOf_of_some h', entriesOf_of_some h]
      obtain ⟨hends, last, heq⟩ | ⟨hends, heq⟩ := ih
      · exact .inl ⟨.inr hends, last, by rw [heq, List.cons_append]⟩
      · exact .inr ⟨by simpa using hends, by rw [heq]⟩
  | char c s h ih =>
      rw [List.cons_append, entriesOf_of_none h]
      cases h' : entryAt? (c :: (s ++ ['"'])) with
      | none => rwa [endsInEntry_iff_of_none h', entriesOf_of_none h']
      | some found =>
          obtain ⟨entry, after⟩ := found
          obtain ⟨hentry, htext⟩ := entryAt?_eq_some_iff.mp h'
          obtain rfl | ⟨after, d, rfl⟩ := List.eq_nil_or_concat after
          · -- The entry is all of the text, so without the quote it is open.
            have hopen : c :: s = entry.1.toList ++ ':' :: '"' :: entry.2.toList := by
              rw [toList_entryText, List.append_nil, ← List.cons_append, ← List.cons_append,
                ← List.cons_append, ← List.append_assoc] at htext
              exact List.append_inj_left' htext rfl
            refine .inl ⟨.last h', entry, ?_⟩
            rw [entriesOf_of_some h', entriesOf_nil, ← entriesOf_of_none h, hopen,
              entriesOf_open hentry.key hentry.value, List.nil_append]
          · -- The entry does not reach up to the quote, so it is found without it.
            have hfound : c :: s = (entryText entry).toList ++ after := by
              rw [List.concat_eq_append, ← List.cons_append, ← List.append_assoc] at htext
              exact List.append_inj_left' htext rfl
            rw [hfound, hentry.entryAt?_append] at h
            cases h

/-! ## The literals compared -/

theorem ofLiteral_rawLiteral {body : String} (h : '\x60' ∉ body.toList) :
    (ofLiteral (rawLiteral body)).entries = entriesOf body.toList := by
  have hliteral : (rawLiteral body).toList = '\x60' :: (body.toList ++ ['\x60']) := by
    simp [rawLiteral]
  rw [ofLiteral, hliteral, content_raw h]

theorem toList_interpretedLiteral (body : String) :
    (interpretedLiteral body).toList = '"' :: (escape body.toList ++ ['"']) := by
  simp [interpretedLiteral]

/-- Both forms of a literal have the same entries exactly if the content does not end in the closing
quote of an entry.  If it does, the interpreted form has all entries but this last one. -/
theorem ofLiteral_interpreted (body : String) (h : '\x60' ∉ body.toList) :
    (ofLiteral (interpretedLiteral body) = ofLiteral (rawLiteral body) ↔
        ¬EndsInEntry body.toList) ∧
      (EndsInEntry body.toList →
        (ofLiteral (interpretedLiteral body)).entries =
          (ofLiteral (rawLiteral body)).entries.dropLast) := by
  have hraw := ofLiteral_rawLiteral h
  have hinterpreted : (ofLiteral (interpretedLiteral body)).entries =
      entriesOf (content ('"' :: (escape body.toList ++ ['"']))) := by
    rw [ofLiteral, toList_interpretedLiteral]
  rw [Tag.mk.injEq, hraw, hinterpreted]
  generalize body.toList = s
  by_cases hlast : s.getLast? = some '"'
  · obtain ⟨init, rfl⟩ := List.getLast?_eq_some_iff.mp hlast
    rw [content_interpreted_quote, entriesOf_append init (by decide)]
    obtain ⟨hends, entry, heq⟩ | ⟨hends, heq⟩ := entriesOf_concat_quote init
    · refine ⟨iff_of_false (fun heq' => ?_) (not_not_intro hends), fun _ => ?_⟩
      · exact absurd (heq'.trans heq) (by simp)
      · rw [heq, List.dropLast_concat]
    · exact ⟨iff_of_true heq.symm hends, fun hends' => absurd hends' hends⟩
  · have hends : ¬EndsInEntry s := by
      intro hends
      obtain ⟨init, rfl⟩ := exists_concat_of_endsInEntry hends
      exact hlast List.getLast?_concat
    rw [content_interpreted hlast]
    exact ⟨iff_of_true rfl hends, fun hends' => absurd hends' hends⟩

/-- A content that ends in an entry, and one with a blank behind its last entry. -/
theorem ofLiteral_interpreted_name :
    (ofLiteral (interpretedLiteral "json:\"name\"")).entries = [] ∧
      ofLiteral (interpretedLiteral "json:\"name\" ") = ofLiteral (rawLiteral "json:\"name\" ") := by
  have hentry : entryAt? "json:\"name\"".toList = some (("json", "name"), []) := by decide
  have hends : EndsInEntry "json:\"name\"".toList := .last hentry
  have hblank : ¬EndsInEntry "json:\"name\" ".toList := fun h => by
    obtain ⟨init, heq⟩ := exists_concat_of_endsInEntry h
    have hlast := congrArg List.getLast? heq
    rw [List.getLast?_concat] at hlast
    exact absurd hlast (by decide)
  refine ⟨?_, (ofLiteral_interpreted "json:\"name\" " (by decide)).1.mpr hblank⟩
  rw [(ofLiteral_interpreted "json:\"name\"" (by decide)).2 hends]
  decide +kernel

/-- A tag with one entry has none in its interpreted form. -/
theorem ofLiteral_interpreted_ne_raw :
    interpretedLiteral "json:\"name\"" = "\"json:\\\"name\\\"\"" ∧
      (ofLiteral (rawLiteral "json:\"name\"")).entries = [("json", "name")] ∧
      (ofLiteral (interpretedLiteral "json:\"name\"")).entries = [] := by
  decide +kernel

end Tag

end GoSchema.Go
