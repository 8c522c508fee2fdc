import GoSchema.Mapping.Documents
import GoSchema.Proofs.Go.VerbatimTypes

/-!
# Keys of types without a name

A struct or an interface without a name has its compact text for a key in a table of overrides.
Two such types share an entry when they have the same text, and then they say the same
(`outline_eq_of_key_eq`) with two reservations, which are both needed (`outline_ne_fields`).  No
token may run together with the next one, since signs are put next to each other.  And line ends are
left out of the text, so they must separate nothing by themselves: where members stand on lines of
their own, semicolons have to stand between them as well.
-/

namespace GoSchema.Mapping

open Go

/-- The tokens of a struct or an interface that is read as a type somewhere in a text, and the type
that it is read as. -/
inductive ReadAnonymous : List Token → TypeExpr → Prop
  | read {text : String} {tokens : List Token} {c : Cursor} {type : TypeExpr} {d : c.Later}
      (hscan : Token.scan text = .ok tokens) (hrest : c.rest <:+ tokens)
      (hstart : c.current.is "struct" ∨ c.current.is "interface")
      (hread : c.parseType = .ok (type, d)) : ReadAnonymous (c.upTo d.1) type

variable {m : Mapper} {tokens tokens' : List Token} {type type' : TypeExpr}

theorem ReadAnonymous.eq_verbatim (h : ReadAnonymous tokens type) :
    type = .verbatim (Cursor.compact false tokens) := by
  obtain ⟨-, -, hstart, hread⟩ := h
  exact Cursor.eq_verbatim_of_parseType hstart hread

/-- The tokens of such a type are some that were scanned. -/
theorem ReadAnonymous.allFormed (h : ReadAnonymous tokens type) : AllFormed tokens := by
  cases h with
  | @read text scanned c _ d hscan hrest _ hread =>
      obtain ⟨passed, hpassed, hends⟩ := (Cursor.motion_passes.halts_parseType c).leads _ hread
      have hupTo : c.upTo d.1 = passed := Cursor.upTo_of_rest hpassed
      rw [hupTo]
      intro t ht
      have hmem : t ∈ c.rest := hpassed ▸ List.mem_append_left _ ht
      exact form_of_mem_scan hscan (hrest.subset hmem) (hends t ht)

/-- The key of such a type is its compact text. -/
theorem ReadAnonymous.key_eq (h : ReadAnonymous tokens type) (m : Mapper) :
    m.key type = Cursor.compact false tokens := by
  rw [h.eq_verbatim]
  rfl

/-- **Types without a name that share a key say the same.**  If two structs or interfaces have the
same key, and in neither a token runs together with the next one, then they have the same tokens
apart from line ends and comments.  If moreover line ends separate nothing by themselves, then their
outlines are the same. -/
theorem outline_eq_of_key_eq (h : ReadAnonymous tokens type) (h' : ReadAnonymous tokens' type')
    (happart : Token.AllApart tokens) (happart' : Token.AllApart tokens')
    (hkey : m.key type = m.key type') :
    (Token.significant tokens).map Token.spelling =
        (Token.significant tokens').map Token.spelling ∧
      (LineEndsIdle tokens → LineEndsIdle tokens' → outline tokens = outline tokens') := by
  rw [h.key_eq, h'.key_eq] at hkey
  have hsame := significant_eq_of_compact_eq h.allFormed h'.allFormed happart happart' hkey
  refine ⟨hsame, fun hidle hidle' => ?_⟩
  rw [← hidle, ← hidle', outline_withoutLineEnds_congr hsame]

/-! ## Examples -/

/-- The struct or interface that a text begins with: its tokens, and the type that it is read as. -/
def anonymousAt? (text : String) : Option (List Token × TypeExpr) := do
  let tokens ← (Token.scan text).toOption
  let c := Cursor.ofTokens tokens
  if c.current.is "struct" ∨ c.current.is "interface" then
    let (type, d) ← c.parseType.toOption
    return (c.upTo d.1, type)
  else none

theorem readAnonymous_of_anonymousAt? {text : String}
    (h : anonymousAt? text = some (tokens, type)) : ReadAnonymous tokens type := by
  unfold anonymousAt? at h
  cases hscan : Token.scan text with
  | error fault =>
      rw [hscan] at h
      cases h
  | ok scanned =>
      rw [hscan] at h
      replace h : (if (Cursor.ofTokens scanned).current.is "struct" ∨
          (Cursor.ofTokens scanned).current.is "interface" then _ else none) = _ := h
      split at h
      · next hstart =>
        cases hread : (Cursor.ofTokens scanned).parseType with
        | error fault =>
            rw [hread] at h
            cases h
        | ok read =>
            rw [hread] at h
            cases h
            exact .read hscan (List.suffix_refl _) hstart hread
      · cases h

theorem readAnonymous_get {text : String} (h : (anonymousAt? text).isSome) :
    ReadAnonymous ((anonymousAt? text).get h).1 ((anonymousAt? text).get h).2 :=
  readAnonymous_of_anonymousAt? (Option.some_get h).symm

/-- A struct on several lines, with a semicolon where a line end separates. -/
def itemOnLines : List Token × TypeExpr :=
  (anonymousAt? "struct \x7b\n\tID int; // unique\n\tName string\n\x7d").get (by decide +kernel)

/-- The same struct on one line. -/
def itemInLine : List Token × TypeExpr :=
  (anonymousAt? "struct\x7bID int;Name string\x7d").get (by decide +kernel)

/-- The mapper of a package without declarations. -/
def emptyMapper : Mapper := mapperFor .standard ⟨"shop", []⟩

/-- The two structs have the same key, and say the same. -/
theorem outline_eq_item :
    ReadAnonymous itemOnLines.1 itemOnLines.2 ∧ ReadAnonymous itemInLine.1 itemInLine.2 ∧
      Token.AllApart itemOnLines.1 ∧ Token.AllApart itemInLine.1 ∧
      emptyMapper.key itemOnLines.2 = emptyMapper.key itemInLine.2 ∧
      LineEndsIdle itemOnLines.1 ∧ LineEndsIdle itemInLine.1 ∧
      outline itemOnLines.1 = outline itemInLine.1 := by
  have hlines : ReadAnonymous itemOnLines.1 itemOnLines.2 := readAnonymous_get _
  have hline : ReadAnonymous itemInLine.1 itemInLine.2 := readAnonymous_get _
  have hlinesApart : Token.AllApart itemOnLines.1 := by decide +kernel
  have hlineApart : Token.AllApart itemInLine.1 := by decide +kernel
  have hkey : emptyMapper.key itemOnLines.2 = emptyMapper.key itemInLine.2 := by decide +kernel
  have hlinesIdle : LineEndsIdle itemOnLines.1 := by decide +kernel
  have hlineIdle : LineEndsIdle itemInLine.1 := by decide +kernel
  exact ⟨hlines, hline, hlinesApart, hlineApart, hkey, hlinesIdle, hlineIdle,
    (outline_eq_of_key_eq hlines hline hlinesApart hlineApart hkey).2 hlinesIdle hlineIdle⟩

/-- Two embedded fields, separated by a line end. -/
def twoFields : List Token × TypeExpr :=
  (anonymousAt? "struct \x7b\n\tA\n\tB\n\x7d").get (by decide +kernel)

/-- One field with its type. -/
def oneField : List Token × TypeExpr :=
  (anonymousAt? "struct \x7b A B \x7d").get (by decide +kernel)

/-- An array whose length is written with two signs. -/
def twoSigns : List Token × TypeExpr :=
  (anonymousAt? "struct \x7b Sum [A & ^B]int \x7d").get (by decide +kernel)

/-- An array whose length is written with one sign. -/
def oneSign : List Token × TypeExpr :=
  (anonymousAt? "struct \x7b Sum [A &^ B]int \x7d").get (by decide +kernel)

/-- **Types that say something else can share a key.**  A line end between two members gets lost,
and so does the place where one sign ends and the next one begins. -/
theorem outline_ne_fields :
    (ReadAnonymous twoFields.1 twoFields.2 ∧ ReadAnonymous oneField.1 oneField.2 ∧
      emptyMapper.key twoFields.2 = emptyMapper.key oneField.2 ∧
      outline twoFields.1 ≠ outline oneField.1) ∧
    (ReadAnonymous twoSigns.1 twoSigns.2 ∧ ReadAnonymous oneSign.1 oneSign.2 ∧
      emptyMapper.key twoSigns.2 = emptyMapper.key oneSign.2 ∧
      outline twoSigns.1 ≠ outline oneSign.1) :=
  ⟨⟨readAnonymous_get _, readAnonymous_get _, by decide +kernel, by decide +kernel⟩,
    readAnonymous_get _, readAnonymous_get _, by decide +kernel, by decide +kernel⟩

end GoSchema.Mapping
