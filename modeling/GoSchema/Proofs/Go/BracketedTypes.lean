import GoSchema.Proofs.Go.PassedItems

/-!
# Brackets behind the name of a type

Behind the name of a type that is declared, brackets hold the length of an array or type parameters.
The reader tells them apart by the two tokens after the opening bracket: a name and then another
name, a comma, `~` or `*` begin type parameters.

For lengths this goes wrong exactly if one begins with a name that is multiplied.  For type
parameters it goes wrong if the type of the first one begins with a bracket or an arrow.
-/

namespace GoSchema.Go

/-! ## Balanced tokens of types -/

namespace Cursor

variable {t : Token} {tokens : List Token}

theorem balanced_word {name : String} {pos : Position} (hname : isName name)
    (h : Balanced brackets Inline tokens) :
    Balanced brackets Inline (⟨.ident, name, pos⟩ :: tokens) := by
  have hspecial : ∀ text ∈ statementSigns, isSpecial text := by decide
  exact balanced_cons (by simp) (by simp)
    (fun text htext => is_word_eq_false hname (hspecial text htext) pos) h

theorem balanced_sign {kind : Token.Kind} {text : String} {pos : Position}
    (hkind : kind = .ident ∨ kind = .punct) (htext : text ∉ statementSigns)
    (h : Balanced brackets Inline tokens) :
    Balanced brackets Inline (⟨kind, text, pos⟩ :: tokens) := by
  refine balanced_cons ?_ ?_ (fun other hother => ?_) h
  · rcases hkind with rfl | rfl <;> nofun
  · rcases hkind with rfl | rfl <;> nofun
  · have hne : text ≠ other := fun heq => htext (heq ▸ hother)
    rcases hkind with rfl | rfl <;> exact beq_eq_false_iff_ne.mpr hne

theorem balanced_operand (ht : t.IsOperand) (h : Balanced brackets Inline tokens) :
    Balanced brackets Inline (t :: tokens) := by
  have hspecial : ∀ text ∈ statementSigns, isSpecial text ∧ isDecimal text = false := by decide
  have hline : t.kind ≠ .newline := by
    rcases ht with ⟨hkind, -⟩ | ⟨hkind, -⟩ <;> rw [hkind] <;> decide
  exact balanced_cons hline (kind_ne_finish_of_isOperand ht) (fun text htext =>
    is_operand_eq_false ht (hspecial text htext).1 (hspecial text htext).2) h

theorem balanced_of_isLength (h : IsLength tokens) : Balanced brackets Inline tokens := by
  induction h with
  | operand ht => exact balanced_operand ht .nil
  | @binary t sign rest ht hkind hsign _ ih =>
      have hother : ∀ text ∈ statementSigns, text ∉ ["+", "-", "*", "/"] := by decide
      refine balanced_operand ht (balanced_cons ?_ ?_ (fun text htext =>
        is_operator_eq_false hkind hsign (hother text htext)) ih)
      · rw [hkind]
        decide
      · rw [hkind]
        decide

/-- The tokens of a type are balanced and on one line. -/
theorem balanced_of_writes {type : TypeExpr} (h : type.Writes tokens) :
    Balanced brackets Inline tokens := by
  have hsquare : ("[", "]") ∈ brackets := by decide
  induction h with
  | name hname => exact balanced_word hname .nil
  | qualified hpackage hname =>
      exact balanced_word hpackage (balanced_sign (.inr rfl) (by decide) (balanced_word hname .nil))
  | pointer _ ih => exact balanced_sign (.inr rfl) (by decide) ih
  | slice _ ih => exact .enclosed hsquare ⟨rfl, rfl⟩ .nil ⟨rfl, rfl⟩ ih
  | array hlength _ _ ih =>
      have hinner := (balanced_of_isLength hlength).mono fun _ _ => trivial
      exact .enclosed hsquare ⟨rfl, rfl⟩ hinner ⟨rfl, rfl⟩ ih
  | map _ _ ihkey ihvalue =>
      have hinner := ihkey.mono fun _ _ => trivial
      exact balanced_sign (.inl rfl) (by decide)
        (.enclosed hsquare ⟨rfl, rfl⟩ hinner ⟨rfl, rfl⟩ ihvalue)

/-! ## Reading the declaration -/

variable {c : Cursor} {line : Nat} {file docs : String} {name opening closing : Token}
  {inner tail rest : List Token}

/-- Whether a token behind a name in brackets lets the reader take the name for a type parameter. -/
def saysParams (t : Token) : Bool := t.kind == .ident || [",", "~", "*"].any t.is

theorem beginsTypeParams_jump (hopening : opening.IsSign "[") (t u : Token) :
    (c.jump line (opening :: t :: u :: rest)).beginsTypeParams =
      (t.kind == .ident && saysParams u) := by
  have hthird : (c.jump line (opening :: t :: u :: rest)).ahead 2 = u := rfl
  rw [beginsTypeParams, hthird, current_jump, ahead_one_jump, hopening.is]
  rfl

/-- What the word `type` comes to where no group follows. -/
theorem parseItem_type {d : Cursor} {word : Token} {hd : d.left < c.skipTrivia.left} (file : String)
    (hnext : c.skipTrivia.next? = some (word, ⟨d, hd⟩)) (hword : word.IsWord "type")
    (hgroup : d.eat? "(" = none) :
    c.parseItem file = (do
      let (declaration?, ⟨e, he⟩) ←
        (d.forget.parseDeclaration file (d.docs word.pos.line)).value
      return some ((none, declaration?.toList),
        ⟨e, later_of_within (le_of_later he) (later_of_skipTrivia hd)⟩)) := by
  rw [parseItem, hnext]
  dsimp only
  rw [hword.is_eq, hword.is_eq, parseTypes, hgroup]
  dsimp only
  rw [Reading.value_bind]
  exact bind_assoc _ _ _

/-- The word `type` in front of a name begins a declaration. -/
theorem exists_parseItem_type (file : String) {word : Token} (hword : word.IsWord "type")
    (hgroup : name.is "(" = false) (hc : c.rest = word :: name :: rest) :
    ∃ (d : Cursor) (line : Nat) (docs : String),
      (∀ declaration? e,
        ((d.jump line (name :: rest)).parseDeclaration file docs).value = .ok (declaration?, e) →
        ∃ e', c.parseItem file = .ok (some ((none, declaration?.toList), e')) ∧ e'.1 = e.1) ∧
      ∀ fault, ((d.jump line (name :: rest)).parseDeclaration file docs).value = .error fault →
        c.parseItem file = .error fault := by
  obtain ⟨d, hd, hnext, hrest⟩ := c.exists_next_of_isWord hword hc
  have hno : d.eat? "(" = none := by
    refine eat?_eq_none_of_current ?_
    rw [current_of_rest hrest]
    exact hgroup
  have hitem := parseItem_type file hnext hword hno
  rw [← hrest]
  refine ⟨d.forget, d.lastLine, d.docs word.pos.line, fun declaration? e h => ?_, fun fault h => ?_⟩
  · have h : (d.forget.parseDeclaration file (d.docs word.pos.line)).value =
        .ok (declaration?, e) := h
    rw [hitem, h]
    exact ⟨_, rfl, rfl⟩
  · have h : (d.forget.parseDeclaration file (d.docs word.pos.line)).value = .error fault := h
    rw [hitem, h]
    rfl

/-- A declaration that is taken to have type parameters is passed. -/
theorem exists_parseDeclaration_params (line : Nat) (file docs : String) {Outside : Token → Prop}
    {lineEnd : Token}
    (hkind : name.kind = .ident) (hopening : opening.IsSign "[") (hclosing : closing.IsSign "]")
    (hinner : Balanced brackets Outside inner) (htail : Balanced brackets Inline tail)
    (hlineEnd : lineEnd.kind = .newline)
    (hparams : (c.jump name.pos.line
      (opening :: (inner ++ closing :: (tail ++ lineEnd :: rest)))).beginsTypeParams) :
    ∃ e, ((c.jump line (name :: opening ::
        (inner ++ closing :: (tail ++ lineEnd :: rest)))).parseDeclaration file docs).value =
      .ok (none, e) ∧ e.1.rest = lineEnd :: rest := by
  have hsquare : ("[", "]") ∈ brackets := by decide
  obtain ⟨line', hle, hinside⟩ := stops_skipBalanced_enclosed (List.Subset.refl brackets)
    hsquare hinner hclosing c (tail ++ lineEnd :: rest) opening.pos.line
  have hinline : 0 = 0 → ∀ t, Inline t → Inline t := fun _ t ht => ht
  obtain ⟨line'', hskip⟩ := skipStatement_append (c := c) htail hinline (lineEnd :: rest) line'
  rw [skipStatement_lineEnd hlineEnd] at hskip
  rw [value_parseDeclaration_eq, expectIdent_jump hkind, ok_bind]
  dsimp only
  rw [if_pos hparams, advance_jump hopening.kind_ne.1]
  dsimp only
  rw [hinside, ok_bind]
  exact ⟨_, rfl, congrArg Cursor.rest hskip⟩

/-- A declaration that is taken to have none is of the type that begins with the bracket. -/
theorem value_parseDeclaration_type (line : Nat) (file docs : String) (hkind : name.kind = .ident)
    (hopening : opening.IsSign "[")
    (hparams : (c.jump name.pos.line (opening :: rest)).beginsTypeParams = false) :
    ((c.jump line (name :: opening :: rest)).parseDeclaration file docs).value = (do
      let (type, ⟨e, he⟩) ← (c.jump name.pos.line (opening :: rest)).parseType
      return (some ⟨name.text, docs, file, name.pos, .defined type⟩,
        ⟨e, later_trans he left_jump_lt⟩)) := by
  obtain ⟨kind, text, pos⟩ := name
  cases hkind
  have hno (word : String) (hword : "[" ≠ word) :
      (c.jump pos.line (opening :: rest)).eat? word = none :=
    eat?_jump_eq_none (hopening.is_eq_false hword)
  have hassign : (c.jump pos.line (opening :: rest)).current.is "=" = false :=
    hopening.is_eq_false (by decide)
  rw [value_parseDeclaration text pos hassign hparams, parseKind,
    hno "struct" (by decide), hno "interface" (by decide), bind_assoc]
  rfl

end Cursor

/-! ## Arrays and type parameters as items -/

/-- The tokens of the declaration of a type with brackets behind its name, with those between the
brackets and those after them. -/
def IsBracketed (tokens : List Token) (name : Token) (inner tail : List Token) : Prop :=
  ∃ word opening closing, tokens = word :: name :: opening :: (inner ++ closing :: tail) ∧
    word.IsWord "type" ∧ name.kind = .ident ∧ isName name.text ∧ opening.IsSign "[" ∧
    closing.IsSign "]"

/-- A length that begins with a name times something. -/
def BeginsProduct (length : List Token) : Prop :=
  ∃ t sign rest, length = t :: sign :: rest ∧ t.kind = .ident ∧ sign.is "*"

/-- The tokens of a struct. -/
def IsStruct (tokens : List Token) : Prop :=
  ∃ word opening body closing, tokens = word :: opening :: (body ++ [closing]) ∧
    word.IsWord "struct" ∧ opening.IsSign Token.openBrace ∧
    Balanced brackets (fun _ => True) body ∧ closing.IsSign Token.closeBrace

section Items

variable {c : Cursor} {line : Nat} {file : String} {name opening closing : Token}
  {tokens inner tail rest : List Token}

theorem IsStruct.balanced (h : IsStruct tokens) : Balanced brackets Cursor.Inline tokens := by
  obtain ⟨word, opening, body, closing, rfl, hword, hopening, hbody, hclosing⟩ := h
  have hother : ∀ text ∈ Cursor.statementSigns, ("struct" == text) = false := by decide
  refine Cursor.balanced_cons ?_ ?_ (fun text htext => (hword.is_eq text).trans (hother text htext))
    (.enclosed Cursor.brace_mem_brackets hopening hbody hclosing .nil)
  · rw [hword.1]
    decide
  · rw [hword.1]
    decide

/-- A length is taken for type parameters exactly if it begins with a product. -/
theorem beginsTypeParams_length_iff (hopening : opening.IsSign "[") (hclosing : closing.IsSign "]")
    (hinner : IsLength inner) :
    (c.jump line (opening :: (inner ++ closing :: rest))).beginsTypeParams ↔ BeginsProduct inner := by
  cases hinner with
  | @operand t ht =>
      have hno : Cursor.saysParams closing = false := by
        have hother : [",", "~", "*"].any closing.is = false := by
          rw [List.any_eq_false]
          have hne : ∀ text ∈ [",", "~", "*"], "]" ≠ text := by decide
          exact fun text htext => Bool.eq_false_iff.mp (hclosing.is_eq_false (hne text htext))
        rw [Cursor.saysParams, hclosing.1, hother]
        rfl
      rw [List.singleton_append, Cursor.beginsTypeParams_jump hopening, hno, Bool.and_false]
      refine iff_of_false Bool.false_ne_true ?_
      rintro ⟨t, sign, rest, heq, -⟩
      cases heq
  | @binary t sign rest ht hkind hsign _ =>
      have hsays : Cursor.saysParams sign = sign.is "*" := by
        have hcomma : sign.is "," = false := Cursor.is_operator_eq_false hkind hsign (by decide)
        have htilde : sign.is "~" = false := Cursor.is_operator_eq_false hkind hsign (by decide)
        simp [Cursor.saysParams, hkind, hcomma, htilde]
      rw [List.cons_append, List.cons_append, Cursor.beginsTypeParams_jump hopening, hsays,
        Bool.and_eq_true, beq_iff_eq]
      constructor
      · rintro ⟨hident, hstar⟩
        exact ⟨t, sign, rest, rfl, hident, hstar⟩
      · rintro ⟨t, sign, rest, heq, hident, hstar⟩
        cases heq
        exact ⟨hident, hstar⟩

/-- An array whose length does not begin with a product is read with this length. -/
theorem IsBracketed.readsAs_array (h : IsBracketed tokens name inner tail) {element : TypeExpr}
    (hinner : IsLength inner) (htail : element.Writes tail) (hproduct : ¬BeginsProduct inner)
    (file : String) :
    ReadsAs file tokens
      [⟨name.text, "", file, name.pos, .defined (.array (textOf inner) element)⟩] := by
  intro c lineEnd rest hlineEnd htext hrest
  obtain ⟨word, opening, closing, rfl, hword, hkind, hname, hopening, hclosing⟩ := h
  rw [List.cons_append, List.cons_append, List.cons_append, List.append_assoc, List.cons_append]
    at hrest
  obtain ⟨d, line, docs, hitem, -⟩ :=
    Cursor.exists_parseItem_type file hword (Token.is_eq_false_of_isName hkind hname (by decide)) hrest
  have hparams : (d.jump name.pos.line (opening :: (inner ++ closing :: (tail ++
      lineEnd :: rest)))).beginsTypeParams = false :=
    Bool.eq_false_iff.mpr fun h =>
      hproduct ((beginsTypeParams_length_iff hopening hclosing hinner).mp h)
  have hno (text : String) (hother : "\n" ≠ text) : lineEnd.is text = false := by
    rw [Token.is, hlineEnd, htext]
    exact beq_eq_false_iff_ne.mpr hother
  have hends : Cursor.EndsType (lineEnd :: rest) :=
    ⟨lineEnd, rest, rfl, hno "." (by decide), .inl (hno "[" (by decide))⟩
  have htype : d.Reads (d.jump name.pos.line (opening :: (inner ++ closing :: (tail ++
      lineEnd :: rest)))).parseType (.array (textOf inner) element) (lineEnd :: rest) := by
    obtain ⟨kind, text, pos⟩ := opening
    obtain ⟨kind', text', pos'⟩ := closing
    obtain ⟨⟨⟩, ⟨⟩⟩ := hopening
    obtain ⟨⟨⟩, ⟨⟩⟩ := hclosing
    have hwrites : (TypeExpr.array (textOf inner) element).Writes
        (⟨.punct, "[", pos⟩ :: (inner ++ ⟨.punct, "]", pos'⟩ :: tail)) :=
      .array hinner rfl htail
    have hreads : d.Reads (d.jump name.pos.line (⟨.punct, "[", pos⟩ ::
        (inner ++ ⟨.punct, "]", pos'⟩ :: tail) ++ lineEnd :: rest)).parseType
        (.array (textOf inner) element) (lineEnd :: rest) :=
      Cursor.reads_parseType_of_writes hwrites hends
    rwa [List.cons_append, List.append_assoc, List.cons_append] at hreads
  obtain ⟨line', hle, htype⟩ := htype
  have hdeclaration := Cursor.value_parseDeclaration_type line file docs hkind hopening hparams
  rw [htype, Cursor.ok_bind] at hdeclaration
  obtain ⟨e, hread, he⟩ := hitem _ _ hdeclaration
  exact ⟨_, e, hread, rfl, congrArg Cursor.rest he⟩

/-- A declaration that is taken to have type parameters is read as nothing. -/
theorem IsBracketed.readsAs_nil {t u : Token} {more : List Token}
    (h : IsBracketed tokens name (t :: u :: more) tail) (ht : t.kind = .ident)
    (hu : Cursor.saysParams u) (hinner : Balanced brackets (fun _ => True) (t :: u :: more))
    (htail : Balanced brackets Cursor.Inline tail) (file : String) : ReadsAs file tokens [] := by
  intro c lineEnd rest hlineEnd _ hrest
  obtain ⟨word, opening, closing, rfl, hword, hkind, hname, hopening, hclosing⟩ := h
  rw [List.cons_append, List.cons_append, List.cons_append, List.append_assoc, List.cons_append]
    at hrest
  obtain ⟨d, line, docs, hitem, -⟩ := Cursor.exists_parseItem_type file hword
    (Token.is_eq_false_of_isName hkind hname (by decide)) hrest
  have hparams : (d.jump name.pos.line (opening :: (t :: u :: more ++ closing :: (tail ++
      lineEnd :: rest)))).beginsTypeParams := by
    rw [List.cons_append, List.cons_append, Cursor.beginsTypeParams_jump hopening, ht, hu]
    rfl
  obtain ⟨e, hread, he⟩ := Cursor.exists_parseDeclaration_params line file docs hkind hopening
    hclosing hinner htail hlineEnd hparams
  obtain ⟨e', hread', he'⟩ := hitem _ _ hread
  exact ⟨[], e', hread', rfl, (congrArg Cursor.rest he').trans he⟩

/-- A declaration that is not taken to have type parameters is not passed. -/
theorem IsBracketed.exists_of_parseItem {t u : Token} {more : List Token}
    (h : IsBracketed tokens name (t :: u :: more) tail) (hu : Cursor.saysParams u = false)
    (hrest : c.rest = tokens ++ rest)
    {item? : Option ((Option String × List Declaration) × c.Later)}
    (hitem : c.parseItem file = .ok item?) :
    ∃ d e, item? = some ((none, [d]), e) ∧ d.name = name.text ∧ d.pos = name.pos := by
  obtain ⟨word, opening, closing, rfl, hword, hkind, hname, hopening, hclosing⟩ := h
  rw [List.cons_append, List.cons_append, List.cons_append, List.cons_append, List.cons_append]
    at hrest
  obtain ⟨d, line, docs, hread, hfault⟩ := Cursor.exists_parseItem_type file hword
    (Token.is_eq_false_of_isName hkind hname (by decide)) hrest
  have hparams : (d.jump name.pos.line
      (opening :: t :: u :: (more ++ closing :: tail ++ rest))).beginsTypeParams = false := by
    rw [Cursor.beginsTypeParams_jump hopening, hu, Bool.and_false]
  have hdeclaration := Cursor.value_parseDeclaration_type line file docs hkind hopening hparams
  cases htype : (d.jump name.pos.line
      (opening :: t :: u :: (more ++ closing :: tail ++ rest))).parseType with
  | error fault =>
      rw [htype] at hdeclaration
      rw [hfault fault hdeclaration] at hitem
      cases hitem
  | ok r =>
      obtain ⟨type, e', he'⟩ := r
      rw [htype, Cursor.ok_bind] at hdeclaration
      obtain ⟨e'', hitem', -⟩ := hread _ _ hdeclaration
      rw [hitem'] at hitem
      cases hitem
      exact ⟨_, _, rfl, rfl, rfl⟩

end Items

/-! ## In a file -/

/-- A text is read to the package and the declarations of a file, up to layout, and to one
declaration more. -/
def ReadsWith (file text : String) (f : File) (d : Declaration) : Prop :=
  ∃ f' first last, (File.ofText file text).value = .ok f' ∧ f'.package = f.package ∧
    f.declarations = first ++ last ∧
    f'.declarations.map Declaration.eraseLayout = (first ++ d :: last).map Declaration.eraseLayout

/-- A text is not read in both ways. -/
theorem ReadsWith.not_readsLike {file text : String} {f : File} {d : Declaration}
    (h : ReadsWith file text f d) : ¬ReadsLike file text f := by
  rintro ⟨f'', hread', -, herase'⟩
  obtain ⟨f', first, last, hread, -, hsplit, herase⟩ := h
  rw [hread'] at hread
  cases hread
  have hlength := congrArg List.length (herase'.symm.trans herase)
  simp only [hsplit, List.length_map, List.length_append, List.length_cons] at hlength
  omega

/-- The tokens of type parameters.  The type of the first one begins with the given token. -/
def IsParams (tokens : List Token) (first : Token) : Prop :=
  ∃ param more, tokens = param :: first :: more ∧ param.kind = .ident ∧ isName param.text ∧
    Balanced brackets (fun _ => True) tokens

/-- **Arrays and type parameters are told apart.**  In a file that is read, the declaration of an
array type on lines of its own makes one declaration more, with its length as it is written, exactly
if the length does not begin with a name times something.  The declaration of a struct with type
parameters makes none and changes nothing, if the type of the first parameter begins with a word,
with `~` or with `*`; if it begins with another sign, the file is refused or gets a declaration of
this name. -/
theorem readsWith_array_iff_and_readsLike_params {file : String} {above lines below : List Char}
    {earlier inserted : List Token} (h : Seam file above below earlier)
    (hinserted : Inserted above lines below earlier inserted) {name : Token}
    {inner tail : List Token} (hdeclaration : IsBracketed inserted name inner tail) {f : File}
    (hfile : (File.ofText file (String.ofList (above ++ '\n' :: below))).value = .ok f) :
    (∀ element : TypeExpr, IsLength inner → element.Writes tail →
      (ReadsWith file (withLines above lines below) f
        ⟨name.text, "", file, name.pos, .defined (.array (textOf inner) element)⟩ ↔
        ¬BeginsProduct inner)) ∧
    (∀ first, IsParams inner first → IsStruct tail →
      (Cursor.saysParams first → ReadsLike file (withLines above lines below) f) ∧
      (Cursor.saysParams first = false →
        ∀ f', (File.ofText file (withLines above lines below)).value = .ok f' →
          ∃ d ∈ f'.declarations, d.name = name.text ∧ d.pos = name.pos)) := by
  refine ⟨fun element hlength htail => ⟨?_, fun hproduct => ?_⟩, ?_⟩
  · rintro hwith ⟨t, sign, more, rfl, hkind, hstar⟩
    refine hwith.not_readsLike (h.readsLike hinserted hfile ?_)
    have hsays : Cursor.saysParams sign :=
      Bool.or_eq_true_iff.mpr (.inr (List.any_eq_true.mpr ⟨"*", by decide, hstar⟩))
    exact hdeclaration.readsAs_nil hkind hsays
      ((Cursor.balanced_of_isLength hlength).mono fun _ _ => trivial)
      (Cursor.balanced_of_writes htail) file
  · obtain ⟨f', first, last, hnew, hpackage, hsplit, herase⟩ := h.value_ofText_insert hinserted hfile
      (hdeclaration.readsAs_array hlength htail hproduct file)
    rw [List.append_assoc, List.singleton_append] at herase
    exact ⟨f', first, last, hnew, hpackage, hsplit, herase⟩
  · rintro first ⟨param, more, rfl, hkind, -, hbalanced⟩ htail
    refine ⟨fun hsays => ?_, fun hsays f' hnew => ?_⟩
    · exact h.readsLike hinserted hfile
        (hdeclaration.readsAs_nil hkind hsays hbalanced htail.balanced file)
    · obtain ⟨_, d, _, _, _, _, declarations', -, -, -, hd, -, hread, -⟩ :=
        h.value_ofText hinserted
      rw [hread, Cursor.value_parseRest] at hnew
      obtain ⟨⟨package?, declarations⟩, hrest, hparts⟩ := ok_of_bind_iff.mp hnew
      obtain ⟨item?, hitem, hrest⟩ := ok_of_bind_iff.mp hrest
      obtain ⟨declaration, e, rfl, hname, hpos⟩ :=
        hdeclaration.exists_of_parseItem hsays hd hitem
      dsimp only at hrest
      obtain ⟨⟨package?', more⟩, -, hrest⟩ := ok_of_bind_iff.mp hrest
      cases hrest
      refine ⟨declaration, ?_, hname, hpos⟩
      cases package?' with
      | none => cases hparts
      | some package =>
          cases hparts
          exact List.mem_append_right _ (List.mem_cons_self ..)

/-- The lines of an array type. -/
def gridLines : List Piece :=
  [.word "type", .blank, .word "Grid", .blank, .sign "[", .number "8", .sign "+", .word "N",
    .sign "*", .number "2", .sign "]", .word "byte"]

/-- The lines of a struct with type parameters. -/
def pairLines : List Piece :=
  [.word "type", .blank, .word "Pair", .sign "[", .word "K", .blank, .word "comparable", .sign ",",
    .blank, .word "V", .blank, .word "any", .sign "]", .blank, .word "struct", .sign "\x7b",
    .sign "\x7d"]

/-- An array whose length has a product in it, and a struct with two type parameters. -/
theorem readsWith_grid_and_readsLike_pair :
    ReadsWith "shop.go" ("package shop\n\ntype Weight int\n" ++ "type Grid [8+N*2]byte\n" ++
        "\ntype Size int\n") twoTypes
      ⟨"Grid", "", "shop.go", ⟨4, 6⟩, .defined (.array "8+N*2" (.ofName "byte"))⟩ ∧
    ReadsLike "shop.go" ("package shop\n\ntype Weight int\n" ++
      "type Pair[K comparable, V any] struct\x7b\x7d\n" ++ "\ntype Size int\n") twoTypes := by
  let t (i : Nat) : Token := (tokensOf ⟨4, 1⟩ gridLines).getD i (.atEnd .start)
  let u (i : Nat) : Token := (tokensOf ⟨4, 1⟩ pairLines).getD i (.atEnd .start)
  have hgrid : IsBracketed (tokensOf ⟨4, 1⟩ gridLines) (t 1) [t 3, t 4, t 5, t 6, t 7] [t 9] :=
    ⟨t 0, t 2, t 8, rfl, ⟨rfl, rfl⟩, rfl, by decide +kernel, ⟨rfl, rfl⟩, ⟨rfl, rfl⟩⟩
  have hlength : IsLength [t 3, t 4, t 5, t 6, t 7] := by
    have hn : (t 5).IsOperand := .inl ⟨rfl, by decide +kernel⟩
    exact .binary (.inr ⟨rfl, by decide⟩) rfl (by decide) <|
      .binary hn rfl (by decide) (.operand (.inr ⟨rfl, by decide⟩))
  have hsum : ¬BeginsProduct [t 3, t 4, t 5, t 6, t 7] := by
    rintro ⟨_, _, _, heq, hkind, -⟩
    cases heq
    cases hkind
  have hpair : IsBracketed (tokensOf ⟨4, 1⟩ pairLines) (u 1) [u 3, u 4, u 5, u 6, u 7]
      [u 9, u 10, u 11] :=
    ⟨u 0, u 2, u 8, rfl, ⟨rfl, rfl⟩, rfl, by decide +kernel, ⟨rfl, rfl⟩, ⟨rfl, rfl⟩⟩
  have hparams : IsParams [u 3, u 4, u 5, u 6, u 7] (u 4) := by
    refine ⟨u 3, _, rfl, rfl, by decide +kernel, ?_⟩
    exact .token trivial (by decide) (by decide) <| .token trivial (by decide) (by decide) <|
      .token trivial (by decide) (by decide) <| .token trivial (by decide) (by decide) <|
      .token trivial (by decide) (by decide) .nil
  have hstruct : IsStruct [u 9, u 10, u 11] :=
    ⟨u 9, u 10, [], u 11, rfl, ⟨rfl, rfl⟩, ⟨rfl, rfl⟩, .nil, ⟨rfl, rfl⟩⟩
  have htext : withLines (spell shopAbove) (spell gridLines) (spell shopBelow) =
      "package shop\n\ntype Weight int\n" ++ "type Grid [8+N*2]byte\n" ++
        "\ntype Size int\n" :=
    withLines_eq_append (by decide +kernel)
  have htext' : withLines (spell shopAbove) (spell pairLines) (spell shopBelow) =
      "package shop\n\ntype Weight int\n" ++
        "type Pair[K comparable, V any] struct\x7b\x7d\n" ++ "\ntype Size int\n" :=
    withLines_eq_append (by decide +kernel)
  rw [← htext, ← htext']
  constructor
  · exact ((readsWith_array_iff_and_readsLike_params seam_shop
      (inserted_spell (by decide +kernel)) hgrid ofText_twoTypes).1 (.ofName "byte") hlength
      (.name (by decide +kernel))).mpr hsum
  · exact ((readsWith_array_iff_and_readsLike_params seam_shop
      (inserted_spell (by decide +kernel)) hpair ofText_twoTypes).2 _ hparams hstruct).1 rfl

/-- A length that begins with a product, and a type parameter whose type is a slice. -/
theorem not_readsWith_product_and_not_readsLike_slice :
    (File.ofText "shop.go" "package shop\n\ntype Weight int\n\ntype Size int\n").value =
      .ok twoTypes ∧
    ¬ReadsWith "shop.go" ("package shop\n\ntype Weight int\n" ++ "type Grid [N*2]byte\n" ++
        "\ntype Size int\n") twoTypes
      ⟨"Grid", "", "shop.go", ⟨4, 6⟩, .defined (.array "N*2" (.ofName "byte"))⟩ ∧
    ¬ReadsLike "shop.go" ("package shop\n\ntype Weight int\n" ++
      "type Set[S []E, E any] struct\x7b\x7d\n" ++ "\ntype Size int\n") twoTypes := by
  refine ⟨?_, fun h => h.not_readsLike ⟨⟨"shop",
    [⟨"Weight", "", "shop.go", ⟨3, 6⟩, .defined (.ofName "int")⟩,
      ⟨"Size", "", "shop.go", ⟨6, 6⟩, .defined (.ofName "int")⟩]⟩, ?_, rfl, rfl⟩, ?_⟩
  · rewrite [File.ofText, Token.scan, String.toList_ofList]
    decide +kernel
  · rewrite [File.ofText, Token.scan, String.toList_append, String.toList_append,
      String.toList_ofList, String.toList_ofList, String.toList_ofList]
    decide +kernel
  · rintro ⟨f', hread, -⟩
    have hfault : (File.ofText "shop.go" ("package shop\n\ntype Weight int\n" ++
        "type Set[S []E, E any] struct\x7b\x7d\n" ++ "\ntype Size int\n")).value =
        .error ⟨.unexpectedToken ",", ⟨4, 15⟩⟩ := by
      rewrite [File.ofText, Token.scan, String.toList_append, String.toList_append,
        String.toList_ofList, String.toList_ofList, String.toList_ofList]
      decide +kernel
    rw [hfault] at hread
    cases hread

end GoSchema.Go
