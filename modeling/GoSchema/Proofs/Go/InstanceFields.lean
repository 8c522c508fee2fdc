import GoSchema.Proofs.Go.FieldLines
import GoSchema.Proofs.Go.PassedItems
import GoSchema.Proofs.Go.RecordText

/-!
# Fields with type arguments

A generic type is used with type arguments, `N[args]` or `p.N[args]`.  Such a type is kept as its text
(`IsInstance.reads_parseType`), and a field has it behind its name or as an embedded field.

Whether a field is embedded is decided by its first two tokens (`beginsEmbedded`), before its type is
read.  A name in front of a type is always seen as one, and so is a qualified type without a name.
Without a name and without a package the two tokens are `N` and `[`, which is how a field named `N`
of an array type begins: what is read then, if anything is, has a name (`isSome_of_parseFieldLine`).
So a line with such a field is read as it is meant exactly if it has a name or a qualified type
(`readsWithField_instance_iff`).
-/

namespace GoSchema.Go

/-! ## Types with type arguments -/

/-- An identifier that is no keyword. -/
def Token.IsName (t : Token) : Prop := t.kind = .ident ∧ isName t.text

/-- Type arguments with their brackets. -/
def IsArguments (tokens : List Token) : Prop :=
  ∃ opening args closing, tokens = opening :: (args ++ [closing]) ∧ opening.IsSign "[" ∧
    args ≠ [] ∧ Balanced brackets (fun _ => True) args ∧ closing.IsSign "]"

/-- The tokens of a generic type with type arguments, which may be qualified. -/
inductive IsInstance : (qualified : Bool) → List Token → Prop
  | plain {name : Token} {arguments : List Token} (hname : name.IsName)
      (h : IsArguments arguments) : IsInstance false (name :: arguments)
  | qualified {package point name : Token} {arguments : List Token} (hpackage : package.IsName)
      (hpoint : point.IsSign ".") (hname : name.IsName) (h : IsArguments arguments) :
      IsInstance true (package :: point :: name :: arguments)

theorem Token.IsName.is_eq_false {t : Token} (h : t.IsName) {text : String}
    (hspecial : isSpecial text) : t.is text = false :=
  Token.is_eq_false_of_isName h.1 h.2 hspecial

theorem Token.IsName.beginsType {t : Token} (h : t.IsName) : Cursor.BeginsType t :=
  .inl ⟨h.1, .inl h.2⟩

theorem IsInstance.exists_name {qualified : Bool} {tokens : List Token}
    (h : IsInstance qualified tokens) : ∃ name more, tokens = name :: more ∧ name.IsName := by
  cases h with
  | plain hname _ => exact ⟨_, _, rfl, hname⟩
  | qualified hpackage _ _ _ => exact ⟨_, _, rfl, hpackage⟩

/-- What is in brackets does not begin with a closing one. -/
theorem Balanced.exists_head {Outside : Token → Prop} {tokens : List Token}
    (h : Balanced brackets Outside tokens) (hne : tokens ≠ []) :
    ∃ t more, tokens = t :: more ∧ t.is "]" = false := by
  cases h with
  | nil => exact absurd rfl hne
  | token _ _ hno _ => exact ⟨_, _, rfl, (hno ("[", "]") (by decide)).2⟩
  | @enclosed _ p opening closing inner rest hp hopening _ _ _ =>
      have hne : ∀ q ∈ brackets, q.1 ≠ "]" := by decide
      exact ⟨opening, _, rfl, hopening.is_eq_false (hne p hp)⟩

namespace Cursor

variable {c : Cursor} {line : Nat} {rest tokens arguments : List Token} {qualified : Bool}

theorem textUpTo_of_rest {d : Cursor} (h : c.rest = tokens ++ d.rest) :
    c.textUpTo d = compact false tokens := by
  rw [textUpTo, upTo_of_rest h]

/-- A name with type arguments is kept as its text. -/
theorem reads_parseType_of_arguments {word : String} {pos : Position} {middle : List Token}
    {type : TypeExpr} (hword : isName word)
    (hname : c.Reads (c.jump line (⟨.ident, word, pos⟩ :: middle)).qualifiedName type
      (arguments ++ rest))
    (harguments : IsArguments arguments)
    (htokens : ⟨.ident, word, pos⟩ :: middle = tokens ++ rest) :
    c.Reads (c.jump line (⟨.ident, word, pos⟩ :: middle)).parseType
      (.verbatim (compact false tokens)) rest := by
  obtain ⟨opening, args, closing, rfl, hopening, hne, hbalanced, hclosing⟩ := harguments
  obtain ⟨t, more, rfl, hbracket⟩ := hbalanced.exists_head hne
  rw [List.cons_append, List.append_assoc, List.singleton_append, List.cons_append] at hname
  rw [parseType_of_word hword]
  refine .bind hname fun line h => ?_
  obtain ⟨line', hle, hskip⟩ : c.Stops ((c.jump opening.pos.line
      (t :: (more ++ closing :: rest))).skipBalanced "[" "]" 0) rest :=
    stops_skipBalanced_enclosed (p := ("[", "]")) (List.Subset.refl _) (by decide) hbalanced
      hclosing c rest opening.pos.line
  dsimp only
  rw [current_jump, ahead_one_jump, hbracket, if_pos ⟨hopening.is, rfl⟩,
    advance_jump hopening.kind_ne.1]
  dsimp only
  rw [hskip, ok_bind]
  dsimp only
  rw [textUpTo_of_rest (d := c.jump line' rest) htokens]
  exact ⟨line', _, rfl⟩

/-- A type with type arguments is kept as its text. -/
theorem reads_parseType_of_instance (h : IsInstance qualified tokens) :
    c.Reads (c.jump line (tokens ++ rest)).parseType (.verbatim (compact false tokens)) rest := by
  cases h with
  | @plain name arguments hname harguments =>
    obtain ⟨kind, word, pos⟩ := name
    obtain ⟨hkind, hword⟩ := hname
    cases hkind
    obtain ⟨opening, args, closing, rfl, hopening, -, -, -⟩ := id harguments
    exact reads_parseType_of_arguments hword
      (reads_qualifiedName word pos (hopening.is_eq_false (by decide))) harguments rfl
  | @qualified package point name arguments hpackage hpoint hname harguments =>
    obtain ⟨kind, word, pos⟩ := package
    obtain ⟨kind', mark, markPos⟩ := point
    obtain ⟨kind'', local_, namePos⟩ := name
    obtain ⟨hkind, hword⟩ := hpackage
    obtain ⟨hkind', htext⟩ := hpoint
    obtain ⟨hkind'', -⟩ := hname
    cases hkind
    cases hkind'
    cases hkind''
    cases htext
    exact reads_parseType_of_arguments hword
      (reads_qualifiedName_point word local_ pos markPos namePos) harguments rfl

/-! ## Lines with such a field -/

section Line

variable {name lineEnd t : Token} {more : List Token}

theorem parseTag_lineEnd (hkind : lineEnd.kind = .newline) :
    (c.jump line (lineEnd :: rest)).parseTag =
      (Tag.empty, ⟨c.jump line (lineEnd :: rest), left_le _⟩) := by
  rw [parseTag, next?_jump (by rw [hkind]; decide)]
  exact if_neg (by rw [hkind]; decide)

/-- A name in front of a type is the name of a field. -/
theorem reads_parseFieldLine_named (hname : name.IsName) (h : IsInstance qualified tokens)
    (hkind : lineEnd.kind = .newline) (docs : String) :
    c.Reads (parseFieldLine (c.jump line (name :: (tokens ++ lineEnd :: rest))) docs)
      [⟨some name.text, .verbatim (compact false tokens), Tag.empty, docs, name.pos⟩]
      (lineEnd :: rest) := by
  obtain ⟨t, more, rfl, ht⟩ := h.exists_name
  have hembedded : (c.jump line (name :: (t :: more ++ lineEnd :: rest))).beginsEmbedded = false := by
    rw [List.cons_append, beginsEmbedded, current_jump, ahead_one_jump,
      hname.is_eq_false (by decide), ht.is_eq_false (by decide), ht.beginsType.endsField_eq_false]
    simp
  have hcomma : ∃ u rest', t :: more ++ lineEnd :: rest = u :: rest' ∧ u.is "," = false :=
    ⟨t, _, rfl, ht.is_eq_false (by decide)⟩
  obtain ⟨kind, word, pos⟩ := name
  obtain ⟨hident, -⟩ := hname
  cases hident
  rw [parseFieldLine, hembedded, if_neg Bool.false_ne_true]
  refine .bind (reads_parseNames word pos hcomma) fun line hd => ?_
  refine .bind (reads_parseType_of_instance h) fun line hd => ?_
  dsimp only
  rw [parseTag_lineEnd hkind]
  exact ⟨line, _, rfl⟩

/-- A qualified type stands alone on its line as an embedded field. -/
theorem reads_parseFieldLine_embedded (h : IsInstance true tokens)
    (hkind : lineEnd.kind = .newline) (docs : String) (ht : tokens = t :: more) :
    c.Reads (parseFieldLine (c.jump line (tokens ++ lineEnd :: rest)) docs)
      [⟨none, .verbatim (compact false tokens), Tag.empty, docs, t.pos⟩] (lineEnd :: rest) := by
  have hembedded : (c.jump line (tokens ++ lineEnd :: rest)).beginsEmbedded := by
    cases h with
    | qualified hpackage hpoint _ _ =>
        rw [List.cons_append, List.cons_append, beginsEmbedded, current_jump, ahead_one_jump,
          hpackage.1, hpoint.is]
        simp
  have hpos : (c.jump line (tokens ++ lineEnd :: rest)).current.pos = t.pos := by
    rw [ht]
    rfl
  rw [parseFieldLine, hembedded, if_pos rfl, hpos]
  refine .bind (reads_parseType_of_instance h) fun line hd => ?_
  dsimp only
  rw [parseTag_lineEnd hkind]
  exact ⟨line, _, rfl⟩

/-- Without a name and a package the first two tokens look like those of a field with a name. -/
theorem beginsEmbedded_of_instance (h : IsInstance false tokens) (hc : c.rest = tokens ++ rest) :
    c.beginsEmbedded = false := by
  cases h with
  | @plain name arguments hname harguments =>
      obtain ⟨opening, args, closing, rfl, hopening, -, -, -⟩ := harguments
      have hcurrent : c.current = name := current_of_rest hc
      have hahead : c.ahead 1 = opening := by
        rw [ahead, hc]
        rfl
      have hends : endsField opening = false := by
        rw [endsField, hopening.1, hopening.is_eq_false (by decide),
          hopening.is_eq_false (by decide)]
        rfl
      rw [beginsEmbedded, hcurrent, hahead, hname.is_eq_false (by decide),
        hopening.is_eq_false (by decide), hends]
      simp

theorem ne_nil_of_parseNames {names : List Token} {d : c.Later}
    (h : c.parseNames = .ok (names, d)) : names ≠ [] := by
  rw [parseNames] at h
  obtain ⟨⟨first, e, he⟩, -, h⟩ := ok_of_bind_iff.mp h
  dsimp only at h
  split at h
  · cases h
    exact List.cons_ne_nil _ _
  · obtain ⟨r, -, h⟩ := ok_of_bind_iff.mp h
    cases h
    exact List.cons_ne_nil _ _

/-- What is not embedded has a name. -/
theorem exists_name_of_parseFieldLine {docs : String} {fields : List Field} {d : c.Later}
    (hembedded : c.beginsEmbedded = false) (h : c.parseFieldLine docs = .ok (fields, d)) :
    ∃ f more, fields = f :: more ∧ f.name?.isSome := by
  rw [parseFieldLine, hembedded, if_neg Bool.false_ne_true] at h
  obtain ⟨⟨names, e, he⟩, hnames, h⟩ := ok_of_bind_iff.mp h
  obtain ⟨⟨type, f, hf⟩, -, h⟩ := ok_of_bind_iff.mp h
  cases h
  obtain ⟨name, more, rfl⟩ := List.exists_cons_of_ne_nil (ne_nil_of_parseNames hnames)
  exact ⟨_, _, rfl, rfl⟩

end Line

end Cursor

/-- Whether it has a name or is embedded with a qualified type, a line is read as a field with this
type. -/
theorem IsInstance.readsAsField {qualified : Bool} {type : List Token} (h : IsInstance qualified type)
    {name? : Option Token} (hname : ∀ name ∈ name?, name.IsName)
    (hseen : name?.isSome ∨ qualified) {t : Token} {more : List Token}
    (ht : name?.toList ++ type = t :: more) :
    ReadsAsField (name?.toList ++ type) fun docs =>
      ⟨name?.map Token.text, .verbatim (Cursor.compact false type), Tag.empty, docs, t.pos⟩ := by
  intro c docs lineEnd rest hkind _ hrest
  obtain ⟨tokens, finish, line, passed⟩ := c
  cases hrest
  cases name? with
  | some name =>
      obtain ⟨rfl, -⟩ := List.cons_eq_cons.mp ht
      exact Cursor.reads_parseFieldLine_named (c := ⟨_, finish, line, passed⟩)
        (hname name rfl) h hkind docs
  | none =>
      obtain rfl : qualified = true := by simpa using hseen
      exact Cursor.reads_parseFieldLine_embedded (c := ⟨_, finish, line, passed⟩)
        h hkind docs ht

/-! ## In a struct -/

section Struct

variable {above lines below : List Char} {earlier inserted front gap : List Token}
  {c d e : Cursor} {first last : List Field}

/-- An unqualified type without a name is read as a field with a name, if the struct is read. -/
theorem FieldSeam.isSome_of_readsStruct (h : FieldSeam above below earlier front c first gap)
    (hinserted : Inserted above lines below earlier inserted)
    (hd : d.StandsBehind (withLines above lines below) front) (htype : IsInstance false inserted)
    {new : Field} (hread : d.ReadsStruct (first ++ new :: last) e) : new.name?.isSome := by
  obtain ⟨_, b, later, finish, -, -, hvisits, -, -, hb, -⟩ := h.exists_ends hinserted hd
  obtain ⟨all, hall, heq⟩ := hvisits.readsStruct_iff.mp hread
  obtain rfl := List.append_cancel_left heq
  obtain ⟨b', hb', -, -, hskip⟩ := Cursor.exists_past_trivia hb h.isTrivia rfl
  -- the reader stands in front of the new line
  obtain ⟨t, more, ht, hname⟩ := htype.exists_name
  rw [Cursor.skipTrivia_eq_of_ident (hb'.trans (congrArg (· ++ _) ht)) hname.1] at hskip
  have hrest : b.skipTrivia.forget.rest = inserted ++ _ := (congrArg Cursor.rest hskip).trans hb'
  rcases Cursor.readsFields_iff.mp hall with ⟨hnil, -⟩ | ⟨line, r, last', hline, -, heq⟩
  · cases hnil
  · obtain ⟨-, -, r', hr', hfields, -⟩ := hline
    obtain ⟨f, others, rfl, hsome⟩ := Cursor.exists_name_of_parseFieldLine
      (Cursor.beginsEmbedded_of_instance htype hrest) hfields
    obtain ⟨rfl, -⟩ := List.cons_eq_cons.mp heq
    exact hsome

/-- **Fields with type arguments are read in every place of a struct, but for one form.**  In a struct
that is read, a line with such a field is read as this field, with the text of its type, and the
other fields stay as they are, exactly if the field has a name or its type is qualified. -/
theorem readsWithField_instance_iff (h : FieldSeam above below earlier front c first gap)
    (hinserted : Inserted above lines below earlier inserted)
    (hd : d.StandsBehind (withLines above lines below) front)
    (hread : c.ReadsStruct (first ++ last) e) {name? : Option Token} {type : List Token}
    {qualified : Bool} (hname : ∀ name ∈ name?, name.IsName) (htype : IsInstance qualified type)
    (hline : inserted = name?.toList ++ type) :
    (∃ docs, ∃ t ∈ inserted.head?, ReadsWithField d first
        ⟨name?.map Token.text, .verbatim (Cursor.compact false type), Tag.empty, docs, t.pos⟩
        last e.rest (lines.count '\n' + 1) (EndsUncommented gap)) ↔
      name?.isSome ∨ qualified := by
  constructor
  · rintro ⟨docs, t, -, last', f, hnew, -⟩
    cases name? with
    | some name => exact .inl rfl
    | none =>
        cases qualified with
        | true => exact .inr rfl
        | false =>
            subst hline
            have hsome := h.isSome_of_readsStruct hinserted hd htype hnew
            cases hsome
  · intro hseen
    obtain ⟨t, more, ht, hfirst⟩ : ∃ t more, inserted = t :: more ∧ t.IsName := by
      rw [hline]
      cases name? with
      | some name => exact ⟨name, type, rfl, hname name rfl⟩
      | none => exact htype.exists_name
    have hreads := htype.readsAsField hname hseen (hline.symm.trans ht)
    rw [← hline] at hreads
    obtain ⟨docs, hnew⟩ := h.readsWithField hinserted hd hread ht hfirst.1 hfirst.2
      (fun _ => rfl) hreads
    refine ⟨docs, t, ?_, hnew⟩
    rw [ht]
    rfl

end Struct

/-- The lines above a place in a struct. -/
def ownerLines : List Piece :=
  [.word "package", .blank, .word "shop", .lineEnd, .lineEnd, .word "type", .blank, .word "Cart",
    .blank, .word "struct", .blank, .sign "\x7b", .lineEnd, .indent, .word "Owner", .blank,
    .word "string"]

/-- The lines below it. -/
def sizeLines : List Piece :=
  [.indent, .word "Size", .blank, .word "int", .lineEnd, .sign "\x7d", .lineEnd]

/-- The line of an embedded field. -/
def listLine : List Piece :=
  [.indent, .word "page", .sign ".", .word "List", .sign "[", .word "Item", .sign "]"]

/-- A field above, a field below, and in between an embedded one of a qualified type. -/
theorem readsStruct_list :
    ∃ d f : Cursor, d.StandsBehind ("package shop\n\ntype Cart struct \x7b\n\tOwner string\n" ++
        "\tpage.List[Item]\n" ++ "\tSize int\n\x7d\n") ((tokensOf .start ownerLines).take 7) ∧
      d.ReadsStruct [⟨some "Owner", .ofName "string", Tag.empty, "", ⟨4, 2⟩⟩,
        ⟨none, .verbatim "page.List[Item]", Tag.empty, "", ⟨5, 2⟩⟩,
        ⟨some "Size", .ofName "int", Tag.empty, "", ⟨6, 2⟩⟩] f := by
  let front := (tokensOf .start ownerLines).take 7
  let later := tokensOf ⟨5, 1⟩ sizeLines ++ [.atEnd ⟨7, 1⟩]
  let tokens := tokensOf .start ownerLines ++ lineEndBehind (spell ownerLines) :: later
  let line := tokensOf ⟨5, 1⟩ listLine
  let tokens' := tokensOf .start ownerLines ++ lineEndBehind (spell ownerLines) ::
    (line ++ lineEndBehind (spell ownerLines ++ '\n' :: spell listLine) ::
      later.map (Token.down 1))
  -- in front of the brace, behind it, behind the first field and behind the struct
  let c : Cursor := ⟨tokens.drop 7, ⟨7, 1⟩, 3, []⟩
  let b : Cursor := ⟨tokens.drop 8, ⟨7, 1⟩, 3, []⟩
  let a : Cursor := ⟨tokens.drop 11, ⟨7, 1⟩, 4, []⟩
  let e : Cursor := ⟨tokens.drop 16, ⟨7, 1⟩, 6, []⟩
  let d : Cursor := ⟨tokens'.drop 7, ⟨8, 1⟩, 3, []⟩
  let owner : Field := ⟨some "Owner", .ofName "string", Tag.empty, "", ⟨4, 2⟩⟩
  let size : Field := ⟨some "Size", .ofName "int", Tag.empty, "", ⟨5, 2⟩⟩
  have hopening : c.expect Token.openBrace = .ok ⟨b, by decide⟩ := by decide +kernel
  have howner : b.forget.DeclaresFields [owner] a :=
    ⟨by decide +kernel, by decide +kernel, a, by decide +kernel, by decide +kernel,
      by decide +kernel, rfl⟩
  have hseam : FieldSeam (spell ownerLines) (spell sizeLines) (tokensOf .start ownerLines) front c
      [owner] [] := by
    have hfits : Fits ownerLines ('\n' :: spell sizeLines) := by decide +kernel
    have hscan : Token.scan (String.ofList (spell ownerLines ++ '\n' :: spell sizeLines)) =
        .ok (front ++ c.rest) := by
      rewrite [Token.scan, String.toList_ofList]
      decide +kernel
    exact ⟨Tiles.start.spell hfits, hscan,
      ⟨later, a, rfl, ⟨b, by decide, hopening, .line howner (.here a)⟩, rfl⟩,
      List.forall_mem_nil _⟩
  have htext : withLines (spell ownerLines) (spell listLine) (spell sizeLines) =
      "package shop\n\ntype Cart struct \x7b\n\tOwner string\n" ++
        "\tpage.List[Item]\n" ++ "\tSize int\n\x7d\n" := by
    exact withLines_eq_append (by decide +kernel)
  have hd : d.StandsBehind (withLines (spell ownerLines) (spell listLine) (spell sizeLines))
      front := by
    rewrite [Cursor.StandsBehind, withLines, Token.scan, String.toList_ofList]
    decide +kernel
  have hread : c.ReadsStruct ([owner] ++ [size]) e := ⟨by decide, by decide +kernel⟩
  have hname : ∀ name ∈ (none : Option Token), name.IsName :=
    fun name h => absurd h (Option.not_mem_none name)
  have hlist : IsInstance true line := by
    let t (i : Nat) : Token := line.getD i (.atEnd .start)
    have harguments : IsArguments [t 3, t 4, t 5] :=
      ⟨t 3, [t 4], t 5, rfl, ⟨rfl, rfl⟩, List.cons_ne_nil _ _,
        .token trivial (by decide) (by decide) .nil, ⟨rfl, rfl⟩⟩
    exact .qualified ⟨rfl, by decide +kernel⟩ ⟨rfl, rfl⟩ ⟨rfl, by decide +kernel⟩ harguments
  obtain ⟨docs, t, ht, last, f, hnew, -, -, hapart⟩ := (readsWithField_instance_iff hseam
    (inserted_spell (by decide +kernel)) hd hread hname hlist rfl).mpr (.inr rfl)
  obtain ⟨rfl, rfl⟩ := hapart fun t h => absurd h (Option.not_mem_none t)
  obtain rfl := Option.some.inj ht
  rw [htext] at hd
  exact ⟨d, f, hd, hnew⟩

/-- An unqualified type without a name: the struct is refused. -/
theorem refused_of_embedded_list :
    (File.ofText "shop.go" "package shop\n\ntype Cart struct \x7b\n\x7d\n").value =
      .ok ⟨"shop", [⟨"Cart", "", "shop.go", ⟨3, 6⟩, .record []⟩]⟩ ∧
    IsInstance false (tokensOf ⟨4, 2⟩ [.word "List", .sign "[", .word "int", .sign "]"]) ∧
    (File.ofText "shop.go"
      ("package shop\n\ntype Cart struct \x7b\n" ++ "\tList[int]\n" ++ "\x7d\n")).value =
      .error ⟨.expectedType "\n", ⟨4, 11⟩⟩ := by
  refine ⟨?_, ?_, ?_⟩
  · rewrite [File.ofText, Token.scan, String.toList_ofList]
    decide +kernel
  · exact .plain ⟨rfl, by decide +kernel⟩ ⟨_, [⟨.ident, "int", ⟨4, 7⟩⟩], _, rfl, ⟨rfl, rfl⟩,
      List.cons_ne_nil _ _, .token trivial (by decide) (by decide) .nil, ⟨rfl, rfl⟩⟩
  · rewrite [File.ofText, Token.scan, String.toList_append, String.toList_append,
      String.toList_ofList, String.toList_ofList, String.toList_ofList]
    decide +kernel

end GoSchema.Go
