import GoSchema.Proofs.Go.Brackets
import GoSchema.Proofs.Go.Insertion

/-!
# Functions, constants and variables between types

A function, a constant or a variable that is put into a file changes nothing there if the reader
finds its end.  The end of a function is always found.  That of a constant or a variable is taken to
be the first line end outside brackets, so it is found exactly if the value does not go on behind a
line end.
-/

namespace GoSchema.Go

/-- A text is read to the package and the declarations of a file, up to layout. -/
def ReadsLike (file text : String) (f : File) : Prop :=
  ∃ f', (File.ofText file text).value = .ok f' ∧ f'.package = f.package ∧
    f'.declarations.map Declaration.eraseLayout = f.declarations.map Declaration.eraseLayout

/-- What is read as nothing changes nothing. -/
theorem Seam.readsLike {file : String} {above lines below : List Char}
    {earlier inserted : List Token} (h : Seam file above below earlier)
    (hinserted : Inserted above lines below earlier inserted) {f : File}
    (hfile : (File.ofText file (String.ofList (above ++ '\n' :: below))).value = .ok f)
    (hitem : ReadsAs file inserted []) : ReadsLike file (withLines above lines below) f := by
  obtain ⟨f', first, last, hnew, hpackage, hdeclarations, hdeclarations'⟩ :=
    h.value_ofText_insert hinserted hfile hitem
  refine ⟨f', hnew, hpackage, ?_⟩
  rw [hdeclarations', hdeclarations, List.append_nil]

/-! ## Functions between items -/

/-- The tokens of a function: its first word, its signature and its body.  Only the braces of a body
have to be balanced. -/
def IsFunction (tokens : List Token) : Prop :=
  ∃ word signature opening body closing,
    tokens = word :: (signature ++ opening :: (body ++ [closing])) ∧
    word.IsWord "func" ∧ Cursor.Signature word.text signature ∧ opening.IsSign Token.openBrace ∧
    Balanced Cursor.bodyBrackets (fun _ => True) body ∧ closing.IsSign Token.closeBrace

theorem Cursor.eq_jump_of_rest {c : Cursor} {tokens : List Token} (h : c.rest = tokens) :
    c = c.jump c.lastLine tokens := by
  subst h
  rfl

/-- The first word of an item is read first. -/
theorem Cursor.exists_next_of_isWord {c : Cursor} {word : Token} {text : String}
    {rest : List Token} (hword : word.IsWord text) (hrest : c.rest = word :: rest) :
    ∃ d hd, c.skipTrivia.next? = some (word, ⟨d, hd⟩) ∧ d.rest = rest := by
  have htrivia : isTrivia word = false := by
    rw [isTrivia, hword.1]
    rfl
  have hskip : c.skipTrivia = c := by
    rw [eq_jump_of_rest hrest, skipTrivia_eq_self htrivia]
  obtain ⟨hleft, hnext⟩ := next?_of_rest hrest (by rw [hword.1]; decide)
  rw [hskip]
  exact ⟨_, hleft, hnext, rfl⟩

/-- What a function comes to. -/
theorem Cursor.parseItem_func {c d : Cursor} {word : Token} {hd : d.left < c.skipTrivia.left}
    (file : String) (hnext : c.skipTrivia.next? = some (word, ⟨d, hd⟩))
    (hword : word.IsWord "func") :
    c.parseItem file = (do
      let ⟨e, he⟩ ← d.skipFunction 0 ""
      return some ((none, []), ⟨e.forget, later_of_within he (later_of_skipTrivia hd)⟩)) := by
  rw [parseItem, hnext]
  dsimp only
  rw [hword.is_eq, hword.is_eq, hword.is_eq]
  rfl

/-- A function is read as nothing. -/
theorem IsFunction.readsAs {tokens : List Token} (h : IsFunction tokens) (file : String) :
    ReadsAs file tokens [] := by
  intro c lineEnd rest hlineEnd _ hrest
  obtain ⟨word, signature, opening, body, closing, rfl, hword, hsignature, hopening, hbody,
    hclosing⟩ := h
  rw [List.cons_append] at hrest
  obtain ⟨d, hd, hnext, hdrest⟩ := c.exists_next_of_isWord hword hrest
  have hfunc : word.text ≠ "interface" ∧ word.text ≠ "struct" := by
    rw [hword.2]
    decide
  have hbrace : (Token.openBrace, Token.closeBrace) ∈ Cursor.bodyBrackets := List.mem_singleton_self _
  have hpairs : Cursor.bodyBrackets ⊆ brackets := by decide
  -- a body behind `interface` or `struct` is taken for a part of the signature
  have hend (line : Nat) (word : String) :
      d.Stops ((d.jump line (opening :: (body ++ closing :: lineEnd :: rest))).skipFunction 0 word)
        (lineEnd :: rest) := by
    by_cases hlast : word ≠ "interface" ∧ word ≠ "struct"
    · exact Cursor.stops_skipFunction_body hpairs hbrace hopening hbody hclosing hlast
    · refine Cursor.stops_skipFunction_braces hpairs hbrace hopening hbody hclosing
        (fun h => hlast h.2) fun line => ?_
      exact Cursor.stops_skipFunction_lineEnd hlineEnd
  have hskip : d.Stops (d.skipFunction 0 "") (lineEnd :: rest) := by
    apply Cursor.Stops.of_rest (x := fun c => c.skipFunction 0 "") hdrest
    rw [List.append_assoc, List.cons_append, List.append_assoc, List.singleton_append]
    exact Cursor.stops_skipFunction_signature hsignature (.inr hfunc) hend d.lastLine
  obtain ⟨line, hle, hskip⟩ := hskip
  rw [Cursor.parseItem_func file hnext hword, hskip, Cursor.ok_bind]
  exact ⟨[], _, rfl, rfl, rfl⟩

/-- **Functions are passed exactly.**  If a file is read, it is read as well with a function on lines
of its own between two items, and comes to the same package and the same declarations, up to line
numbers and documentation. -/
theorem readsLike_function {file : String} {above lines below : List Char}
    {earlier inserted : List Token} (h : Seam file above below earlier)
    (hinserted : Inserted above lines below earlier inserted) (hfunction : IsFunction inserted)
    {f : File} (hfile : (File.ofText file (String.ofList (above ++ '\n' :: below))).value = .ok f) :
    ReadsLike file (withLines above lines below) f :=
  h.readsLike hinserted hfile (hfunction.readsAs file)

/-- The lines above a place. -/
def shopAbove : List Piece :=
  [.word "package", .blank, .word "shop", .lineEnd, .lineEnd, .word "type", .blank, .word "Weight",
    .blank, .word "int"]

/-- The lines below it. -/
def shopBelow : List Piece :=
  [.lineEnd, .word "type", .blank, .word "Size", .blank, .word "int", .lineEnd]

instance decidableFits : (pieces : List Piece) → (rest : List Char) → Decidable (Fits pieces rest)
  | [], _ => .isTrue trivial
  | p :: pieces, rest =>
    have := decidableFits pieces rest
    inferInstanceAs (Decidable (Lexeme.atStart? (p.text.toList ++ (spell pieces ++ rest)) =
      some ⟨p.text.toList.length, p.kind?⟩ ∧ Fits pieces rest))

theorem seam_shop :
    Seam "shop.go" (spell shopAbove) (spell shopBelow) (tokensOf .start shopAbove) := by
  let later := tokensOf ⟨4, 1⟩ shopBelow ++ [.atEnd ⟨6, 1⟩]
  let tokens := tokensOf .start shopAbove ++ lineEndBehind (spell shopAbove) :: later
  -- behind the package clause, and behind the type
  let c : Cursor := ⟨tokens.drop 2, ⟨6, 1⟩, 1, []⟩
  let d : Cursor := ⟨tokens.drop 7, ⟨6, 1⟩, 3, []⟩
  have hpackage : (Cursor.ofTokens tokens).parseItem "shop.go" =
      .ok (some ((some "shop", []), ⟨c, by decide⟩)) := by
    decide +kernel
  have htype : c.parseItem "shop.go" = .ok (some ((none,
      [⟨"Weight", "", "shop.go", ⟨3, 6⟩, .defined (.ofName "int")⟩]), ⟨d, by decide⟩)) := by
    decide +kernel
  have hfits : Fits shopAbove ('\n' :: spell shopBelow) := by decide +kernel
  have hscan : Token.scan (String.ofList (spell shopAbove ++ '\n' :: spell shopBelow)) =
      .ok tokens := by
    rewrite [Token.scan, String.toList_ofList]
    decide +kernel
  exact ⟨Tiles.start.spell hfits, later, d, _, _, [], hscan, .item hpackage (.item htype (.here d)),
    rfl, List.forall_mem_nil _⟩

/-- The lines of a function. -/
def doubleLines : List Piece :=
  [.word "func", .blank, .word "Double", .sign "(", .word "n", .blank, .word "int", .sign ")",
    .blank, .word "interface", .sign "\x7b", .sign "\x7d", .blank, .sign "\x7b", .lineEnd,
    .indent, .word "return", .blank, .word "struct", .sign "\x7b", .word "n", .blank, .word "int",
    .sign "\x7d", .sign "\x7b", .word "n", .sign "\x7d", .lineEnd,
    .sign "\x7d"]

theorem isFunction_double : IsFunction (tokensOf ⟨4, 1⟩ doubleLines) := by
  let t (i : Nat) : Token := (tokensOf ⟨4, 1⟩ doubleLines).getD i (.atEnd .start)
  have hsignature : Cursor.Signature "func" [t 1, t 2, t 3, t 4, t 5, t 6, t 7, t 8] :=
    .token (by decide) (by decide) (by decide) <|
    .list (p := ("(", ")")) (by decide) ⟨rfl, rfl⟩
      (.token trivial (by decide) (by decide) <| .token trivial (by decide) (by decide) .nil)
      ⟨rfl, rfl⟩ <|
    .token (by decide) (by decide) (by decide) <|
    .type (.inl rfl) ⟨rfl, rfl⟩ .nil ⟨rfl, rfl⟩ .nil
  have hinner : Balanced Cursor.bodyBrackets (fun _ => True) [t 14, t 15] :=
    .token trivial (by decide) (by decide) <| .token trivial (by decide) (by decide) .nil
  have hbody : Balanced Cursor.bodyBrackets (fun _ => True) ([t 10, t 11, t 12] ++
      t 13 :: ([t 14, t 15] ++ t 16 :: t 17 :: ([t 18] ++ t 19 :: [t 20]))) :=
    .token trivial (by decide) (by decide) <| .token trivial (by decide) (by decide) <|
    .token trivial (by decide) (by decide) <|
    .enclosed (List.mem_singleton_self _) ⟨rfl, rfl⟩ hinner ⟨rfl, rfl⟩ <|
    .enclosed (List.mem_singleton_self _) ⟨rfl, rfl⟩
      (.token trivial (by decide) (by decide) .nil) ⟨rfl, rfl⟩ <|
    .token trivial (by decide) (by decide) .nil
  exact ⟨t 0, _, t 9, _, t 21, rfl, ⟨rfl, rfl⟩, hsignature, ⟨rfl, rfl⟩, hbody, ⟨rfl, rfl⟩⟩

/-- The file of the lines above and below. -/
def twoTypes : File :=
  ⟨"shop", [⟨"Weight", "", "shop.go", ⟨3, 6⟩, .defined (.ofName "int")⟩,
    ⟨"Size", "", "shop.go", ⟨5, 6⟩, .defined (.ofName "int")⟩]⟩

theorem ofText_twoTypes :
    (File.ofText "shop.go" (String.ofList (spell shopAbove ++ '\n' :: spell shopBelow))).value =
      .ok twoTypes := by
  rewrite [File.ofText, Token.scan, String.toList_ofList]
  decide +kernel

/-- A function with a type in its signature and one in its body. -/
theorem readsLike_double :
    ReadsLike "shop.go" ("package shop\n\ntype Weight int\n" ++
      "func Double(n int) interface\x7b\x7d \x7b\n\treturn struct\x7bn int\x7d\x7bn\x7d\n\x7d\n" ++
      "\ntype Size int\n") twoTypes := by
  have htext : withLines (spell shopAbove) (spell doubleLines) (spell shopBelow) =
      "package shop\n\ntype Weight int\n" ++
      "func Double(n int) interface\x7b\x7d \x7b\n\treturn struct\x7bn int\x7d\x7bn\x7d\n\x7d\n" ++
      "\ntype Size int\n" :=
    withLines_eq_append (by decide +kernel)
  rw [← htext]
  exact readsLike_function seam_shop (inserted_spell (by decide +kernel)) isFunction_double
    ofText_twoTypes

/-! ## Constants and variables between items -/

/-- The words that items begin with. -/
def itemWords : List String := ["package", "type", "func", "import", "const", "var"]

/-- The tokens begin with one that is passed over nowhere and begins no item. -/
def BeginsNoItem (tokens : List Token) : Prop :=
  ∃ t rest, tokens = t :: rest ∧ Cursor.isTrivia t = false ∧ t.kind ≠ .finish ∧
    itemWords.any t.is = false

theorem BeginsNoItem.append {tokens : List Token} (h : BeginsNoItem tokens) (more : List Token) :
    BeginsNoItem (tokens ++ more) := by
  obtain ⟨t, rest, rfl, ht⟩ := h
  exact ⟨t, rest ++ more, rfl, ht⟩

/-- The tokens of a constant or a variable with its value.  Up to its first line end outside brackets
the value is `first`; `more` are the lines on which it goes on, each with the line end before it. -/
def IsConstant (tokens first : List Token) (more : List (Token × List Token)) : Prop :=
  ∃ word name assign,
    tokens = word :: name :: assign :: (first ++ more.flatMap fun line => line.1 :: line.2) ∧
    (word.IsWord "const" ∨ word.IsWord "var") ∧ name.kind = .ident ∧ isName name.text ∧
    assign.IsSign "=" ∧ Balanced brackets Cursor.Inline first ∧
    ∀ line ∈ more, line.1.kind = .newline ∧ BeginsNoItem line.2

namespace Cursor

variable {c d : Cursor} {word name assign lineEnd : Token} {first rest : List Token}

/-- What a constant or a variable comes to. -/
theorem parseItem_constant (file : String) {hd : d.left < c.skipTrivia.left}
    (hnext : c.skipTrivia.next? = some (word, ⟨d, hd⟩))
    (hword : word.IsWord "const" ∨ word.IsWord "var") (hgroup : d.eat? "(" = none) :
    c.parseItem file = .ok (some ((none, []), ⟨(d.skipStatement 0).1.forget,
      later_of_within (d.skipStatement 0).2 (later_of_skipTrivia hd)⟩)) := by
  have hskipped : d.skipDeclaration = .ok (d.skipStatement 0) := by
    rw [skipDeclaration, hgroup]
  rw [parseItem, hnext]
  dsimp only
  have hpassed {text : String} (hword : word.IsWord text) (htext : text ∈ ["const", "var"]) :
      word.is "package" = false ∧ word.is "type" = false ∧ word.is "func" = false ∧
        ["import", "const", "var"].any word.is = true := by
    have hother : ∀ text ∈ ["const", "var"], (text == "package") = false ∧
        (text == "type") = false ∧ (text == "func") = false ∧
        text ∈ ["import", "const", "var"] := by
      decide
    obtain ⟨hpackage, htype, hfunc, hmem⟩ := hother text htext
    rw [hword.is_eq, hword.is_eq, hword.is_eq]
    exact ⟨hpackage, htype, hfunc, List.any_eq_true.mpr
      ⟨text, hmem, (hword.is_eq text).trans (beq_self_eq_true text)⟩⟩
  obtain ⟨hpackage, htype, hfunc, hlisted⟩ : word.is "package" = false ∧ word.is "type" = false ∧
      word.is "func" = false ∧ ["import", "const", "var"].any word.is = true := by
    rcases hword with hword | hword
    · exact hpassed hword (by decide)
    · exact hpassed hword (by decide)
  rw [hpackage, htype, hfunc, hlisted, hskipped]
  rfl

/-- A constant or a variable is passed up to the first line end outside brackets. -/
theorem exists_parseItem_constant (file : String)
    (hc : c.rest = word :: name :: assign :: (first ++ lineEnd :: rest))
    (hword : word.IsWord "const" ∨ word.IsWord "var") (hkind : name.kind = .ident)
    (hname : isName name.text) (hassign : assign.IsSign "=")
    (hfirst : Balanced brackets Inline first) (hlineEnd : lineEnd.kind = .newline) :
    ∃ e, c.parseItem file = .ok (some ((none, []), e)) ∧ e.1.rest = lineEnd :: rest := by
  obtain ⟨d, hd, hnext, hrest⟩ :
      ∃ d hd, c.skipTrivia.next? = some (word, ⟨d, hd⟩) ∧
        d.rest = name :: assign :: (first ++ lineEnd :: rest) := by
    rcases hword with hword | hword <;> exact c.exists_next_of_isWord hword hc
  have hnotIs (text : String) (htext : isSpecial text) : name.is text = false :=
    Token.is_eq_false_of_isName hkind hname htext
  have hgroup : d.eat? "(" = none := by
    refine eat?_eq_none_of_current ?_
    rw [current_of_rest hrest]
    exact hnotIs "(" (by decide)
  have hvalue : Balanced brackets Inline (name :: assign :: first) := by
    have hspecial : ∀ text ∈ statementSigns, isSpecial text ∧ "=" ≠ text := by decide
    have hassigned : Balanced brackets Inline (assign :: first) :=
      balanced_cons hassign.kind_ne.2 hassign.kind_ne.1
        (fun text htext => hassign.is_eq_false (hspecial text htext).2) hfirst
    refine balanced_cons ?_ ?_ (fun text htext => hnotIs text (hspecial text htext).1) hassigned
    · rw [hkind]
      decide
    · rw [hkind]
      decide
  have hstops : (d.skipStatement 0).1.rest = lineEnd :: rest := by
    have hinline : 0 = 0 → ∀ t, Inline t → Inline t := fun _ t ht => ht
    obtain ⟨line, hskip⟩ :=
      skipStatement_append (c := d) hvalue hinline (lineEnd :: rest) d.lastLine
    rw [skipStatement_lineEnd hlineEnd] at hskip
    rw [eq_jump_of_rest hrest]
    exact congrArg Cursor.rest hskip
  exact ⟨_, parseItem_constant file hnext hword hgroup, hstops⟩

/-- Where a line begins with no item, no item is read. -/
theorem exists_fault_parseItem (file : String) (hc : c.rest = lineEnd :: rest)
    (hlineEnd : lineEnd.kind = .newline) (hrest : BeginsNoItem rest) :
    ∃ fault, c.parseItem file = .error fault := by
  obtain ⟨t, more, rfl, htrivia, hend, hno⟩ := hrest
  have hcomment : lineEnd.kind ≠ .comment := by
    rw [hlineEnd]
    decide
  have hlineEnd : isTrivia lineEnd := by
    rw [isTrivia, hlineEnd]
    rfl
  have hskip : c.skipTrivia = c.jump lineEnd.pos.line (t :: more) := by
    rw [eq_jump_of_rest hc, skipTrivia_lineEnd hlineEnd hcomment, skipTrivia_eq_self htrivia]
    rfl
  have hother (word : String) (hword : word ∈ itemWords) : t.is word = false :=
    Bool.eq_false_iff.mpr (List.any_eq_false.mp hno word hword)
  have hpassed : ["import", "const", "var"] ⊆ itemWords := by decide
  have hskipped : ["import", "const", "var"].any t.is = false :=
    List.any_eq_false.mpr fun word hword => Bool.eq_false_iff.mp (hother word (hpassed hword))
  rw [parseItem, next?_of_eq hskip hend]
  dsimp only
  rw [hother "package" (by decide), hother "type" (by decide), hother "func" (by decide), hskipped]
  exact ⟨_, rfl⟩

end Cursor

/-- A value on one line is read as nothing. -/
theorem IsConstant.readsAs {tokens first : List Token} (h : IsConstant tokens first [])
    (file : String) : ReadsAs file tokens [] := by
  intro c lineEnd rest hlineEnd _ hrest
  obtain ⟨word, name, assign, rfl, hword, hkind, hname, hassign, hfirst, -⟩ := h
  rw [List.flatMap_nil, List.append_nil] at hrest
  obtain ⟨e, hitem, he⟩ := Cursor.exists_parseItem_constant file hrest hword hkind hname hassign
    hfirst hlineEnd
  exact ⟨[], e, hitem, rfl, he⟩

/-- **Constants and variables are passed up to their first line end outside brackets.**  If a file
is read, it is read as well with a constant or a variable on lines of its own between two items, and
comes to the same package and the same declarations, up to line numbers and documentation, exactly
if the value does not go on behind such a line end. -/
theorem readsLike_constant_iff {file : String} {above lines below : List Char}
    {earlier inserted : List Token} (h : Seam file above below earlier)
    (hinserted : Inserted above lines below earlier inserted) {first : List Token}
    {more : List (Token × List Token)} (hconstant : IsConstant inserted first more) {f : File}
    (hfile : (File.ofText file (String.ofList (above ++ '\n' :: below))).value = .ok f) :
    ReadsLike file (withLines above lines below) f ↔ more = [] := by
  constructor
  · rintro ⟨f', hnew, -⟩
    cases more with
    | nil => rfl
    | cons line more =>
        obtain ⟨word, name, assign, rfl, hword, hkind, hname, hassign, hfirst, hmore⟩ := hconstant
        obtain ⟨⟨hlineEnd, hbegins⟩, -⟩ := List.forall_mem_cons.mp hmore
        obtain ⟨_, d, _, _, _, _, _, -, -, -, hd, -, hread, -⟩ := h.value_ofText hinserted
        rw [List.flatMap_cons, List.cons_append, List.cons_append, List.cons_append,
          List.append_assoc, List.append_assoc, List.cons_append] at hd
        -- the reader stops in the value and takes what follows for the next item
        obtain ⟨e, hitem, he⟩ := Cursor.exists_parseItem_constant file hd hword hkind hname hassign
          hfirst hlineEnd
        obtain ⟨fault, hfault⟩ :=
          Cursor.exists_fault_parseItem file he hlineEnd (hbegins.append _)
        rw [hread, Cursor.value_parseRest, hitem, Cursor.ok_bind] at hnew
        dsimp only at hnew
        rw [Cursor.value_parseRest, hfault] at hnew
        cases hnew
  · rintro rfl
    exact h.readsLike hinserted hfile (hconstant.readsAs file)

/-- The lines of a constant. -/
def limitLines : List Piece :=
  [.word "const", .blank, .word "Limit", .blank, .sign "=", .blank, .word "max", .sign "(",
    .number "1", .sign ",", .lineEnd, .indent, .number "2", .sign ")"]

theorem isConstant_limit : IsConstant (tokensOf ⟨4, 1⟩ limitLines)
    ((tokensOf ⟨4, 1⟩ limitLines).drop 3) [] := by
  let t (i : Nat) : Token := (tokensOf ⟨4, 1⟩ limitLines).getD i (.atEnd .start)
  have hfirst : Balanced brackets Cursor.Inline ([t 3] ++
      t 4 :: ([t 5, t 6, t 7, t 8] ++ t 9 :: [])) :=
    .token ⟨by decide, by decide⟩ (by decide) (by decide) <|
    .enclosed (p := ("(", ")")) (by decide) ⟨rfl, rfl⟩
      (.token trivial (by decide) (by decide) <| .token trivial (by decide) (by decide) <|
        .token trivial (by decide) (by decide) <| .token trivial (by decide) (by decide) .nil)
      ⟨rfl, rfl⟩ .nil
  exact ⟨t 0, t 1, t 2, rfl, .inl ⟨rfl, rfl⟩, rfl, by decide +kernel, ⟨rfl, rfl⟩, hfirst,
    List.forall_mem_nil _⟩

/-- A value that goes on behind a line end within brackets. -/
theorem readsLike_limit :
    ReadsLike "shop.go" ("package shop\n\ntype Weight int\n" ++
      "const Limit = max(1,\n\t2)\n" ++ "\ntype Size int\n") twoTypes := by
  have htext : withLines (spell shopAbove) (spell limitLines) (spell shopBelow) =
      "package shop\n\ntype Weight int\n" ++ "const Limit = max(1,\n\t2)\n" ++
        "\ntype Size int\n" :=
    withLines_eq_append (by decide +kernel)
  rw [← htext]
  exact (readsLike_constant_iff seam_shop (inserted_spell (by decide +kernel)) isConstant_limit
    ofText_twoTypes).mpr rfl

/-- A value that goes on behind an operator at the end of a line. -/
theorem not_readsLike_sum :
    (File.ofText "shop.go" "package shop\n\ntype Weight int\n\ntype Size int\n").value =
      .ok twoTypes ∧
    ¬ReadsLike "shop.go" ("package shop\n\ntype Weight int\n" ++ "const Limit = 1 +\n\t2\n" ++
      "\ntype Size int\n") twoTypes := by
  constructor
  · rewrite [File.ofText, Token.scan, String.toList_ofList]
    decide +kernel
  · rintro ⟨f', hread, -⟩
    have hfault : (File.ofText "shop.go" ("package shop\n\ntype Weight int\n" ++
        "const Limit = 1 +\n\t2\n" ++ "\ntype Size int\n")).value =
        .error ⟨.unexpectedToken "2", ⟨5, 2⟩⟩ := by
      rewrite [File.ofText, Token.scan, String.toList_append, String.toList_append,
        String.toList_ofList, String.toList_ofList, String.toList_ofList]
      decide +kernel
    rw [hfault] at hread
    cases hread

end GoSchema.Go
