import GoSchema.Proofs.Go.CarriageReturns
import GoSchema.Proofs.Go.Insertion

/-!
# Line ends of two characters

A file whose lines end with a carriage return and a line feed is read as the same file with line
feeds alone (`File.value_ofText_crlf`), unless a carriage return gets into something that is read: a
raw string over several lines, or a comment that counts as the length of an array.

The tokens of the two texts mirror each other up to the end of the file, because neither the column
of a line end nor a carriage return at the end of a comment is read.  This relation is symmetric, so
that nothing has to be done twice for the two directions.
-/

namespace GoSchema.Go

/-! ## Tokens that mirror each other -/

theorem Comment.content_return (line : Nat) (text : String) :
    content ⟨line, text ++ "\r"⟩ = content ⟨line, text⟩ := by
  have hmarks (s : List Char) : dropMarks (s ++ ['\r']) = dropMarks s ++ ['\r'] := by
    fun_induction dropMarks s with
    | case1 rest ih => rw [List.cons_append, List.cons_append, dropMarks, ih]
    | case2 s hne =>
        refine dropMarks.eq_2 _ fun rest heq => ?_
        rcases s with _ | ⟨c, _ | ⟨d, s⟩⟩
        · cases heq
        · cases heq
        · cases heq
          exact hne _ rfl
  have hblank (s : List Char) : dropBlank (s ++ ['\r']) = dropBlank s ++ ['\r'] := by
    fun_cases dropBlank s with
    | case1 rest => rfl
    | case2 s hne =>
        refine dropBlank.eq_2 _ fun rest heq => ?_
        cases s with
        | nil => cases heq
        | cons c s =>
            cases heq
            exact hne _ rfl
  have htrim (s : List Char) : Text.trimEnd (s ++ ['\r']) = Text.trimEnd s := by
    rw [Text.trimEnd, Text.trimEnd, Text.trimEndWhile, List.reverse_append, List.reverse_singleton,
      List.singleton_append, List.dropWhile_cons_of_pos (by decide)]
    rfl
  have htext : (text ++ "\r").toList = text.toList ++ ['\r'] := String.toList_append
  rw [content, content, htext, hmarks, hblank, htrim]

namespace Token

theorem Returned.mirrors {t u : Token} (h : t.Returned u)
    (hliteral : t.kind = .str → '\n' ∉ t.text.toList) : t.Mirrors 0 u := by
  cases h with
  | same => exact mirrors_down 0 t
  | literal text pos =>
      rw [crlf_eq_self (hliteral rfl)]
      exact mirrors_down 0 _
  | comment body pos =>
      have hopens (more : String) : ¬OpensType ("//" ++ more) := by
        rintro (h | h) <;> simpa using congrArg String.toList h
      refine ⟨rfl, ⟨rfl, Comment.content_return _ _⟩, fun h => absurd rfl h, fun _ => rfl, ?_⟩
      rw [String.append_assoc]
      exact iff_of_false (hopens _) (hopens _)
  | lineEnd pos => exact ⟨rfl, ⟨rfl, rfl⟩, fun _ => rfl, nofun, Iff.rfl⟩

theorem Mirrors.symm {t u : Token} (h : t.Mirrors 0 u) : u.Mirrors 0 t where
  kind_eq := h.kind_eq.symm
  comment := ⟨h.comment.line_eq.symm, h.comment.content_eq.symm⟩
  text_eq hkind := (h.text_eq (h.kind_eq ▸ hkind)).symm
  column_eq hlayout := (h.column_eq (h.isLayout_eq ▸ hlayout)).symm
  opensType_iff := h.opensType_iff.symm

/-- No comment stands between an opening square bracket and the next closing one. -/
def BracketsUncommented (tokens : List Token) : Prop :=
  ∀ rest ∈ tokens.tails, rest.head?.any (·.is "[") → rest.any (·.is "]") →
    ∀ t ∈ rest.takeWhile fun t => !t.is "]", t.kind ≠ .comment

instance (tokens : List Token) : Decidable (BracketsUncommented tokens) := by
  unfold BracketsUncommented
  infer_instance

/-- Every literal is written on one line. -/
def LiteralsInLine (tokens : List Token) : Prop :=
  ∀ t ∈ tokens, t.kind = .str → '\n' ∉ t.text.toList

instance (tokens : List Token) : Decidable (LiteralsInLine tokens) := by
  unfold LiteralsInLine
  infer_instance

end Token

namespace Cursor

/-! ## Files that mirror each other -/

/-- The cut at the end of a file. -/
def Cut.atEnd (pos : Position) : Cut where
  lines := 0
  alike := Token.Mirrors 0
  mirrors h := h
  stop := .atEnd pos
  first := []
  second := []
  documented := True
  stops := .inr ⟨rfl, rfl⟩

section

variable {ts us : List Token} {pos : Position}

theorem textToBracket?_eq_none (h : ts.any (·.is "]") = false) : textToBracket? ts = none := by
  induction ts with
  | nil => rfl
  | cons t ts ih =>
      rw [List.any_cons, Bool.or_eq_false_iff] at h
      rw [textToBracket?, h.1, if_neg Bool.false_ne_true, ih h.2]
      rfl

/-- Without comments in it, the text up to a closing bracket is the same. -/
theorem textToBracket?_of_returned (h : List.Forall₂ Token.Returned ts us)
    (hliterals : Token.LiteralsInLine ts)
    (hcomments : ts.any (·.is "]") → ∀ t ∈ ts.takeWhile fun t => !t.is "]", t.kind ≠ .comment) :
    textToBracket? us = textToBracket? ts := by
  induction h with
  | nil => rfl
  | @cons t u ts us htu _ ih =>
      obtain ⟨hliteral, hliterals⟩ := List.forall_mem_cons.mp hliterals
      have hmirrors := htu.mirrors hliteral
      rw [textToBracket?, textToBracket?, hmirrors.is_eq]
      cases hclosing : t.is "]" with
      | true => rfl
      | false =>
          rw [List.any_cons, hclosing, Bool.false_or,
            List.takeWhile_cons_of_pos (by rw [hclosing]; rfl)] at hcomments
          rw [ih hliterals fun hany v hv => hcomments hany v (List.mem_cons_of_mem t hv),
            if_neg Bool.false_ne_true, if_neg Bool.false_ne_true]
          cases hany : ts.any (·.is "]") with
          | true => rw [hmirrors.text_eq (hcomments hany t List.mem_cons_self)]
          | false =>
              rw [textToBracket?_eq_none hany]
              rfl

theorem Cut.Alike.of_returned (h : List.Forall₂ Token.Returned ts us)
    (hliterals : Token.LiteralsInLine ts) (hbrackets : Token.BracketsUncommented ts) :
    (atEnd pos).Alike ts us := by
  induction h with
  | nil => exact .nil
  | @cons t u ts us htu htail ih =>
      obtain ⟨hliteral, hliterals⟩ := List.forall_mem_cons.mp hliterals
      rw [Token.BracketsUncommented, List.tails_cons, List.forall_mem_cons] at hbrackets
      obtain ⟨hbracket, hbrackets⟩ := hbrackets
      refine .cons (htu.mirrors hliteral) (fun hopening => ?_) (ih hliterals hbrackets)
      have hclosing : t.is "]" = false := Token.is_eq_false_of_is hopening (by decide)
      refine textToBracket?_of_returned htail hliterals fun hany v hv => ?_
      refine hbracket hopening ?_ v ?_
      · rw [List.any_cons, hany, Bool.or_true]
      · rw [List.takeWhile_cons_of_pos (by rw [hclosing]; rfl)]
        exact List.mem_cons_of_mem t hv

theorem Cut.Alike.symm (h : (atEnd pos).Alike ts us) : (atEnd pos).Alike us ts := by
  induction h with
  | nil => exact .nil
  | cons head bracket _ ih =>
      have head : Token.Mirrors 0 _ _ := head
      exact .cons head.symm (fun hopening => (bracket (head.is_eq ▸ hopening)).symm) ih

/-- The second text has the same end. -/
theorem Cut.Alike.exists_end {before : List Token}
    (h : (atEnd pos).Alike (before ++ [.atEnd pos]) us) : ∃ before', us = before' ++ [.atEnd pos] := by
  induction before generalizing us with
  | nil =>
      cases h with
      | cons head _ tail =>
          cases tail
          have head : Token.Mirrors 0 _ _ := head
          exact ⟨[], congrArg ([·]) (head.eq_down rfl)⟩
  | cons t before ih =>
      cases h with
      | cons _ _ tail =>
          obtain ⟨before', rfl⟩ := ih tail
          exact ⟨_ :: before', rfl⟩

end

end Cursor

theorem Declaration.down_zero (d : Declaration) : d.down 0 = d := by
  have hmember : Member.down 0 = id := by
    funext m
    cases m <;> rfl
  have hfield : Field.down 0 = id := rfl
  obtain ⟨name, docs, file, pos, kind⟩ := d
  cases kind with
  | record fields => rw [down, Kind.down, hfield, List.map_id]; rfl
  | contract members => rw [down, Kind.down, hmember, List.map_id]; rfl
  | defined type => rfl

/-- Files with tokens that mirror each other are read as the same declarations. -/
theorem File.value_ofText_of_alike {file text text' : String} {before us : List Token}
    {pos : Position} (hscan : Token.scan text = .ok (before ++ [.atEnd pos]))
    (hscan' : Token.scan text' = .ok us)
    (h : (Cursor.Cut.atEnd pos).Alike (before ++ [.atEnd pos]) us) {f : File}
    (hread : (ofText file text).value = .ok f) : (ofText file text').value = .ok f := by
  have hmirrors : (Cursor.Cut.atEnd pos).Mirrors (.ofTokens (before ++ [.atEnd pos])) (.ofTokens us) :=
    ⟨before, us, rfl, (List.append_nil us).symm, h, rfl, fun _ => .nil⟩
  rw [value_ofText_of_scan hscan] at hread
  obtain ⟨⟨package?, declarations⟩, hrest, hparts⟩ := ok_of_bind_iff.mp hread
  obtain ⟨declarations', hrest', hsame⟩ := hmirrors.value_parseRest ⟨rfl, rfl⟩ rfl hrest
  have hdown : (Declaration.down 0) = id := funext Declaration.down_zero
  have heq : declarations' = declarations := by
    rw [hsame.eq_down trivial]
    show declarations.map (Declaration.down 0) = declarations
    rw [hdown, List.map_id]
  rw [value_ofText_of_scan hscan', hrest', heq, Cursor.ok_bind]
  exact hparts

/-- **Line ends of two characters do not matter.**  If every literal is written on one line and no
comment stands in square brackets, a file with a carriage return in front of each line end has
tokens, and is read, exactly when the file without them is, and as the same package with the same
declarations. -/
theorem File.value_ofText_crlf (file text : String)
    (h : ∀ tokens, Token.scan text = .ok tokens →
      Token.LiteralsInLine tokens ∧ Token.BracketsUncommented tokens) :
    ((Token.scan (crlf text)).isOk ↔ (Token.scan text).isOk) ∧
      ∀ f, (ofText file (crlf text)).value = .ok f ↔ (ofText file text).value = .ok f := by
  have hscanned := Token.scan_crlf text
  rcases scan_tiles text with ⟨tokens, hscan, -⟩ | ⟨fault, -, -, -, hscan, -⟩
  · obtain ⟨hliterals, hbrackets⟩ := h _ hscan
    rw [hscan] at hscanned ⊢
    cases hscan' : Token.scan (crlf text) with
    | error fault =>
        rw [hscan'] at hscanned
        cases hscanned
    | ok us =>
        rw [hscan'] at hscanned
        cases hscanned with
        | tokens hreturned =>
            have halike : (Cursor.Cut.atEnd (.behind text.toList)).Alike _ _ :=
              .of_returned hreturned hliterals hbrackets
            obtain ⟨tokens', rfl⟩ := halike.exists_end
            refine ⟨Iff.rfl, fun f => ⟨fun hread => ?_, fun hread => ?_⟩⟩
            · exact value_ofText_of_alike hscan' hscan halike.symm hread
            · exact value_ofText_of_alike hscan hscan' halike hread
  · rw [hscan] at hscanned ⊢
    cases hscan' : Token.scan (crlf text) with
    | ok us =>
        rw [hscan'] at hscanned
        cases hscanned
    | error fault' =>
        refine ⟨Iff.rfl, fun f => ?_⟩
        rw [ofText, ofText, Reading.value_bind, Reading.value_bind, Reading.value_liftM,
          Reading.value_liftM, hscan, hscan']
        constructor
        · intro h
          cases h
        · intro h
          cases h

/-- A file with comments above a struct, on the lines of its fields, and in a function. -/
def orderFile : String :=
  "package shop\n\n// Order is paid.\n//\n// Once.\ntype Order struct \x7b\n\tItems [2]string // names\n" ++
    "\tTotal int \x60json:\"total\"\x60 // in cents\n\x7d\n\nfunc (o Order) Pay() \x7b // now\n\x7d\n"

theorem value_ofText_crlf_order :
    (∀ tokens, Token.scan orderFile = .ok tokens →
      Token.LiteralsInLine tokens ∧ Token.BracketsUncommented tokens) ∧
    (Token.scan (crlf orderFile)).isOk ∧
    (File.ofText "shop.go" (crlf orderFile)).value = .ok ⟨"shop", [⟨"Order", "Order is paid.\n\nOnce.",
      "shop.go", ⟨6, 6⟩, .record [⟨some "Items", .array "2" (.ofName "string"), Tag.empty, "", ⟨7, 2⟩⟩,
        ⟨some "Total", .ofName "int", ⟨[("json", "total")]⟩, "", ⟨8, 2⟩⟩]⟩]⟩ := by
  have htokens : ∀ tokens, Token.scan orderFile = .ok tokens →
      Token.LiteralsInLine tokens ∧ Token.BracketsUncommented tokens := by
    have hall : (Token.scan orderFile).toOption.all fun tokens =>
        Token.LiteralsInLine tokens ∧ Token.BracketsUncommented tokens := by
      unfold Token.scan orderFile
      rewrite [String.toList_append, String.toList_ofList, String.toList_ofList]
      decide +kernel
    intro tokens hscan
    rw [hscan] at hall
    exact of_decide_eq_true hall
  have hcrlf := File.value_ofText_crlf "shop.go" orderFile htokens
  refine ⟨htokens, hcrlf.1.mpr ?_, (hcrlf.2 _).mpr ?_⟩
  · unfold Token.scan orderFile
    rewrite [String.toList_append, String.toList_ofList, String.toList_ofList]
    decide +kernel
  · unfold File.ofText Token.scan orderFile
    rewrite [String.toList_append, String.toList_ofList, String.toList_ofList]
    decide +kernel

end GoSchema.Go
