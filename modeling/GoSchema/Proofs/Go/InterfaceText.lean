import GoSchema.Proofs.Go.ParameterText

/-!
# Methods are read as they are printed, arrays apart

An interface is printed with one method on each line, and its parameters and results are lists of
types, or groups of names that share a type.  A name is read as a type first.  Where an array
follows it, the bracket of the array is taken for that of an instantiated type, and the list is
refused; any other plain type after a name is read as it stands.  So the text is read back exactly
if no parameter or result with a name is an array (`value_ofText_interface_iff`).
-/

namespace GoSchema.Go

open Lexeme Param

/-! ## Printing interfaces -/

/-- A method as it is written. -/
structure Signature where
  name : String
  params : Listing
  results? : Option Listing
deriving Repr, DecidableEq

namespace Signature

/-- The pieces of a result list in parentheses. -/
def resultPieces : Option Listing → List Piece
  | none => []
  | some list => .blank :: list.pieces

/-- The pieces of a signature. -/
def pieces (s : Signature) : List Piece :=
  .word s.name :: (s.params.pieces ++ resultPieces s.results?)

/-- The results of a method, of which there are none if no list is written. -/
def results (s : Signature) : List Param := (s.results?.map Listing.params).getD []

/-- The method, if its name stands at a given place. -/
def member (pos : Position) (s : Signature) : Member :=
  .method s.name s.params.params s.results "" pos

/-- Whether the method is written with names and plain types only. -/
def isPlain (s : Signature) : Bool :=
  isName s.name && (s.params.isPlain && s.results?.all Listing.isPlain)

/-- Whether both lists come through. -/
def isReadable (s : Signature) : Bool := s.params.isReadable && s.results?.all Listing.isReadable

/-- The line of a method. -/
def line (s : Signature) : List Piece := .indent :: (s.pieces ++ [.lineEnd])

/-- The members of an interface whose methods are written from a given place on. -/
def members : Position → List Signature → List Member
  | _, [] => []
  | pos, s :: more => s.member (pos.after ['\t']) :: members (pos.after (spell s.line)) more

end Signature

/-- An interface with some methods. -/
def interfaceText (name : String) (methods : List Signature) : TypeText where
  docs := ""
  name := name
  body := bodyPieces "interface" (methods.flatMap Signature.line)
  kindAt pos := .contract (Signature.members (pos.after (spell (bodyHead "interface"))) methods)

namespace Signature

theorem fits_pieces {s : Signature} (h : s.isPlain) {rest : List Char} : Fits s.pieces rest := by
  obtain ⟨hname, hlists⟩ := Bool.and_eq_true_iff.mp h
  obtain ⟨hparams, hresults⟩ := Bool.and_eq_true_iff.mp hlists
  refine ⟨stands_word (isIdentifier_of_isName hname) (endsWord_cons (by decide) _), ?_⟩
  refine fits_append_iff.mpr ⟨Listing.fits_pieces hparams, ?_⟩
  cases hlist : s.results? with
  | none => exact trivial
  | some list =>
      rw [hlist] at hresults
      refine ⟨stands_blank (by decide) ?_, Listing.fits_pieces hresults⟩
      rintro c ⟨⟩
      decide

theorem fits_line {s : Signature} (h : s.isPlain) {rest : List Char} : Fits s.line rest := by
  obtain ⟨hname, -⟩ := Bool.and_eq_true_iff.mp h
  refine ⟨stands_blank (by decide) (beginsSolid_word (isIdentifier_of_isName hname) _ _), ?_⟩
  exact fits_append_iff.mpr ⟨fits_pieces h, stands_lineEnd _, trivial⟩

end Signature

theorem writable_interfaceText {name : String} (hname : isName name) {methods : List Signature}
    (h : ∀ s ∈ methods, s.isPlain) : (interfaceText name methods).Writable where
  name := hname
  docs := isDocumentation_empty
  solid rest := beginsSolid_bodyPieces (by decide) _ _
  fits rest := fits_bodyPieces (by decide)
    (fits_flatMap fun s hs rest => Signature.fits_line (h s hs)) _
  begins c line pos rest := ⟨rfl, rfl⟩

/-! ## Reading methods -/

namespace Cursor

variable {c : Cursor} {line : Nat} {rest : List Token}

theorem comes_parseResults {results? : Option Listing} (h : results?.all Listing.isPlain)
    (pos endPos : Position) :
    c.Comes (parseResults (c.jump line (tokensOf pos (Signature.resultPieces results?) ++
      ⟨.newline, "\n", endPos⟩ :: rest)))
      (results?.all Listing.isReadable) ((results?.map Listing.params).getD [])
      (⟨.newline, "\n", endPos⟩ :: rest) := by
  cases results? with
  | none =>
      rw [Signature.resultPieces, tokensOf_nil, List.nil_append, parseResults]
      exact ⟨line, _, rfl⟩
  | some list =>
      have hopening : (c.jump line (tokensOf (pos.after [' ']) list.pieces ++
          ⟨.newline, "\n", endPos⟩ :: rest)).current.is "(" := rfl
      rw [Signature.resultPieces, tokensOf_blank, parseResults, if_pos hopening]
      exact Comes.map (comes_parseParams h _) fun line he => ⟨line, _, rfl⟩

theorem comes_parseMember {s : Signature} (h : s.isPlain) (pos endPos : Position) :
    c.Comes (parseMember (c.jump line (tokensOf pos s.pieces ++
      ⟨.newline, "\n", endPos⟩ :: rest)) "")
      s.isReadable (some (s.member pos)) (⟨.newline, "\n", endPos⟩ :: rest) := by
  obtain ⟨hname, hlists⟩ := Bool.and_eq_true_iff.mp h
  obtain ⟨hparams, hresults⟩ := Bool.and_eq_true_iff.mp hlists
  rw [Signature.pieces, tokensOf_word, tokensOf_append, List.cons_append, List.append_assoc,
    parseMember, if_pos ⟨rfl, rfl⟩, expectIdent_jump rfl, ok_bind]
  refine Comes.bind (comes_parseParams hparams _) fun line he => ?_
  exact Comes.map (comes_parseResults hresults _ _) fun line hf => ⟨line, _, rfl⟩

/-- The members from one that begins at a given cursor on. -/
theorem parseMembers_of_skipTrivia {c d : Cursor} (hd : c.skipTrivia = d)
    (hclosing : d.current.is Token.closeBrace = false) (hend : d.isAtEnd = false) :
    c.parseMembers = (do
      let (member?, ⟨e, he⟩) ← d.forget.parseMember (d.docs d.current.pos.line)
      have he : e.left < c.left := later_of_skipTrivia (hd ▸ he)
      match member? with
      | none => return (none, ⟨e, he⟩)
      | some member =>
        if !endsMember e.skipTrailingComment.current then
          throw e.skipTrailingComment.unexpected
        let (members?, ⟨f, hf⟩) ← parseMembers e.skipTrailingComment
        have hf := later_of_within (Nat.le_of_lt hf)
          (later_of_within e.left_skipTrailingComment_le he)
        return (members?.map (member :: ·), ⟨f, hf⟩)) := by
  subst hd
  rw [parseMembers, eat?_eq_none rfl hclosing]
  dsimp only
  rw [hend]
  exact if_neg Bool.false_ne_true

theorem comes_parseMembers {methods : List Signature} (h : ∀ s ∈ methods, s.isPlain)
    (hc : c.passed = []) (linePos pos : Position) :
    c.Comes (parseMembers (c.jump line (⟨.newline, "\n", linePos⟩ ::
      (tokensOf pos (methods.flatMap Signature.line ++ [.sign Token.closeBrace]) ++ rest))))
      (methods.all Signature.isReadable) (some (Signature.members pos methods)) rest := by
  induction methods generalizing line linePos pos with
  | nil =>
      rw [List.flatMap_nil, List.nil_append, tokensOf_sign, List.cons_append, parseMembers,
        eat?_of_eq (skipTrivia_lineEnd_jump rfl _) rfl]
      exact ⟨_, _, rfl⟩
  | cons s methods ih =>
      obtain ⟨hs, hmethods⟩ := List.forall_mem_cons.mp h
      let namePos := pos.after ['\t']
      let endPos := namePos.after (spell s.pieces)
      let tail := tokensOf (pos.after (spell s.line))
        (methods.flatMap Signature.line ++ [.sign Token.closeBrace]) ++ rest
      have htokens : tokensOf pos ((s :: methods).flatMap Signature.line ++
          [.sign Token.closeBrace]) ++ rest =
          tokensOf namePos s.pieces ++ ⟨.newline, "\n", endPos⟩ :: tail := by
        rw [List.flatMap_cons, List.append_assoc, tokensOf_append, Signature.line, tokensOf_indent,
          tokensOf_append, List.append_assoc, List.append_assoc]
        rfl
      let d := c.jump linePos.line (tokensOf namePos s.pieces ++ ⟨.newline, "\n", endPos⟩ :: tail)
      have hclosing : d.current.is Token.closeBrace = false :=
        is_word_eq_false (Bool.and_eq_true_iff.mp hs).1 (by decide) namePos
      have hstart : (c.jump line (⟨.newline, "\n", linePos⟩ ::
          (tokensOf namePos s.pieces ++ ⟨.newline, "\n", endPos⟩ :: tail))).skipTrivia = d :=
        skipTrivia_lineEnd_jump rfl linePos
      have hmember : c.Comes (d.forget.parseMember (d.docs d.current.pos.line)) s.isReadable
          (some (s.member namePos)) (⟨.newline, "\n", endPos⟩ :: tail) := by
        rw [forget_jump hc, docs_jump hc]
        exact comes_parseMember hs namePos endPos
      rw [htokens, parseMembers_of_skipTrivia hstart hclosing rfl, List.all_cons]
      refine Comes.bind hmember fun line he => ?_
      exact Comes.map (ih hmethods endPos _) fun line hf => ⟨line, _, rfl⟩

theorem comes_parseInterface {methods : List Signature} (h : ∀ s ∈ methods, s.isPlain)
    (hc : c.passed = []) (bracePos linePos pos : Position) :
    c.Comes (parseInterface (c.jump line (⟨.punct, Token.openBrace, bracePos⟩ ::
      ⟨.newline, "\n", linePos⟩ ::
        (tokensOf pos (methods.flatMap Signature.line ++ [.sign Token.closeBrace]) ++ rest))))
      (methods.all Signature.isReadable) (some (Signature.members pos methods)) rest := by
  have hmembers : c.Comes (c.jump bracePos.line (⟨.newline, "\n", linePos⟩ :: (tokensOf pos
      (methods.flatMap Signature.line ++ [.sign Token.closeBrace]) ++ rest))).forget.parseMembers
      (methods.all Signature.isReadable) (some (Signature.members pos methods)) rest := by
    rw [forget_jump hc]
    exact comes_parseMembers h hc linePos pos
  rw [parseInterface, expect_jump rfl, ok_bind]
  exact Comes.map hmembers fun line he => ⟨line, _, rfl⟩

theorem comes_parseKind (name : String) {methods : List Signature} (h : ∀ s ∈ methods, s.isPlain)
    (hc : c.passed = []) (pos : Position) :
    c.Comes (parseKind (c.jump line (tokensOf pos (interfaceText name methods).body ++ rest)))
      (methods.all Signature.isReadable) (some ((interfaceText name methods).kindAt pos)) rest := by
  obtain ⟨bracePos, linePos, htokens⟩ :=
    tokensOf_bodyPieces "interface" (methods.flatMap Signature.line) pos
  rw [interfaceText, htokens, List.cons_append, parseKind, eat?_jump_eq_none rfl, eat?_jump rfl]
  exact Comes.map (comes_parseInterface h hc _ _ _) fun line he => ⟨line, _, rfl⟩

end Cursor

theorem exists_fault_ofText_interface (file : String) {package name : String}
    (hpackage : isName package) (hname : isName name) (methods : List Signature)
    (h : ∀ s ∈ methods, s.isPlain) (hreadable : methods.all Signature.isReadable = false) :
    ∃ fault, (File.ofText file (fileText package [interfaceText name methods])).value =
      .error fault := by
  have hwritable := writable_interfaceText hname h
  obtain ⟨c, line, t, finish, hc, ht, heq⟩ :=
    value_ofText file hpackage (List.forall_mem_singleton.mpr hwritable)
  rw [heq, List.flatMap_cons, List.flatMap_nil, List.append_nil,
    Cursor.value_parseRest_pieces hwritable hc ht]
  have hkind : ∀ line pos rest, c.Comes (c.jump line
      (tokensOf pos (interfaceText name methods).body ++ rest)).parseKind false
        (some ((interfaceText name methods).kindAt pos)) rest :=
    fun line pos rest => hreadable ▸ Cursor.comes_parseKind name h hc pos
  obtain ⟨fault, hfault⟩ := hkind _ _ _
  rw [hfault]
  exact ⟨fault, rfl⟩

/-- A file with an interface is read as it is printed exactly if no parameter or result with a name
is an array. -/
theorem value_ofText_interface_iff (file : String) {package name : String}
    (hpackage : isName package) (hname : isName name) {methods : List Signature}
    (h : ∀ s ∈ methods, s.isPlain) :
    (File.ofText file (fileText package [interfaceText name methods])).value =
      .ok ⟨package, [(interfaceText name methods).declaration file (declarationsPos package)]⟩ ↔
      ∀ s ∈ methods, s.isReadable := by
  rw [← List.all_eq_true]
  cases hreadable : methods.all Signature.isReadable with
  | false =>
      obtain ⟨fault, hfault⟩ :=
        exists_fault_ofText_interface file hpackage hname methods h hreadable
      rw [hfault]
      simp
  | true =>
      refine iff_of_true (value_ofText_fileText file hpackage ?_) rfl
      refine List.forall_mem_singleton.mpr ⟨writable_interfaceText hname h, ?_⟩
      intro c line pos endPos rest hc
      have hkind : ∀ rest, c.Comes (c.jump line (tokensOf pos (interfaceText name methods).body ++
          rest)).parseKind true (some ((interfaceText name methods).kindAt pos)) rest :=
        fun rest => hreadable ▸ Cursor.comes_parseKind name h hc pos
      exact hkind _

/-- Names that share a type, and an array below a map. -/
theorem value_ofText_registry :
    (File.ofText "registry.go" ("package registry\n\ntype Registry interface \x7b\n" ++
      "\tFind(low, high int, at *time.Time) (sums map[string][][32]byte, err error)\n" ++
      "\x7d\n")).value =
      .ok ⟨"registry", [⟨"Registry", "", "registry.go", ⟨3, 6⟩, .contract [.method "Find"
        [⟨some "low", .ofName "int"⟩, ⟨some "high", .ofName "int"⟩,
          ⟨some "at", .pointer (.named "time" "Time")⟩]
        [⟨some "sums", .map (.ofName "string") (.slice (.array "32" (.ofName "byte")))⟩,
          ⟨some "err", .ofName "error"⟩] "" ⟨4, 2⟩]⟩]⟩ := by
  have htext : fileText "registry" [interfaceText "Registry" [⟨"Find",
      .groups [⟨["low"], "high", .ofName "int"⟩, ⟨[], "at", .pointer (.named "time" "Time")⟩],
      some (.groups [
        ⟨[], "sums", .map (.ofName "string") (.slice (.array "32" (.ofName "byte")))⟩,
        ⟨[], "err", .ofName "error"⟩])⟩]] =
      "package registry\n\ntype Registry interface \x7b\n" ++
      "\tFind(low, high int, at *time.Time) (sums map[string][][32]byte, err error)\n" ++
      "\x7d\n" := by
    decide +kernel
  rw [← htext]
  exact (value_ofText_interface_iff "registry.go" (by decide +kernel) (by decide +kernel)
    (by decide +kernel)).mpr (by decide)

/-- An array with a name is refused. -/
theorem value_ofText_store_ne :
    (File.ofText "store.go" ("package store\n\ntype Store interface \x7b\n" ++
      "\tPut(sum [32]byte)\n\x7d\n")).value ≠
      .ok ⟨"store", [⟨"Store", "", "store.go", ⟨3, 6⟩, .contract [.method "Put"
        [⟨some "sum", .array "32" (.ofName "byte")⟩] [] "" ⟨4, 2⟩]⟩]⟩ := by
  have htext : fileText "store" [interfaceText "Store" [⟨"Put",
      .groups [⟨[], "sum", .array "32" (.ofName "byte")⟩], none⟩]] =
      "package store\n\ntype Store interface \x7b\n" ++ "\tPut(sum [32]byte)\n\x7d\n" := by
    decide +kernel
  have hpackage : isName "store" := by decide +kernel
  have hname : isName "Store" := by decide +kernel
  obtain ⟨fault, hfault⟩ := exists_fault_ofText_interface "store.go" hpackage hname
    [⟨"Put", .groups [⟨[], "sum", .array "32" (.ofName "byte")⟩], none⟩] (by decide +kernel)
    (by decide)
  rw [← htext, hfault]
  simp

end GoSchema.Go
