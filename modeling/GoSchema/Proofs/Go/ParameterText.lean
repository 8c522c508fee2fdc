import GoSchema.Proofs.Go.FileText

/-!
# Parameter lists are read as they are printed, arrays apart

The entries of a parameter list are all read as types first, and only what follows an entry tells
that it was the name of a parameter.  A name comes through this whatever type follows it, with one
exception: the length of an array looks like the argument of a generic type, `h[32]`, so that a
parameter whose type is an array is not read at all.  A list without names has no such entry.

## Strategy

`Comes` is what reading comes to, which may be a fault.  The entries are followed one by one
(`comes_parseEntries`), and a list of them stands for the parameters that were written
(`ofEntries?_entries`).  What surrounds a list, from the method to the file, neither adds a fault
nor takes one back, so that a whole interface is read exactly when all its lists are
(`value_ofText_interface_iff`).
-/

namespace GoSchema.Go

open Lexeme

/-! ## What reading comes to -/

namespace Cursor

/-- From a cursor reading comes to a result and some tokens that are left, if all is good, and to a
fault otherwise. -/
def Comes {α : Type} {p : Cursor → Prop} (c : Cursor) (x : Except Fault (α × { d : Cursor // p d }))
    (good : Bool) (a : α) (rest : List Token) : Prop :=
  match good with
  | true => c.Reads x a rest
  | false => ∃ fault, x = .error fault

section Comes

variable {α β : Type} {p q : Cursor → Prop} {c : Cursor} {a : α} {b : β} {good good' : Bool}
  {middle rest : List Token} {x : Except Fault (α × { d : Cursor // p d })}
  {f : α × { d : Cursor // p d } → Except Fault (β × { d : Cursor // q d })}

theorem Reads.comes_bind (hx : c.Reads x a middle)
    (hf : ∀ line h, c.Comes (f (a, ⟨c.jump line middle, h⟩)) good b rest) :
    c.Comes (x >>= f) good b rest := by
  obtain ⟨line, h, rfl⟩ := hx
  exact hf line h

theorem Comes.bind (hx : c.Comes x good a middle)
    (hf : ∀ line h, c.Comes (f (a, ⟨c.jump line middle, h⟩)) good' b rest) :
    c.Comes (x >>= f) (good && good') b rest := by
  cases good with
  | false =>
      obtain ⟨fault, rfl⟩ := hx
      exact ⟨fault, rfl⟩
  | true => exact Reads.comes_bind hx hf

theorem Comes.map (hx : c.Comes x good a middle)
    (hf : ∀ line h, c.Reads (f (a, ⟨c.jump line middle, h⟩)) b rest) :
    c.Comes (x >>= f) good b rest := by
  rw [← Bool.and_true good]
  exact hx.bind hf

end Comes

end Cursor

/-! ## Printing parameter lists -/

namespace Param

/-- Parameters that share a type, which is written after the last name. -/
structure Group where
  earlier : List String
  name : String
  type : TypeExpr
deriving Repr, DecidableEq

/-- A parameter list as it is written: in groups, or as types without names. -/
inductive Listing where
  | groups (list : List Group)
  | types (list : List TypeExpr)
deriving Repr, DecidableEq

/-- The names before the last one are entries that look like types. -/
def Group.entries (g : Group) : List Entry :=
  g.earlier.map (.bare ∘ .ofName) ++ [.named g.name g.type]

/-- One parameter for each name. -/
def Group.params (g : Group) : List Param :=
  (g.earlier ++ [g.name]).map fun name => ⟨some name, g.type⟩

/-- Whether the group holds names and a plain type only. -/
def Group.isPlain (g : Group) : Bool := (g.earlier ++ [g.name]).all isName && g.type.isPlain

namespace Listing

/-- The entries of a list, which are what stands between its commas. -/
def entries : Listing → List Entry
  | .groups list => list.flatMap Group.entries
  | .types list => list.map .bare

/-- The parameters of a list: one for each name, or one for each type. -/
def params : Listing → List Param
  | .groups list => list.flatMap Group.params
  | .types list => list.map (⟨none, ·⟩)

/-- Whether the list holds names and plain types only. -/
def isPlain : Listing → Bool
  | .groups list => list.all Group.isPlain
  | .types list => list.all TypeExpr.isPlain

end Listing

/-- The pieces of an entry. -/
def Entry.pieces : Entry → List Piece
  | .named name type => .word name :: .blank :: type.pieces
  | .bare type => type.pieces

/-- What comes after an entry: the other entries and the closing parenthesis. -/
def tailPieces : List Entry → List Piece
  | [] => [.sign ")"]
  | entry :: more => .sign "," :: .blank :: (entry.pieces ++ tailPieces more)

/-- The pieces of some entries and the closing parenthesis. -/
def entriesPieces : List Entry → List Piece
  | [] => [.sign ")"]
  | entry :: more => entry.pieces ++ tailPieces more

/-- Whether an entry holds a name and plain types only. -/
def Entry.isPlain : Entry → Bool
  | .named name type => isName name && type.isPlain
  | .bare type => type.isPlain

end Param

namespace Param

/-- Whether an entry comes through: it is no name with the type of an array. -/
def Entry.isReadable : Entry → Bool
  | .named _ type => !type.isArray
  | .bare _ => true

namespace Listing

/-- The pieces of a list in its parentheses. -/
def pieces (list : Listing) : List Piece := .sign "(" :: entriesPieces list.entries

/-- Whether all groups of the list come through. -/
def isReadable : Listing → Bool
  | .groups list => list.all fun g => !g.type.isArray
  | .types _ => true

theorem all_isReadable_entries (list : Listing) :
    list.entries.all Entry.isReadable = list.isReadable := by
  cases list with
  | groups list =>
      rw [entries, isReadable, List.all_flatMap]
      congr 1
      funext g
      simp [Group.entries, Entry.isReadable]
  | types list => simp [entries, isReadable, Entry.isReadable]

theorem isPlain_of_mem_entries {list : Listing} (h : list.isPlain) :
    ∀ entry ∈ list.entries, entry.isPlain := by
  cases list with
  | groups list =>
      intro entry hentry
      obtain ⟨g, hg, hentry⟩ := List.mem_flatMap.mp hentry
      have hplain := List.all_eq_true.mp h g hg
      obtain ⟨hnames, htype⟩ := Bool.and_eq_true_iff.mp hplain
      simp only [List.all_append, List.all_cons, List.all_nil, Bool.and_true, Bool.and_eq_true,
        List.all_eq_true] at hnames
      rcases List.mem_append.mp hentry with hearlier | hlast
      · obtain ⟨name, hname, rfl⟩ := List.mem_map.mp hearlier
        exact hnames.1 name hname
      · rw [List.mem_singleton.mp hlast]
        exact Bool.and_eq_true_iff.mpr ⟨hnames.2, htype⟩
  | types list => simpa [entries, isPlain, Entry.isPlain] using h

/-- Names without a type share the type that comes after them. -/
theorem shareTypes_names {entries : List Entry} {params : List Param} {type : TypeExpr}
    (h : shareTypes entries = some (params, some type)) (names : List String) :
    shareTypes (names.map (.bare ∘ .ofName) ++ entries) =
      some (names.map (⟨some ·, type⟩) ++ params, some type) := by
  induction names with
  | nil => exact h
  | cons name names ih =>
      rw [List.map_cons, List.cons_append, shareTypes, ih]
      rfl

theorem shareTypes_groups (list : List Group) :
    ∃ shared?, shareTypes (list.flatMap Group.entries) =
      some (list.flatMap Group.params, shared?) := by
  induction list with
  | nil => exact ⟨none, rfl⟩
  | cons g list ih =>
      obtain ⟨shared?, ih⟩ := ih
      have hlast : shareTypes (.named g.name g.type :: list.flatMap Group.entries) =
          some (⟨some g.name, g.type⟩ :: list.flatMap Group.params, some g.type) := by
        rw [shareTypes, ih]
        rfl
      refine ⟨some g.type, ?_⟩
      rw [List.flatMap_cons, List.flatMap_cons, Group.entries, List.append_assoc,
        List.singleton_append, shareTypes_names hlast, Group.params, List.map_append,
        List.append_assoc]
      rfl

/-- A list stands for the parameters that were written. -/
theorem ofEntries?_entries (list : Listing) : ofEntries? list.entries = some list.params := by
  cases list with
  | groups list =>
      cases list with
      | nil => rfl
      | cons g list =>
          have hnamed : ((g :: list).flatMap Group.entries).any Entry.isNamed := by
            simp [Group.entries, Entry.isNamed]
          obtain ⟨shared?, hshare⟩ := shareTypes_groups (g :: list)
          rw [ofEntries?, entries, if_pos hnamed, hshare]
          rfl
  | types list =>
      have hbare : (list.map Entry.bare).any Entry.isNamed = false := by
        simp [Entry.isNamed]
      rw [ofEntries?, entries, hbare, if_neg Bool.false_ne_true, List.map_map]
      rfl

end Listing

end Param

section Fitting

variable {rest : List Char}

theorem Param.Entry.beginsSolid_pieces {entry : Param.Entry} (h : entry.isPlain)
    (rest : List Char) : BeginsSolid (spell entry.pieces ++ rest) := by
  cases entry with
  | named name type =>
      exact beginsSolid_word (isIdentifier_of_isName (Bool.and_eq_true_iff.mp h).1) _ _
  | bare type => exact TypeExpr.beginsSolid_pieces h rest

theorem Param.Entry.fits_pieces {entry : Param.Entry} (h : entry.isPlain) (hrest : EndsWord rest) :
    Fits entry.pieces rest := by
  cases entry with
  | named name type =>
      obtain ⟨hname, htype⟩ := Bool.and_eq_true_iff.mp h
      exact ⟨stands_word (isIdentifier_of_isName hname) (endsWord_cons (by decide) _),
        stands_blank (by decide) (TypeExpr.beginsSolid_pieces htype _),
        TypeExpr.fits_pieces htype hrest⟩
  | bare type => exact TypeExpr.fits_pieces h hrest

theorem Param.endsWord_tailPieces (entries : List Param.Entry) (rest : List Char) :
    EndsWord (spell (tailPieces entries) ++ rest) := by
  cases entries with
  | nil => exact endsWord_cons (by decide) _
  | cons entry more => exact endsWord_cons (by decide) _

theorem Param.fits_tailPieces {entries : List Param.Entry}
    (h : ∀ entry ∈ entries, entry.isPlain) : Fits (tailPieces entries) rest := by
  induction entries with
  | nil => exact ⟨stands_sign (by decide) _, trivial⟩
  | cons entry more ih =>
      obtain ⟨hentry, hmore⟩ := List.forall_mem_cons.mp h
      refine ⟨stands_sign (by decide) _, stands_blank (by decide) ?_, ?_⟩
      · rw [spell_append, List.append_assoc]
        exact Entry.beginsSolid_pieces hentry _
      · exact fits_append_iff.mpr ⟨Entry.fits_pieces hentry (endsWord_tailPieces more _), ih hmore⟩

theorem Param.fits_entriesPieces {entries : List Param.Entry}
    (h : ∀ entry ∈ entries, entry.isPlain) : Fits (entriesPieces entries) rest := by
  cases entries with
  | nil => exact ⟨stands_sign (by decide) _, trivial⟩
  | cons entry more =>
      obtain ⟨hentry, hmore⟩ := List.forall_mem_cons.mp h
      exact fits_append_iff.mpr
        ⟨Entry.fits_pieces hentry (endsWord_tailPieces more _), fits_tailPieces hmore⟩

theorem Param.Listing.fits_pieces {list : Param.Listing} (h : list.isPlain) :
    Fits list.pieces rest :=
  ⟨stands_sign (by decide) _, fits_entriesPieces (isPlain_of_mem_entries h)⟩

end Fitting

/-! ## Reading parameter lists -/

namespace Cursor

open Param

/-- The entry that begins with a given type. -/
def entryAfter (variadic : Bool) (first : TypeExpr) (e : Cursor) :
    Except Fault (Entry × e.Within) :=
  if variadic || e.current.is "," || e.current.is ")" || e.current.kind == .newline then
    pure (.bare (variadicType variadic first), ⟨e, left_le e⟩)
  else
    match first with
    | .named none name => do
      let (variadic, ⟨f, hf⟩) := e.eatIf "..."
      let (type, ⟨g, hg⟩) ← parseType f
      pure (.named name (variadicType variadic type), ⟨g, le_of_later (later_trans_within hg hf)⟩)
    | _ => throw e.unexpected

/-- The entries after one, up to the closing parenthesis. -/
def moreEntries (f : Cursor) : Except Fault (List Entry × f.Later) :=
  if let some ⟨g, hg⟩ := f.skipTrivia.eat? "," then do
    let (entries, ⟨h, hh⟩) ← parseEntries g
    return (entries, ⟨h, later_trans hh (later_of_skipTrivia hg)⟩)
  else do
    let ⟨g, hg⟩ ← f.skipTrivia.expect ")"
    return ([], ⟨g, later_of_skipTrivia hg⟩)

private theorem moreEntries_bind {α : Type} (f : Cursor)
    (k : List Entry × f.Later → Except Fault α) :
    f.moreEntries >>= k =
      if let some ⟨g, hg⟩ := f.skipTrivia.eat? "," then
        g.parseEntries >>= fun (entries, ⟨h, hh⟩) =>
          k (entries, ⟨h, later_trans hh (later_of_skipTrivia hg)⟩)
      else
        f.skipTrivia.expect ")" >>= fun ⟨g, hg⟩ => k ([], ⟨g, later_of_skipTrivia hg⟩) := by
  unfold moreEntries
  split <;> rw [bind_assoc] <;> rfl

theorem parseEntries_eq (c : Cursor) :
    c.parseEntries =
      if let some ⟨d, hd⟩ := c.skipTrivia.eat? ")" then
        .ok ([], ⟨d, later_of_skipTrivia hd⟩)
      else do
        let (variadic, ⟨d, hd⟩) := c.skipTrivia.eatIf "..."
        let (first, ⟨e, he⟩) ← parseType d
        let (entry, ⟨f, hf⟩) ← entryAfter variadic first e
        let (entries, ⟨g, hg⟩) ← moreEntries f
        return (entry :: entries, ⟨g, later_trans hg (later_of_within hf
          (later_trans_within he (within_of_skipTrivia hd)))⟩) := by
  rw [parseEntries]
  cases heat : c.skipTrivia.eat? ")" with
  | some d => rfl
  | none =>
      dsimp only
      refine bind_congr fun ⟨first, e, he⟩ => ?_
      unfold entryAfter
      simp only [moreEntries_bind]
      split
      · rfl
      · cases first with
        | named package? name =>
            cases package? with
            | none =>
                dsimp only
                exact (bind_assoc (m := Except Fault) _ _ _).symm
            | some package => rfl
        | _ => rfl

variable {c : Cursor} {line : Nat} {t : Token} {rest : List Token} {type : TypeExpr}

/-- What follows an entry is a comma or the closing parenthesis. -/
def EndsEntry (rest : List Token) : Prop :=
  ∃ t more, rest = t :: more ∧ t.kind = .punct ∧ (t.text = "," ∨ t.text = ")")

theorem EndsEntry.endsType (h : EndsEntry rest) : EndsType rest := by
  obtain ⟨⟨kind, text, pos⟩, more, rfl, rfl, rfl | rfl⟩ := h <;>
    exact ⟨_, _, rfl, rfl, .inl rfl⟩

theorem reads_entryAfter_bare (type : TypeExpr) (h : EndsEntry rest) :
    c.Reads (entryAfter false type (c.jump line rest)) (.bare type) rest := by
  obtain ⟨⟨kind, text, pos⟩, more, rfl, rfl, rfl | rfl⟩ := h <;> exact ⟨line, _, rfl⟩

/-- A type is not the end of an entry. -/
theorem entryAfter_type (first : TypeExpr) (h : type.isPlain) (pos : Position) :
    let e := c.jump line (tokensOf pos type.pieces ++ rest)
    entryAfter false first e =
      match first with
      | .named none name => do
        let (type, ⟨g, hg⟩) ← parseType e
        pure (.named name type, ⟨g, le_of_later hg⟩)
      | _ => throw e.unexpected := by
  obtain ⟨t, more, htokens, -, hbegins⟩ := exists_beginsType h pos
  have hcomma : t.is "," = false := hbegins.is_eq_false (by decide) (by decide)
  have hclosing : t.is ")" = false := hbegins.is_eq_false (by decide) (by decide)
  have hdots : t.is "..." = false := hbegins.is_eq_false (by decide) (by decide)
  have hkind : (t.kind == .newline) = false := by
    rcases hbegins with ⟨hkind, -⟩ | ⟨hkind, -⟩ <;> rw [hkind] <;> rfl
  rw [htokens, List.cons_append]
  have heat := eatIf_eq_false (d := c.jump line (t :: (more ++ rest))) rfl hdots
  dsimp only
  unfold entryAfter
  rw [current_jump, hcomma, hclosing, hkind, heat]
  rfl

theorem reads_entryAfter_named (name : String) (h : type.isPlain) (pos : Position)
    (hrest : EndsEntry rest) :
    c.Reads (entryAfter false (.ofName name) (c.jump line (tokensOf pos type.pieces ++ rest)))
      (.named name type) rest := by
  rw [entryAfter_type _ h]
  exact .bind (reads_parseType h pos hrest.endsType) fun line h => ⟨line, _, rfl⟩

/-- A name before an array is taken for a generic type, with the length as its argument. -/
theorem reads_parseType_generic {name length : String} (hname : isName name)
    (hlength : isDecimal length) (namePos openPos lengthPos closePos : Position) :
    ∃ text, c.Reads (c.jump line (⟨.ident, name, namePos⟩ :: ⟨.punct, "[", openPos⟩ ::
      ⟨.number, length, lengthPos⟩ :: ⟨.punct, "]", closePos⟩ :: rest)).parseType
        (.verbatim text) rest := by
  have hnumber : ∀ text, isDecimal text = false →
      (⟨.number, length, lengthPos⟩ : Token).is text = false :=
    fun text h => is_number_eq_false hlength h lengthPos
  have hleft : (c.jump closePos.line rest).left < (c.jump openPos.line
      (⟨.number, length, lengthPos⟩ :: ⟨.punct, "]", closePos⟩ :: rest)).left := by
    simp only [left, jump, List.length_cons]
    omega
  have hskip : (c.jump openPos.line (⟨.number, length, lengthPos⟩ :: ⟨.punct, "]", closePos⟩ ::
      rest)).skipBalanced "[" "]" 0 = .ok ⟨c.jump closePos.line rest, hleft⟩ := by
    rw [skipBalanced, next?_jump (by simp)]
    dsimp only
    rw [hnumber "[" (by decide), hnumber "]" (by decide), if_neg Bool.false_ne_true,
      if_neg Bool.false_ne_true, skipBalanced, next?_jump (by simp)]
    rfl
  refine ⟨(c.jump line (⟨.ident, name, namePos⟩ :: ⟨.punct, "[", openPos⟩ ::
    ⟨.number, length, lengthPos⟩ :: ⟨.punct, "]", closePos⟩ :: rest)).textUpTo
      (c.jump closePos.line rest), ?_⟩
  have hopening : (⟨.punct, "[", openPos⟩ : Token).kind ≠ .finish := punct_ne_finish
  rw [parseType_of_word hname]
  refine .bind (reads_qualifiedName name namePos rfl) fun line h => ?_
  dsimp only
  rw [ahead_one_jump, hnumber "]" (by decide), if_pos ⟨rfl, rfl⟩, advance_jump hopening]
  dsimp only
  rw [hskip]
  exact ⟨closePos.line, _, rfl⟩

theorem exists_beginsType_entry {entry : Entry} (h : entry.isPlain) (pos : Position) :
    ∃ t more, tokensOf pos entry.pieces = t :: more ∧ BeginsType t := by
  cases entry with
  | named name type => exact ⟨_, _, rfl, .inl ⟨rfl, .inl (Bool.and_eq_true_iff.mp h).1⟩⟩
  | bare type =>
      obtain ⟨t, more, htokens, -, hbegins⟩ := exists_beginsType h pos
      exact ⟨t, more, htokens, hbegins⟩

theorem exists_eq_array (h : type.isArray) : ∃ length element, type = .array length element := by
  cases type with
  | array length element => exact ⟨length, element, rfl⟩
  | _ => cases h

/-- Of an entry a type is read first, and the rest of it says what it was. -/
theorem comes_entry {entry : Entry} (h : entry.isPlain) (pos : Position) (hrest : EndsEntry rest) :
    ∃ first middle,
      c.Reads (c.jump line (tokensOf pos entry.pieces ++ rest)).parseType first middle ∧
      ∀ line, c.Comes (entryAfter false first (c.jump line middle)) entry.isReadable entry rest := by
  cases entry with
  | bare type =>
      exact ⟨type, rest, reads_parseType h pos hrest.endsType, fun line =>
        reads_entryAfter_bare type hrest⟩
  | named name type =>
      obtain ⟨hname, htype⟩ := Bool.and_eq_true_iff.mp h
      let typePos := (pos.after name.toList).after [' ']
      have htokens : tokensOf pos (Entry.named name type).pieces ++ rest =
        ⟨.ident, name, pos⟩ :: (tokensOf typePos type.pieces ++ rest) := rfl
      rw [htokens, Entry.isReadable]
      cases harray : type.isArray with
      | false =>
          have hplain : (TypeExpr.ofName name).isPlain := hname
          have hends : EndsType (tokensOf typePos type.pieces ++ rest) :=
            endsType_pieces htype harray typePos
          exact ⟨.ofName name, _, reads_parseType hplain pos hends, fun line =>
            reads_entryAfter_named name htype typePos hrest⟩
      | true =>
          obtain ⟨length, element, rfl⟩ := exists_eq_array harray
          obtain ⟨hlength, helement⟩ := Bool.and_eq_true_iff.mp htype
          simp only [TypeExpr.pieces, tokensOf_sign, tokensOf_number, List.cons_append]
          obtain ⟨text, hread⟩ := reads_parseType_generic (c := c) hname hlength pos _ _ _
          refine ⟨.verbatim text, _, hread, fun line => ?_⟩
          rw [entryAfter_type _ helement]
          exact ⟨_, rfl⟩

/-- An entry that does not come through makes the list a fault. -/
theorem comes_parseEntries_cons {entry : Entry} (h : entry.isPlain) (pos : Position)
    {middle : List Token} (hmiddle : EndsEntry middle) {good : Bool} {entries : List Entry}
    (hmore : ∀ line, c.Comes (moreEntries (c.jump line middle)) good entries rest) :
    c.Comes (parseEntries (c.jump line (tokensOf pos entry.pieces ++ middle)))
      (entry.isReadable && good) (entry :: entries) rest := by
  obtain ⟨t, more, htokens, hbegins⟩ := exists_beginsType_entry h pos
  have hstart : (c.jump line (tokensOf pos entry.pieces ++ middle)).skipTrivia =
      c.jump line (tokensOf pos entry.pieces ++ middle) := by
    rw [htokens]
    exact skipTrivia_eq_self hbegins.isTrivia_eq_false
  have hcurrent : (c.jump line (tokensOf pos entry.pieces ++ middle)).current = t := by
    rw [htokens]
    rfl
  have hclosing : t.is ")" = false := hbegins.is_eq_false (by decide) (by decide)
  have hdots : t.is "..." = false := hbegins.is_eq_false (by decide) (by decide)
  rw [← hcurrent] at hclosing hdots
  obtain ⟨first, middle, hfirst, hentry⟩ := comes_entry (c := c) h pos hmiddle
  rw [parseEntries_eq, eat?_eq_none hstart hclosing, eatIf_eq_false hstart hdots]
  refine Reads.comes_bind hfirst fun line he => ?_
  refine Comes.bind (hentry line) fun line hf => ?_
  exact Comes.map (hmore line) fun line hg => ⟨line, _, rfl⟩

theorem endsEntry_tailPieces (entries : List Entry) (pos : Position) :
    EndsEntry (tokensOf pos (tailPieces entries) ++ rest) := by
  cases entries with
  | nil => exact ⟨_, _, rfl, rfl, .inr rfl⟩
  | cons entry more => exact ⟨_, _, rfl, rfl, .inl rfl⟩

theorem comes_moreEntries {entries : List Entry} (h : ∀ entry ∈ entries, entry.isPlain)
    (pos : Position) :
    c.Comes (moreEntries (c.jump line (tokensOf pos (tailPieces entries) ++ rest)))
      (entries.all Entry.isReadable) entries rest := by
  induction entries generalizing line pos with
  | nil =>
      rw [tailPieces, tokensOf_sign, tokensOf_nil, List.cons_append, List.nil_append, moreEntries,
        eat?_eq_none (skipTrivia_eq_self rfl) rfl, expect_of_eq (skipTrivia_eq_self rfl) rfl]
      exact ⟨_, _, rfl⟩
  | cons entry entries ih =>
      obtain ⟨hentry, hentries⟩ := List.forall_mem_cons.mp h
      rw [tailPieces, tokensOf_sign, tokensOf_blank, tokensOf_append, List.cons_append,
        List.append_assoc, moreEntries, eat?_of_eq (skipTrivia_eq_self rfl) rfl, List.all_cons]
      refine Comes.map (comes_parseEntries_cons hentry _ (endsEntry_tailPieces entries _)
        fun line => ih hentries _) fun line hh => ?_
      exact ⟨line, _, rfl⟩

theorem comes_parseEntries {entries : List Entry} (h : ∀ entry ∈ entries, entry.isPlain)
    (pos : Position) :
    c.Comes (parseEntries (c.jump line (tokensOf pos (entriesPieces entries) ++ rest)))
      (entries.all Entry.isReadable) entries rest := by
  cases entries with
  | nil =>
      rw [entriesPieces, tokensOf_sign, List.cons_append, parseEntries_eq,
        eat?_of_eq (skipTrivia_eq_self rfl) rfl]
      exact ⟨_, _, rfl⟩
  | cons entry entries =>
      obtain ⟨hentry, hentries⟩ := List.forall_mem_cons.mp h
      rw [entriesPieces, tokensOf_append, List.append_assoc, List.all_cons]
      exact comes_parseEntries_cons hentry _ (endsEntry_tailPieces entries _) fun line =>
        comes_moreEntries hentries _

theorem comes_parseParams {list : Listing} (h : list.isPlain) (pos : Position) :
    c.Comes (parseParams (c.jump line (tokensOf pos list.pieces ++ rest))) list.isReadable
      list.params rest := by
  rw [Listing.pieces, tokensOf_sign, List.cons_append, parseParams, expect_jump rfl, ok_bind,
    ← list.all_isReadable_entries]
  refine Comes.map (comes_parseEntries (list.isPlain_of_mem_entries h) _) fun line he => ?_
  dsimp only
  rw [list.ofEntries?_entries]
  exact ⟨line, _, rfl⟩

end Cursor

end GoSchema.Go
