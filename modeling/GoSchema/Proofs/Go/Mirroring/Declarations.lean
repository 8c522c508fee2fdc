import GoSchema.Proofs.Go.Mirroring.Types

/-!
# Declarations that stand elsewhere

What holds of types holds of the declarations that they stand in, up to their layout: a struct, an
interface, a declaration and a group of them are read in the same way wherever they stand, and only
lines and documentation may differ (`Cut.Same`).  If documentation is to be the same, only lines do.

A struct is read line by line (`readsFields_iff`).
-/

namespace GoSchema.Go.Cursor

/-! ## Lines of a struct -/

/-- The next line of a struct declares some fields, and reading goes on behind them and the comment
on their line. -/
structure DeclaresFields (c : Cursor) (fields : List Field) (d : Cursor) : Prop where
  opened : c.skipTrivia.eat? Token.closeBrace = none
  more : c.skipTrivia.isAtEnd = false
  reads : ∃ (e : Cursor) (he : e.left < c.skipTrivia.forget.left),
    c.skipTrivia.forget.parseFieldLine (c.skipTrivia.docs c.skipTrivia.current.pos.line) =
      .ok (fields, ⟨e, he⟩) ∧ endsField e.skipTrailingComment.current ∧ e.skipTrailingComment = d

/-- The rest of a struct is read: there are some fields more, and then its end. -/
def ReadsFields (c : Cursor) (fields : List Field) (e : Cursor) : Prop :=
  ∃ h, c.parseFields = .ok (fields, ⟨e, h⟩)

section Lines

variable {c d d' e : Cursor} {fields fields' : List Field}

theorem DeclaresFields.left_lt (h : c.DeclaresFields fields d) : d.left < c.left := by
  obtain ⟨-, -, e, he, -, -, rfl⟩ := h
  exact skipTrailingComment_later he

theorem DeclaresFields.unique (h : c.DeclaresFields fields d) (h' : c.DeclaresFields fields' d') :
    fields = fields' ∧ d = d' := by
  obtain ⟨-, -, e, he, hread, -, rfl⟩ := h
  obtain ⟨-, -, e', he', hread', -, rfl⟩ := h'
  rw [hread] at hread'
  cases hread'
  exact ⟨rfl, rfl⟩

/-- The rest of a struct is its end, or a line and the rest after it. -/
theorem readsFields_iff : c.ReadsFields fields e ↔
    (fields = [] ∧ ∃ h, c.skipTrivia.eat? Token.closeBrace = some ⟨e, h⟩) ∨
      ∃ line d more, c.DeclaresFields line d ∧ d.ReadsFields more e ∧ fields = line ++ more := by
  rw [ReadsFields, parseFields]
  dsimp only
  constructor
  · rintro ⟨hleft, hread⟩
    cases hclosing : c.skipTrivia.eat? Token.closeBrace with
    | some r =>
        obtain ⟨r, hr⟩ := r
        rw [hclosing] at hread
        cases hread
        exact .inl ⟨rfl, hr, rfl⟩
    | none =>
        rw [hclosing] at hread
        dsimp only at hread
        split at hread
        · cases hread
        · next hend =>
          obtain ⟨⟨line, r, hr⟩, hline, hread⟩ := ok_of_bind_iff.mp hread
          dsimp only at hread
          split at hread
          · cases hread
          · next hended =>
            obtain ⟨⟨more, q, hq⟩, hmore, hread⟩ := ok_of_bind_iff.mp hread
            cases hread
            rw [Bool.not_eq_true] at hend
            rw [Bool.not_eq_true', Bool.not_eq_false] at hended
            exact .inr ⟨line, _, more, ⟨hclosing, hend, r, hr, hline, hended, rfl⟩, ⟨hq, hmore⟩, rfl⟩
  · rintro (⟨rfl, h, hclosing⟩ | ⟨line, d, more, ⟨hopened, hend, r, hr, hline, hended, rfl⟩, hmore, rfl⟩)
    · rw [hclosing]
      exact ⟨later_of_skipTrivia h, rfl⟩
    · obtain ⟨hq, hmore⟩ := hmore
      rw [hopened]
      dsimp only
      rw [hend, if_neg Bool.false_ne_true, hline, ok_bind]
      dsimp only
      rw [hended, Bool.not_true, if_neg Bool.false_ne_true]
      rw [hmore, ok_bind]
      exact ⟨later_of_skipTrailingComment hq (skipTrailingComment_later hr), rfl⟩

theorem DeclaresFields.readsFields_iff (h : c.DeclaresFields fields d) {all : List Field} :
    c.ReadsFields all e ↔ ∃ more, d.ReadsFields more e ∧ all = fields ++ more := by
  rw [Cursor.readsFields_iff]
  constructor
  · rintro (⟨-, hleft, hclosing⟩ | ⟨line, d', more, hline, hmore, rfl⟩)
    · rw [h.opened] at hclosing
      cases hclosing
    · obtain ⟨rfl, rfl⟩ := h.unique hline
      exact ⟨more, hmore, rfl⟩
  · rintro ⟨more, hmore, rfl⟩
    exact .inr ⟨fields, d, more, h, hmore, rfl⟩

end Lines

/-! ## What is read of the two texts -/

section Same

variable {s : Cut} {α β : Type}

/-- Two things that are read of the two texts are the same up to layout, or up to lines if
documentation is to be the same as well. -/
structure Cut.Same (s : Cut) (erase : α → α) (down : Nat → α → α) (a b : α) : Prop where
  eraseLayout_eq : erase b = erase a
  eq_down (h : s.documented) : b = down s.lines a

/-- Fields of the two texts that are the same. -/
abbrev Cut.SameFields (s : Cut) : List Field → List Field → Prop :=
  s.Same (List.map Field.eraseLayout) fun n => List.map (Field.down n)

/-- Declarations of the two texts that are the same. -/
abbrev Cut.SameDeclarations (s : Cut) : List Declaration → List Declaration → Prop :=
  s.Same (List.map Declaration.eraseLayout) fun n => List.map (Declaration.down n)

variable {erase : α → α} {down : Nat → α → α}

/-- What is made of things that are the same. -/
theorem Cut.Same.map {erase' : β → β} {down' : Nat → β → β} {f g : α → β}
    (herase : ∀ a, erase' (f a) = g (erase a)) (hdown : ∀ n a, down' n (f a) = f (down n a))
    {a b : α} (h : s.Same erase down a b) : s.Same erase' down' (f a) (f b) := by
  constructor
  · rw [herase, herase, h.eraseLayout_eq]
  · intro hdocs
    rw [hdown, ← h.eq_down hdocs]

theorem Cut.Same.append {as as' bs bs' : List α}
    (h : s.Same (List.map erase) (fun n => List.map (down n)) as as')
    (hmore : s.Same (List.map erase) (fun n => List.map (down n)) bs bs') :
    s.Same (List.map erase) (fun n => List.map (down n)) (as ++ bs) (as' ++ bs') := by
  constructor
  · rw [List.map_append, List.map_append, h.eraseLayout_eq, hmore.eraseLayout_eq]
  · intro hdocs
    rw [List.map_append, ← h.eq_down hdocs, ← hmore.eq_down hdocs]

theorem Cut.Same.toList {a? b? : Option α}
    (h : s.Same (Option.map erase) (fun n => Option.map (down n)) a? b?) :
    s.Same (List.map erase) (fun n => List.map (down n)) a?.toList b?.toList := by
  refine h.map (g := Option.toList) (fun a? => ?_) fun n a? => ?_
  · cases a? <;> rfl
  · cases a? <;> rfl

theorem Cut.Same.map_cons {a b : α} {as? bs? : Option (List α)}
    (h : s.Same (Option.map erase) (fun n => Option.map (down n)) (some a) (some b))
    (hmore : s.Same (Option.map (List.map erase)) (fun n => Option.map (List.map (down n))) as? bs?) :
    s.Same (Option.map (List.map erase)) (fun n => Option.map (List.map (down n)))
      (as?.map (a :: ·)) (bs?.map (b :: ·)) := by
  have hcons (f : α → α) (a : α) (as? : Option (List α)) :
      (as?.map (a :: ·)).map (List.map f) = (as?.map (List.map f)).map (f a :: ·) := by
    cases as? <;> rfl
  constructor
  · rw [hcons, hcons, Option.some.inj h.eraseLayout_eq, hmore.eraseLayout_eq]
  · intro hdocs
    rw [hcons, ← hmore.eq_down hdocs, Option.some.inj (h.eq_down hdocs)]

/-- Declarations of one name are the same if their types are. -/
theorem Cut.Same.declared {kind? kind?' : Option Declaration.Kind}
    (h : s.Same (Option.map Declaration.Kind.eraseLayout)
      (fun n => Option.map (Declaration.Kind.down n)) kind? kind?')
    {file docs docs' : String} (hdocs : s.documented → docs' = docs) (name : Token) :
    s.Same (Option.map Declaration.eraseLayout) (fun n => Option.map (Declaration.down n))
      (kind?.map fun kind => ⟨name.text, docs, file, name.pos, kind⟩)
      (kind?'.map fun kind => ⟨name.text, docs', file, name.pos.down s.lines, kind⟩) := by
  have herase (docs : String) (pos : Position) (kind? : Option Declaration.Kind) :
      (kind?.map fun kind => Declaration.mk name.text docs file pos kind).map
          Declaration.eraseLayout =
        (kind?.map Declaration.Kind.eraseLayout).map
          fun kind => ⟨name.text, "", file, pos.eraseLine, kind⟩ := by
    cases kind? <;> rfl
  constructor
  · rw [herase, herase, h.eraseLayout_eq]
    rfl
  · intro hdocumented
    rw [h.eq_down hdocumented, hdocs hdocumented]
    cases kind? <;> rfl

end Same

/-- What is passed over before an item ends in front of something that is read. -/
theorem isLayout_current_skipTrivia (c : Cursor) : c.skipTrivia.current.isLayout = false := by
  fun_induction skipTrivia c with
  | case1 c hrest =>
      rw [current, ahead, hrest]
      rfl
  | case2 _ _ _ _ _ _ ih => exact ih
  | case3 _ _ _ _ _ _ _ ih => exact ih
  | case4 c t rest hrest _ hkind hskipped =>
      rw [current_of_rest hrest, Token.isLayout, beq_false_of_ne hkind,
        beq_false_of_ne fun hnewline => hskipped (.inl hnewline)]
      rfl

namespace Cut.Mirrors

variable {s : Cut} {c d e f : Cursor} {file : String}

/-! ## Structs -/

theorem parseTag (h : s.Mirrors c d) {tag : Tag} {hleft : e.left ≤ c.left}
    (hread : c.parseTag = (tag, ⟨e, hleft⟩)) (he : s.first.length < e.left) :
    ∃ f hf, d.parseTag = (tag, ⟨f, hf⟩) ∧ s.Mirrors e f := by
  unfold Cursor.parseTag at hread ⊢
  cases hnext : c.next? with
  | none =>
      rw [hnext] at hread
      cases hread
      rw [h.next?_eq_none hnext]
      exact ⟨_, _, rfl, h⟩
  | some r =>
      obtain ⟨t, r, hr⟩ := r
      rw [hnext] at hread
      obtain ⟨u, r', hr', hnext', hu, hrr'⟩ := h.next? hnext
      rw [hnext']
      dsimp only at hread ⊢
      rw [hu.kind_eq]
      split at hread
      · next hkind =>
        cases hread
        rw [if_pos hkind, hu.text_eq (by rw [hkind]; decide)]
        exact ⟨_, _, rfl, hrr' he⟩
      · next hkind =>
        cases hread
        rw [if_neg hkind]
        exact ⟨_, _, rfl, h⟩

theorem parseNames {c d e : Cursor} (h : s.Mirrors c d) {names : List Token}
    {hleft : e.left < c.left} (hread : c.parseNames = .ok (names, ⟨e, hleft⟩))
    (he : s.first.length < e.left) :
    ∃ f hf, d.parseNames = .ok (names.map (Token.down s.lines), ⟨f, hf⟩) ∧ s.Mirrors e f := by
  rw [Cursor.parseNames] at hread ⊢
  obtain ⟨⟨name, r, hr⟩, hname, hread⟩ := ok_of_bind_iff.mp hread
  dsimp only at hread
  cases hcomma : r.eat? "," with
  | none =>
      rw [hcomma] at hread
      cases hread
      obtain ⟨f, hf, hname', hef⟩ := h.expectIdent hname he
      rw [hname', ok_bind]
      dsimp only
      rw [hef.eat?_eq_none hcomma]
      exact ⟨_, _, rfl, hef⟩
  | some q =>
      obtain ⟨q, hq⟩ := q
      rw [hcomma] at hread
      dsimp only at hread
      have hskip := q.left_skipTrivia_le
      obtain ⟨⟨more, p, hp⟩, hmore, hread⟩ := ok_of_bind_iff.mp hread
      cases hread
      have he : s.first.length < p.left := he
      obtain ⟨r', hr', hname', hrr'⟩ := h.expectIdent hname (by omega)
      obtain ⟨q', hq', hcomma', hqq'⟩ := hrr'.eat? hcomma (by omega)
      obtain ⟨f, hf, hmore', hef⟩ := parseNames (hqq'.skipTrivia (by omega)) hmore he
      simp only [hname', hcomma', hmore', ok_bind]
      have hskip := q'.left_skipTrivia_le
      exact ⟨f, by omega, rfl, hef⟩
termination_by c.left

theorem beginsEmbedded (h : s.Mirrors c d) : d.beginsEmbedded = c.beginsEmbedded := by
  unfold Cursor.beginsEmbedded
  rw [h.current.is_eq, h.current.kind_eq]
  cases hkind : c.current.kind == .ident with
  | false => rfl
  | true =>
      have hstop : c.current ≠ s.stop := by
        intro heq
        rw [heq] at hkind
        exact s.kind_stop_ne (by decide) (by decide) (beq_iff_eq.mp hkind)
      rw [(h.ahead_one hstop).is_eq, (h.ahead_one hstop).endsField_eq]

theorem parseFieldLine (h : s.Mirrors c d) (hc : c.current.isLayout = false) {docs docs' : String}
    (hdocs : s.documented → docs' = docs) {fields : List Field} {hleft : e.left < c.left}
    (hread : c.parseFieldLine docs = .ok (fields, ⟨e, hleft⟩)) (he : s.first.length < e.left) :
    ∃ fields' f hf, d.parseFieldLine docs' = .ok (fields', ⟨f, hf⟩) ∧
      s.SameFields fields fields' ∧ s.Mirrors e f := by
  unfold Cursor.parseFieldLine at hread ⊢
  rw [h.beginsEmbedded, h.current.eq_down hc]
  split at hread
  · next hembedded =>
    rw [if_pos hembedded]
    obtain ⟨⟨type, r, hr⟩, htype, hread⟩ := ok_of_bind_iff.mp hread
    dsimp only at hread
    rcases htag : r.parseTag with ⟨tag, q, hq⟩
    rw [htag] at hread
    cases hread
    obtain ⟨r', hr', htype', hrr'⟩ := h.parseType htype (Nat.lt_of_lt_of_le he hq)
    obtain ⟨f, hf, htag', hef⟩ := hrr'.parseTag htag he
    rw [htype', ok_bind]
    dsimp only
    rw [htag']
    refine ⟨_, _, _, rfl, ⟨rfl, fun hdocumented => ?_⟩, hef⟩
    rw [hdocs hdocumented]
    rfl
  · next hembedded =>
    rw [if_neg hembedded]
    obtain ⟨⟨names, r, hr⟩, hnames, hread⟩ := ok_of_bind_iff.mp hread
    dsimp only at hread
    obtain ⟨⟨type, q, hq⟩, htype, hread⟩ := ok_of_bind_iff.mp hread
    dsimp only at hread
    rcases htag : q.parseTag with ⟨tag, p, hp⟩
    rw [htag] at hread
    cases hread
    have hlt := Nat.lt_of_lt_of_le he hp
    obtain ⟨r', hr', hnames', hrr'⟩ := h.parseNames hnames (Nat.lt_trans hlt hq)
    obtain ⟨q', hq', htype', hqq'⟩ := hrr'.parseType htype hlt
    obtain ⟨f, hf, htag', hef⟩ := hqq'.parseTag htag he
    simp only [hnames', htype', htag', ok_bind]
    refine ⟨_, f, by omega, rfl, ⟨?_, fun hdocumented => ?_⟩, hef⟩
    · rw [List.map_map, List.map_map, List.map_map]
      rfl
    · rw [List.map_map, List.map_map, hdocs hdocumented]
      rfl

/-- A line is read in the same way also if other comments were passed before, unless they make a
difference to its documentation. -/
theorem declaresFields_of_docs (h : s.undocumented.Mirrors c d) {fields : List Field}
    (hdocs : s.documented → d.skipTrivia.docs (c.skipTrivia.current.pos.line + s.lines) =
      c.skipTrivia.docs c.skipTrivia.current.pos.line)
    (hline : c.DeclaresFields fields e) (he : s.first.length < e.left) :
    ∃ fields' f, d.DeclaresFields fields' f ∧ s.SameFields fields fields' ∧ s.Mirrors e f := by
  obtain ⟨hopened, hend, r, hr, hread, hended, rfl⟩ := hline
  have hlt : s.first.length < r.left := Nat.lt_of_lt_of_le he r.left_skipTrailingComment_le
  have hskip := h.skipTrivia (Nat.lt_trans hlt hr)
  have hdocs' (hdocumented : s.documented) : d.skipTrivia.docs d.skipTrivia.current.pos.line =
      c.skipTrivia.docs c.skipTrivia.current.pos.line := by
    rw [hskip.current.line_eq]
    exact hdocs hdocumented
  obtain ⟨fields', r', hr', hread', hsame, hrr'⟩ := hskip.forget_of_undocumented.parseFieldLine
    c.isLayout_current_skipTrivia hdocs' hread hlt
  refine ⟨fields', _, ⟨hskip.eat?_eq_none hopened, ?_, r', hr', hread', ?_, rfl⟩, hsame,
    hrr'.skipTrailingComment⟩
  · rw [hskip.isAtEnd, hend]
  · rw [hrr'.skipTrailingComment.current.endsField_eq, hended]

theorem declaresFields (h : s.Mirrors c d) {fields : List Field}
    (hline : c.DeclaresFields fields e) (he : s.first.length < e.left) :
    ∃ fields' f, d.DeclaresFields fields' f ∧ s.SameFields fields fields' ∧ s.Mirrors e f := by
  refine h.undocumented.declaresFields_of_docs (fun hdocumented => ?_) hline he
  refine (h.skipTrivia ?_).docs hdocumented _
  obtain ⟨-, -, r, hr, -, -, rfl⟩ := hline
  exact Nat.lt_trans (Nat.lt_of_lt_of_le he r.left_skipTrailingComment_le) hr

theorem readsFields {c d e : Cursor} (h : s.Mirrors c d) {fields : List Field}
    (hread : c.ReadsFields fields e) (he : s.first.length < e.left) :
    ∃ fields' f, d.ReadsFields fields' f ∧ s.SameFields fields fields' ∧ s.Mirrors e f := by
  rcases readsFields_iff.mp hread with
    ⟨rfl, hr, hclosing⟩ | ⟨line, r, more, hline, hmore, rfl⟩
  · obtain ⟨f, hf, hclosing', hef⟩ := (h.skipTrivia (Nat.lt_trans he hr)).eat? hclosing he
    exact ⟨[], f, readsFields_iff.mpr (.inl ⟨rfl, hf, hclosing'⟩), ⟨rfl, fun _ => rfl⟩, hef⟩
  · have hlt : c.left > r.left := hline.left_lt
    have hle : e.left < r.left := hmore.1
    obtain ⟨line', r', hline', hsame, hrr'⟩ := h.declaresFields hline (Nat.lt_trans he hle)
    obtain ⟨more', f, hmore', hsame', hef⟩ := readsFields hrr' hmore he
    exact ⟨_, f, hline'.readsFields_iff.mpr ⟨more', hmore', rfl⟩, hsame.append hsame', hef⟩
termination_by c.left

/-- The rest of a struct is read in the same way also if other comments were passed before, unless
they make a difference to the documentation of its next line. -/
theorem readsFields_of_docs (h : s.undocumented.Mirrors c d) {fields : List Field}
    (hdocs : s.documented → d.skipTrivia.docs (c.skipTrivia.current.pos.line + s.lines) =
      c.skipTrivia.docs c.skipTrivia.current.pos.line)
    (hread : c.ReadsFields fields e) (he : s.first.length < e.left) :
    ∃ fields' f, d.ReadsFields fields' f ∧ s.SameFields fields fields' ∧
      s.undocumented.Mirrors e f := by
  rcases readsFields_iff.mp hread with
    ⟨rfl, hr, hclosing⟩ | ⟨line, r, more, hline, hmore, rfl⟩
  · obtain ⟨f, hf, hclosing', hef⟩ := (h.skipTrivia (Nat.lt_trans he hr)).eat? hclosing he
    exact ⟨[], f, readsFields_iff.mpr (.inl ⟨rfl, hf, hclosing'⟩), ⟨rfl, fun _ => rfl⟩, hef⟩
  · have hle : e.left < r.left := hmore.1
    obtain ⟨line', r', hline', hsame, hrr'⟩ :=
      h.declaresFields_of_docs hdocs hline (Nat.lt_trans he hle)
    obtain ⟨more', f, hmore', hsame', hef⟩ := hrr'.readsFields hmore he
    exact ⟨_, f, hline'.readsFields_iff.mpr ⟨more', hmore', rfl⟩, hsame.append hsame',
      hef.undocumented⟩

theorem parseStruct (h : s.Mirrors c d) {fields : List Field} {hleft : e.left < c.left}
    (hread : c.parseStruct = .ok (fields, ⟨e, hleft⟩)) (he : s.first.length < e.left) :
    ∃ fields' f hf, d.parseStruct = .ok (fields', ⟨f, hf⟩) ∧ s.SameFields fields fields' ∧
      s.Mirrors e f := by
  unfold Cursor.parseStruct at hread ⊢
  obtain ⟨⟨r, hr⟩, hopening, hread⟩ := ok_of_bind_iff.mp hread
  dsimp only at hread
  obtain ⟨⟨fields, q, hq⟩, hfields, hread⟩ := ok_of_bind_iff.mp hread
  cases hread
  obtain ⟨r', hr', hopening', hrr'⟩ := h.expect hopening (Nat.lt_trans he hq)
  obtain ⟨fields', f, ⟨hf, hfields'⟩, hsame, hef⟩ := hrr'.forget.readsFields ⟨hq, hfields⟩ he
  rw [hopening', ok_bind]
  dsimp only
  rw [hfields', ok_bind]
  exact ⟨_, _, _, rfl, hsame, hef⟩

/-! ## Interfaces -/

theorem parseMember (h : s.Mirrors c d) (hc : c.current.isLayout = false) {docs docs' : String}
    (hdocs : s.documented → docs' = docs) {member? : Option Member} {hleft : e.left < c.left}
    (hread : c.parseMember docs = .ok (member?, ⟨e, hleft⟩)) (he : s.first.length < e.left) :
    ∃ member?' f hf, d.parseMember docs' = .ok (member?', ⟨f, hf⟩) ∧
      s.Same (Option.map Member.eraseLayout) (fun n => Option.map (Member.down n)) member? member?' ∧
      s.Mirrors e f := by
  have hmethod : (d.current.kind = .ident ∧ (d.ahead 1).is "(") ↔
      (c.current.kind = .ident ∧ (c.ahead 1).is "(") := by
    rw [h.current.kind_eq]
    refine and_congr_right fun hkind => ?_
    have hstop : c.current ≠ s.stop := by
      intro heq
      rw [heq] at hkind
      exact s.kind_stop_ne (by decide) (by decide) hkind
    rw [(h.ahead_one hstop).is_eq]
  unfold Cursor.parseMember at hread ⊢
  split at hread
  · next hhead =>
    rw [if_pos (hmethod.mpr hhead)]
    obtain ⟨⟨name, r, hr⟩, hname, hread⟩ := ok_of_bind_iff.mp hread
    dsimp only at hread
    obtain ⟨⟨params, q, hq⟩, hparams, hread⟩ := ok_of_bind_iff.mp hread
    dsimp only at hread
    obtain ⟨⟨results, p, hp⟩, hresults, hread⟩ := ok_of_bind_iff.mp hread
    cases hread
    have hlt := Nat.lt_of_lt_of_le he hp
    obtain ⟨r', hr', hname', hrr'⟩ := h.expectIdent hname (Nat.lt_trans hlt hq)
    obtain ⟨q', hq', hparams', hqq'⟩ := hrr'.parseParams hparams hlt
    obtain ⟨f, hf, hresults', hef⟩ := hqq'.parseResults hresults he
    simp only [hname', hparams', hresults', ok_bind]
    refine ⟨_, f, by omega, rfl, ⟨rfl, fun hdocumented => ?_⟩, hef⟩
    rw [hdocs hdocumented]
    rfl
  · next hhead =>
    rw [if_neg (hmethod.not.mpr hhead), h.current.eq_down hc]
    split at hread
    · next hset =>
      obtain ⟨⟨r, hr⟩, hpass, hread⟩ := ok_of_bind_iff.mp hread
      cases hread
      obtain ⟨f, hf, hpass', hef⟩ := h.skipBalanced hpass he
      rw [if_pos (show (c.current.down s.lines).is "~" from hset), hpass', ok_bind]
      exact ⟨_, _, _, rfl, ⟨rfl, fun _ => rfl⟩, hef⟩
    · next hset =>
      rw [if_neg (show ¬(c.current.down s.lines).is "~" from hset)]
      obtain ⟨⟨type, r, hr⟩, htype, hread⟩ := ok_of_bind_iff.mp hread
      dsimp only at hread
      split at hread
      · next hunion =>
        obtain ⟨⟨q, hq⟩, hpass, hread⟩ := ok_of_bind_iff.mp hread
        cases hread
        obtain ⟨r', hr', htype', hrr'⟩ := h.parseType htype (Nat.lt_trans he hq)
        obtain ⟨f, hf, hpass', hef⟩ := hrr'.skipBalanced hpass he
        rw [htype', ok_bind]
        dsimp only
        rw [hrr'.current.is_eq, if_pos hunion, hpass', ok_bind]
        exact ⟨_, _, _, rfl, ⟨rfl, fun _ => rfl⟩, hef⟩
      · next hunion =>
        cases hread
        obtain ⟨f, hf, htype', hef⟩ := h.parseType htype he
        rw [htype', ok_bind]
        dsimp only
        rw [hef.current.is_eq, if_neg hunion]
        refine ⟨_, f, hf, rfl, ⟨rfl, fun hdocumented => ?_⟩, hef⟩
        rw [hdocs hdocumented]
        rfl

theorem parseMembers {c d e : Cursor} (h : s.Mirrors c d) {members? : Option (List Member)}
    {hleft : e.left < c.left} (hread : c.parseMembers = .ok (members?, ⟨e, hleft⟩))
    (he : s.first.length < e.left) :
    ∃ members?' f hf, d.parseMembers = .ok (members?', ⟨f, hf⟩) ∧
      s.Same (Option.map (List.map Member.eraseLayout))
        (fun n => Option.map (List.map (Member.down n))) members? members?' ∧
      s.Mirrors e f := by
  have hskip := c.left_skipTrivia_le
  rw [Cursor.parseMembers] at hread ⊢
  dsimp only at hread ⊢
  cases hclosing : c.skipTrivia.eat? Token.closeBrace with
  | some r =>
      obtain ⟨r, hr⟩ := r
      rw [hclosing] at hread
      cases hread
      obtain ⟨f, hf, hclosing', hef⟩ := (h.skipTrivia (Nat.lt_trans he hr)).eat? hclosing he
      rw [hclosing']
      exact ⟨_, _, _, rfl, ⟨rfl, fun _ => rfl⟩, hef⟩
  | none =>
      rw [hclosing] at hread
      dsimp only at hread
      split at hread
      · cases hread
      · next hend =>
        obtain ⟨⟨member?, r, hr⟩, hmember, hread⟩ := ok_of_bind_iff.mp hread
        have hr : r.left < c.skipTrivia.left := hr
        have htrail := r.left_skipTrailingComment_le
        have hread' (hlt : s.first.length < r.left) := by
          have hskip' := h.skipTrivia (Nat.lt_trans hlt hr)
          exact hskip'.forget.parseMember c.isLayout_current_skipTrivia hskip'.docs_current hmember
            hlt
        dsimp only at hread
        cases member? with
        | none =>
            cases hread
            have hskip' := h.skipTrivia (Nat.lt_trans he hr)
            obtain ⟨member?', f, hf, hmember', hsame, hef⟩ := hread' he
            cases member?' with
            | some member' => cases hsame.eraseLayout_eq
            | none =>
                rw [hskip'.eat?_eq_none hclosing]
                dsimp only
                rw [hskip'.isAtEnd, if_neg hend, hmember', ok_bind]
                exact ⟨_, _, _, rfl, ⟨rfl, fun _ => rfl⟩, hef⟩
        | some member =>
            dsimp only at hread
            split at hread
            · cases hread
            · next hended =>
              obtain ⟨⟨more, q, hq⟩, hmore, hread⟩ := ok_of_bind_iff.mp hread
              cases hread
              have he : s.first.length < q.left := he
              have hskip' := h.skipTrivia (by omega)
              obtain ⟨member?', r', hr', hmember', hsame, hrr'⟩ := hread' (by omega)
              obtain ⟨more', f, hf, hmore', hsame', hef⟩ :=
                parseMembers hrr'.skipTrailingComment hmore he
              cases member?' with
              | none => cases hsame.eraseLayout_eq
              | some member' =>
                  rw [hskip'.eat?_eq_none hclosing]
                  dsimp only
                  rw [hskip'.isAtEnd, if_neg hend, hmember', ok_bind]
                  dsimp only
                  rw [hrr'.skipTrailingComment.current.endsMember_eq, if_neg hended, hmore', ok_bind]
                  exact ⟨_, _, _, rfl, hsame.map_cons hsame', hef⟩
termination_by c.left

theorem parseInterface (h : s.Mirrors c d) {members? : Option (List Member)}
    {hleft : e.left < c.left} (hread : c.parseInterface = .ok (members?, ⟨e, hleft⟩))
    (he : s.first.length < e.left) :
    ∃ members?' f hf, d.parseInterface = .ok (members?', ⟨f, hf⟩) ∧
      s.Same (Option.map (List.map Member.eraseLayout))
        (fun n => Option.map (List.map (Member.down n))) members? members?' ∧
      s.Mirrors e f := by
  unfold Cursor.parseInterface at hread ⊢
  obtain ⟨⟨r, hr⟩, hopening, hread⟩ := ok_of_bind_iff.mp hread
  dsimp only at hread
  obtain ⟨⟨members, q, hq⟩, hmembers, hread⟩ := ok_of_bind_iff.mp hread
  cases hread
  obtain ⟨r', hr', hopening', hrr'⟩ := h.expect hopening (Nat.lt_trans he hq)
  obtain ⟨members', f, hf, hmembers', heq, hef⟩ := hrr'.forget.parseMembers hmembers he
  rw [hopening', ok_bind]
  dsimp only
  rw [hmembers', ok_bind]
  exact ⟨_, _, _, rfl, heq, hef⟩

/-! ## Type declarations -/

theorem beginsTypeParams (h : s.Mirrors c d) : d.beginsTypeParams = c.beginsTypeParams := by
  unfold Cursor.beginsTypeParams
  dsimp only
  rw [h.current.is_eq]
  cases hopening : c.current.is "[" with
  | false => rfl
  | true =>
      have hstop := s.ne_stop_of_is hopening (by decide) (by decide)
      rw [(h.ahead_one hstop).kind_eq]
      cases hkind : (c.ahead 1).kind == .ident with
      | false => rfl
      | true =>
          have hnext : c.ahead 1 ≠ s.stop := by
            intro heq
            rw [heq] at hkind
            exact s.kind_stop_ne (by decide) (by decide) (beq_iff_eq.mp hkind)
          rw [(h.ahead_two hstop hnext).kind_eq, (h.ahead_two hstop hnext).is_eq]

theorem parseKind (h : s.Mirrors c d) {kind? : Option Declaration.Kind} {hleft : e.left < c.left}
    (hread : c.parseKind = .ok (kind?, ⟨e, hleft⟩)) (he : s.first.length < e.left) :
    ∃ kind?' f hf, d.parseKind = .ok (kind?', ⟨f, hf⟩) ∧
      s.Same (Option.map Declaration.Kind.eraseLayout)
        (fun n => Option.map (Declaration.Kind.down n)) kind? kind?' ∧
      s.Mirrors e f := by
  unfold Cursor.parseKind at hread ⊢
  cases hstruct : c.eat? "struct" with
  | some r =>
      obtain ⟨r, hr⟩ := r
      rw [hstruct] at hread
      obtain ⟨⟨fields, q, hq⟩, hfields, hread⟩ := ok_of_bind_iff.mp hread
      cases hread
      obtain ⟨r', hr', hstruct', hrr'⟩ := h.eat? hstruct (Nat.lt_trans he hq)
      obtain ⟨fields', f, hf, hfields', hsame, hef⟩ := hrr'.parseStruct hfields he
      rw [hstruct']
      dsimp only
      rw [hfields', ok_bind]
      refine ⟨_, _, _, rfl, ⟨?_, fun hdocumented => ?_⟩, hef⟩
      · simp only [Option.map_some, Declaration.Kind.eraseLayout, hsame.eraseLayout_eq]
      · rw [hsame.eq_down hdocumented]
        rfl
  | none =>
  rw [hstruct] at hread
  rw [h.eat?_eq_none hstruct]
  dsimp only at hread ⊢
  cases hinterface : c.eat? "interface" with
  | some r =>
      obtain ⟨r, hr⟩ := r
      rw [hinterface] at hread
      obtain ⟨⟨members, q, hq⟩, hmembers, hread⟩ := ok_of_bind_iff.mp hread
      cases hread
      obtain ⟨r', hr', hinterface', hrr'⟩ := h.eat? hinterface (Nat.lt_trans he hq)
      obtain ⟨members', f, hf, hmembers', hsame, hef⟩ := hrr'.parseInterface hmembers he
      rw [hinterface']
      dsimp only
      rw [hmembers', ok_bind]
      refine ⟨_, _, _, rfl, ?_, hef⟩
      refine hsame.map (g := Option.map .contract) (fun members? => ?_) fun n members? => ?_
      · cases members? <;> rfl
      · cases members? <;> rfl
  | none =>
      rw [hinterface] at hread
      rw [h.eat?_eq_none hinterface]
      obtain ⟨⟨type, q, hq⟩, htype, hread⟩ := ok_of_bind_iff.mp hread
      cases hread
      obtain ⟨f, hf, htype', hef⟩ := h.parseType htype he
      dsimp only
      rw [htype', ok_bind]
      exact ⟨_, _, _, rfl, ⟨rfl, fun _ => rfl⟩, hef⟩

theorem parseDeclaration (h : s.Mirrors c d) {docs docs' : String}
    (hdocs : s.documented → docs' = docs) {declaration? : Option Declaration}
    {hleft : e.left < c.left}
    (hread : (c.parseDeclaration file docs).value = .ok (declaration?, ⟨e, hleft⟩))
    (he : s.first.length < e.left) :
    ∃ declaration?' f hf, (d.parseDeclaration file docs').value = .ok (declaration?', ⟨f, hf⟩) ∧
      s.Same (Option.map Declaration.eraseLayout) (fun n => Option.map (Declaration.down n))
        declaration? declaration?' ∧
      s.Mirrors e f := by
  rw [value_parseDeclaration_eq] at hread ⊢
  obtain ⟨⟨name, r, hr⟩, hname, hread⟩ := ok_of_bind_iff.mp hread
  dsimp only at hread
  split at hread
  · next hgeneric =>
    rcases hadvance : r.advance with ⟨q, hq⟩
    rw [hadvance] at hread
    dsimp only at hread
    obtain ⟨⟨p, hp⟩, hpass, hread⟩ := ok_of_bind_iff.mp hread
    cases hread
    have hlt : s.first.length < p.left := Nat.lt_of_lt_of_le he (p.skipStatement 0).2
    obtain ⟨r', hr', hname', hrr'⟩ := h.expectIdent hname (by omega)
    have hqq' := hrr'.advance (by rw [hadvance]; exact Nat.lt_trans hlt hp)
    rw [hadvance] at hqq'
    obtain ⟨p', hp', hpass', hpp'⟩ := hqq'.skipBalanced hpass hlt
    rw [hname', ok_bind]
    dsimp only
    rw [hrr'.beginsTypeParams, if_pos hgeneric, hpass', ok_bind]
    exact ⟨_, _, _, rfl, ⟨rfl, fun _ => rfl⟩, hpp'.skipStatement he⟩
  · next hgeneric =>
    rcases hif : r.eatIf "=" with ⟨assigned, q, hq⟩
    rw [hif] at hread
    dsimp only at hread
    obtain ⟨⟨kind?, p, hp⟩, hkind, hread⟩ := ok_of_bind_iff.mp hread
    cases hread
    have he : s.first.length < p.left := he
    obtain ⟨r', hr', hname', hrr'⟩ := h.expectIdent hname (by omega)
    obtain ⟨q', hq', hif', hqq'⟩ := hrr'.eatIf hif (by omega)
    obtain ⟨kind?', p', hp', hkind', hsame, hpp'⟩ := hqq'.parseKind hkind he
    rw [hname', ok_bind]
    dsimp only
    rw [hrr'.beginsTypeParams, if_neg hgeneric, hif']
    dsimp only
    rw [hkind', ok_bind]
    exact ⟨_, p', by omega, rfl, hsame.declared hdocs name, hpp'⟩

theorem parseGroup {c d e : Cursor} (h : s.Mirrors c d) {declarations : List Declaration}
    {hleft : e.left < c.left}
    (hread : (c.parseGroup file).value = .ok (declarations, ⟨e, hleft⟩))
    (he : s.first.length < e.left) :
    ∃ declarations' f hf, (d.parseGroup file).value = .ok (declarations', ⟨f, hf⟩) ∧
      s.SameDeclarations declarations declarations' ∧ s.Mirrors e f := by
  have hskip := c.left_skipTrivia_le
  rw [Cursor.parseGroup] at hread ⊢
  dsimp only at hread ⊢
  cases hclosing : c.skipTrivia.eat? ")" with
  | some r =>
      obtain ⟨r, hr⟩ := r
      rw [hclosing] at hread
      cases hread
      obtain ⟨f, hf, hclosing', hef⟩ := (h.skipTrivia (Nat.lt_trans he hr)).eat? hclosing he
      rw [hclosing']
      exact ⟨_, _, _, rfl, ⟨rfl, fun _ => rfl⟩, hef⟩
  | none =>
      rw [hclosing] at hread
      dsimp only at hread
      split at hread
      · cases hread
      · next hend =>
        simp only [Reading.value_bind] at hread
        obtain ⟨⟨declaration?, r, hr⟩, hdeclaration, hread⟩ := ok_of_bind_iff.mp hread
        have hr : r.left < c.skipTrivia.left := hr
        dsimp only at hread
        obtain ⟨⟨more, q, hq⟩, hmore, hread⟩ := ok_of_bind_iff.mp hread
        cases hread
        have he : s.first.length < q.left := he
        have hskip' := h.skipTrivia (by omega)
        obtain ⟨declaration?', r', hr', hdeclaration', hsame, hrr'⟩ :=
          hskip'.forget.parseDeclaration hskip'.docs_current hdeclaration (by omega)
        obtain ⟨more', f, hf, hmore', hsame', hef⟩ := parseGroup hrr' hmore he
        rw [hskip'.eat?_eq_none hclosing]
        dsimp only
        rw [hskip'.isAtEnd, if_neg hend]
        simp only [Reading.value_bind, hdeclaration', hmore', ok_bind]
        exact ⟨_, f, later_trans hf (later_of_skipTrivia hr'), rfl, hsame.toList.append hsame', hef⟩
termination_by c.left

theorem skipDeclaration (h : s.Mirrors c d) {hleft : e.left ≤ c.left}
    (hread : c.skipDeclaration = .ok ⟨e, hleft⟩) (he : s.first.length < e.left) :
    ∃ f hf, d.skipDeclaration = .ok ⟨f, hf⟩ ∧ s.Mirrors e f := by
  unfold Cursor.skipDeclaration at hread ⊢
  cases hopening : c.eat? "(" with
  | some r =>
      obtain ⟨r, hr⟩ := r
      rw [hopening] at hread
      obtain ⟨⟨q, hq⟩, hpass, hread⟩ := ok_of_bind_iff.mp hread
      cases hread
      obtain ⟨r', hr', hopening', hrr'⟩ := h.eat? hopening (Nat.lt_trans he hq)
      obtain ⟨f, hf, hpass', hef⟩ := hrr'.skipBalanced hpass he
      rw [hopening']
      dsimp only
      rw [hpass', ok_bind]
      exact ⟨_, _, rfl, hef⟩
  | none =>
      rw [hopening] at hread
      rw [h.eat?_eq_none hopening]
      have hpass : (c.skipStatement 0).1 = e := congrArg Subtype.val (Except.ok.inj hread)
      subst hpass
      exact ⟨_, _, rfl, h.skipStatement he⟩

theorem parseTypes (h : s.Mirrors c d) {line : Nat} {declarations : List Declaration}
    {hleft : e.left ≤ c.left}
    (hread : (c.parseTypes file line).value = .ok (declarations, ⟨e, hleft⟩))
    (he : s.first.length < e.left) :
    ∃ declarations' f hf,
      (d.parseTypes file (line + s.lines)).value = .ok (declarations', ⟨f, hf⟩) ∧
      s.SameDeclarations declarations declarations' ∧ s.Mirrors e f := by
  unfold Cursor.parseTypes at hread ⊢
  cases hopening : c.eat? "(" with
  | some r =>
      obtain ⟨r, hr⟩ := r
      rw [hopening] at hread
      dsimp only at hread
      rw [Reading.value_bind] at hread
      obtain ⟨⟨group, q, hq⟩, hgroup, hread⟩ := ok_of_bind_iff.mp hread
      cases hread
      obtain ⟨r', hr', hopening', hrr'⟩ := h.eat? hopening (Nat.lt_trans he hq)
      obtain ⟨group', f, hf, hgroup', hsame, hef⟩ := hrr'.forget.parseGroup hgroup he
      rw [hopening']
      dsimp only
      rw [Reading.value_bind, hgroup', ok_bind]
      exact ⟨_, _, _, rfl, hsame, hef⟩
  | none =>
      rw [hopening] at hread
      rw [h.eat?_eq_none hopening]
      dsimp only at hread ⊢
      rw [Reading.value_bind] at hread ⊢
      obtain ⟨⟨declaration?, q, hq⟩, hdeclaration, hread⟩ := ok_of_bind_iff.mp hread
      cases hread
      obtain ⟨declaration?', f, hf, hdeclaration', hsame, hef⟩ :=
        h.forget.parseDeclaration (fun hdocumented => h.docs hdocumented line) hdeclaration he
      rw [hdeclaration', ok_bind]
      exact ⟨_, _, _, rfl, hsame.toList, hef⟩

end Cut.Mirrors

end GoSchema.Go.Cursor
