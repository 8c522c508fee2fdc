import GoSchema.Proofs.Go.Mirroring.Declarations

/-!
# Items of a file

A file is read item by item: its package clause, imports, type declarations, functions, constants
and variables.  `parseItem` reads one of them, and reading the rest of a file is reading an item and
then the rest (`value_parseRest`).  `Visits` says that the reader comes by a cursor between two
items, and what it has read up to there.

An item is read in the same way wherever it stands, and so are several of them.
-/

namespace GoSchema.Go.Cursor

/-! ## Reading one item -/

/-- The next item: the package that it names, if it is a package clause, and the declarations that
it makes.  At the end there is none. -/
def parseItem (file : String) (c : Cursor) :
    Except Fault (Option ((Option String × List Declaration) × c.Later)) :=
  match c.skipTrivia.next? with
  | none => .ok none
  | some (t, ⟨d, hd⟩) =>
    have hd := later_of_skipTrivia hd
    if t.is "package" then do
      let (name, ⟨e, he⟩) ← d.expectIdent
      return some ((some name.text, []), ⟨e.forget, later_trans he hd⟩)
    else if t.is "type" then do
      let (declarations, ⟨e, he⟩) ← (d.parseTypes file t.pos.line).value
      return some ((none, declarations), ⟨e, later_of_within he hd⟩)
    else if t.is "func" then do
      let ⟨e, he⟩ ← d.skipFunction 0 ""
      return some ((none, []), ⟨e.forget, later_of_within he hd⟩)
    else if ["import", "const", "var"].any t.is then do
      let ⟨e, he⟩ ← d.skipDeclaration
      return some ((none, []), ⟨e.forget, later_of_within he hd⟩)
    else
      .error c.skipTrivia.unexpected

variable {file : String} {c d e : Cursor}

/-- Only at the end there is no item. -/
theorem next?_eq_none_of_parseItem (h : c.parseItem file = .ok none) :
    c.skipTrivia.next? = none := by
  rw [parseItem] at h
  cases hnext : c.skipTrivia.next? with
  | none => rfl
  | some r =>
      rw [hnext] at h
      dsimp only at h
      repeat' split at h
      · obtain ⟨_, _, h⟩ := ok_of_bind_iff.mp h
        cases h
      · obtain ⟨_, _, h⟩ := ok_of_bind_iff.mp h
        cases h
      · obtain ⟨_, _, h⟩ := ok_of_bind_iff.mp h
        cases h
      · obtain ⟨_, _, h⟩ := ok_of_bind_iff.mp h
        cases h
      · cases h

/-- The rest of a file is an item and the rest after it. -/
theorem value_parseRest (package? : Option String) :
    (c.parseRest file package?).value = (do
      match ← c.parseItem file with
      | none => .ok (package?, [])
      | some ((name?, declarations), ⟨d, _⟩) =>
        let (package?, more) ← (d.parseRest file (name?.or package?)).value
        return (package?, declarations ++ more)) := by
  rw [parseRest, parseItem]
  dsimp only
  cases hnext : c.skipTrivia.next? with
  | none => rfl
  | some r =>
      obtain ⟨t, d, hd⟩ := r
      dsimp only
      by_cases hpackage : t.is "package"
      · rw [if_pos hpackage, if_pos hpackage, Reading.value_bind, Reading.value_liftM, bind_assoc]
        refine congrArg _ (funext fun r => ?_)
        exact (bind_pure (m := Except Fault) _).symm
      · rw [if_neg hpackage, if_neg hpackage]
        by_cases htype : t.is "type"
        · rw [if_pos htype, if_pos htype, Reading.value_bind, bind_assoc]
          refine congrArg _ (funext fun r => ?_)
          exact Reading.value_bind _ _
        · rw [if_neg htype, if_neg htype]
          by_cases hfunc : t.is "func"
          · rw [if_pos hfunc, if_pos hfunc, Reading.value_bind, Reading.value_liftM, bind_assoc]
            refine congrArg _ (funext fun r => ?_)
            exact (bind_pure (m := Except Fault) _).symm
          · rw [if_neg hfunc, if_neg hfunc]
            by_cases hskipped : ["import", "const", "var"].any t.is
            · rw [if_pos hskipped, if_pos hskipped, Reading.value_bind, Reading.value_liftM,
                bind_assoc]
              refine congrArg _ (funext fun r => ?_)
              exact (bind_pure (m := Except Fault) _).symm
            · rw [if_neg hskipped, if_neg hskipped]
              rfl

/-! ## Reading several items -/

/-- Reading comes from one cursor to another one between two items.  On the way there are the given
declarations and, if any clause names one, the package. -/
inductive Visits (file : String) : Cursor → Option String → List Declaration → Cursor → Prop
  | here (c : Cursor) : Visits file c none [] c
  | item {c e : Cursor} {d : c.Later} {name? name?' : Option String}
      {declarations more : List Declaration}
      (h : c.parseItem file = .ok (some ((name?, declarations), d)))
      (rest : Visits file d.1 name?' more e) :
      Visits file c (name?'.or name?) (declarations ++ more) e

theorem Visits.left_le {name? : Option String} {declarations : List Declaration}
    (h : Visits file c name? declarations e) : e.left ≤ c.left := by
  induction h with
  | here c => exact Cursor.left_le c
  | @item c e d name? name?' declarations more h rest ih => exact Nat.le_of_lt (later_of_within ih d.2)

/-- From a cursor that reading comes by the rest of the file is read. -/
theorem Visits.value_parseRest {name? : Option String} {declarations : List Declaration}
    (h : Visits file c name? declarations e) (package? : Option String) :
    (c.parseRest file package?).value = (do
      let (package?, more) ← (e.parseRest file (name?.or package?)).value
      return (package?, declarations ++ more)) := by
  induction h generalizing package? with
  | here c => exact (bind_pure (m := Except Fault) _).symm
  | @item c e d name? name?' declarations more h rest ih =>
      rw [Cursor.value_parseRest, h, ok_bind]
      dsimp only
      rw [ih, bind_assoc, Option.or_assoc]
      refine congrArg _ (funext fun r => ?_)
      obtain ⟨package?, last⟩ := r
      exact congrArg (fun all => Except.ok (package?, all)) (List.append_assoc ..).symm

/-! ## Items that stand elsewhere -/

/-- Where there is no item, nothing is read. -/
instance {α : Type} : Located (Option (α × c.Later)) := ⟨fun read? => read?.elim c (·.2.1)⟩

/-- Where an item ends, the reader has only gone forward. -/
theorem Motion.halts_parseItem {Passes Takes : Cursor → Cursor → Prop} (m : Motion Passes Takes)
    (c : Cursor) (file : String) : c.Halts Passes Passes (c.parseItem file) := by
  unfold parseItem
  have hskip := m.skipTrivia c
  split
  · exact .ok (m.refl c)
  · next t d hd hnext =>
    have hcd := m.trans hskip (m.next hnext)
    dsimp only
    split
    · refine m.from_passes hcd (.bind (m.halts_expectIdent d) ?_)
      rintro ⟨name, e, he⟩ hde
      exact .ok (m.trans (m.passes_of_takes hde) (m.forget e))
    · split
      · have htypes := m.halts_parseTypes d file t.pos.line
        exact m.from_passes hcd (.bind htypes fun types he => .ok he)
      · split
        · refine m.from_passes hcd (.bind (m.halts_skipFunction d 0 "") ?_)
          rintro ⟨e, he⟩ hde
          exact .ok (m.trans hde (m.forget e))
        · split
          · refine m.from_passes hcd (.bind (m.halts_skipDeclaration d) ?_)
            rintro ⟨e, he⟩ hde
            exact .ok (m.trans hde (m.forget e))
          · exact .error hskip (refuses_unexpected _)

namespace Cut.Mirrors

variable {s : Cut}

theorem parseItem (h : s.Mirrors c d) {name? : Option String} {declarations : List Declaration}
    {hleft : e.left < c.left}
    (hread : c.parseItem file = .ok (some ((name?, declarations), ⟨e, hleft⟩)))
    (he : s.first.length < e.left) :
    ∃ declarations' f hf, d.parseItem file = .ok (some ((name?, declarations'), ⟨f, hf⟩)) ∧
      s.SameDeclarations declarations declarations' ∧ s.Mirrors e f := by
  unfold Cursor.parseItem at hread ⊢
  cases hnext : c.skipTrivia.next? with
  | none =>
      rw [hnext] at hread
      cases hread
  | some first =>
      obtain ⟨t, r, hr⟩ := first
      rw [hnext] at hread
      dsimp only at hread
      -- the first word of the item is the same, as soon as the item ends in front of the stop
      have hfirst (hlt : s.first.length < r.left) : ∃ u r' hr',
          d.skipTrivia.next? = some (u, ⟨r', hr'⟩) ∧ t.Mirrors s.lines u ∧ s.Mirrors r r' := by
        obtain ⟨u, r', hr', hnext', hu, hrr'⟩ := (h.skipTrivia (Nat.lt_trans hlt hr)).next? hnext
        exact ⟨u, r', hr', hnext', hu, hrr' hlt⟩
      split at hread
      · next hpackage =>
        obtain ⟨⟨name, f, hf⟩, hname, hread⟩ := ok_of_bind_iff.mp hread
        cases hread
        have he : s.first.length < f.left := he
        obtain ⟨u, r', hr', hnext', hu, hrr'⟩ := hfirst (Nat.lt_trans he hf)
        obtain ⟨f', hf', hname', hff'⟩ := hrr'.expectIdent hname he
        rw [hnext']
        dsimp only
        rw [hu.is_eq, if_pos hpackage, hname', ok_bind]
        exact ⟨_, _, _, rfl, ⟨rfl, fun _ => rfl⟩, hff'.forget⟩
      · next hpackage =>
        split at hread
        · next htype =>
          obtain ⟨⟨declarations, f, hf⟩, htypes, hread⟩ := ok_of_bind_iff.mp hread
          cases hread
          have he : s.first.length < f.left := he
          obtain ⟨u, r', hr', hnext', hu, hrr'⟩ := hfirst (Nat.lt_of_lt_of_le he hf)
          obtain ⟨declarations', f', hf', htypes', hsame, hff'⟩ := hrr'.parseTypes htypes he
          rw [hnext']
          dsimp only
          rw [hu.is_eq, hu.line_eq, if_neg hpackage, if_pos htype, htypes', ok_bind]
          exact ⟨_, _, _, rfl, hsame, hff'⟩
        · next htype =>
          split at hread
          · next hfunc =>
            obtain ⟨⟨f, hf⟩, hfunction, hread⟩ := ok_of_bind_iff.mp hread
            cases hread
            have he : s.first.length < f.left := he
            obtain ⟨u, r', hr', hnext', hu, hrr'⟩ := hfirst (Nat.lt_of_lt_of_le he hf)
            obtain ⟨f', hf', hfunction', hff'⟩ := hrr'.skipFunction Iff.rfl hfunction he
            rw [hnext']
            dsimp only
            rw [hu.is_eq, if_neg hpackage, if_neg htype, if_pos hfunc, hfunction', ok_bind]
            exact ⟨_, _, _, rfl, ⟨rfl, fun _ => rfl⟩, hff'.forget⟩
          · next hfunc =>
            split at hread
            · next hskipped =>
              obtain ⟨⟨f, hf⟩, hpass, hread⟩ := ok_of_bind_iff.mp hread
              cases hread
              have he : s.first.length < f.left := he
              obtain ⟨u, r', hr', hnext', hu, hrr'⟩ := hfirst (Nat.lt_of_lt_of_le he hf)
              obtain ⟨f', hf', hpass', hff'⟩ := hrr'.skipDeclaration hpass he
              rw [hnext']
              dsimp only
              rw [hu.is_eq, if_neg hpackage, if_neg htype, if_neg hfunc, if_pos hskipped, hpass',
                ok_bind]
              exact ⟨_, _, _, rfl, ⟨rfl, fun _ => rfl⟩, hff'.forget⟩
            · cases hread

/-- The items up to a cursor in front of the stop. -/
theorem visits (h : s.Mirrors c d) {name? : Option String} {declarations : List Declaration}
    (hvisits : Visits file c name? declarations e) (he : s.first.length < e.left) :
    ∃ declarations' f, Visits file d name? declarations' f ∧
      s.SameDeclarations declarations declarations' ∧ s.Mirrors e f := by
  induction hvisits generalizing d with
  | here c => exact ⟨[], d, .here d, ⟨rfl, fun _ => rfl⟩, h⟩
  | @item c e r name? name?' declarations more hitem hrest ih =>
      obtain ⟨declarations', r', hr', hitem', hsame, hrr'⟩ :=
        h.parseItem hitem (Nat.lt_of_lt_of_le he hrest.left_le)
      obtain ⟨more', f, hvisits, hsame', hef⟩ := ih hrr' he
      exact ⟨_, f, .item hitem' hvisits, hsame.append hsame', hef⟩

end Cut.Mirrors

/-! ## Up to the end of the file -/

/-- The end of the file is never passed. -/
theorem motion_end {t : Token} (ht : t.IsEnd) :
    Motion (fun c d => [t] <:+ c.rest → [t] <:+ d.rest) fun c d => [t] <:+ c.rest → [t] <:+ d.rest := by
  have hpast {c : Cursor} {u : Token} {rest : List Token} (h : c.rest = u :: rest) (hu : ¬u.IsEnd)
      (hc : [t] <:+ c.rest) : [t] <:+ rest := by
    rw [h] at hc
    rcases List.suffix_cons_iff.mp hc with heq | hsuffix
    · cases heq
      exact absurd ht hu
    · exact hsuffix
  exact ⟨fun c hc => hc, fun hd he hc => he (hd hc), hpast,
    fun h hkind => hpast h (Token.not_isEnd_of_kind (by rw [hkind]; decide)), fun c hc => hc,
    fun h hcloses => hpast h (Token.not_isEnd_of_closes hcloses), fun h => h,
    fun hd he hc => he (hd hc)⟩

/-- Where two texts agree up to their end, the rest of the file is read in the same way. -/
theorem Cut.Mirrors.value_parseRest {s : Cut} {c d : Cursor} (h : s.Mirrors c d)
    (hstop : s.stop.IsEnd) (hfirst : s.first = []) {package? name? : Option String}
    {declarations : List Declaration}
    (hread : (c.parseRest file package?).value = .ok (name?, declarations)) :
    ∃ declarations', (d.parseRest file package?).value = .ok (name?, declarations') ∧
      s.SameDeclarations declarations declarations' := by
  have hend : [s.stop] <:+ c.rest := by
    obtain ⟨before, mirrored, hc, -⟩ := h
    rw [hc, hfirst]
    exact List.suffix_append before [s.stop]
  have hleft {e : Cursor} (he : [s.stop] <:+ e.rest) : s.first.length < e.left := by
    rw [hfirst]
    exact he.length_le
  have m := motion_end hstop
  rw [Cursor.value_parseRest] at hread ⊢
  obtain ⟨item?, hitem, hread⟩ := ok_of_bind_iff.mp hread
  cases item? with
  | none =>
      cases hread
      have hskip := h.skipTrivia (hleft (m.skipTrivia c hend))
      have hnone := next?_eq_none_of_parseItem hitem
      have hitem' : d.parseItem file = .ok none := by
        rw [Cursor.parseItem, hskip.next?_eq_none hnone]
      rw [hitem', ok_bind]
      exact ⟨_, rfl, ⟨rfl, fun _ => rfl⟩⟩
  | some item =>
      obtain ⟨⟨name?', first⟩, e, he⟩ := item
      have hlt := hleft ((m.halts_parseItem c file).leads _ hitem hend)
      obtain ⟨first', f, hf, hitem', hsame, hef⟩ := h.parseItem hitem hlt
      dsimp only at hread
      obtain ⟨⟨name?'', more⟩, hmore, hread⟩ := ok_of_bind_iff.mp hread
      cases hread
      obtain ⟨more', hmore', hsame'⟩ := value_parseRest hef hstop hfirst hmore
      rw [hitem', ok_bind]
      dsimp only
      rw [hmore', ok_bind]
      exact ⟨_, rfl, hsame.append hsame'⟩
termination_by c.left

end GoSchema.Go.Cursor
