import GoSchema.Proofs.Go.ParameterText
import GoSchema.Proofs.Go.Steps

/-!
# Where items end

An item that is not the last one of a file ends in the middle of a line, so to speak: its last token
is no line end, and the token before that is none either, unless the item ends with a closing bracket
(`EndsOnLine`).  For a type this is because line ends are only passed where more has to come, within
brackets or between two parts of the type.  A declaration has its name in front of that, so its last
token is not the first one of its line (`EndsWithin`).

For what is passed over it is how its end is found: a line end stops it, unless brackets are open, and
then a closing one has to come (`StopsOnLine`).
-/

namespace GoSchema.Go

/-- The end of a line. -/
def Token.IsLineEnd (t : Token) : Prop := t.kind = .newline ∧ t.text = "\n"

theorem Token.not_isLineEnd_of_is {t : Token} {text : String} (h : t.is text) (htext : text ≠ "\n") :
    ¬t.IsLineEnd := by
  rintro ⟨hkind, hline⟩
  rw [Token.is, hkind, hline] at h
  exact htext (beq_iff_eq.mp h).symm

theorem Token.closers_ne : ∀ text ∈ Token.closers, text ≠ "\n" := by decide

theorem Token.not_isLineEnd_of_closers {t : Token} (h : Token.closers.any t.is) :
    ¬t.IsLineEnd := by
  obtain ⟨text, htext, his⟩ := List.any_eq_true.mp h
  exact not_isLineEnd_of_is his (closers_ne text htext)

theorem Token.IsLineEnd.any_is_eq_false {t : Token} (h : t.IsLineEnd) {signs : List String}
    (hsigns : "\n" ∉ signs) : signs.any t.is = false := by
  refine List.any_eq_false.mpr fun text htext his => ?_
  exact Token.not_isLineEnd_of_is his (fun heq => hsigns (heq ▸ htext)) h

/-- A line end is no sign. -/
theorem Token.IsLineEnd.any_isSign_eq_false {t : Token} (h : t.IsLineEnd) {signs : List String} :
    signs.any t.isSign = false := by
  simp [isSign, h.1]

namespace Cursor

/-- The last token that was taken is no line end. -/
def Steps (c d : Cursor) : Prop := ∃ mid w, c.rest = mid ++ w :: d.rest ∧ ¬w.IsLineEnd

/-- The last token that was taken is a closing bracket. -/
def EndsBracket (c d : Cursor) : Prop :=
  ∃ mid w, c.rest = mid ++ w :: d.rest ∧ Token.closers.any w.is

/-- The last token that was taken is a closing bracket, or neither it nor the one before it is a line
end. -/
def EndsOnLine (c d : Cursor) : Prop :=
  ∃ mid w, c.rest = mid ++ w :: d.rest ∧
    (Token.closers.any w.is ∨ ¬w.IsLineEnd ∧ ∀ u ∈ mid.getLast?, ¬u.IsLineEnd)

/-- The last token that was taken is a closing bracket, or it is not the first one of its line, nor a
line end. -/
def EndsWithin (c d : Cursor) : Prop :=
  ∃ mid w, c.rest = mid ++ w :: d.rest ∧
    (Token.closers.any w.is ∨ ¬w.IsLineEnd ∧ ∃ u ∈ mid.getLast?, ¬u.IsLineEnd)

section Ends

variable {c d e : Cursor} {t : Token} {text : String}

theorem Onward.exists_append (h : c.Onward d) : ∃ mid, c.rest = mid ++ d.rest :=
  h.imp fun _ heq => heq.symm

theorem Onward.steps (h : c.Onward d) (hd : d.Steps e) : c.Steps e := by
  obtain ⟨front, hfront⟩ := h.exists_append
  obtain ⟨mid, w, hmid, hw⟩ := hd
  exact ⟨front ++ mid, w, by rw [hfront, hmid, List.append_assoc], hw⟩

theorem Onward.endsBracket (h : c.Onward d) (hd : d.EndsBracket e) : c.EndsBracket e := by
  obtain ⟨front, hfront⟩ := h.exists_append
  obtain ⟨mid, w, hmid, hw⟩ := hd
  exact ⟨front ++ mid, w, by rw [hfront, hmid, List.append_assoc], hw⟩

theorem EndsBracket.endsOnLine (h : c.EndsBracket d) : c.EndsOnLine d := by
  obtain ⟨mid, w, hmid, hw⟩ := h
  exact ⟨mid, w, hmid, .inl hw⟩

theorem EndsBracket.endsWithin (h : c.EndsBracket d) : c.EndsWithin d := by
  obtain ⟨mid, w, hmid, hw⟩ := h
  exact ⟨mid, w, hmid, .inl hw⟩

theorem EndsOnLine.steps (h : c.EndsOnLine d) : c.Steps d := by
  obtain ⟨mid, w, hmid, hw⟩ := h
  exact ⟨mid, w, hmid, hw.elim Token.not_isLineEnd_of_closers And.left⟩

theorem Steps.onward (h : c.Steps d) : c.Onward d := by
  obtain ⟨mid, w, hmid, -⟩ := h
  exact ⟨mid ++ [w], by rw [hmid, List.append_assoc, List.singleton_append]⟩

/-- With a token in front that is no line end, the one before the last is none either. -/
theorem Steps.endsWithin (h : c.Steps d) (hd : d.EndsOnLine e) : c.EndsWithin e := by
  obtain ⟨front, u, hfront, hu⟩ := h
  obtain ⟨mid, w, hmid, hw⟩ := hd
  refine ⟨front ++ u :: mid, w, by rw [hfront, hmid, List.append_assoc, List.cons_append],
    hw.imp_right fun ⟨hw, hbefore⟩ => ⟨hw, ?_⟩⟩
  obtain rfl | ⟨mid, v, rfl⟩ := List.eq_nil_or_concat mid
  · exact ⟨u, List.getLast?_concat, hu⟩
  · rw [List.concat_eq_append] at hbefore ⊢
    rw [← List.cons_append, ← List.append_assoc]
    exact ⟨v, List.getLast?_concat, hbefore v List.getLast?_concat⟩

theorem EndsWithin.endsOnLine (h : c.EndsWithin d) : c.EndsOnLine d := by
  obtain ⟨mid, w, hmid, hw⟩ := h
  refine ⟨mid, w, hmid, hw.imp_right fun ⟨hw, u, hu, hline⟩ => ⟨hw, fun v hv => ?_⟩⟩
  cases hu.symm.trans hv
  exact hline

theorem Steps.endsOnLine (h : c.Steps d) (hd : d.EndsOnLine e) : c.EndsOnLine e :=
  (h.endsWithin hd).endsOnLine

theorem EndsOnLine.of_stays (h : c.EndsOnLine d) (hd : Stays EndsOnLine d e) : c.EndsOnLine e := by
  rcases hd with rfl | hd
  · exact h
  · exact h.steps.endsOnLine hd

theorem Steps.trans (h : c.Steps d) (hd : d.Steps e) : c.Steps e := h.onward.steps hd

theorem Steps.leads {α : Type} [Located α] {x : Except Fault α} (h : c.Steps d)
    (hx : d.Leads EndsOnLine x) : c.Leads EndsOnLine x :=
  fun a ha => h.endsOnLine (hx a ha)

theorem Onward.leads {α : Type} [Located α] {x : Except Fault α} (h : c.Onward d)
    (hx : d.Leads EndsBracket x) : c.Leads EndsBracket x :=
  fun a ha => h.endsBracket (hx a ha)

theorem steps_eat? {d : c.Later} (h : c.eat? text = some d) (htext : text ≠ "\n") :
    c.Steps d.1 := by
  obtain ⟨t, hrest, his, -⟩ := exists_rest_of_eat? h
  exact ⟨[], t, hrest, Token.not_isLineEnd_of_is his htext⟩

theorem steps_next? {d : c.Later} (h : c.next? = some (t, d)) (his : c.current.is text)
    (htext : text ≠ "\n") : c.Steps d.1 := by
  rw [current_of_next? h] at his
  exact ⟨[], t, rest_eq_of_next? h, Token.not_isLineEnd_of_is his htext⟩

theorem Steps.eatIf (h : c.Steps d) (htext : text ≠ "\n") : c.Steps (d.eatIf text).2.1 := by
  unfold Cursor.eatIf
  split
  · next heat => exact h.trans (steps_eat? heat htext)
  · exact h

theorem endsBracket_eat? {d : c.Later} (h : c.eat? text = some d) (htext : text ∈ Token.closers) :
    c.EndsBracket d.1 := by
  obtain ⟨t, hrest, his, -⟩ := exists_rest_of_eat? h
  exact ⟨[], t, hrest, List.any_eq_true.mpr ⟨text, htext, his⟩⟩

theorem leads_steps_expect (c : Cursor) (htext : text ≠ "\n") : c.Leads Steps (c.expect text) := by
  unfold expect
  split
  · next heat => exact .ok (steps_eat? heat htext)
  · exact .error _

theorem leads_endsBracket_expect (c : Cursor) (htext : text ∈ Token.closers) :
    c.Leads EndsBracket (c.expect text) := by
  unfold expect
  split
  · next heat => exact .ok (endsBracket_eat? heat htext)
  · exact .error _

theorem leads_endsOnLine_expectIdent (c : Cursor) : c.Leads EndsOnLine c.expectIdent := by
  unfold expectIdent
  split
  · next t d hnext =>
    split
    · next hkind =>
      refine .ok ⟨[], t, rest_eq_of_next? hnext, .inr ⟨fun hline => ?_, nofun⟩⟩
      rw [hline.1] at hkind
      cases hkind
    · exact .error _
  · exact .error _

/-! ## What is passed over -/

theorem leads_endsBracket_skipBalanced (c : Cursor) (opening : String) {closing : String}
    (depth : Nat) (hclosing : closing ∈ Token.closers) :
    c.Leads EndsBracket (c.skipBalanced opening closing depth) := by
  fun_induction skipBalanced c opening closing depth with
  | case1 => exact .error _
  | case2 c depth t d h hnext _ ih | case4 c t d h hnext _ _ depth ih
  | case5 c depth t d h hnext _ _ ih =>
      exact (motion_onward.next hnext).leads (.bind ih fun e he => .ok he)
  | case3 c t d h hnext _ his =>
      exact .ok ⟨[], t, rest_eq_of_next? hnext, List.any_eq_true.mpr ⟨closing, hclosing, his⟩⟩

/-! ## Types -/

theorem leads_onward_entryAfter (variadic : Bool) (first : TypeExpr) (c : Cursor) :
    c.Leads Onward (c.entryAfter variadic first) := by
  unfold entryAfter
  split
  · exact .ok (motion_onward.refl c)
  · split
    · have hcd := motion_onward.passes_eatIf c (by decide : "..." ≠ "")
      rcases hif : c.eatIf "..." with ⟨variadic, d, hd⟩
      rw [hif] at hcd
      exact .bind (motion_onward.from_passes hcd (motion_onward.halts_parseType d)).leads
        fun type he => .ok he
    · exact .error _

theorem leads_endsBracket_moreEntries (c : Cursor)
    (h : ∀ d : Cursor, d.left < c.left → d.Leads EndsBracket d.parseEntries) :
    c.Leads EndsBracket c.moreEntries := by
  have hskip := motion_onward.skipTrivia c
  unfold moreEntries
  split
  · next d hd heat =>
    have hcd := hskip.trans (motion_onward.passes_eat? heat (by decide))
    exact hcd.leads (.bind (h d (later_of_skipTrivia hd)) fun entries he => .ok he)
  · exact hskip.leads (.bind (leads_endsBracket_expect _ (by decide)) fun d hd => .ok hd)

theorem leads_endsBracket_parseEntries (c : Cursor) : c.Leads EndsBracket c.parseEntries := by
  have hskip := motion_onward.skipTrivia c
  rw [parseEntries_eq]
  split
  · next d hd heat => exact .ok (hskip.endsBracket (endsBracket_eat? heat (by decide)))
  · have hcd := hskip.trans (motion_onward.passes_eatIf c.skipTrivia (by decide : "..." ≠ ""))
    rcases hif : c.skipTrivia.eatIf "..." with ⟨variadic, d, hd⟩
    rw [hif] at hcd
    have hd := within_of_skipTrivia hd
    refine .bind (motion_onward.halts_parseType d).leads ?_
    rintro ⟨first, e, he⟩ hde
    have he := later_trans_within he hd
    refine .bind (leads_onward_entryAfter variadic first e) ?_
    rintro ⟨entry, f, hf⟩ hef
    have hf := later_of_within hf he
    have hmore := leads_endsBracket_moreEntries f fun g hg =>
      have : g.left < c.left := Nat.lt_trans hg hf
      leads_endsBracket_parseEntries g
    exact ((hcd.trans hde).trans hef).leads (.bind hmore fun entries hg => .ok hg)
termination_by c.left

theorem leads_endsBracket_parseParams (c : Cursor) : c.Leads EndsBracket c.parseParams := by
  rw [parseParams]
  refine .bind ((motion_onward.halts_expect c (by decide)).leads) ?_
  rintro ⟨d, hd⟩ hcd
  refine .bind (Onward.leads hcd (leads_endsBracket_parseEntries d)) ?_
  rintro ⟨entries, e, he⟩ hce
  dsimp only
  split
  · exact .ok hce
  · exact .error _

theorem leads_endsOnLine_qualifiedName (c : Cursor) : c.Leads EndsOnLine c.qualifiedName := by
  unfold qualifiedName
  refine .bind (leads_endsOnLine_expectIdent c) ?_
  rintro ⟨first, d, hd⟩ hcd
  dsimp only
  split
  · next hpoint =>
    split
    · next t e he hnext =>
      have hce := (EndsOnLine.steps hcd).trans (steps_next? hnext hpoint.1 (by decide))
      exact hce.leads (.bind (leads_endsOnLine_expectIdent e) fun second hf => .ok hf)
    · exact .ok hcd
  · exact .ok hcd

mutual

theorem leads_endsOnLine_parseType (c : Cursor) : c.Leads EndsOnLine c.parseType := by
  rw [parseType]
  split
  · next hpointer =>
    split
    · next t d hd hnext =>
      exact (steps_next? hnext hpointer (by decide)).leads
        (.bind (leads_endsOnLine_parseType d) fun target he => .ok he)
    · exact .error _
  · split
    · split
      · next t d hd hnext =>
        have hcd := motion_onward.next hnext
        refine .bind (motion_onward.halts_parseType d).leads ?_
        rintro ⟨type, e, he⟩ hde
        refine .bind (leads_endsBracket_expect e (by decide)) ?_
        rintro ⟨f, hf⟩ hef
        exact .ok ((hcd.trans hde).endsBracket hef).endsOnLine
      · exact .error _
    · have hcd := motion_onward.passes_advance c
      rcases hadvance : c.advance with ⟨d, hd⟩
      rw [hadvance] at hcd
      split
      · dsimp only
        split
        · next e he heat =>
          have he := later_trans_within he hd
          exact (hcd.steps (steps_eat? heat (by decide))).leads
            (.bind (leads_endsOnLine_parseType e) fun element hf => .ok hf)
        · refine .bind (motion_onward.halts_arrayLength d).leads ?_
          rintro ⟨length, e, he⟩ hde
          refine .bind (leads_steps_expect e (by decide)) ?_
          rintro ⟨f, hf⟩ hef
          have hf := later_trans_within hf (Nat.le_trans he hd)
          exact ((hcd.trans hde).steps hef).leads
            (.bind (leads_endsOnLine_parseType f) fun element hg => .ok hg)
      · split
        · refine .bind (motion_onward.halts_expect d (by decide)).leads ?_
          rintro ⟨e, he⟩ hde
          refine .bind (motion_onward.halts_parseType e).leads ?_
          rintro ⟨key, f, hf⟩ hef
          refine .bind (leads_steps_expect f (by decide)) ?_
          rintro ⟨g, hg⟩ hfg
          have hg := later_trans hg (later_trans hf (later_trans_within he hd))
          exact (((hcd.trans hde).trans hef).steps hfg).leads
            (.bind (leads_endsOnLine_parseType g) fun value hh => .ok hh)
        · split
          · exact .bind (leads_endsOnLine_parseVerbatim c) fun d hd => .ok hd
          · split
            · refine .bind (leads_endsOnLine_qualifiedName c) ?_
              rintro ⟨name, d, hd⟩ hcd
              dsimp only
              split
              · have hce := (EndsOnLine.steps hcd).onward.trans (motion_onward.passes_advance d)
                refine .bind (leads_endsBracket_skipBalanced _ _ 0 (by decide)) fun f hef => ?_
                exact .ok (hce.endsBracket hef).endsOnLine
              · exact .ok hcd
            · exact .error _
termination_by 3 * c.left + 1

theorem leads_endsOnLine_parseVerbatim (c : Cursor) : c.Leads EndsOnLine c.parseVerbatim := by
  rw [parseVerbatim]
  split
  · next d hd heat =>
    have hcd := motion_onward.passes_eat? heat (by decide)
    refine .bind (leads_steps_expect d (by decide)) ?_
    rintro ⟨e, he⟩ hde
    exact (hcd.steps hde).leads (.bind (leads_endsOnLine_parseType e) fun type hf => .ok hf)
  · split
    · next d hd heat =>
      have hde : c.Steps (d.eatIf "<-").2.1 := (steps_eat? heat (by decide)).eatIf (by decide)
      rcases hif : d.eatIf "<-" with ⟨received, e, he⟩
      rw [hif] at hde
      have he := later_of_within he hd
      exact hde.leads (.bind (leads_endsOnLine_parseType e) fun type hf => .ok hf)
    · split
      · next d hd heat =>
        have hcd := motion_onward.passes_eat? heat (by decide)
        refine .bind (leads_endsBracket_parseParams d) ?_
        rintro ⟨params, e, he⟩ hde
        have hce := (hcd.endsBracket hde).endsOnLine
        have he := later_trans he hd
        refine .bind (leads_endsOnLine_parseResults e) ?_
        rintro ⟨results, f, hf⟩ hef
        exact .ok (hce.of_stays hef)
      · split
        · exact .error _
        · next t d hd hnext =>
          have hcd := motion_onward.next hnext
          refine .bind ((motion_onward.halts_expect d (by decide)).leads) ?_
          rintro ⟨e, he⟩ hde
          refine .bind (leads_endsBracket_skipBalanced e _ 0 (by decide)) ?_
          rintro ⟨f, hf⟩ hef
          exact .ok ((hcd.trans hde).endsBracket hef).endsOnLine
termination_by 3 * c.left + 0

theorem leads_endsOnLine_parseResults (c : Cursor) :
    c.Leads (Stays EndsOnLine) c.parseResults := by
  rw [parseResults]
  split
  · exact .bind (leads_endsBracket_parseParams c) fun params hd =>
      .ok (.inr (EndsBracket.endsOnLine hd))
  · split
    · exact .bind (leads_endsOnLine_parseType c) fun type hd => .ok (.inr hd)
    · exact .ok (.inl rfl)
termination_by 3 * c.left + 2

end

/-! ## Statements and functions -/

/-- Passing over something, with some brackets open, goes to the end of the file, or it ends where it
began and no bracket was open, or it ends on a line.  If only one token was taken and brackets were
open, it was a closing one. -/
def StopsOnLine (depth : Nat) (c d : Cursor) : Prop :=
  d.next? = none ∨ depth = 0 ∧ d.rest = c.rest ∨
    c.EndsOnLine d ∧ ∀ w, c.rest = w :: d.rest → depth = 0 ∨ Token.closers.any w.is

/-- One token before what is passed over. -/
theorem StopsOnLine.cons {depth depth' : Nat} (hrest : c.rest = t :: d.rest)
    (hopen : t.IsLineEnd → depth' = depth ∧ depth ≠ 0)
    (hdepth : depth' = 0 → depth = 0 ∨ Token.closers.any t.is) (h : d.StopsOnLine depth' e) :
    c.StopsOnLine depth e := by
  rcases h with hnone | ⟨hzero, heq⟩ | ⟨⟨mid, w, hmid, hw⟩, hsingle⟩
  · exact .inl hnone
  · rw [← heq] at hrest
    refine .inr (.inr ⟨⟨[], t, hrest, ?_⟩, fun w hw => ?_⟩)
    · rcases hdepth hzero with hdepth | hcloses
      · exact .inr ⟨fun hline => (hopen hline).2 hdepth, nofun⟩
      · exact .inl hcloses
    · obtain ⟨rfl, -⟩ := List.cons_eq_cons.mp (hrest.symm.trans hw)
      exact hdepth hzero
  · refine .inr (.inr ⟨?_, fun v hv => ?_⟩)
    · by_cases hline : t.IsLineEnd
      · -- behind a line end brackets are open
        obtain ⟨heq, hne⟩ := hopen hline
        refine ⟨t :: mid, w, by rw [hrest, hmid, List.cons_append], ?_⟩
        obtain rfl | ⟨mid, v, rfl⟩ := List.eq_nil_or_concat mid
        · exact .inl ((hsingle w hmid).resolve_left fun hzero => hne (heq.symm.trans hzero))
        · rw [List.concat_eq_append] at hw ⊢
          rwa [← List.cons_append, List.getLast?_concat, ← List.getLast?_concat]
      · exact Steps.endsOnLine ⟨[], t, hrest, hline⟩ ⟨mid, w, hmid, hw⟩
    · have hlength := congrArg List.length (hrest.symm.trans hv)
      simp only [hmid, List.length_cons, List.length_append] at hlength
      omega

theorem EndsBracket.of_rest (h : c.EndsBracket d) (heq : e.rest = d.rest) : c.EndsBracket e := by
  rwa [EndsBracket, heq]

/-- Something in brackets before what is passed over. -/
theorem EndsBracket.cons {depth : Nat} (h : c.EndsBracket d) (hd : d.StopsOnLine depth e) :
    c.StopsOnLine depth e := by
  rcases hd with hnone | ⟨-, heq⟩ | ⟨hends, -⟩
  · exact .inl hnone
  · refine .inr (.inr ⟨(h.of_rest heq).endsOnLine, fun w hw => .inr ?_⟩)
    obtain ⟨front, b, hfront, hb⟩ := h.of_rest heq
    have hsame : [] ++ w :: e.rest = front ++ b :: e.rest := hw.symm.trans hfront
    obtain ⟨rfl, -⟩ := List.cons_eq_cons.mp (List.append_inj' hsame rfl).2
    exact hb
  · refine .inr (.inr ⟨h.endsOnLine.steps.endsOnLine hends, fun w hw => ?_⟩)
    obtain ⟨front, b, hfront, -⟩ := h
    obtain ⟨mid, v, hmid, -⟩ := hends
    have hlength := congrArg List.length (hw.symm.trans hfront)
    simp only [hmid, List.length_cons, List.length_append] at hlength
    omega

/-- A statement that goes on behind a bracket. -/
theorem EndsBracket.endsWithin_of_stops {depth : Nat} (h : c.EndsBracket d)
    (hd : d.StopsOnLine depth e) : e.next? = none ∨ c.EndsWithin e := by
  rcases hd with hnone | ⟨-, heq⟩ | ⟨hends, -⟩
  · exact .inl hnone
  · exact .inr (h.of_rest heq).endsWithin
  · exact .inr (h.endsOnLine.steps.endsWithin hends)

theorem depthInStatement_lineEnd (depth : Nat) (h : t.IsLineEnd) :
    depthInStatement depth t = depth := by
  rw [depthInStatement, h.any_isSign_eq_false, h.any_isSign_eq_false, if_neg Bool.false_ne_true,
    if_neg Bool.false_ne_true]

theorem closers_of_depthInStatement {depth : Nat} (h : depthInStatement depth t = 0) :
    depth = 0 ∨ Token.closers.any t.is := by
  unfold depthInStatement at h
  split at h
  · omega
  · split at h
    · next hclosing =>
      obtain ⟨text, htext, hsign⟩ := List.any_eq_true.mp hclosing
      exact .inr (List.any_eq_true.mpr ⟨text, htext, Token.is_of_isSign hsign⟩)
    · exact .inl h

theorem depthInSignature_lineEnd (depth : Nat) (h : t.IsLineEnd) :
    depthInSignature depth t = depth := by
  rw [depthInSignature, h.any_is_eq_false (by decide), h.any_is_eq_false (by decide),
    if_neg Bool.false_ne_true, if_neg Bool.false_ne_true]

theorem closers_of_depthInSignature {depth : Nat} (h : depthInSignature depth t = 0) :
    depth = 0 ∨ Token.closers.any t.is := by
  have hsub : [")", "]"] ⊆ Token.closers := by decide
  unfold depthInSignature at h
  split at h
  · omega
  · split at h
    · next hclosing =>
      obtain ⟨text, htext, his⟩ := List.any_eq_true.mp hclosing
      exact .inr (List.any_eq_true.mpr ⟨text, hsub htext, his⟩)
    · exact .inl h

theorem stopsOnLine_skipStatement (c : Cursor) (depth : Nat) :
    c.StopsOnLine depth (c.skipStatement depth).1 := by
  cases hnext : c.next? with
  | none =>
      rw [skipStatement_of_none hnext]
      exact .inl hnext
  | some first =>
      obtain ⟨t, d, hd⟩ := first
      rw [skipStatement_of_next? hnext]
      split
      · next hstop => exact .inr (.inl ⟨hstop.2, rfl⟩)
      · next hgo =>
        refine StopsOnLine.cons (rest_eq_of_next? hnext) (fun hline => ?_)
          closers_of_depthInStatement (stopsOnLine_skipStatement d _)
        exact ⟨depthInStatement_lineEnd depth hline, fun hzero => hgo ⟨.inl hline.1, hzero⟩⟩
termination_by c.left

theorem stopsOnLine_skipFunction (c : Cursor) (depth : Nat) (before : String) :
    c.Leads (StopsOnLine depth) (c.skipFunction depth before) := by
  rw [skipFunction]
  split
  · next hnext => exact .ok (.inl hnext)
  · next t d h hnext =>
    split
    · next hstop => exact .ok (.inr (.inl ⟨hstop.2, rfl⟩))
    · next hgo =>
      split
      · refine .bind (leads_endsBracket_skipBalanced d _ 0 (by decide)) ?_
        rintro ⟨e, he⟩ hde
        have hce := (motion_onward.next hnext).endsBracket hde
        dsimp only
        split
        · next hbody => exact .ok (hce.cons (.inr (.inl ⟨hbody.1, rfl⟩)))
        · refine .bind (stopsOnLine_skipFunction e depth t.text) ?_
          rintro ⟨f, hf⟩ hef
          exact .ok (hce.cons hef)
      · refine .bind (stopsOnLine_skipFunction d (depthInSignature depth t) t.text) ?_
        rintro ⟨e, he⟩ hde
        refine .ok (StopsOnLine.cons (rest_eq_of_next? hnext) (fun hline => ?_)
          closers_of_depthInSignature hde)
        exact ⟨depthInSignature_lineEnd depth hline, fun hzero => hgo ⟨hline.1, hzero⟩⟩
termination_by c.left

/-! ## Declarations -/

theorem leads_endsBracket_parseFields (c : Cursor) : c.Leads EndsBracket c.parseFields := by
  have hskip := motion_onward.skipTrivia c
  rw [parseFields]
  dsimp only
  split
  · next d hd heat => exact .ok (hskip.endsBracket (endsBracket_eat? heat (by decide)))
  · split
    · exact .error _
    · refine .bind (motion_onward.halts_parseFieldLine _ _).leads ?_
      rintro ⟨fields, d, hd⟩ hcd
      have hd := skipTrailingComment_later hd
      have hcd := hskip.trans (Onward.trans hcd (motion_onward.skipTrailingComment d))
      dsimp only
      split
      · exact .error _
      · exact hcd.leads (.bind (leads_endsBracket_parseFields _) fun more he => .ok he)
termination_by c.left

/-- An element of a type set: the rest of the body has been passed. -/
theorem endsBracket_parseMember {docs : String} {d : c.Later}
    (h : c.parseMember docs = .ok (none, d)) : c.EndsBracket d.1 := by
  unfold parseMember at h
  split at h
  · obtain ⟨name, -, h⟩ := ok_of_bind_iff.mp h
    obtain ⟨params, -, h⟩ := ok_of_bind_iff.mp h
    obtain ⟨results, -, h⟩ := ok_of_bind_iff.mp h
    cases h
  · split at h
    · obtain ⟨e, he, h⟩ := ok_of_bind_iff.mp h
      cases h
      exact leads_endsBracket_skipBalanced c _ 0 (by decide) _ he
    · obtain ⟨⟨type, e, he⟩, htype, h⟩ := ok_of_bind_iff.mp h
      dsimp only at h
      split at h
      · obtain ⟨⟨f, hf⟩, hskip, h⟩ := ok_of_bind_iff.mp h
        cases h
        have hce : c.Onward e := (motion_onward.halts_parseType c).leads _ htype
        exact hce.endsBracket (leads_endsBracket_skipBalanced e _ 0 (by decide) _ hskip)
      · cases h

theorem leads_endsBracket_parseMembers (c : Cursor) : c.Leads EndsBracket c.parseMembers := by
  have hskip := motion_onward.skipTrivia c
  rw [parseMembers]
  dsimp only
  split
  · next d hd heat => exact .ok (hskip.endsBracket (endsBracket_eat? heat (by decide)))
  · split
    · exact .error _
    · rintro a ha
      obtain ⟨⟨member?, d, hd⟩, hmember, ha⟩ := ok_of_bind_iff.mp ha
      have hcd : c.Onward d := hskip.trans ((motion_onward.halts_parseMember _ _).leads _ hmember)
      cases member? with
      | none =>
          cases ha
          exact hskip.endsBracket (endsBracket_parseMember hmember)
      | some member =>
          have hd := skipTrailingComment_later hd
          dsimp only at ha
          split at ha
          · cases ha
          · obtain ⟨⟨members?, e, he⟩, hmembers, ha⟩ := ok_of_bind_iff.mp ha
            cases ha
            exact (hcd.trans (motion_onward.skipTrailingComment d)).endsBracket
              (leads_endsBracket_parseMembers _ _ hmembers)
termination_by c.left

theorem leads_endsBracket_parseStruct (c : Cursor) : c.Leads EndsBracket c.parseStruct := by
  refine .bind ((motion_onward.halts_expect c (by decide)).leads) ?_
  rintro ⟨d, hd⟩ hcd
  exact Onward.leads hcd (.bind (leads_endsBracket_parseFields d.forget) fun fields he => .ok he)

theorem leads_endsBracket_parseInterface (c : Cursor) : c.Leads EndsBracket c.parseInterface := by
  refine .bind ((motion_onward.halts_expect c (by decide)).leads) ?_
  rintro ⟨d, hd⟩ hcd
  exact Onward.leads hcd (.bind (leads_endsBracket_parseMembers d.forget) fun members he => .ok he)

theorem leads_endsOnLine_parseKind (c : Cursor) : c.Leads EndsOnLine c.parseKind := by
  unfold parseKind
  split
  · next d hd heat =>
    have hcd := motion_onward.passes_eat? heat (by decide)
    refine .bind (leads_endsBracket_parseStruct d) ?_
    rintro ⟨fields, e, he⟩ hde
    exact .ok (hcd.endsBracket hde).endsOnLine
  · split
    · next d hd heat =>
      have hcd := motion_onward.passes_eat? heat (by decide)
      refine .bind (leads_endsBracket_parseInterface d) ?_
      rintro ⟨members?, e, he⟩ hde
      exact .ok (hcd.endsBracket hde).endsOnLine
    · exact .bind (leads_endsOnLine_parseType c) fun type hd => .ok hd

/-- A declaration ends on a line, or with the file. -/
theorem endsWithin_parseDeclaration {file docs : String} {declaration? : Option Declaration}
    {d : c.Later} (h : (c.parseDeclaration file docs).value = .ok (declaration?, d)) :
    d.1.next? = none ∨ c.EndsWithin d.1 := by
  rw [value_parseDeclaration_eq] at h
  obtain ⟨⟨name, e, he⟩, hname, h⟩ := ok_of_bind_iff.mp h
  have hce : c.EndsOnLine e := leads_endsOnLine_expectIdent c _ hname
  dsimp only at h
  split at h
  · obtain ⟨⟨g, hg⟩, hparams, h⟩ := ok_of_bind_iff.mp h
    cases h
    have hcf := hce.steps.onward.trans (motion_onward.passes_advance e)
    have hcg : c.EndsBracket g :=
      hcf.endsBracket (leads_endsBracket_skipBalanced _ _ 0 (by decide) _ hparams)
    exact hcg.endsWithin_of_stops (stopsOnLine_skipStatement g 0)
  · obtain ⟨⟨kind?, f, hf⟩, hkind, h⟩ := ok_of_bind_iff.mp h
    cases h
    have hcd : c.Steps (e.eatIf "=").2.1 := hce.steps.eatIf (by decide)
    exact .inr (hcd.endsWithin (leads_endsOnLine_parseKind _ _ hkind))

end Ends

end Cursor

end GoSchema.Go
