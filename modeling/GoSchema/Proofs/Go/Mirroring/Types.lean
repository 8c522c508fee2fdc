import GoSchema.Proofs.Go.Mirroring
import GoSchema.Proofs.Go.ParameterText

/-!
# Types that stand elsewhere

Types and parameter lists are read in the same way wherever they stand.  They are read together, so
what is said of one of them is said of all, for everything that a text of a given length holds
(`KeepsTypes`), by induction on this length.  Each form of types is looked at by itself.
-/

namespace GoSchema.Go.Cursor

namespace Cut

/-- The text of tokens that are alike is the same, because it holds no layout. -/
theorem Alike.compact_take {s : Cut} {ts us : List Token} (h : s.Alike ts us) (n : Nat)
    (afterWord : Bool) : compact afterWord (us.take n) = compact afterWord (ts.take n) := by
  induction h generalizing n afterWord with
  | nil => rfl
  | @cons t u ts us head _ _ ih =>
      have hmirrors := s.mirrors head
      cases n with
      | zero => rfl
      | succ n =>
          rw [List.take_succ_cons, List.take_succ_cons, compact, compact, hmirrors.isLayout_eq]
          cases hlayout : t.isLayout with
          | true => exact ih n afterWord
          | false =>
              rw [hmirrors.eq_down hlayout]
              exact congrArg (_ ++ ·) (ih n _)

/-- What is read as the length of an array is the text up to the closing bracket. -/
theorem textToBracket?_of_arrayLength {c e : Cursor} {length : String} {hleft : e.left ≤ c.left}
    (hread : c.arrayLength = .ok (length, ⟨e, hleft⟩)) {tokens later : List Token}
    (hrest : c.rest = tokens ++ later) (he : later.length < e.left) :
    textToBracket? tokens = some length := by
  rw [Cursor.arrayLength] at hread
  cases tokens with
  | nil =>
      have hlt := Nat.lt_of_lt_of_le he hleft
      rw [left, hrest] at hlt
      exact absurd hlt (Nat.lt_irrefl _)
  | cons t tokens =>
      rw [textToBracket?, ← current_of_rest hrest]
      split at hread
      · next hclosing =>
        cases hread
        exact if_pos hclosing
      · next hclosing =>
        rw [if_neg hclosing]
        cases hnext : c.next? with
        | none =>
            rw [hnext] at hread
            cases hread
        | some r =>
            obtain ⟨u, c', hc'⟩ := r
            rw [hnext] at hread
            obtain ⟨⟨length', r, hr⟩, hmore, hread⟩ := ok_of_bind_iff.mp hread
            cases hread
            have hrest' : c'.rest = tokens ++ later :=
              (List.cons_eq_cons.mp ((rest_eq_of_next? hnext).symm.trans hrest)).2
            rw [textToBracket?_of_arrayLength hmore hrest' he, current_of_next? hnext]
            rfl
termination_by c.left

/-- From a cursor a reader does the same in both texts, if it ends in front of the stop. -/
def Keeps (s : Cut) {α : Type} {p : Cursor → Cursor → Prop}
    (read : (c : Cursor) → Except Fault (α × { d : Cursor // p c d })) (c : Cursor) : Prop :=
  ∀ {d e : Cursor} {a : α} {hleft : p c e}, s.Mirrors c d → read c = .ok (a, ⟨e, hleft⟩) →
    s.first.length < e.left → ∃ f hf, read d = .ok (a, ⟨f, hf⟩) ∧ s.Mirrors e f

/-- What is known of types and parameter lists while longer ones are looked at. -/
structure KeepsTypes (s : Cut) (n : Nat) : Prop where
  type {c : Cursor} (hc : c.left < n) : s.Keeps parseType c
  params {c : Cursor} (hc : c.left < n) : s.Keeps parseParams c
  entries {c : Cursor} (hc : c.left < n) : s.Keeps parseEntries c

theorem KeepsTypes.mono {s : Cut} {m n : Nat} (h : s.KeepsTypes n) (hle : m ≤ n) :
    s.KeepsTypes m :=
  ⟨fun hc => h.type (Nat.lt_of_lt_of_le hc hle), fun hc => h.params (Nat.lt_of_lt_of_le hc hle),
    fun hc => h.entries (Nat.lt_of_lt_of_le hc hle)⟩

namespace Mirrors

variable {s : Cut} {c d e f : Cursor} {text : String}

/-- The text between two cursors does not depend on where it stands. -/
theorem textUpTo (h : s.Mirrors c d) (hef : s.Mirrors e f) : d.textUpTo f = c.textUpTo e := by
  obtain ⟨before, mirrored, hc, hd, halike, -⟩ := h
  obtain ⟨before', mirrored', he, hf, halike', -⟩ := hef
  have hmirrored := halike.length_eq
  have hmirrored' := halike'.length_eq
  rw [List.length_append, List.length_singleton] at hmirrored hmirrored'
  have hlength : c.left - e.left = before.length - before'.length := by
    simp only [left, hc, he, List.length_append]
    omega
  have hlength' : d.left - f.left = before.length - before'.length := by
    simp only [left, hd, hf, List.length_append]
    omega
  have hle : before.length - before'.length ≤ (before ++ [s.stop]).length := by
    rw [List.length_append]
    omega
  have hc : c.rest = (before ++ [s.stop]) ++ s.first := by
    rw [hc, List.append_assoc, List.singleton_append]
  rw [Cursor.textUpTo, Cursor.textUpTo, upTo, upTo, hlength, hlength', hc, hd,
    List.take_append_of_le_length hle, List.take_append_of_le_length (by omega),
    halike.compact_take]

/-- The text up to a closing bracket is passed, whatever comments it holds. -/
theorem passesArrayLength {c d e : Cursor} {length : String} (h : s.Mirrors c d)
    {hleft : e.left ≤ c.left} (hread : c.arrayLength = .ok (length, ⟨e, hleft⟩))
    (he : s.first.length < e.left) :
    ∃ length' f hf, d.arrayLength = .ok (length', ⟨f, hf⟩) ∧ s.Mirrors e f := by
  rw [Cursor.arrayLength] at hread ⊢
  rw [h.current.is_eq]
  split at hread
  · next hclosing =>
    cases hread
    rw [if_pos hclosing]
    exact ⟨_, _, _, rfl, h⟩
  · next hclosing =>
    rw [if_neg hclosing]
    cases hnext : c.next? with
    | none =>
        rw [hnext] at hread
        cases hread
    | some r =>
        obtain ⟨t, c', hc'⟩ := r
        rw [hnext] at hread
        obtain ⟨⟨length, r, hr⟩, hrest, hread⟩ := ok_of_bind_iff.mp hread
        cases hread
        obtain ⟨u, d', hd', hnext', hu, hmirrors⟩ := h.next? hnext
        obtain ⟨length', f, hf, hrest', hef⟩ :=
          passesArrayLength (hmirrors (Nat.lt_of_lt_of_le he hr)) hrest he
        rw [hnext']
        dsimp only
        rw [hrest', ok_bind]
        exact ⟨_, _, _, rfl, hef⟩
termination_by c.left

/-- Behind a bracket the length of an array is the same. -/
theorem arrayLength (h : s.Mirrors c d) {t u : Token} {r r' : Cursor} {hr : r.left < c.left}
    {hr' : r'.left < d.left} (his : t.is "[") (hnext : c.next? = some (t, ⟨r, hr⟩))
    (hnext' : d.next? = some (u, ⟨r', hr'⟩)) (hrr' : s.Mirrors r r') {length : String}
    {hleft : e.left ≤ r.left} (hread : r.arrayLength = .ok (length, ⟨e, hleft⟩))
    (he : s.first.length < e.left) :
    ∃ f hf, r'.arrayLength = .ok (length, ⟨f, hf⟩) ∧ s.Mirrors e f := by
  obtain ⟨length', f, hf, hread', hef⟩ := hrr'.passesArrayLength hread he
  obtain ⟨before, mirrored, hc, hd, halike, -⟩ := h
  have hc : c.rest = (before ++ [s.stop]) ++ s.first := by
    rw [hc, List.append_assoc, List.singleton_append]
  have hf_lt : s.second.length < f.left := by
    obtain ⟨before', mirrored', -, hrest, halike', -⟩ := hef
    have hlength := halike'.length_eq
    rw [List.length_append, List.length_singleton] at hlength
    rw [left, hrest, List.length_append]
    omega
  obtain rfl : length' = length := by
    rw [rest_eq_of_next? hnext] at hc
    rw [rest_eq_of_next? hnext'] at hd
    cases hts : before ++ [s.stop] with
    | nil => simp at hts
    | cons v ts =>
        rw [hts] at hc halike
        obtain ⟨rfl, hrest⟩ := List.cons_eq_cons.mp hc
        cases halike with
        | cons _ bracket _ =>
            obtain ⟨-, hrest'⟩ := List.cons_eq_cons.mp hd
            have htext := textToBracket?_of_arrayLength hread hrest he
            have htext' := textToBracket?_of_arrayLength hread' hrest' hf_lt
            rw [bracket his, htext] at htext'
            exact (Option.some.inj htext').symm
  exact ⟨f, hf, hread', hef⟩

/-- A sign, and the token behind it, are the same in both texts. -/
theorem current_is_and_ahead_iff (h : s.Mirrors c d) (text : String) {p : Token → Prop}
    (hp : ∀ {t u : Token}, t.Mirrors s.lines u → (p u ↔ p t)) (htext : text ≠ "\n")
    (hne : text ≠ "") :
    (d.current.is text ∧ p (d.ahead 1)) ↔ (c.current.is text ∧ p (c.ahead 1)) := by
  rw [h.current.is_eq]
  exact and_congr_right fun his => hp (h.ahead_one (s.ne_stop_of_is his htext hne))

theorem qualifiedName (h : s.Mirrors c d) {type : TypeExpr} {hleft : e.left < c.left}
    (hread : c.qualifiedName = .ok (type, ⟨e, hleft⟩)) (he : s.first.length < e.left) :
    ∃ f hf, d.qualifiedName = .ok (type, ⟨f, hf⟩) ∧ s.Mirrors e f := by
  unfold Cursor.qualifiedName at hread ⊢
  obtain ⟨⟨first, a, ha⟩, hfirst, hread⟩ := ok_of_bind_iff.mp hread
  have hpoint_iff {b : Cursor} (hab : s.Mirrors a b) :=
    hab.current_is_and_ahead_iff "." (p := fun t => t.kind = .ident)
      (fun htu => by rw [htu.kind_eq]) (by decide) (by decide)
  dsimp only at hread
  split at hread
  · next hpoint =>
    cases hnext : a.next? with
    | none =>
        rw [hnext] at hread
        cases hread
        obtain ⟨b, hb, hfirst', hab⟩ := h.expectIdent hfirst he
        have htext := Token.text_of_is ((hpoint_iff hab).mpr hpoint).1
        rw [hfirst', ok_bind]
        dsimp only
        rw [if_pos ((hpoint_iff hab).mpr hpoint), hab.next?_eq_none hnext, htext,
          Token.text_of_is hpoint.1]
        exact ⟨b, hb, rfl, hab⟩
    | some r =>
        obtain ⟨t, r, hr⟩ := r
        rw [hnext] at hread
        obtain ⟨⟨second, q, hq⟩, hsecond, hread⟩ := ok_of_bind_iff.mp hread
        cases hread
        have he : s.first.length < q.left := he
        obtain ⟨b, hb, hfirst', hab⟩ := h.expectIdent hfirst (by omega)
        obtain ⟨u, r', hr', hnext', -, hrr'⟩ := hab.next? hnext
        obtain ⟨f, hf, hsecond', hef⟩ := (hrr' (by omega)).expectIdent hsecond he
        rw [hfirst', ok_bind]
        dsimp only
        rw [if_pos ((hpoint_iff hab).mpr hpoint), hnext']
        dsimp only
        rw [hsecond', ok_bind]
        exact ⟨_, _, rfl, hef⟩
  · next hpoint =>
    cases hread
    obtain ⟨b, hb, hfirst', hab⟩ := h.expectIdent hfirst he
    rw [hfirst', ok_bind]
    dsimp only
    rw [if_neg ((hpoint_iff hab).not.mpr hpoint)]
    exact ⟨b, hb, rfl, hab⟩

theorem parseResults_of_keeps (h : s.Mirrors c d) (hparams : s.Keeps Cursor.parseParams c)
    (htype : s.Keeps Cursor.parseType c) {results : List Param} {hleft : e.left ≤ c.left}
    (hread : c.parseResults = .ok (results, ⟨e, hleft⟩)) (he : s.first.length < e.left) :
    ∃ f hf, d.parseResults = .ok (results, ⟨f, hf⟩) ∧ s.Mirrors e f := by
  rw [Cursor.parseResults] at hread ⊢
  rw [h.current.is_eq, h.current.kind_eq]
  split at hread
  · next hlist =>
    obtain ⟨⟨params, q, hq⟩, hlist', hread⟩ := ok_of_bind_iff.mp hread
    cases hread
    obtain ⟨f, hf, hparams', hef⟩ := hparams h hlist' he
    rw [if_pos hlist, hparams', ok_bind]
    exact ⟨_, _, rfl, hef⟩
  · next hlist =>
    rw [if_neg hlist]
    split at hread
    · next hsingle =>
      obtain ⟨⟨type, q, hq⟩, htype', hread⟩ := ok_of_bind_iff.mp hread
      cases hread
      obtain ⟨f, hf, hsingle', hef⟩ := htype h htype' he
      rw [if_pos hsingle, hsingle', ok_bind]
      exact ⟨_, _, rfl, hef⟩
    · next hsingle =>
      cases hread
      rw [if_neg hsingle]
      exact ⟨_, _, rfl, h⟩

/-! ### Types that are kept as their text -/

/-- What is passed behind a word or sign, and what is passed without it, may each be looked at
alone. -/
theorem passedBehind {word : String} (h : s.Mirrors c d)
    {pass : (r : Cursor) → Except Fault r.Later}
    {other : Except Fault c.Later} {other' : Except Fault d.Later}
    (hyes : ∀ {r r' e : Cursor} {hleft : e.left < r.left}, r.left < c.left → s.Mirrors r r' →
      pass r = .ok ⟨e, hleft⟩ → s.first.length < e.left →
      ∃ f hf, pass r' = .ok ⟨f, hf⟩ ∧ s.Mirrors e f)
    (hno : ∀ {e : Cursor} {hleft : e.left < c.left}, other = .ok ⟨e, hleft⟩ →
      s.first.length < e.left → ∃ f hf, other' = .ok ⟨f, hf⟩ ∧ s.Mirrors e f)
    {hleft : e.left < c.left} (hread : c.passedBehind word pass other = .ok ⟨e, hleft⟩)
    (he : s.first.length < e.left) :
    ∃ f hf, d.passedBehind word pass other' = .ok ⟨f, hf⟩ ∧ s.Mirrors e f := by
  unfold Cursor.passedBehind at hread ⊢
  cases hword : c.eat? word with
  | some r =>
      obtain ⟨r, hr⟩ := r
      rw [hword] at hread
      obtain ⟨⟨q, hq⟩, hpass, hread⟩ := ok_of_bind_iff.mp hread
      cases hread
      obtain ⟨r', hr', hword', hrr'⟩ := h.eat? hword (Nat.lt_trans he hq)
      obtain ⟨f, hf, hpass', hef⟩ := hyes hr hrr' hpass he
      rw [hword']
      dsimp only
      rw [hpass', ok_bind]
      exact ⟨_, _, rfl, hef⟩
  | none =>
      rw [hword] at hread
      rw [h.eat?_eq_none hword]
      exact hno hread he

section Passing

variable {hleft : e.left < c.left}

theorem passReceiver (h : s.Mirrors c d) (hkept : s.KeepsTypes c.left)
    (hread : c.passReceiver = .ok ⟨e, hleft⟩) (he : s.first.length < e.left) :
    ∃ f hf, d.passReceiver = .ok ⟨f, hf⟩ ∧ s.Mirrors e f := by
  obtain ⟨⟨r, hr⟩, hchan, hread⟩ := ok_of_bind_iff.mp hread
  obtain ⟨⟨type, q, hq⟩, htype, hread⟩ := ok_of_bind_iff.mp hread
  cases hread
  obtain ⟨r', hr', hchan', hrr'⟩ := h.expect hchan (Nat.lt_trans he hq)
  obtain ⟨f, hf, htype', hef⟩ := hkept.type hr hrr' htype he
  rw [Cursor.passReceiver, hchan', ok_bind]
  dsimp only
  rw [htype', ok_bind]
  exact ⟨_, _, rfl, hef⟩

theorem passChannel (h : s.Mirrors c d) {n : Nat} (hkept : s.KeepsTypes n) (hc : c.left < n)
    (hread : c.passChannel = .ok ⟨e, hleft⟩) (he : s.first.length < e.left) :
    ∃ f hf, d.passChannel = .ok ⟨f, hf⟩ ∧ s.Mirrors e f := by
  unfold Cursor.passChannel at hread ⊢
  rcases hif : c.eatIf "<-" with ⟨received, r, hr⟩
  rw [hif] at hread
  obtain ⟨⟨type, q, hq⟩, htype, hread⟩ := ok_of_bind_iff.mp hread
  cases hread
  obtain ⟨r', hr', hif', hrr'⟩ := h.eatIf hif (Nat.lt_trans he hq)
  obtain ⟨f, hf, htype', hef⟩ := hkept.type (Nat.lt_of_le_of_lt hr hc) hrr' htype he
  rw [hif']
  dsimp only
  rw [htype', ok_bind]
  exact ⟨_, _, rfl, hef⟩

theorem passSignature (h : s.Mirrors c d) {n : Nat} (hkept : s.KeepsTypes n) (hc : c.left < n)
    (hread : c.passSignature = .ok ⟨e, hleft⟩) (he : s.first.length < e.left) :
    ∃ f hf, d.passSignature = .ok ⟨f, hf⟩ ∧ s.Mirrors e f := by
  obtain ⟨⟨params, r, hr⟩, hparams, hread⟩ := ok_of_bind_iff.mp hread
  obtain ⟨⟨results, q, hq⟩, hresults, hread⟩ := ok_of_bind_iff.mp hread
  cases hread
  have hrn := Nat.lt_trans hr hc
  obtain ⟨r', hr', hparams', hrr'⟩ := hkept.params hc h hparams (Nat.lt_of_lt_of_le he hq)
  obtain ⟨f, hf, hresults', hef⟩ :=
    hrr'.parseResults_of_keeps (hkept.params hrn) (hkept.type hrn) hresults he
  rw [Cursor.passSignature, hparams', ok_bind]
  dsimp only
  rw [hresults', ok_bind]
  exact ⟨_, _, rfl, hef⟩

theorem passBody (h : s.Mirrors c d) (hread : c.passBody = .ok ⟨e, hleft⟩)
    (he : s.first.length < e.left) : ∃ f hf, d.passBody = .ok ⟨f, hf⟩ ∧ s.Mirrors e f := by
  unfold Cursor.passBody at hread ⊢
  cases hnext : c.next? with
  | none =>
      rw [hnext] at hread
      cases hread
  | some r =>
      obtain ⟨t, r, hr⟩ := r
      rw [hnext] at hread
      obtain ⟨⟨q, hq⟩, hbrace, hread⟩ := ok_of_bind_iff.mp hread
      obtain ⟨⟨p, hp⟩, hpass, hread⟩ := ok_of_bind_iff.mp hread
      cases hread
      have hlt := Nat.lt_trans he hp
      obtain ⟨u, r', hr', hnext', -, hrr'⟩ := h.next? hnext
      obtain ⟨q', hq', hbrace', hqq'⟩ := (hrr' (Nat.lt_trans hlt hq)).expect hbrace hlt
      obtain ⟨f, hf, hpass', hef⟩ := hqq'.skipBalanced hpass he
      rw [hnext']
      dsimp only
      rw [hbrace', ok_bind]
      dsimp only
      rw [hpass', ok_bind]
      exact ⟨_, _, rfl, hef⟩

theorem parseVerbatim (h : s.Mirrors c d) (hkept : s.KeepsTypes c.left)
    (hread : c.parseVerbatim = .ok ⟨e, hleft⟩) (he : s.first.length < e.left) :
    ∃ f hf, d.parseVerbatim = .ok ⟨f, hf⟩ ∧ s.Mirrors e f := by
  rw [parseVerbatim_eq] at hread ⊢
  refine h.passedBehind (fun hr hrr' => hrr'.passReceiver (hkept.mono (Nat.le_of_lt hr)))
    (fun hread he => ?_) hread he
  refine h.passedBehind (fun hr hrr' => hrr'.passChannel hkept hr) (fun hread he => ?_) hread he
  exact h.passedBehind (fun hr hrr' => hrr'.passSignature hkept hr) h.passBody hread he

end Passing

/-! ### Forms of types -/

/-- What is read behind a word or sign, and what is read without it, may each be looked at alone. -/
theorem followedBy {α : Type} {word : String} {c d e : Cursor} (h : s.Mirrors c d)
    {read : (r : Cursor) → Except Fault (α × r.Later)} {atEnd atEnd' : Fault}
    {other : Except Fault (α × c.Later)} {other' : Except Fault (α × d.Later)}
    (hyes : ∀ {t u : Token} {r r' e : Cursor} {hr : r.left < c.left} {hr' : r'.left < d.left}
      {a : α} {hleft : e.left < r.left}, t.is word → c.next? = some (t, ⟨r, hr⟩) →
      d.next? = some (u, ⟨r', hr'⟩) → s.Mirrors r r' → read r = .ok (a, ⟨e, hleft⟩) →
      s.first.length < e.left → ∃ f hf, read r' = .ok (a, ⟨f, hf⟩) ∧ s.Mirrors e f)
    (hno : ∀ {e : Cursor} {a : α} {hleft : e.left < c.left}, other = .ok (a, ⟨e, hleft⟩) →
      s.first.length < e.left → ∃ f hf, other' = .ok (a, ⟨f, hf⟩) ∧ s.Mirrors e f)
    {a : α} {hleft : e.left < c.left}
    (hread : c.followedBy word read atEnd other = .ok (a, ⟨e, hleft⟩))
    (he : s.first.length < e.left) :
    ∃ f hf, d.followedBy word read atEnd' other' = .ok (a, ⟨f, hf⟩) ∧ s.Mirrors e f := by
  rcases ok_of_followedBy hread with ⟨t, ⟨r, hr⟩, ⟨q, hq⟩, his, hnext, hbehind, rfl⟩ | ⟨his, hother⟩
  · obtain ⟨u, r', hr', hnext', htu, hrr'⟩ := h.next? hnext
    have hrr' := hrr' (Nat.lt_trans he hq)
    obtain ⟨f, hf, hbehind', hef⟩ := hyes his hnext hnext' hrr' hbehind he
    rw [followedBy_of_next? (htu.is_eq ▸ his) hnext', hbehind', ok_bind]
    exact ⟨_, _, rfl, hef⟩
  · obtain ⟨f, hf, hother', hef⟩ := hno hother he
    rw [followedBy_eq_other (h.current.is_eq ▸ his)]
    exact ⟨f, hf, hother', hef⟩

theorem keeps_pointerType (hc : s.Keeps Cursor.parseType c) : s.Keeps Cursor.pointerType c := by
  intro d e type hleft h hread he
  obtain ⟨⟨target, q, hq⟩, htarget, hread⟩ := ok_of_bind_iff.mp hread
  cases hread
  obtain ⟨f, hf, htarget', hef⟩ := hc h htarget he
  rw [Cursor.pointerType, htarget', ok_bind]
  exact ⟨_, _, rfl, hef⟩

theorem keeps_enclosedType (hc : s.Keeps Cursor.parseType c) : s.Keeps Cursor.enclosedType c := by
  intro d e type hleft h hread he
  obtain ⟨⟨type', q, hq⟩, htype, hread⟩ := ok_of_bind_iff.mp hread
  obtain ⟨⟨p, hp⟩, hclosing, hread⟩ := ok_of_bind_iff.mp hread
  cases hread
  obtain ⟨q', hq', htype', hqq'⟩ := hc h htype (Nat.lt_trans he hp)
  obtain ⟨f, hf, hclosing', hef⟩ := hqq'.expect hclosing he
  simp only [Cursor.enclosedType, htype', hclosing', ok_bind]
  exact ⟨f, by omega, rfl, hef⟩

/-- Behind a bracket, which has to be known because the length of an array is kept as its text. -/
theorem bracketedType (h : s.Mirrors c d) {t u : Token} {r r' : Cursor} {hr : r.left < c.left}
    {hr' : r'.left < d.left} (his : t.is "[") (hnext : c.next? = some (t, ⟨r, hr⟩))
    (hnext' : d.next? = some (u, ⟨r', hr'⟩)) (hrr' : s.Mirrors r r')
    (hkept : s.KeepsTypes c.left) {type : TypeExpr} {hleft : e.left < r.left}
    (hread : r.bracketedType = .ok (type, ⟨e, hleft⟩))
    (he : s.first.length < e.left) :
    ∃ f hf, r'.bracketedType = .ok (type, ⟨f, hf⟩) ∧ s.Mirrors e f := by
  rw [Cursor.bracketedType] at hread ⊢
  cases hslice : r.eat? "]" with
  | some q =>
      obtain ⟨q, hq⟩ := q
      rw [hslice] at hread
      obtain ⟨⟨element, p, hp⟩, helement, hread⟩ := ok_of_bind_iff.mp hread
      cases hread
      obtain ⟨q', hq', hslice', hqq'⟩ := hrr'.eat? hslice (Nat.lt_trans he hp)
      obtain ⟨f, hf, helement', hef⟩ := hkept.type (Nat.lt_trans hq hr) hqq' helement he
      rw [hslice']
      dsimp only
      rw [helement', ok_bind]
      exact ⟨_, _, rfl, hef⟩
  | none =>
      rw [hslice] at hread
      obtain ⟨⟨length, q, hq⟩, hlength, hread⟩ := ok_of_bind_iff.mp hread
      obtain ⟨⟨p, hp⟩, hclosing, hread⟩ := ok_of_bind_iff.mp hread
      obtain ⟨⟨element, o, ho⟩, helement, hread⟩ := ok_of_bind_iff.mp hread
      cases hread
      obtain ⟨q', hq', hlength', hqq'⟩ := h.arrayLength his hnext hnext' hrr' hlength (by omega)
      obtain ⟨p', hp', hclosing', hpp'⟩ := hqq'.expect hclosing (by omega)
      obtain ⟨f, hf, helement', hef⟩ := hkept.type (by omega) hpp' helement he
      simp only [hrr'.eat?_eq_none hslice, hlength', hclosing', helement', ok_bind]
      exact ⟨f, by omega, rfl, hef⟩

theorem keeps_mapType {n : Nat} (hkept : s.KeepsTypes n) (hc : c.left < n) :
    s.Keeps Cursor.mapType c := by
  intro d e type hleft h hread he
  obtain ⟨⟨r, hr⟩, hopening, hread⟩ := ok_of_bind_iff.mp hread
  obtain ⟨⟨key, q, hq⟩, hkey, hread⟩ := ok_of_bind_iff.mp hread
  obtain ⟨⟨p, hp⟩, hclosing, hread⟩ := ok_of_bind_iff.mp hread
  obtain ⟨⟨value, o, ho⟩, hvalue, hread⟩ := ok_of_bind_iff.mp hread
  cases hread
  obtain ⟨r', hr', hopening', hrr'⟩ := h.expect hopening (by omega)
  obtain ⟨q', hq', hkey', hqq'⟩ := hkept.type (by omega) hrr' hkey (by omega)
  obtain ⟨p', hp', hclosing', hpp'⟩ := hqq'.expect hclosing (by omega)
  obtain ⟨f, hf, hvalue', hef⟩ := hkept.type (by omega) hpp' hvalue he
  simp only [Cursor.mapType, hopening', hkey', hclosing', hvalue', ok_bind]
  exact ⟨f, by omega, rfl, hef⟩

theorem keeps_namedType : s.Keeps Cursor.namedType c := by
  intro d e type hleft h hread he
  obtain ⟨⟨name, q, hq⟩, hname, hread⟩ := ok_of_bind_iff.mp hread
  have harguments_iff {q' : Cursor} (hqq' : s.Mirrors q q') :=
    hqq'.current_is_and_ahead_iff "[" (p := fun t => !t.is "]")
      (fun htu => by rw [htu.is_eq]) (by decide) (by decide)
  dsimp only at hread
  rw [Cursor.namedType]
  split at hread
  · next harguments =>
    rcases hadvance : q.advance with ⟨r, hr⟩
    rw [hadvance] at hread
    obtain ⟨⟨p, hp⟩, hpass, hread⟩ := ok_of_bind_iff.mp hread
    cases hread
    have hlt : s.first.length < r.left := Nat.lt_trans he hp
    obtain ⟨q', hq', hname', hqq'⟩ := h.qualifiedName hname (Nat.lt_of_lt_of_le hlt hr)
    have hrr' := hqq'.advance (by rw [hadvance]; exact hlt)
    rw [hadvance] at hrr'
    obtain ⟨f, hf, hpass', hef⟩ := hrr'.skipBalanced hpass he
    rw [hname', ok_bind]
    dsimp only
    rw [if_pos ((harguments_iff hqq').mpr harguments), hpass', ok_bind, h.textUpTo hef]
    exact ⟨_, _, rfl, hef⟩
  · next harguments =>
    cases hread
    obtain ⟨f, hf, hname', hef⟩ := h.qualifiedName hname he
    rw [hname', ok_bind]
    dsimp only
    rw [if_neg ((harguments_iff hef).not.mpr harguments)]
    exact ⟨f, hf, rfl, hef⟩

theorem keeps_plainType (hkept : s.KeepsTypes c.left) : s.Keeps Cursor.plainType c := by
  intro d e type hleft h hread he
  rw [Cursor.plainType] at hread ⊢
  rw [h.current.is_eq, h.current.kind_eq]
  split at hread
  · next hverbatim =>
    obtain ⟨⟨q, hq⟩, hpass, hread⟩ := ok_of_bind_iff.mp hread
    cases hread
    obtain ⟨f, hf, hpass', hef⟩ := h.parseVerbatim hkept hpass he
    rw [if_pos hverbatim, hpass', ok_bind]
    dsimp only
    rw [h.textUpTo hef]
    exact ⟨_, _, rfl, hef⟩
  · next hverbatim =>
    rw [if_neg hverbatim]
    split at hread
    · next hkind =>
      rw [if_pos hkind]
      exact keeps_namedType h hread he
    · cases hread

theorem keeps_parseType (hkept : s.KeepsTypes c.left) : s.Keeps Cursor.parseType c := by
  intro d e type hleft h hread he
  rw [parseType_eq] at hread ⊢
  refine h.followedBy
    (fun {_ _ _ _ _ hr _ _ _} _ _ _ hrr' => keeps_pointerType (hkept.type hr) hrr')
    (fun hread he => ?_) hread he
  refine h.followedBy
    (fun {_ _ _ _ _ hr _ _ _} _ _ _ hrr' => keeps_enclosedType (hkept.type hr) hrr')
    (fun hread he => ?_) hread he
  refine h.followedBy (fun his hnext hnext' hrr' => h.bracketedType his hnext hnext' hrr' hkept)
    (fun hread he => ?_) hread he
  exact h.followedBy (fun {_ _ _ _ _ hr _ _ _} _ _ _ hrr' => keeps_mapType hkept hr hrr')
    (fun hread he => keeps_plainType hkept h hread he) hread he

theorem keeps_parseParams (hkept : s.KeepsTypes c.left) : s.Keeps Cursor.parseParams c := by
  intro d e params hleft h hread he
  rw [Cursor.parseParams] at hread ⊢
  obtain ⟨⟨q, hq⟩, hopening, hread⟩ := ok_of_bind_iff.mp hread
  dsimp only at hread
  obtain ⟨⟨entries, p, hp⟩, hentries, hread⟩ := ok_of_bind_iff.mp hread
  dsimp only at hread
  cases hmake : Param.ofEntries? entries with
  | none =>
      rw [hmake] at hread
      cases hread
  | some made =>
      rw [hmake] at hread
      cases hread
      obtain ⟨q', hq', hopening', hqq'⟩ := h.expect hopening (by omega)
      obtain ⟨f, hf, hentries', hef⟩ := hkept.entries (by omega) hqq' hentries he
      simp only [hopening', hentries', hmake, ok_bind]
      exact ⟨f, by omega, rfl, hef⟩

theorem entryAfter (h : s.Mirrors c d) (hkept : s.KeepsTypes (c.left + 1)) {variadic : Bool}
    {type : TypeExpr} {entry : Param.Entry} {hleft : e.left ≤ c.left}
    (hread : c.entryAfter variadic type = .ok (entry, ⟨e, hleft⟩)) (he : s.first.length < e.left) :
    ∃ f hf, d.entryAfter variadic type = .ok (entry, ⟨f, hf⟩) ∧ s.Mirrors e f := by
  unfold Cursor.entryAfter at hread ⊢
  rw [h.current.is_eq, h.current.kind_eq]
  split at hread
  · next hbare =>
    cases hread
    rw [if_pos hbare]
    exact ⟨_, _, rfl, h⟩
  · next hbare =>
    rw [if_neg hbare]
    split at hread
    · next name =>
      rcases hif : c.eatIf "..." with ⟨variadic', r, hr⟩
      rw [hif] at hread
      obtain ⟨⟨type', q, hq⟩, htype, hread⟩ := ok_of_bind_iff.mp hread
      cases hread
      obtain ⟨r', hr', hif', hrr'⟩ := h.eatIf hif (by omega)
      obtain ⟨f, hf, htype', hef⟩ := hkept.type (by omega) hrr' htype he
      rw [hif']
      dsimp only
      rw [htype', ok_bind]
      exact ⟨f, by omega, rfl, hef⟩
    · cases hread

theorem moreEntries (h : s.Mirrors c d) (hkept : s.KeepsTypes c.left)
    {entries : List Param.Entry} {hleft : e.left < c.left}
    (hread : c.moreEntries = .ok (entries, ⟨e, hleft⟩)) (he : s.first.length < e.left) :
    ∃ f hf, d.moreEntries = .ok (entries, ⟨f, hf⟩) ∧ s.Mirrors e f := by
  have hskip := c.left_skipTrivia_le
  unfold Cursor.moreEntries at hread ⊢
  cases hcomma : c.skipTrivia.eat? "," with
  | some r =>
      obtain ⟨r, hr⟩ := r
      rw [hcomma] at hread
      obtain ⟨⟨entries', q, hq⟩, hentries, hread⟩ := ok_of_bind_iff.mp hread
      cases hread
      have he : s.first.length < e.left := he
      obtain ⟨r', hr', hcomma', hrr'⟩ := (h.skipTrivia (by omega)).eat? hcomma (by omega)
      obtain ⟨f, hf, hentries', hef⟩ := hkept.entries (by omega) hrr' hentries he
      rw [hcomma']
      dsimp only
      rw [hentries', ok_bind]
      exact ⟨_, _, rfl, hef⟩
  | none =>
      rw [hcomma] at hread
      obtain ⟨⟨q, hq⟩, hclosing, hread⟩ := ok_of_bind_iff.mp hread
      cases hread
      have hskip' := h.skipTrivia (Nat.lt_trans he hq)
      obtain ⟨f, hf, hclosing', hef⟩ := hskip'.expect hclosing he
      rw [hskip'.eat?_eq_none hcomma]
      dsimp only
      rw [hclosing', ok_bind]
      exact ⟨_, _, rfl, hef⟩

theorem keeps_parseEntries (hkept : s.KeepsTypes c.left)
    (htypes : ∀ {c' : Cursor}, c'.left ≤ c.left → s.Keeps Cursor.parseType c') :
    s.Keeps Cursor.parseEntries c := by
  intro d e entries hleft h hread he
  have hskip := c.left_skipTrivia_le
  rw [parseEntries_eq] at hread ⊢
  cases hclosing : c.skipTrivia.eat? ")" with
  | some r =>
      obtain ⟨r, hr⟩ := r
      rw [hclosing] at hread
      cases hread
      obtain ⟨f, hf, hclosing', hef⟩ := (h.skipTrivia (Nat.lt_trans he hr)).eat? hclosing he
      rw [hclosing']
      exact ⟨_, _, rfl, hef⟩
  | none =>
      rw [hclosing] at hread
      dsimp only at hread
      rcases hif : c.skipTrivia.eatIf "..." with ⟨variadic, r, hr⟩
      rw [hif] at hread
      dsimp only at hread
      obtain ⟨⟨first, q, hq⟩, hfirst, hread⟩ := ok_of_bind_iff.mp hread
      dsimp only at hread
      obtain ⟨⟨entry, p, hp⟩, hentry, hread⟩ := ok_of_bind_iff.mp hread
      dsimp only at hread
      obtain ⟨⟨more, o, ho⟩, hmore, hread⟩ := ok_of_bind_iff.mp hread
      cases hread
      have he : s.first.length < o.left := he
      have hskip' := h.skipTrivia (by omega)
      obtain ⟨r', hr', hif', hrr'⟩ := hskip'.eatIf hif (by omega)
      obtain ⟨q', hq', hfirst', hqq'⟩ := htypes (by omega) hrr' hfirst (by omega)
      obtain ⟨p', hp', hentry', hpp'⟩ := hqq'.entryAfter (hkept.mono (by omega)) hentry (by omega)
      obtain ⟨f, hf, hmore', hef⟩ := hpp'.moreEntries (hkept.mono (by omega)) hmore he
      rw [hskip'.eat?_eq_none hclosing]
      dsimp only
      rw [hif']
      dsimp only
      simp only [hfirst', hentry', hmore', ok_bind]
      have hskip := d.left_skipTrivia_le
      exact ⟨f, by omega, rfl, hef⟩

/-- Types and parameter lists are read in the same way, whatever their length. -/
theorem keepsTypes (s : Cut) (n : Nat) : s.KeepsTypes n := by
  induction n with
  | zero => exact ⟨fun hc => absurd hc (Nat.not_lt_zero _), fun hc => absurd hc (Nat.not_lt_zero _),
      fun hc => absurd hc (Nat.not_lt_zero _)⟩
  | succ n ih =>
      have htype {c : Cursor} (hc : c.left < n + 1) : s.Keeps Cursor.parseType c :=
        keeps_parseType (ih.mono (Nat.le_of_lt_succ hc))
      refine ⟨htype, fun hc => ?_, fun hc => ?_⟩
      · exact keeps_parseParams (ih.mono (Nat.le_of_lt_succ hc))
      · exact keeps_parseEntries (ih.mono (Nat.le_of_lt_succ hc))
          fun hle => htype (Nat.lt_of_le_of_lt hle hc)

theorem parseType (h : s.Mirrors c d) {type : TypeExpr} {hleft : e.left < c.left}
    (hread : c.parseType = .ok (type, ⟨e, hleft⟩)) (he : s.first.length < e.left) :
    ∃ f hf, d.parseType = .ok (type, ⟨f, hf⟩) ∧ s.Mirrors e f :=
  (keepsTypes s (c.left + 1)).type (Nat.lt_succ_self _) h hread he

theorem parseParams (h : s.Mirrors c d) {params : List Param} {hleft : e.left < c.left}
    (hread : c.parseParams = .ok (params, ⟨e, hleft⟩)) (he : s.first.length < e.left) :
    ∃ f hf, d.parseParams = .ok (params, ⟨f, hf⟩) ∧ s.Mirrors e f :=
  (keepsTypes s (c.left + 1)).params (Nat.lt_succ_self _) h hread he

theorem parseResults (h : s.Mirrors c d) {results : List Param} {hleft : e.left ≤ c.left}
    (hread : c.parseResults = .ok (results, ⟨e, hleft⟩)) (he : s.first.length < e.left) :
    ∃ f hf, d.parseResults = .ok (results, ⟨f, hf⟩) ∧ s.Mirrors e f :=
  h.parseResults_of_keeps ((keepsTypes s (c.left + 1)).params (Nat.lt_succ_self _))
    ((keepsTypes s (c.left + 1)).type (Nat.lt_succ_self _)) hread he

end Mirrors

end Cut

end GoSchema.Go.Cursor
