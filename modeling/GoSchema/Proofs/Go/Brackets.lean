import GoSchema.Proofs.Go.Steps

/-!
# Passing over balanced tokens

Functions, constants and variables are passed over without being read.  Their ends are found by
counting brackets, and for that it does not matter what is between a bracket and its partner: the
count comes back to where it was.

So whatever is skipped over tokens in which brackets are balanced (`Balanced`) goes on behind them
as it would have without them.  This is shown for each of the three ways of skipping, by induction
on how the tokens are put together: up to a closing bracket (`stops_skipBalanced`), up to the end of
a statement (`skipStatement_append`), and up to the end of a function
(`stops_skipFunction_signature`, `stops_skipFunction_body`).
-/

namespace GoSchema.Go

/-! ## Balanced tokens -/

/-- The signs that belong together. -/
def brackets : List (String × String) :=
  [("(", ")"), ("[", "]"), (Token.openBrace, Token.closeBrace)]

/-- The token is a given sign. -/
def Token.IsSign (t : Token) (text : String) : Prop := t.kind = .punct ∧ t.text = text

/-- The token is a given word. -/
def Token.IsWord (t : Token) (text : String) : Prop := t.kind = .ident ∧ t.text = text

/-- Every bracket of some pairs has its partner.  `Outside` holds for the tokens that are not within
such brackets. -/
inductive Balanced (pairs : List (String × String)) : (Outside : Token → Prop) → List Token → Prop
  | nil {Outside : Token → Prop} : Balanced pairs Outside []
  | token {Outside : Token → Prop} {t : Token} {rest : List Token} (ht : Outside t)
      (hend : t.kind ≠ .finish) (hno : ∀ p ∈ pairs, t.is p.1 = false ∧ t.is p.2 = false)
      (h : Balanced pairs Outside rest) : Balanced pairs Outside (t :: rest)
  | enclosed {Outside : Token → Prop} {p : String × String} {opening closing : Token}
      {inner rest : List Token} (hp : p ∈ pairs) (hopening : opening.IsSign p.1)
      (hinner : Balanced pairs (fun _ => True) inner) (hclosing : closing.IsSign p.2)
      (h : Balanced pairs Outside rest) :
      Balanced pairs Outside (opening :: (inner ++ closing :: rest))

namespace Balanced

variable {pairs : List (String × String)} {Outside Outside' : Token → Prop}
  {tokens more : List Token}

theorem mono (h : Balanced pairs Outside tokens) (hmono : ∀ t, Outside t → Outside' t) :
    Balanced pairs Outside' tokens := by
  induction h with
  | nil => exact .nil
  | token ht hend hno _ ih => exact .token (hmono _ ht) hend hno (ih hmono)
  | enclosed hp hopening hinner hclosing _ _ ih =>
      exact .enclosed hp hopening hinner hclosing (ih hmono)

end Balanced

theorem Token.IsSign.is {t : Token} {text : String} (h : t.IsSign text) : t.is text := by
  rw [Token.is, h.1, h.2]
  exact beq_self_eq_true text

theorem Token.IsSign.is_eq_false {t : Token} {text other : String} (h : t.IsSign text)
    (hne : text ≠ other) : t.is other = false := by
  rw [Token.is, h.1, h.2]
  exact beq_eq_false_iff_ne.mpr hne

theorem Token.IsSign.kind_ne {t : Token} {text : String} (h : t.IsSign text) :
    t.kind ≠ .finish ∧ t.kind ≠ .newline := by
  rw [h.1]
  decide

theorem Token.isSign_iff {t : Token} {text : String} : t.isSign text ↔ t.IsSign text := by
  simp [isSign, IsSign]

theorem Token.isSign_eq_false {t : Token} {text : String} (h : t.is text = false) :
    t.isSign text = false := by
  refine Bool.eq_false_iff.mpr fun hsign => ?_
  rw [(isSign_iff.mp hsign).is] at h
  cases h

theorem Token.IsWord.is_eq {t : Token} {text : String} (h : t.IsWord text) (other : String) :
    t.is other = (text == other) := by
  rw [Token.is, h.1, h.2]

theorem Token.is_eq_false_of_isName {t : Token} {text : String} (hkind : t.kind = .ident)
    (hname : isName t.text) (h : isSpecial text) : t.is text = false := by
  obtain ⟨kind, name, pos⟩ := t
  cases hkind
  exact Cursor.is_word_eq_false hname h pos

/-- Different pairs of brackets have no sign in common. -/
theorem brackets_apart : ∀ p ∈ brackets, ∀ q ∈ brackets, p ≠ q →
    p.1 ≠ q.1 ∧ p.1 ≠ q.2 ∧ p.2 ≠ q.1 ∧ p.2 ≠ q.2 := by
  decide

theorem opening_ne_closing : ∀ p ∈ brackets, p.1 ≠ p.2 := by
  decide

namespace Cursor

variable {c : Cursor} {t : Token} {rest out tokens : List Token} {line depth : Nat}

/-- Passing over something ends in front of some tokens. -/
def Stops {p : Cursor → Prop} (c : Cursor) (x : Except Fault { d : Cursor // p d })
    (out : List Token) : Prop :=
  ∃ line h, x = .ok ⟨c.jump line out, h⟩

theorem Stops.of_rest {x : (c : Cursor) → Except Fault c.Within} (hrest : c.rest = tokens)
    (h : c.Stops (x (c.jump c.lastLine tokens)) out) : c.Stops (x c) out := by
  subst hrest
  exact h

/-! ## Up to a closing bracket -/

section SkipBalanced

variable {pairs : List (String × String)} {p : String × String}

theorem stops_skipBalanced_token (hend : t.kind ≠ .finish) (hopening : t.is p.1 = false)
    (hclosing : t.is p.2 = false)
    (h : ∀ line, c.Stops ((c.jump line rest).skipBalanced p.1 p.2 depth) out) :
    c.Stops ((c.jump line (t :: rest)).skipBalanced p.1 p.2 depth) out := by
  obtain ⟨line', hle, heq⟩ := h t.pos.line
  rw [skipBalanced, next?_jump hend]
  dsimp only
  rw [hopening, hclosing, if_neg Bool.false_ne_true, if_neg Bool.false_ne_true, heq, ok_bind]
  exact ⟨line', _, rfl⟩

theorem stops_skipBalanced_opening (hopening : t.IsSign p.1)
    (h : ∀ line, c.Stops ((c.jump line rest).skipBalanced p.1 p.2 (depth + 1)) out) :
    c.Stops ((c.jump line (t :: rest)).skipBalanced p.1 p.2 depth) out := by
  obtain ⟨line', hle, heq⟩ := h t.pos.line
  rw [skipBalanced, next?_jump hopening.kind_ne.1]
  dsimp only
  rw [if_pos hopening.is, heq, ok_bind]
  exact ⟨line', _, rfl⟩

theorem stops_skipBalanced_closing (hopening : t.is p.1 = false) (hclosing : t.IsSign p.2)
    (h : ∀ line, c.Stops ((c.jump line rest).skipBalanced p.1 p.2 depth) out) :
    c.Stops ((c.jump line (t :: rest)).skipBalanced p.1 p.2 (depth + 1)) out := by
  obtain ⟨line', hle, heq⟩ := h t.pos.line
  rw [skipBalanced, next?_jump hclosing.kind_ne.1]
  dsimp only
  rw [hopening, if_neg Bool.false_ne_true, if_pos hclosing.is, heq, ok_bind]
  exact ⟨line', _, rfl⟩

theorem stops_skipBalanced_end (hopening : t.is p.1 = false) (hclosing : t.IsSign p.2) :
    c.Stops ((c.jump line (t :: rest)).skipBalanced p.1 p.2 0) rest := by
  rw [skipBalanced, next?_jump hclosing.kind_ne.1]
  dsimp only
  rw [hopening, if_neg Bool.false_ne_true, if_pos hclosing.is]
  exact ⟨t.pos.line, _, rfl⟩

/-- Balanced tokens do not change where passing over the rest ends. -/
theorem stops_skipBalanced {Outside : Token → Prop} (hpairs : pairs ⊆ brackets) (hp : p ∈ pairs)
    (htokens : Balanced pairs Outside tokens)
    (h : ∀ line, c.Stops ((c.jump line rest).skipBalanced p.1 p.2 depth) out) (line : Nat) :
    c.Stops ((c.jump line (tokens ++ rest)).skipBalanced p.1 p.2 depth) out := by
  induction htokens generalizing rest line depth with
  | nil => exact h line
  | @token Outside t more ht hend hno _ ih =>
      obtain ⟨hopening, hclosing⟩ := hno p hp
      exact stops_skipBalanced_token hend hopening hclosing fun line => ih h line
  | @enclosed Outside q opening closing inner more hq hopening _ hclosing _ ihinner ihmore =>
      rw [List.cons_append, List.append_assoc, List.cons_append]
      by_cases hsame : q = p
      · subst hsame
        have hne := opening_ne_closing q (hpairs hq)
        refine stops_skipBalanced_opening hopening fun line => ihinner (fun line => ?_) line
        exact stops_skipBalanced_closing (hclosing.is_eq_false hne.symm) hclosing
          fun line => ihmore h line
      · obtain ⟨h₁, h₂, h₃, h₄⟩ := brackets_apart q (hpairs hq) p (hpairs hp) hsame
        refine stops_skipBalanced_token hopening.kind_ne.1 (hopening.is_eq_false h₁)
          (hopening.is_eq_false h₂) fun line => ihinner (fun line => ?_) line
        exact stops_skipBalanced_token hclosing.kind_ne.1 (hclosing.is_eq_false h₃)
          (hclosing.is_eq_false h₄) fun line => ihmore h line

/-- A closing bracket behind balanced tokens is found. -/
theorem stops_skipBalanced_enclosed {Outside : Token → Prop} (hpairs : pairs ⊆ brackets)
    (hp : p ∈ pairs) (htokens : Balanced pairs Outside tokens) (ht : t.IsSign p.2) (c : Cursor)
    (rest : List Token) (line : Nat) :
    c.Stops ((c.jump line (tokens ++ t :: rest)).skipBalanced p.1 p.2 0) rest := by
  refine stops_skipBalanced hpairs hp htokens (fun line => ?_) line
  exact stops_skipBalanced_end (ht.is_eq_false (opening_ne_closing p (hpairs hp)).symm) ht

end SkipBalanced

/-! ## Up to the end of a statement -/

/-- A token within a line that does not end a statement. -/
def Inline (t : Token) : Prop := t.kind ≠ .newline ∧ t.is ";" = false

/-- The signs that matter where a statement is passed. -/
def statementSigns : List String := ";" :: brackets.flatMap fun p => [p.1, p.2]

/-- Any other token can stand in front of balanced ones. -/
theorem balanced_cons (hline : t.kind ≠ .newline) (hend : t.kind ≠ .finish)
    (hother : ∀ text ∈ statementSigns, t.is text = false)
    (h : Balanced brackets Inline tokens) : Balanced brackets Inline (t :: tokens) := by
  have hsigns : ∀ p ∈ brackets, p.1 ∈ statementSigns ∧ p.2 ∈ statementSigns := by decide
  refine .token ⟨hline, hother ";" (by decide)⟩ hend (fun p hp => ?_) h
  exact ⟨hother p.1 (hsigns p hp).1, hother p.2 (hsigns p hp).2⟩

/-- A closing bracket is no opening one. -/
theorem is_opening_eq_false {pairs : List (String × String)} (hpairs : pairs ⊆ brackets)
    {p : String × String} (hp : p ∈ pairs) (ht : t.IsSign p.2) : ∀ q ∈ pairs, t.is q.1 = false := by
  intro q hq
  refine ht.is_eq_false ?_
  by_cases hsame : p = q
  · subst hsame
    exact (opening_ne_closing p (hpairs hp)).symm
  · exact (brackets_apart p (hpairs hp) q (hpairs hq) hsame).2.2.1

theorem any_isSign_eq_false {pairs : List (String × String)} {sign : String × String → String}
    (h : ∀ p ∈ pairs, t.is (sign p) = false) : pairs.any (fun p => t.isSign (sign p)) = false :=
  List.any_eq_false.mpr fun p hp => Bool.eq_false_iff.mp (Token.isSign_eq_false (h p hp))

theorem depthInStatement_token (ht : ∀ p ∈ brackets, t.is p.1 = false ∧ t.is p.2 = false) :
    depthInStatement depth t = depth := by
  have hopening := any_isSign_eq_false fun p hp => (ht p hp).1
  have hclosing := any_isSign_eq_false fun p hp => (ht p hp).2
  exact (if_neg (Bool.eq_false_iff.mp hopening)).trans (if_neg (Bool.eq_false_iff.mp hclosing))

theorem depthInStatement_opening {p : String × String} (hp : p ∈ brackets) (ht : t.IsSign p.1) :
    depthInStatement depth t = depth + 1 := by
  have hopening : brackets.any (fun p => t.isSign p.1) = true :=
    List.any_eq_true.mpr ⟨p, hp, Token.isSign_iff.mpr ht⟩
  exact if_pos hopening

theorem depthInStatement_closing {p : String × String} (hp : p ∈ brackets) (ht : t.IsSign p.2) :
    depthInStatement (depth + 1) t = depth := by
  have hopening := any_isSign_eq_false (is_opening_eq_false (List.Subset.refl brackets) hp ht)
  have hclosing : brackets.any (fun p => t.isSign p.2) = true :=
    List.any_eq_true.mpr ⟨p, hp, Token.isSign_iff.mpr ht⟩
  exact (if_neg (Bool.eq_false_iff.mp hopening)).trans (if_pos hclosing)

/-- A token that does not end the statement is passed. -/
theorem skipStatement_jump (hend : t.kind ≠ .finish)
    (ht : ¬((t.kind = .newline ∨ t.isSign ";") ∧ depth = 0)) :
    ((c.jump line (t :: rest)).skipStatement depth).1 =
      ((c.jump t.pos.line rest).skipStatement (depthInStatement depth t)).1 := by
  rw [skipStatement_of_next? (next?_jump hend), if_neg ht]

/-- A line end ends a statement. -/
theorem skipStatement_lineEnd (ht : t.kind = .newline) :
    ((c.jump line (t :: rest)).skipStatement 0).1 = c.jump line (t :: rest) := by
  have hend : t.kind ≠ .finish := by
    rw [ht]
    decide
  rw [skipStatement_of_next? (next?_jump hend), if_pos ⟨.inl ht, rfl⟩]

/-- Balanced tokens of a statement are passed.  Outside brackets nothing in them may end it. -/
theorem skipStatement_append {Outside : Token → Prop} (htokens : Balanced brackets Outside tokens)
    (hinline : depth = 0 → ∀ t, Outside t → Inline t) (rest : List Token) (line : Nat) :
    ∃ line', ((c.jump line (tokens ++ rest)).skipStatement depth).1 =
      ((c.jump line' rest).skipStatement depth).1 := by
  induction htokens generalizing rest line depth with
  | nil => exact ⟨line, rfl⟩
  | @token Outside t more ht hend hno _ ih =>
      have hgoes : ¬((t.kind = .newline ∨ t.isSign ";") ∧ depth = 0) := by
        rintro ⟨hends, hdepth⟩
        obtain ⟨hline, hsemicolon⟩ := hinline hdepth t ht
        rcases hends with hends | hends
        · exact hline hends
        · rw [Token.isSign_eq_false hsemicolon] at hends
          cases hends
      rw [List.cons_append, skipStatement_jump hend hgoes, depthInStatement_token hno]
      exact ih hinline rest t.pos.line
  | @enclosed Outside p opening closing inner more hp hopening _ hclosing _ ihinner ihmore =>
      have hsemicolon : ∀ p ∈ brackets, p.1 ≠ ";" ∧ p.2 ≠ ";" := by decide
      have hgoes : ¬((opening.kind = .newline ∨ opening.isSign ";") ∧ depth = 0) := by
        rintro ⟨hends, -⟩
        rcases hends with hends | hends
        · exact hopening.kind_ne.2 hends
        · rw [Token.isSign_eq_false (hopening.is_eq_false (hsemicolon p hp).1)] at hends
          cases hends
      have hdeep : ¬((closing.kind = .newline ∨ closing.isSign ";") ∧ depth + 1 = 0) :=
        fun h => absurd h.2 (Nat.succ_ne_zero depth)
      rw [List.cons_append, List.append_assoc, List.cons_append,
        skipStatement_jump hopening.kind_ne.1 hgoes, depthInStatement_opening hp hopening]
      have hinside : depth + 1 = 0 → ∀ t, True → Inline t :=
        fun h => absurd h (Nat.succ_ne_zero depth)
      obtain ⟨line', heq⟩ := ihinner hinside (closing :: (more ++ rest)) opening.pos.line
      rw [heq, skipStatement_jump hclosing.kind_ne.1 hdeep, depthInStatement_closing hp hclosing]
      exact ihmore hinline rest closing.pos.line

/-! ## Up to the end of a function -/

/-- The brackets around parameters. -/
def listBrackets : List (String × String) := [("(", ")"), ("[", "]")]

/-- The brackets around bodies. -/
def bodyBrackets : List (String × String) := [(Token.openBrace, Token.closeBrace)]

theorem depthInSignature_token (ht : ∀ p ∈ listBrackets, t.is p.1 = false ∧ t.is p.2 = false) :
    depthInSignature depth t = depth := by
  have hopening : listBrackets.any (fun p => t.is p.1) = false :=
    List.any_eq_false.mpr fun p hp => Bool.eq_false_iff.mp (ht p hp).1
  have hclosing : listBrackets.any (fun p => t.is p.2) = false :=
    List.any_eq_false.mpr fun p hp => Bool.eq_false_iff.mp (ht p hp).2
  exact (if_neg (Bool.eq_false_iff.mp hopening)).trans (if_neg (Bool.eq_false_iff.mp hclosing))

theorem depthInSignature_opening {p : String × String} (hp : p ∈ listBrackets)
    (ht : t.IsSign p.1) : depthInSignature depth t = depth + 1 := by
  have hopening : listBrackets.any (fun p => t.is p.1) = true :=
    List.any_eq_true.mpr ⟨p, hp, ht.is⟩
  exact if_pos hopening

theorem depthInSignature_closing {p : String × String} (hp : p ∈ listBrackets)
    (ht : t.IsSign p.2) : depthInSignature (depth + 1) t = depth := by
  have hopening : listBrackets.any (fun p => t.is p.1) = false :=
    List.any_eq_false.mpr fun q hq =>
      Bool.eq_false_iff.mp (is_opening_eq_false (by decide : listBrackets ⊆ brackets) hp ht q hq)
  have hclosing : listBrackets.any (fun p => t.is p.2) = true :=
    List.any_eq_true.mpr ⟨p, hp, ht.is⟩
  exact (if_neg (Bool.eq_false_iff.mp hopening)).trans (if_pos hclosing)

variable {word : String}

/-- A token that is neither the end of the signature nor a brace is passed. -/
theorem stops_skipFunction_token (hend : t.kind ≠ .finish) (hline : ¬(t.kind = .newline ∧ depth = 0))
    (hbrace : t.is Token.openBrace = false)
    (h : ∀ line, c.Stops ((c.jump line rest).skipFunction (depthInSignature depth t) t.text) out) :
    c.Stops ((c.jump line (t :: rest)).skipFunction depth word) out := by
  obtain ⟨line', hle, heq⟩ := h t.pos.line
  rw [skipFunction, next?_jump hend]
  dsimp only
  rw [if_neg hline, hbrace, if_neg Bool.false_ne_true]
  rw [depthInSignature] at heq
  rw [heq, ok_bind]
  exact ⟨line', _, rfl⟩

/-- Braces of which the reader knows that they are not the body are passed. -/
theorem stops_skipFunction_braces {t : Token} {inner : List Token} {closing : Token}
    {Outside : Token → Prop} {pairs : List (String × String)} (hpairs : pairs ⊆ brackets)
    (hp : (Token.openBrace, Token.closeBrace) ∈ pairs) (ht : t.IsSign Token.openBrace)
    (hinner : Balanced pairs Outside inner) (hclosing : closing.IsSign Token.closeBrace)
    (htype : ¬(depth = 0 ∧ word ≠ "interface" ∧ word ≠ "struct"))
    (h : ∀ line, c.Stops ((c.jump line rest).skipFunction depth t.text) out) :
    c.Stops ((c.jump line (t :: (inner ++ closing :: rest))).skipFunction depth word) out := by
  obtain ⟨line', hle, heq⟩ :=
    stops_skipBalanced_enclosed hpairs hp hinner hclosing c rest t.pos.line
  obtain ⟨line'', hle', heq'⟩ := h line'
  have hnewline : ¬(t.kind = .newline ∧ depth = 0) := fun h => ht.kind_ne.2 h.1
  rw [skipFunction, next?_jump ht.kind_ne.1]
  dsimp only
  rw [if_neg hnewline, if_pos ht.is, heq, ok_bind]
  dsimp only
  rw [if_neg htype, heq', ok_bind]
  exact ⟨line'', _, rfl⟩

/-- Behind the signature the body is passed, and with it the function. -/
theorem stops_skipFunction_body {t : Token} {inner : List Token} {closing : Token}
    {Outside : Token → Prop} {pairs : List (String × String)} (hpairs : pairs ⊆ brackets)
    (hp : (Token.openBrace, Token.closeBrace) ∈ pairs) (ht : t.IsSign Token.openBrace)
    (hinner : Balanced pairs Outside inner) (hclosing : closing.IsSign Token.closeBrace)
    (hbody : word ≠ "interface" ∧ word ≠ "struct") :
    c.Stops ((c.jump line (t :: (inner ++ closing :: rest))).skipFunction 0 word) rest := by
  obtain ⟨line', hle, heq⟩ :=
    stops_skipBalanced_enclosed hpairs hp hinner hclosing c rest t.pos.line
  have hnewline : ¬(t.kind = .newline ∧ 0 = 0) := fun h => ht.kind_ne.2 h.1
  rw [skipFunction, next?_jump ht.kind_ne.1]
  dsimp only
  rw [if_neg hnewline, if_pos ht.is, heq, ok_bind]
  dsimp only
  rw [if_pos ⟨rfl, hbody⟩]
  exact ⟨line', _, rfl⟩

theorem stops_skipFunction_lineEnd (ht : t.kind = .newline) :
    c.Stops ((c.jump line (t :: rest)).skipFunction 0 word) (t :: rest) := by
  have hend : t.kind ≠ .finish := by
    rw [ht]
    decide
  rw [skipFunction, next?_jump hend]
  dsimp only
  rw [if_pos ⟨ht, rfl⟩]
  exact ⟨line, _, rfl⟩

/-- Each pair of brackets encloses either parameters or a body. -/
theorem mem_listBrackets_or_eq : ∀ p ∈ brackets,
    p ∈ listBrackets ∨ p = (Token.openBrace, Token.closeBrace) := by
  decide

theorem ne_brace_of_mem_listBrackets : ∀ p ∈ listBrackets,
    p.1 ≠ Token.openBrace ∧ p.2 ≠ Token.openBrace := by
  decide

theorem listBrackets_subset : listBrackets ⊆ brackets := by
  decide

theorem brace_mem_brackets : (Token.openBrace, Token.closeBrace) ∈ brackets := by
  decide

/-- A pair of brackets around parameters is passed if what is between them is. -/
theorem stops_skipFunction_enclosed {p : String × String} {opening closing : Token}
    {inner : List Token} (hp : p ∈ listBrackets) (hopening : opening.IsSign p.1)
    (hclosing : closing.IsSign p.2)
    (hinner : (∀ line word, c.Stops ((c.jump line (closing :: rest)).skipFunction (depth + 1) word)
      out) → ∀ line word,
        c.Stops ((c.jump line (inner ++ closing :: rest)).skipFunction (depth + 1) word) out)
    (h : ∀ line, c.Stops ((c.jump line rest).skipFunction depth closing.text) out) :
    c.Stops ((c.jump line (opening :: (inner ++ closing :: rest))).skipFunction depth word) out := by
  obtain ⟨hbrace, hbrace'⟩ := ne_brace_of_mem_listBrackets p hp
  have hline : ¬(opening.kind = .newline ∧ depth = 0) := fun h => hopening.kind_ne.2 h.1
  have hdeep : ¬(closing.kind = .newline ∧ depth + 1 = 0) := fun h => hclosing.kind_ne.2 h.1
  apply stops_skipFunction_token hopening.kind_ne.1 hline (hopening.is_eq_false hbrace)
  rw [depthInSignature_opening hp hopening]
  intro line
  apply hinner
  intro line word
  apply stops_skipFunction_token hclosing.kind_ne.1 hdeep (hclosing.is_eq_false hbrace')
  rw [depthInSignature_closing hp hclosing]
  exact h

/-- Within parentheses or square brackets anything balanced is passed. -/
theorem stops_skipFunction_inner {Outside : Token → Prop}
    (htokens : Balanced brackets Outside tokens)
    (h : ∀ line word, c.Stops ((c.jump line rest).skipFunction (depth + 1) word) out)
    (line : Nat) (word : String) :
    c.Stops ((c.jump line (tokens ++ rest)).skipFunction (depth + 1) word) out := by
  induction htokens generalizing rest line depth word with
  | nil => exact h line word
  | @token Outside t more ht hend hno _ ih =>
      have hdeep : ¬(t.kind = .newline ∧ depth + 1 = 0) := fun h => Nat.succ_ne_zero depth h.2
      apply stops_skipFunction_token hend hdeep (hno _ brace_mem_brackets).1
      rw [depthInSignature_token fun p hp => hno p (listBrackets_subset hp)]
      exact fun line => ih h line t.text
  | @enclosed Outside p opening closing inner more hp hopening hinner hclosing _ ihinner ihmore =>
      rw [List.cons_append, List.append_assoc, List.cons_append]
      have hmore (line : Nat) (word : String) := ihmore h line word
      rcases mem_listBrackets_or_eq p hp with hlist | rfl
      · exact stops_skipFunction_enclosed hlist hopening hclosing (fun h => ihinner h)
          fun line => hmore line closing.text
      · have htype : ¬(depth + 1 = 0 ∧ word ≠ "interface" ∧ word ≠ "struct") :=
          fun h => Nat.succ_ne_zero depth h.1
        exact stops_skipFunction_braces (List.Subset.refl brackets) hp hopening hinner hclosing
          htype fun line => hmore line opening.text

/-- A signature, from behind a word on.  Its parentheses and square brackets are balanced, its lines
end only between these, and a brace is the one of an interface or a struct. -/
inductive Signature : (word : String) → List Token → Prop
  | nil {word : String} : Signature word []
  | token {word : String} {t : Token} {rest : List Token} (hend : t.kind ≠ .finish)
      (hline : t.kind ≠ .newline) (hno : ∀ p ∈ brackets, t.is p.1 = false ∧ t.is p.2 = false)
      (h : Signature t.text rest) : Signature word (t :: rest)
  | list {word : String} {p : String × String} {opening closing : Token} {inner rest : List Token}
      (hp : p ∈ listBrackets) (hopening : opening.IsSign p.1)
      (hinner : Balanced brackets (fun _ => True) inner) (hclosing : closing.IsSign p.2)
      (h : Signature closing.text rest) :
      Signature word (opening :: (inner ++ closing :: rest))
  | type {word : String} {opening closing : Token} {inner rest : List Token}
      (hword : word = "interface" ∨ word = "struct") (hopening : opening.IsSign Token.openBrace)
      (hinner : Balanced brackets (fun _ => True) inner)
      (hclosing : closing.IsSign Token.closeBrace) (h : Signature closing.text rest) :
      Signature word (opening :: (inner ++ closing :: rest))

/-- A signature is passed.  Of the word before it only matters whether it stands in front of a
brace. -/
theorem stops_skipFunction_signature (hsignature : Signature word tokens) {word' : String}
    (hword : word' = word ∨ word ≠ "interface" ∧ word ≠ "struct")
    (h : ∀ line word, c.Stops ((c.jump line rest).skipFunction 0 word) out) (line : Nat) :
    c.Stops ((c.jump line (tokens ++ rest)).skipFunction 0 word') out := by
  induction hsignature generalizing line word' with
  | nil => exact h line word'
  | @token word t more hend hline hno _ ih =>
      apply stops_skipFunction_token hend (fun h => hline h.1) (hno _ brace_mem_brackets).1
      rw [depthInSignature_token fun p hp => hno p (listBrackets_subset hp)]
      exact ih (.inl rfl)
  | @list word p opening closing inner more hp hopening hinner hclosing _ ih =>
      rw [List.cons_append, List.append_assoc, List.cons_append]
      exact stops_skipFunction_enclosed hp hopening hclosing (stops_skipFunction_inner hinner)
        (ih (.inl rfl))
  | @type word opening closing inner more hbrace hopening hinner hclosing _ ih =>
      rw [List.cons_append, List.append_assoc, List.cons_append]
      have hsame : word' = word := by
        rcases hword with hword | ⟨hinterface, hstruct⟩
        · exact hword
        · exact absurd hbrace (not_or.mpr ⟨hinterface, hstruct⟩)
      subst hsame
      have htype : ¬(0 = 0 ∧ word' ≠ "interface" ∧ word' ≠ "struct") :=
        fun h => not_or.mpr h.2 hbrace
      -- the reader remembers the opening brace instead of the closing one
      have hclosed : closing.text ≠ "interface" ∧ closing.text ≠ "struct" := by
        rw [hclosing.2]
        decide
      exact stops_skipFunction_braces (List.Subset.refl brackets) brace_mem_brackets hopening hinner
        hclosing htype (ih (.inr hclosed))

end Cursor

end GoSchema.Go
