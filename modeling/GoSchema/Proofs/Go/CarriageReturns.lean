import GoSchema.Proofs.Go.TokenLines

/-!
# Carriage returns in front of line ends

A text may end its lines with a carriage return and a line feed.  A carriage return that comes into
a text in this way ends up in one of three places.  As a blank it makes no token, but the line end
behind it stands one column further.  In a comment it is the last character, behind what the comment
says.  And a literal or a block comment over several lines holds it.  Apart from these, each lexeme
is found in front of the same text (`atStart?_withReturns`), so the tokens of the two texts belong
together one by one (`Token.scan_crlf`).
-/

namespace GoSchema.Go

open Lexeme

/-! ## Texts -/

/-- The text with a carriage return in front of each line end. -/
def withReturns (s : List Char) : List Char :=
  s.flatMap fun c => if c = '\n' then ['\r', '\n'] else [c]

/-- The text with lines that end with a carriage return and a line feed. -/
def crlf (text : String) : String := String.ofList (withReturns text.toList)

section Texts

variable {c : Char} {s : List Char}

theorem withReturns_lineEnd (s : List Char) :
    withReturns ('\n' :: s) = '\r' :: '\n' :: withReturns s := rfl

theorem withReturns_cons (h : c ≠ '\n') (s : List Char) :
    withReturns (c :: s) = c :: withReturns s := by
  rw [withReturns, List.flatMap_cons, if_neg h]
  rfl

theorem withReturns_append (s rest : List Char) :
    withReturns (s ++ rest) = withReturns s ++ withReturns rest :=
  List.flatMap_append

theorem withReturns_eq_self (h : '\n' ∉ s) : withReturns s = s := by
  induction s with
  | nil => rfl
  | cons c s ih =>
      obtain ⟨hc, hs⟩ := not_or.mp (List.mem_cons.not.mp h)
      rw [withReturns_cons (Ne.symm hc), ih hs]

theorem crlf_eq_self {text : String} (h : '\n' ∉ text.toList) : crlf text = text := by
  rw [crlf, withReturns_eq_self h, String.ofList_toList]

/-- The text begins with the same character, unless that is a line end. -/
theorem exists_cons_of_withReturns {rest : List Char} (h : withReturns s = c :: rest)
    (hc : c ≠ '\r') : ∃ rest', s = c :: rest' ∧ rest = withReturns rest' := by
  cases s with
  | nil => cases h
  | cons d s =>
      by_cases hd : d = '\n'
      · subst hd
        rw [withReturns_lineEnd] at h
        exact absurd (List.cons_eq_cons.mp h).1.symm hc
      · rw [withReturns_cons hd] at h
        obtain ⟨rfl, rfl⟩ := List.cons_eq_cons.mp h
        exact ⟨s, rfl, rfl⟩

/-- How many characters a beginning of the text has when carriage returns come into it. -/
def stretch (s : List Char) (n : Nat) : Nat := (withReturns (s.take n)).length

theorem stretch_cons (h : c ≠ '\n') (s : List Char) (n : Nat) :
    stretch (c :: s) (n + 1) = stretch s n + 1 := by
  rw [stretch, List.take_succ_cons, withReturns_cons h]
  rfl

theorem stretch_eq_self {n : Nat} (h : '\n' ∉ s.take n) (hn : n ≤ s.length) : stretch s n = n := by
  rw [stretch, withReturns_eq_self h, List.length_take, Nat.min_eq_left hn]

theorem Position.after_withReturns (pos : Position) (s : List Char) :
    pos.after (withReturns s) = pos.after s := by
  induction s generalizing pos with
  | nil => rfl
  | cons c s ih =>
      by_cases hc : c = '\n'
      · subst hc
        exact ih _
      · rw [withReturns_cons hc]
        exact ih _

end Texts

/-! ## Lexemes -/

namespace Lexeme

/-- The lexeme when carriage returns come into the text that it begins. -/
def stretched (s : List Char) (l : Lexeme) : Lexeme := ⟨stretch s l.size, l.kind?⟩

theorem run_withReturns {p : Char → Bool} (hline : p '\n' = false) (hreturn : p '\r' = false)
    (s : List Char) : run p (withReturns s) = run p s := by
  induction s with
  | nil => rfl
  | cons c s ih =>
      by_cases hc : c = '\n'
      · subst hc
        rw [withReturns_lineEnd, run, run, List.takeWhile_cons_of_neg (by simp [hreturn]),
          List.takeWhile_cons_of_neg (by simp [hline])]
      · rw [run] at ih
        rw [withReturns_cons hc, run, run, List.takeWhile_cons, List.takeWhile_cons]
        split
        · exact congrArg (· + 1) ih
        · rfl

theorem stretch_run {p : Char → Bool} (hline : p '\n' = false) (s : List Char) :
    stretch s (run p s) = run p s := by
  have htake : s.take (run p s) = s.takeWhile p := by
    rw [run, List.takeWhile_eq_take_findIdx_not, List.length_take]
    simp
  refine stretch_eq_self (fun hmem => ?_) (List.takeWhile_prefix p).length_le
  rw [htake] at hmem
  have htest := List.mem_takeWhile_imp hmem
  rw [hline] at htest
  cases htest

theorem blockEnd?_withReturns (s : List Char) :
    blockEnd? (withReturns s) = (blockEnd? s).map (stretch s) := by
  fun_induction blockEnd? s with
  | case1 => rfl
  | case2 rest => rfl
  | case3 c rest hmark ih =>
      by_cases hc : c = '\n'
      · subst hc
        rw [withReturns_lineEnd, blockEnd?.eq_3 _ _ (by simp), blockEnd?.eq_3 _ _ (by simp), ih]
        simp only [Option.map_map]
        rfl
      · rw [withReturns_cons hc, blockEnd?.eq_3, ih]
        · simp only [Option.map_map]
          refine congrArg (Option.map · _) (funext fun n => ?_)
          exact (stretch_cons hc rest n).symm
        · intro more hstar hslash
          obtain ⟨rest', rfl, -⟩ := exists_cons_of_withReturns hslash (by decide)
          exact hmark rest' hstar rfl

theorem rawEnd?_withReturns (s : List Char) :
    rawEnd? (withReturns s) = (rawEnd? s).map (stretch s) := by
  fun_induction rawEnd? s with
  | case1 => rfl
  | case2 rest => rfl
  | case3 c rest hmark ih =>
      by_cases hc : c = '\n'
      · subst hc
        rw [withReturns_lineEnd, rawEnd?.eq_3 _ _ (by decide), rawEnd?.eq_3 _ _ (by decide), ih]
        simp only [Option.map_map]
        rfl
      · rw [withReturns_cons hc, rawEnd?.eq_3 _ _ hmark, ih]
        simp only [Option.map_map]
        refine congrArg (Option.map · _) (funext fun n => ?_)
        exact (stretch_cons hc rest n).symm

theorem literalEnd?_withReturns {mark : Char} (hmark : mark ∉ ['\n', '\r', '\\']) (s : List Char) :
    literalEnd? mark (withReturns s) = (literalEnd? mark s).map (stretch s) := by
  simp only [List.mem_cons, List.not_mem_nil, or_false, not_or] at hmark
  obtain ⟨hline, hreturn, hbackslash⟩ := hmark
  have hnone (rest : List Char) : literalEnd? mark ('\n' :: rest) = none := by
    rw [literalEnd?.eq_3 _ _ _ (by simp), if_neg (Ne.symm hline), if_pos (.inl rfl)]
  have hnone' (rest : List Char) : literalEnd? mark ('\r' :: '\n' :: rest) = none := by
    rw [literalEnd?.eq_3 _ _ _ (by simp), if_neg (Ne.symm hreturn), if_neg (by decide), hnone]
    rfl
  fun_induction literalEnd? mark s with
  | case1 => rfl
  | case2 rest =>
      rw [withReturns_cons (by decide), withReturns_lineEnd, literalEnd?.eq_2, if_neg (by decide),
        hnone]
      rfl
  | case3 c rest hc ih =>
      rw [withReturns_cons (by decide), withReturns_cons hc, literalEnd?.eq_2, if_neg hc, ih]
      simp only [Option.map_map]
      refine congrArg (Option.map · _) (funext fun n => ?_)
      exact ((stretch_cons (by decide) _ (n + 1)).trans
        (congrArg (· + 1) (stretch_cons hc rest n))).symm
  | case4 rest =>
      rw [withReturns_cons hline, literalEnd?.eq_3 _ _ _ fun _ _ h => absurd h hbackslash,
        if_pos rfl, Option.map_some, stretch_cons hline]
      rfl
  | case5 c rest hescape _ hplain =>
      rcases hplain with rfl | rfl
      · exact hnone' _
      · cases rest with
        | nil => rw [withReturns_eq_self (by decide), literalEnd?.eq_3 _ _ _ (by simp),
            if_neg (Ne.symm hbackslash), if_pos (.inr rfl)]; rfl
        | cons c rest => exact absurd rfl fun heq => hescape c rest heq rfl
  | case6 c rest _ hne hplain ih =>
      obtain ⟨hc, hc'⟩ := not_or.mp hplain
      rw [withReturns_cons hc, literalEnd?.eq_3 _ _ _ fun _ _ h => absurd h hc', if_neg hne,
        if_neg hplain, ih]
      simp only [Option.map_map]
      refine congrArg (Option.map · _) (funext fun n => ?_)
      exact (stretch_cons hc rest n).symm

/-- The text begins with a line comment. -/
def BeginsComment (s : List Char) : Prop := ['/', '/'] <+: s

theorem map_stretched_cons {c : Char} (hc : c ≠ '\n') (kind? : Option Token.Kind) (rest : List Char)
    (n? : Option Nat) : (n?.map (stretch rest)).map (fun n => (⟨n + 1, kind?⟩ : Lexeme)) =
      (n?.map fun n => ⟨n + 1, kind?⟩).map (stretched (c :: rest)) := by
  simp only [Option.map_map]
  refine congrArg (Option.map · _) (funext fun n => ?_)
  exact congrArg (Lexeme.mk · kind?) (stretch_cons hc rest n).symm

theorem enclosed?_withReturns {s : List Char} (h : ¬BeginsComment s) :
    enclosed? (withReturns s) = (enclosed? s).map (stretched s) := by
  fun_cases enclosed? s with
  | case1 rest => exact absurd ⟨rest, rfl⟩ h
  | case2 rest =>
      rw [withReturns_cons (by decide), withReturns_cons (by decide), enclosed?,
        blockEnd?_withReturns]
      simp only [Option.map_map]
      refine congrArg (Option.map · _) (funext fun n => ?_)
      refine congrArg (Lexeme.mk · none) ?_
      exact ((stretch_cons (by decide) _ (n + 1)).trans
        (congrArg (· + 1) (stretch_cons (by decide) rest n))).symm
  | case3 rest =>
      rw [withReturns_cons (by decide), enclosed?, rawEnd?_withReturns]
      exact map_stretched_cons (by decide) _ _ _
  | case4 rest =>
      rw [withReturns_cons (by decide), enclosed?, literalEnd?_withReturns (by decide)]
      exact map_stretched_cons (by decide) _ _ _
  | case5 rest =>
      rw [withReturns_cons (by decide), enclosed?, literalEnd?_withReturns (by decide)]
      exact map_stretched_cons (by decide) _ _ _
  | case6 s hline hblock hraw hstring hrune =>
      unfold enclosed?
      split
      · next heq =>
        obtain ⟨rest, rfl, hrest⟩ := exists_cons_of_withReturns heq (by decide)
        obtain ⟨rest, rfl, -⟩ := exists_cons_of_withReturns hrest.symm (by decide)
        exact absurd rfl (hline rest)
      · next heq =>
        obtain ⟨rest, rfl, hrest⟩ := exists_cons_of_withReturns heq (by decide)
        obtain ⟨rest, rfl, -⟩ := exists_cons_of_withReturns hrest.symm (by decide)
        exact absurd rfl (hblock rest)
      · next heq =>
        obtain ⟨rest, rfl, -⟩ := exists_cons_of_withReturns heq (by decide)
        exact absurd rfl (hraw rest)
      · next heq =>
        obtain ⟨rest, rfl, -⟩ := exists_cons_of_withReturns heq (by decide)
        exact absurd rfl (hstring rest)
      · next heq =>
        obtain ⟨rest, rfl, -⟩ := exists_cons_of_withReturns heq (by decide)
        exact absurd rfl (hrune rest)
      · rfl

theorem isPrefixOf_withReturns {op : List Char} (h : ∀ c ∈ op, c ≠ '\n' ∧ c ≠ '\r') (s : List Char) :
    op.isPrefixOf (withReturns s) = op.isPrefixOf s := by
  induction op generalizing s with
  | nil => rfl
  | cons d op ih =>
      obtain ⟨⟨hline, hreturn⟩, hop⟩ := List.forall_mem_cons.mp h
      cases s with
      | nil => rfl
      | cons c s =>
          by_cases hc : c = '\n'
          · subst hc
            rw [withReturns_lineEnd, List.isPrefixOf, List.isPrefixOf, beq_false_of_ne hline,
              beq_false_of_ne hreturn]
            rfl
          · rw [withReturns_cons hc, List.isPrefixOf, List.isPrefixOf, ih hop]

theorem lineless_operators : ∀ op ∈ operators, ∀ c ∈ op.toList, c ≠ '\n' ∧ c ≠ '\r' := by
  have hall : operators.all fun op => op.toList.all fun c => c != '\n' && c != '\r' := by decide
  simpa using hall

theorem operator?_withReturns (s : List Char) :
    operator? (withReturns s) = (operator? s).map (stretched s) := by
  have hfind : operators.find? (fun op => op.toList.isPrefixOf (withReturns s)) =
      operators.find? fun op => op.toList.isPrefixOf s := by
    have hoperators := lineless_operators
    generalize operators = ops at hoperators ⊢
    induction ops with
    | nil => rfl
    | cons op ops ih =>
        obtain ⟨hop, hops⟩ := List.forall_mem_cons.mp hoperators
        rw [List.find?_cons, List.find?_cons, isPrefixOf_withReturns hop, ih hops]
  rw [operator?, operator?, hfind]
  cases hsome : operators.find? fun op => op.toList.isPrefixOf s with
  | none => rfl
  | some op =>
      have hop := lineless_operators op (List.mem_of_find?_eq_some hsome)
      have hprefix : op.toList.isPrefixOf s := by simpa using List.find?_some hsome
      obtain ⟨rest, rfl⟩ := List.isPrefixOf_iff_prefix.mp hprefix
      have htake : (op.toList ++ rest).take op.length = op.toList := by
        rw [← String.length_toList, List.take_left]
      have hsize : stretch (op.toList ++ rest) op.length = op.length := by
        refine stretch_eq_self (fun hmem => ?_) ?_
        · rw [htake] at hmem
          exact (hop _ hmem).1 rfl
        · rw [← String.length_toList, List.length_append]
          omega
      simp only [Option.map_some, stretched, hsize]

theorem pointNumber?_withReturns (s : List Char) :
    pointNumber? (withReturns s) = (pointNumber? s).map (stretched s) := by
  have hrun := run_withReturns (p := isNumberPart) (by decide) (by decide)
  fun_cases pointNumber? s with
  | case1 c rest hdigit =>
      have hc : c ≠ '\n' := by
        rintro rfl
        revert hdigit
        decide
      rw [withReturns_cons (by decide), withReturns_cons hc, pointNumber?, if_pos hdigit, hrun,
        Option.map_some, stretched, stretch_cons (by decide), stretch_cons hc,
        stretch_run (by decide)]
  | case2 c rest hdigit =>
      by_cases hc : c = '\n'
      · subst hc
        rw [withReturns_cons (by decide), withReturns_lineEnd, pointNumber?, if_neg (by decide)]
        rfl
      · rw [withReturns_cons (by decide), withReturns_cons hc, pointNumber?, if_neg hdigit]
        rfl
  | case3 s hpoint =>
      unfold pointNumber?
      split
      · next c more heq =>
        obtain ⟨rest, rfl, hrest⟩ := exists_cons_of_withReturns heq (by decide)
        cases rest with
        | nil => cases hrest
        | cons d rest => exact absurd rfl (hpoint d rest)
      · rfl

theorem simple?_withReturns {c : Char} (hc : c ≠ '\n') (hblank : isBlank c = false)
    (rest : List Char) :
    simple? (withReturns (c :: rest)) = (simple? (c :: rest)).map (stretched (c :: rest)) := by
  have hword := run_withReturns (p := isIdentPart) (by decide) (by decide) rest
  have hnumber := run_withReturns (p := fun c => isNumberPart c || c == '.') (by decide) (by decide)
    rest
  rw [withReturns_cons hc, simple?, simple?, if_neg hc, if_neg hc, hblank, hword, hnumber]
  split
  · rw [Option.map_some, stretched, stretch_cons hc, stretch_run (by decide)]
  · split
    · rw [Option.map_some, stretched, stretch_cons hc, stretch_run (by decide)]
    · rw [if_neg Bool.false_ne_true, if_neg Bool.false_ne_true]
      split
      · rw [Option.map_some, stretched, stretch_cons hc]
        rfl
      · rfl

/-- Apart from line ends, blanks and comments, the same lexemes are found. -/
theorem atStart?_withReturns {c : Char} {rest : List Char} (hc : c ≠ '\n')
    (hblank : isBlank c = false) (hcomment : ¬BeginsComment (c :: rest)) :
    atStart? (withReturns (c :: rest)) =
      (atStart? (c :: rest)).map (stretched (c :: rest)) := by
  rw [atStart?, atStart?, Option.map_or, Option.map_or, Option.map_or,
    enclosed?_withReturns hcomment, operator?_withReturns, pointNumber?_withReturns,
    simple?_withReturns hc hblank]

theorem Stands.withReturns {kind? : Option Token.Kind} {c : Char} {taken rest more : List Char}
    (h : Stands kind? taken rest) (htext : taken ++ rest = c :: more) (hc : c ≠ '\n')
    (hblank : isBlank c = false) (hcomment : ¬BeginsComment (c :: more)) :
    Stands kind? (GoSchema.Go.withReturns taken) (GoSchema.Go.withReturns rest) := by
  have hfound := atStart?_withReturns hc hblank hcomment
  rw [← htext, h, withReturns_append, Option.map_some, stretched, stretch, List.take_left] at hfound
  exact hfound

end Lexeme

/-! ## Scanning -/

/-- A token as it stands in a text with carriage returns. -/
inductive Token.Returned : Token → Token → Prop
  | same (t : Token) : Returned t t
  | literal (text : String) (pos : Position) : Returned ⟨.str, text, pos⟩ ⟨.str, crlf text, pos⟩
  | comment (body : String) (pos : Position) :
      Returned ⟨.comment, "//" ++ body, pos⟩ ⟨.comment, "//" ++ body ++ "\r", pos⟩
  | lineEnd (pos : Position) : Returned ⟨.newline, "\n", pos⟩ ⟨.newline, "\n", pos.next '\r'⟩

/-- Two texts both have tokens, which belong together one by one, or both have none. -/
inductive ScannedAlike : Except Fault (List Token) → Except Fault (List Token) → Prop
  | tokens {ts us : List Token} (h : List.Forall₂ Token.Returned ts us) : ScannedAlike (.ok ts) (.ok us)
  | faults (fault fault' : Fault) : ScannedAlike (.error fault) (.error fault')

theorem ScannedAlike.cons {r r' : Except Fault (List Token)} {t u : Token}
    (h : ScannedAlike r r') (htu : t.Returned u) :
    ScannedAlike (r.map (t :: ·)) (r'.map (u :: ·)) := by
  cases h with
  | tokens h => exact .tokens (.cons htu h)
  | faults fault fault' => exact .faults fault fault'

theorem lineEnd_notMem_cons {p : Char → Bool} {c : Char} {rest : List Char} (hc : c ≠ '\n')
    (hline : p '\n' = false) (hrest : ∀ d ∈ rest, p d) : '\n' ∉ c :: rest := by
  rw [List.mem_cons, not_or]
  refine ⟨Ne.symm hc, fun hmem => ?_⟩
  have htest := hrest _ hmem
  rw [hline] at htest
  cases htest

/-- A token that holds a line end is a line end or a literal. -/
theorem Lexeme.Form.eq_str_of_lineEnd {kind : Token.Kind} {s : List Char} (h : Form (some kind) s)
    (hmem : '\n' ∈ s) (hne : kind ≠ .newline) : kind = .str := by
  cases h with
  | rawString | string | rune => rfl
  | newline => exact absurd rfl hne
  | lineComment hbody =>
      simp only [List.mem_cons, Char.reduceEq, false_or] at hmem
      exact absurd hmem hbody
  | operator hop => exact absurd rfl (lineless_operators _ hop _ hmem).1
  | @word c rest hstart hrest =>
      have hc : c ≠ '\n' := by
        rintro rfl
        revert hstart
        decide
      exact absurd hmem (lineEnd_notMem_cons hc (by decide) hrest)
  | @number c rest hstart hrest =>
      have hc : c ≠ '\n' := by
        rintro rfl
        revert hstart
        decide
      exact absurd hmem (lineEnd_notMem_cons hc (by decide) hrest)
  | @fraction c rest hstart hrest =>
      have hc : c ≠ '\n' := by
        rintro rfl
        revert hstart
        decide
      refine absurd hmem ?_
      rw [List.mem_cons, not_or]
      exact ⟨by decide, lineEnd_notMem_cons hc (by decide) hrest⟩
  | sign hsign =>
      rw [List.mem_singleton] at hmem
      subst hmem
      revert hsign
      decide

/-- A text is scanned in the same way with carriage returns in it. -/
def ScansAlike (s : List Char) : Prop :=
  ∀ pos, ScannedAlike (Token.scanFrom pos s) (Token.scanFrom pos (withReturns s))

namespace ScansAlike

variable {s taken rest : List Char}

theorem nil : ScansAlike [] := by
  intro pos
  rw [withReturns, List.flatMap_nil, Token.scanFrom_nil]
  exact .tokens (.cons (.same _) .nil)

/-- Behind a carriage return a line end stands one column further. -/
theorem lineEnd (h : ScansAlike s) (pos : Position) : ScannedAlike (Token.scanFrom pos ('\n' :: s))
    (Token.scanFrom (pos.next '\r') ('\n' :: withReturns s)) := by
  have htoken (pos : Position) (s : List Char) : Token.scanFrom pos ('\n' :: s) =
      (Token.scanFrom (pos.after ['\n']) s).map (⟨.newline, "\n", pos⟩ :: ·) :=
    Token.scanFrom_of_token pos (stands_lineEnd s)
  rw [htoken, htoken]
  exact (h _).cons (.lineEnd pos)

theorem cons_lineEnd (h : ScansAlike s) : ScansAlike ('\n' :: s) := by
  intro pos
  have hsolid : BeginsSolid ('\n' :: withReturns s) := by
    rintro c ⟨⟩
    decide
  have hreturn : Token.scanFrom pos ('\r' :: '\n' :: withReturns s) =
      Token.scanFrom (pos.next '\r') ('\n' :: withReturns s) :=
    Token.scanFrom_of_gap pos (stands_blank (by decide) hsolid)
  rw [withReturns_lineEnd, hreturn]
  exact h.lineEnd pos

/-- Blanks take the carriage return that follows them. -/
theorem blanks (hne : taken ≠ []) (hblank : ∀ c ∈ taken, isBlank c) (hsolid : BeginsSolid rest)
    (h : ScansAlike rest) (hline : ∀ more, rest = '\n' :: more → ScansAlike more) :
    ScansAlike (taken ++ rest) := by
  intro pos
  have htaken := lineEnd_notMem_of_isBlank hblank
  rw [Token.scanFrom_of_gap pos (stands_blanks hne hblank hsolid), withReturns_append,
    withReturns_eq_self htaken]
  by_cases hrest : ∃ more, rest = '\n' :: more
  · obtain ⟨more, rfl⟩ := hrest
    have hreturn : ∀ c ∈ taken ++ ['\r'], isBlank c := by
      rw [List.forall_mem_append]
      exact ⟨hblank, List.forall_mem_singleton.mpr (by decide)⟩
    have hsolid' : BeginsSolid ('\n' :: withReturns more) := by
      rintro c ⟨⟩
      decide
    have hgap := Token.scanFrom_of_gap pos (stands_blanks (by simp) hreturn hsolid')
    rw [List.append_assoc, List.singleton_append, Position.after_append] at hgap
    rw [withReturns_lineEnd, hgap]
    exact (hline more rfl).lineEnd _
  · have hsolid' : BeginsSolid (withReturns rest) := by
      intro c hc
      cases rest with
      | nil => cases hc
      | cons d rest =>
          rw [withReturns_cons fun heq => hrest ⟨rest, by rw [heq]⟩] at hc
          exact hsolid c hc
    rw [Token.scanFrom_of_gap pos (stands_blanks hne hblank hsolid')]
    exact h _

/-- A comment takes the carriage return at the end of its line. -/
theorem comment (hstands : Stands (some .comment) taken rest) (h : ScansAlike rest)
    (hline : ∀ more, rest = '\n' :: more → ScansAlike more) : ScansAlike (taken ++ rest) := by
  intro pos
  obtain ⟨body, rfl, hbody, hrest⟩ := hstands.comment
  have htaken : '\n' ∉ '/' :: '/' :: body := by simpa using hbody
  have htext : String.ofList ('/' :: '/' :: body) = "//" ++ String.ofList body := by
    rw [← String.toList_inj]
    simp
  rw [Token.scanFrom_of_token pos hstands, withReturns_append, withReturns_eq_self htaken]
  rcases hrest with rfl | ⟨more, rfl⟩
  · have hrest := h (pos.after ('/' :: '/' :: body))
    rw [withReturns, List.flatMap_nil] at hrest ⊢
    rw [Token.scanFrom_of_token pos hstands]
    exact hrest.cons (.same _)
  · have hbody' : '\n' ∉ (String.ofList body ++ "\r").toList := by simpa using hbody
    have hreturn := stands_comment hbody' (withReturns more)
    have htoken := Token.scanFrom_of_token pos hreturn
    have htext' : ("//" ++ (String.ofList body ++ "\r")).toList =
        ('/' :: '/' :: body) ++ ['\r'] := by simp
    rw [htext', List.append_assoc, List.singleton_append, Position.after_append] at htoken
    rw [withReturns_lineEnd, htoken]
    refine ((hline more rfl).lineEnd _).cons ?_
    rw [← htext', String.ofList_toList, ← String.append_assoc, htext]
    exact .comment _ pos

/-- Other lexemes are found in front of the same text. -/
theorem lexeme {kind? : Option Token.Kind} {c : Char} {more : List Char}
    (hstands : Stands kind? taken rest) (htext : taken ++ rest = c :: more) (hc : c ≠ '\n')
    (hblank : isBlank c = false) (hcomment : ¬BeginsComment (c :: more)) (h : ScansAlike rest) :
    ScansAlike (taken ++ rest) := by
  intro pos
  have hstands' := hstands.withReturns htext hc hblank hcomment
  rw [withReturns_append]
  cases kind? with
  | none =>
      rw [Token.scanFrom_of_gap pos hstands, Token.scanFrom_of_gap pos hstands',
        Position.after_withReturns]
      exact h _
  | some kind =>
      rw [Token.scanFrom_of_token pos hstands, Token.scanFrom_of_token pos hstands',
        Position.after_withReturns]
      refine (h _).cons ?_
      by_cases hmem : '\n' ∈ taken
      · have hkind : kind ≠ .newline := by
          rintro rfl
          rw [hstands.form.eq_of_newline] at htext
          exact hc (List.cons_eq_cons.mp htext).1.symm
        obtain rfl := hstands.form.eq_str_of_lineEnd hmem hkind
        have hliteral := Token.Returned.literal (String.ofList taken) pos
        rw [crlf, String.toList_ofList] at hliteral
        exact hliteral
      · rw [withReturns_eq_self hmem]
        exact .same _

theorem stuck {c : Char} (hc : c ≠ '\n') (hblank : isBlank c = false)
    (hcomment : ¬BeginsComment (c :: s)) (hfound : atStart? (c :: s) = none) :
    ScansAlike (c :: s) := by
  intro pos
  have hfound' := atStart?_withReturns hc hblank hcomment
  rw [hfound, Option.map_none] at hfound'
  have hne : withReturns (c :: s) ≠ [] := by
    rw [withReturns_cons hc]
    exact List.cons_ne_nil _ _
  rw [Token.scanFrom_of_stuck pos (List.cons_ne_nil c s) (atStart?_eq_none_iff.mp hfound),
    Token.scanFrom_of_stuck pos hne (atStart?_eq_none_iff.mp hfound')]
  exact .faults _ _

end ScansAlike

/-- Every text is scanned in the same way with carriage returns in it. -/
theorem scansAlike (s : List Char) : ScansAlike s := by
  induction hlength : s.length using Nat.strong_induction_on generalizing s with
  | _ n ih =>
      subst hlength
      -- behind a lexeme there is less to scan
      have hless {taken rest : List Char} (hs : s = taken ++ rest) (hne : taken ≠ []) :
          ScansAlike rest ∧ ∀ more, rest = '\n' :: more → ScansAlike more := by
        have hpos := List.length_pos_iff.mpr hne
        have hlength : s.length = taken.length + rest.length := by rw [hs, List.length_append]
        refine ⟨ih _ (by omega) rest rfl, ?_⟩
        rintro more rfl
        rw [List.length_cons] at hlength
        exact ih _ (by omega) more rfl
      cases s with
      | nil => exact .nil
      | cons c s =>
          by_cases hline : c = '\n'
          · subst hline
            have hone : '\n' :: s = ['\n'] ++ s := rfl
            exact .cons_lineEnd (hless hone (by decide)).1
          cases hblank : isBlank c with
          | true =>
              let taken := (c :: s).takeWhile isBlank
              let rest := (c :: s).dropWhile isBlank
              have htext : c :: s = taken ++ rest := List.takeWhile_append_dropWhile.symm
              have hne : taken ≠ [] := by
                simp [taken, List.takeWhile_cons_of_pos hblank]
              have hsolid : BeginsSolid rest := by
                intro d hd
                have hnot := List.head?_dropWhile_not isBlank (c :: s)
                rw [Option.mem_def.mp hd] at hnot
                exact hnot
              have hrest := hless htext hne
              rw [htext]
              exact .blanks hne (fun d hd => List.mem_takeWhile_imp hd) hsolid hrest.1 hrest.2
          | false =>
              by_cases hcomment : BeginsComment (c :: s)
              · obtain ⟨more, hmore⟩ := hcomment
                have hfound : atStart? (c :: s) =
                    some ⟨run (· != '\n') more + 2, some .comment⟩ := hmore ▸ rfl
                obtain ⟨taken, rest, htext, -, hstands⟩ := exists_stands_of_atStart? hfound
                have hrest := hless htext hstands.ne_nil
                rw [htext]
                exact .comment hstands hrest.1 hrest.2
              · cases hfound : atStart? (c :: s) with
                | none => exact .stuck hline hblank hcomment hfound
                | some l =>
                    obtain ⟨taken, rest, htext, -, hstands⟩ := exists_stands_of_atStart? hfound
                    have hrest := hless htext hstands.ne_nil
                    rw [htext]
                    exact .lexeme hstands htext.symm hline hblank hcomment hrest.1

/-- **Carriage returns in front of line ends do not come between the tokens.** -/
theorem Token.scan_crlf (text : String) : ScannedAlike (scan text) (scan (crlf text)) := by
  have hscan := scansAlike text.toList .start
  rw [scan, scan, crlf, String.toList_ofList]
  exact hscan

end GoSchema.Go
