import GoSchema.Proofs.Go.Items

/-!
# Turns of a loop

A file, a struct, a list of parameters and everything else that comes in any number is read by a
loop: a turn of it reads what comes first, and then the loop is left or goes on behind that.  What a
turn does is said here for each loop by itself, without the turns after it.

`Repeats` ties the turns to the loop: the loop comes to the same as its first turn and, if this is
not the last one, the loop from where the turn has ended.  It also says that such a turn has taken a
token at least.  So there are no more turns than tokens, and one of them is the last
(`Repeats.ends`).

## Strategy

That the loop is the sum of its turns follows its definition line by line.  That a turn takes tokens
is known of its parts: each reader only goes onward (`motion_onward`), and how many tokens are left
behind it is in its type.
-/

namespace GoSchema.Go

/-- What one turn of a loop comes to: the loop is left with a result, or it goes on from another
state, and the result it comes to there is completed with what the turn has read. -/
inductive Turn (σ ρ : Type) where
  | leave (result : ρ)
  | again (state : σ) (complete : ρ → ρ)

/-- What a loop comes to behind one of its turns. -/
def Turn.proceed {σ ρ : Type} (loop : σ → Except Fault ρ) : Turn σ ρ → Except Fault ρ
  | leave result => .ok result
  | again state complete => complete <$> loop state

namespace Cursor

/-- The second cursor stands behind some more tokens, one at least. -/
def Consumes (c d : Cursor) : Prop := ∃ taken, taken ≠ [] ∧ c.rest = taken ++ d.rest

theorem consumes_of_onward {c d : Cursor} (h : c.Onward d) (hleft : d.left < c.left) :
    c.Consumes d := by
  obtain ⟨taken, htaken⟩ := h
  refine ⟨taken, ?_, htaken.symm⟩
  rintro rfl
  rw [left, left, ← htaken, List.nil_append] at hleft
  exact Nat.lt_irrefl _ hleft

theorem Consumes.left_lt {c d : Cursor} (h : c.Consumes d) : d.left < c.left := by
  obtain ⟨taken, htaken, hrest⟩ := h
  have hlength := List.length_pos_of_ne_nil htaken
  rw [left, left, hrest, List.length_append]
  omega

/-- A loop is the sum of its turns, and each of them that is not the last one takes a token. -/
structure Repeats {σ ρ : Type} (place : σ → Cursor) (turn : σ → Except Fault (Turn σ ρ))
    (loop : σ → Except Fault ρ) : Prop where
  unroll (s : σ) : loop s = turn s >>= Turn.proceed loop
  consumes {s s' : σ} {complete : ρ → ρ} (h : turn s = .ok (.again s' complete)) :
    (place s).Consumes (place s')

section Run

variable {σ ρ : Type} {place : σ → Cursor} {turn : σ → Except Fault (Turn σ ρ)}
  {loop : σ → Except Fault ρ}

/-- So many turns after which a loop goes on, where they lead, and what they have read. -/
inductive GoesOn (turn : σ → Except Fault (Turn σ ρ)) : Nat → σ → (ρ → ρ) → σ → Prop
  | here (s : σ) : GoesOn turn 0 s id s
  | again {n : Nat} {s s' last : σ} {complete complete' : ρ → ρ}
      (h : turn s = .ok (.again s' complete)) (rest : GoesOn turn n s' complete' last) :
      GoesOn turn (n + 1) s (complete ∘ complete') last

/-- Some turns after which a loop goes on take a token each. -/
theorem Repeats.left_le_of_goesOn (h : Repeats place turn loop) {n : Nat} {s last : σ}
    {complete : ρ → ρ} (hgoes : GoesOn turn n s complete last) :
    n + (place last).left ≤ (place s).left := by
  induction hgoes with
  | here s => exact Nat.le_of_eq (Nat.zero_add _)
  | again hagain _ ih =>
      have hlt := (h.consumes hagain).left_lt
      omega

theorem Repeats.onward_of_goesOn (h : Repeats place turn loop) {n : Nat} {s last : σ}
    {complete : ρ → ρ} (hgoes : GoesOn turn n s complete last) :
    (place s).Onward (place last) := by
  induction hgoes with
  | here s => exact motion_onward.refl _
  | again hagain _ ih =>
      obtain ⟨taken, -, hrest⟩ := h.consumes hagain
      exact Onward.trans ⟨taken, hrest.symm⟩ ih

/-- **A loop ends.**  There is a last turn, behind no more others than there are tokens left.  What
the loop comes to is decided there. -/
theorem Repeats.ends (h : Repeats place turn loop) (s : σ) :
    ∃ n complete last, GoesOn turn n s complete last ∧ n ≤ (place s).left ∧
      ((∃ result, turn last = .ok (.leave result) ∧ loop s = .ok (complete result)) ∨
        ∃ fault, turn last = .error fault ∧ loop s = .error fault) := by
  -- the induction is on the tokens left, of which a turn that goes on takes one at least
  induction hleft : (place s).left using Nat.strong_induction_on generalizing s with
  | _ k ih =>
      have hunroll := h.unroll s
      cases hturn : turn s with
      | error fault =>
          rw [hturn] at hunroll
          exact ⟨0, id, s, .here s, Nat.zero_le _, .inr ⟨fault, hturn, hunroll⟩⟩
      | ok t =>
          rw [hturn] at hunroll
          cases t with
          | leave result =>
              exact ⟨0, id, s, .here s, Nat.zero_le _, .inl ⟨result, hturn, hunroll⟩⟩
          | again s' complete =>
              have hlt := (h.consumes hturn).left_lt
              obtain ⟨n, complete', last, hgoes, -, hlast⟩ := ih _ (hleft ▸ hlt) s' rfl
              have hgoes' := GoesOn.again hturn hgoes
              have hle := h.left_le_of_goesOn hgoes'
              have hloop : loop s = complete <$> loop s' := hunroll
              refine ⟨n + 1, complete ∘ complete', last, hgoes', by omega, ?_⟩
              rcases hlast with ⟨result, hleave, hresult⟩ | ⟨fault, herror, hfault⟩
              · refine .inl ⟨result, hleave, ?_⟩
                rw [hloop, hresult]
                rfl
              · refine .inr ⟨fault, herror, ?_⟩
                rw [hloop, hfault]
                rfl

end Run

/-- What was read, and the cursor behind it. -/
def bare {α : Type} {p : Cursor → Prop} (r : α × { d : Cursor // p d }) : α × Cursor := (r.1, r.2.1)

/-! ## Passing over what is not read -/

/-- One item of a file.  The state has the package that was named last. -/
def itemTurn (file : String) : Option String × Cursor →
    Except Fault (Turn (Option String × Cursor) (Option String × List Declaration))
  | (package?, c) => do
    match ← c.parseItem file with
    | none => return .leave (package?, [])
    | some ((name?, declarations), d) =>
      return .again (name?.or package?, d.1)
        fun (package?, more) => (package?, declarations ++ more)

theorem repeats_itemTurn (file : String) :
    Repeats Prod.snd (itemTurn file) fun s => (s.2.parseRest file s.1).value where
  unroll := by
    rintro ⟨package?, c⟩
    dsimp only
    rw [value_parseRest, itemTurn, bind_assoc]
    refine bind_congr fun item? => ?_
    cases item? with
    | none => rfl
    | some item => rfl
  consumes := by
    rintro ⟨package?, c⟩ s' complete h
    obtain ⟨item?, hitem, h⟩ := ok_of_bind_iff.mp h
    cases item? with
    | none => cases h
    | some item =>
        obtain ⟨⟨name?, declarations⟩, d⟩ := item
        cases h
        exact consumes_of_onward ((motion_onward.halts_parseItem c file).leads _ hitem) d.2

end Cursor

end GoSchema.Go
