import GoSchema.Mapping.Message
import GoSchema.Proofs.Log

/-!
# What work comes to

The documents of a package are built by work that may fail, may report events and may change a
document.  This file reads off what such work comes to when the events are left aside:
`Making.value` for work without a document, and `Building.Yields` and `Building.Refuses` for work
on one that succeeds or fails.  Each step of a `do` block becomes one line of an `↔`, so that later
files never open a monad again.
-/

namespace GoSchema.Mapping

open Schema

variable {α β : Type}

/-! ## Work without a document -/

namespace Making

/-- What work comes to, apart from what it reports. -/
def value (x : Making α) : Except Refusal α := x.run.value

@[simp] theorem value_pure (a : α) : value (pure a) = .ok a := rfl

@[simp] theorem value_throw (r : Refusal) : (throw r : Making α).value = .error r := rfl

@[simp] theorem value_liftM (x : Logged α) : value (liftM x) = .ok x.value := rfl

@[simp] theorem value_bind (x : Making α) (f : α → Making β) :
    (x >>= f).value = x.value >>= fun a => (f a).value :=
  Logged.value_run_bind x f

@[simp] theorem value_map (f : α → β) (x : Making α) : (f <$> x).value = x.value.map f := by
  rw [← bind_pure_comp, value_bind]
  cases x.value <;> rfl

theorem value_bind_pure (f : α → β) (x : Making α) :
    (x >>= fun a => pure (f a)).value = x.value.map f := by
  rw [bind_pure_comp, value_map]

end Making

/-! ## Work on a document -/

namespace Building

/-- Work on a document succeeds with a value and leaves a document. -/
def Yields (x : Building α) (doc : Document) (a : α) (doc' : Document) : Prop :=
  (x.run.run doc).value = (.ok a, doc')

variable {doc doc' : Document}

theorem yields_pure_iff {a b : α} : Yields (pure a) doc b doc' ↔ b = a ∧ doc' = doc := by
  show (Except.ok a, doc) = (Except.ok b, doc') ↔ _
  simp [eq_comm]

theorem not_yields_throw {r : Refusal} {a : α} : ¬(throw r : Building α).Yields doc a doc' := by
  show (Except.error r, doc) ≠ (Except.ok a, doc')
  simp

theorem yields_bind_iff {x : Building α} {f : α → Building β} {b : β} :
    (x >>= f).Yields doc b doc' ↔ ∃ a doc₁, x.Yields doc a doc₁ ∧ (f a).Yields doc₁ b doc' := by
  simp only [Yields, ExceptT.run_bind, StateT.run_bind, Logged.value_bind]
  rcases h : (x.run.run doc).value with ⟨_ | a, doc₁⟩
  · constructor
    · intro hyields
      cases hyields
    · rintro ⟨a, doc₂, heq, -⟩
      cases heq
  · constructor
    · exact fun hyields => ⟨a, doc₁, rfl, hyields⟩
    · rintro ⟨a', doc₂, heq, hyields⟩
      cases heq
      exact hyields

theorem yields_make_iff {x : Making α} {a : α} :
    (make x).Yields doc a doc' ↔ x.value = .ok a ∧ doc' = doc := by
  show (x.value, doc) = (Except.ok a, doc') ↔ _
  rw [Prod.mk.injEq, eq_comm (a := doc)]

theorem yields_report_iff {e : Event} {u : Unit} : (report e).Yields doc u doc' ↔ doc' = doc := by
  show (Except.ok (), doc) = (Except.ok u, doc') ↔ _
  simp [eq_comm]

theorem yields_get_iff {a : Document} :
    (get : Building Document).Yields doc a doc' ↔ a = doc ∧ doc' = doc := by
  show (Except.ok doc, doc) = (Except.ok a, doc') ↔ _
  simp [eq_comm]

theorem yields_get_bind_iff {f : Document → Building α} {a : α} :
    (get >>= f).Yields doc a doc' ↔ (f doc).Yields doc a doc' := by
  rw [yields_bind_iff]
  constructor
  · rintro ⟨held, doc₁, hget, hf⟩
    obtain ⟨rfl, rfl⟩ := yields_get_iff.mp hget
    exact hf
  · exact fun hf => ⟨doc, doc, yields_get_iff.mpr ⟨rfl, rfl⟩, hf⟩

theorem yields_set_iff {new : Document} {u : PUnit} :
    (set new : Building PUnit).Yields doc u doc' ↔ doc' = new := by
  show (Except.ok PUnit.unit, new) = (Except.ok u, doc') ↔ _
  simp [eq_comm]

theorem yields_modify_iff {f : Document → Document} {u : PUnit} :
    (modify f : Building PUnit).Yields doc u doc' ↔ doc' = f doc := by
  show (Except.ok PUnit.unit, f doc) = (Except.ok u, doc') ↔ _
  simp [eq_comm]

/-! ## Failures -/

/-- Work on a document fails with a refusal and leaves a document. -/
def Refuses (x : Building α) (doc : Document) (refusal : Refusal) (doc' : Document) : Prop :=
  (x.run.run doc).value = (.error refusal, doc')

variable {refusal : Refusal}

theorem refuses_throw_iff {r : Refusal} :
    (throw r : Building α).Refuses doc refusal doc' ↔ refusal = r ∧ doc' = doc := by
  show (Except.error r, doc) = (Except.error refusal, doc') ↔ _
  simp [eq_comm]

/-- Work in two steps fails with the first, or with the second after the first has changed the
document. -/
theorem refuses_bind_iff {x : Building α} {f : α → Building β} :
    (x >>= f).Refuses doc refusal doc' ↔
      x.Refuses doc refusal doc' ∨
        ∃ a doc₁, x.Yields doc a doc₁ ∧ (f a).Refuses doc₁ refusal doc' := by
  simp only [Refuses, Yields, ExceptT.run_bind, StateT.run_bind, Logged.value_bind]
  rcases (x.run.run doc).value with ⟨r | a, doc₁⟩
  · constructor
    · intro h
      cases h
      exact Or.inl rfl
    · rintro (h | ⟨a, doc₂, heq, -⟩)
      · cases h
        rfl
      · cases heq
  · constructor
    · exact fun h => Or.inr ⟨a, doc₁, rfl, h⟩
    · rintro (heq | ⟨a', doc₂, heq, h⟩)
      · cases heq
      · cases heq
        exact h

theorem refuses_make_iff {x : Making α} :
    (make x).Refuses doc refusal doc' ↔ x.value = .error refusal ∧ doc' = doc := by
  show (x.value, doc) = (Except.error refusal, doc') ↔ _
  rw [Prod.mk.injEq, eq_comm (a := doc)]

theorem refuses_get_bind_iff {f : Document → Building α} :
    (get >>= f).Refuses doc refusal doc' ↔ (f doc).Refuses doc refusal doc' := Iff.rfl

end Building

end GoSchema.Mapping
