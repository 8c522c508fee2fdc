import GoSchema.Proofs.Go.Movement

/-!
# Forms of types

A type has one of several forms, which the word or sign in front tells apart.  The reader of types
is a choice between these forms (`parseType_eq`), and so is what passes over a type that is kept as
its text (`parseVerbatim_eq`).  So each form can be looked at by itself.
-/

namespace GoSchema.Go.Cursor

/-- What is read behind a word or sign if it stands at the cursor, and otherwise something else.  An
end that says the word or sign is not passed, so there is a fault instead. -/
def followedBy {α : Type} (c : Cursor) (word : String)
    (read : (d : Cursor) → Except Fault (α × d.Later)) (atEnd : Fault)
    (other : Except Fault (α × c.Later)) : Except Fault (α × c.Later) :=
  if c.current.is word then
    match c.next? with
    | some (_, ⟨d, hd⟩) => do
      let (a, ⟨e, he⟩) ← read d
      return (a, ⟨e, later_trans he hd⟩)
    | none => .error atEnd
  else other

/-- The pointer to the type at the cursor. -/
def pointerType (c : Cursor) : Except Fault (TypeExpr × c.Later) := do
  let (target, d) ← parseType c
  return (.pointer target, d)

/-- The type up to a closing parenthesis. -/
def enclosedType (c : Cursor) : Except Fault (TypeExpr × c.Later) := do
  let (type, ⟨d, hd⟩) ← parseType c
  let ⟨e, he⟩ ← d.expect ")"
  return (type, ⟨e, later_trans he hd⟩)

/-- The slice or array whose opening bracket was read. -/
def bracketedType (c : Cursor) : Except Fault (TypeExpr × c.Later) :=
  match c.eat? "]" with
  | some ⟨d, hd⟩ => do
    let (element, ⟨e, he⟩) ← parseType d
    return (.slice element, ⟨e, later_trans he hd⟩)
  | none => do
    let (length, ⟨d, hd⟩) ← c.arrayLength
    let ⟨e, he⟩ ← d.expect "]"
    let (element, ⟨f, hf⟩) ← parseType e
    return (.array length element, ⟨f, later_trans_within (later_trans hf he) hd⟩)

/-- The key and the value of a map. -/
def mapType (c : Cursor) : Except Fault (TypeExpr × c.Later) := do
  let ⟨d, hd⟩ ← c.expect "["
  let (key, ⟨e, he⟩) ← parseType d
  let ⟨f, hf⟩ ← e.expect "]"
  let (value, ⟨g, hg⟩) ← parseType f
  return (.map key value, ⟨g, later_trans hg (later_trans hf (later_trans he hd))⟩)

theorem later_of_steps {c d e f : Cursor} (hf : f.left < e.left) (he : e.left ≤ d.left)
    (hd : d.left < c.left) : f.left < c.left :=
  later_trans (later_trans_within hf he) hd

/-- A name, which may be that of a generic type with its arguments. -/
def namedType (c : Cursor) : Except Fault (TypeExpr × c.Later) := do
  let (name, ⟨d, hd⟩) ← c.qualifiedName
  if d.current.is "[" ∧ !(d.ahead 1).is "]" then
    let ⟨e, he⟩ := d.advance
    let ⟨f, hf⟩ ← e.skipBalanced "[" "]" 0
    return (.verbatim (c.textUpTo f), ⟨f, later_of_steps hf he hd⟩)
  else
    return (name, ⟨d, hd⟩)

/-- A type without a word or sign of its own in front. -/
def plainType (c : Cursor) : Except Fault (TypeExpr × c.Later) :=
  if verbatimStarts.any c.current.is then do
    let ⟨d, hd⟩ ← parseVerbatim c
    return (.verbatim (c.textUpTo d), ⟨d, hd⟩)
  else if c.current.kind = .ident then c.namedType
  else .error ⟨.expectedType c.current.text, c.current.pos⟩

/-- What is passed behind a word or sign if it stands at the cursor, and otherwise something else. -/
def passedBehind (c : Cursor) (word : String) (pass : (d : Cursor) → Except Fault d.Later)
    (other : Except Fault c.Later) : Except Fault c.Later :=
  match c.eat? word with
  | some ⟨d, hd⟩ => do
    let ⟨e, he⟩ ← pass d
    return ⟨e, later_trans he hd⟩
  | none => other

/-- The channel whose arrow was passed. -/
def passReceiver (c : Cursor) : Except Fault c.Later := do
  let ⟨d, hd⟩ ← c.expect "chan"
  let (_, ⟨e, he⟩) ← parseType d
  return ⟨e, later_trans he hd⟩

/-- The channel whose word was passed. -/
def passChannel (c : Cursor) : Except Fault c.Later := do
  let (_, ⟨d, hd⟩) := c.eatIf "<-"
  let (_, ⟨e, he⟩) ← parseType d
  return ⟨e, later_trans_within he hd⟩

/-- The parameters and results of a function. -/
def passSignature (c : Cursor) : Except Fault c.Later := do
  let (_, ⟨d, hd⟩) ← parseParams c
  let (_, ⟨e, he⟩) ← parseResults d
  return ⟨e, later_of_within he hd⟩

/-- A word and the body in braces behind it. -/
def passBody (c : Cursor) : Except Fault c.Later :=
  match c.next? with
  | none => .error ⟨.expected Token.openBrace c.current.text, c.current.pos⟩
  | some (_, ⟨d, hd⟩) => do
    let ⟨e, he⟩ ← d.expect Token.openBrace
    have he := later_trans he hd
    let ⟨f, hf⟩ ← e.skipBalanced Token.openBrace Token.closeBrace 0
    return ⟨f, later_trans hf he⟩

/-- Types that are kept as their text are channels, functions, interfaces and structs. -/
theorem parseVerbatim_eq (c : Cursor) :
    c.parseVerbatim = c.passedBehind "<-" passReceiver (c.passedBehind "chan" passChannel
      (c.passedBehind "func" passSignature c.passBody)) := by
  rw [parseVerbatim]
  unfold passedBehind
  cases c.eat? "<-" with
  | some d => simp only [passReceiver, bind_assoc, pure_bind]
  | none =>
      cases c.eat? "chan" with
      | some d => simp only [passChannel, bind_assoc, pure_bind]
      | none =>
          cases c.eat? "func" with
          | some d => simp only [passSignature, bind_assoc, pure_bind]
          | none => rfl

section Choice

variable {α : Type} {c : Cursor} {t : Token} {word : String}
  {read : (d : Cursor) → Except Fault (α × d.Later)} {atEnd : Fault}
  {other : Except Fault (α × c.Later)}

theorem followedBy_eq_other (h : c.current.is word = false) :
    c.followedBy word read atEnd other = other :=
  if_neg (Bool.eq_false_iff.mp h)

theorem followedBy_of_next? {d : Cursor} {hd : d.left < c.left} (h : t.is word)
    (hnext : c.next? = some (t, ⟨d, hd⟩)) :
    c.followedBy word read atEnd other = (do
      let (a, ⟨e, he⟩) ← read d
      return (a, ⟨e, later_trans he hd⟩)) := by
  rw [followedBy, current_of_next? hnext, if_pos h, hnext]

theorem followedBy_of_none (h : c.current.is word) (hnext : c.next? = none) :
    c.followedBy word read atEnd other = .error atEnd := by
  rw [followedBy, if_pos h, hnext]

/-- A form is read behind its word or sign, or the word or sign is not there. -/
theorem ok_of_followedBy {a : α} {e : c.Later}
    (h : c.followedBy word read atEnd other = .ok (a, e)) :
    (∃ (t : Token) (d : c.Later) (f : d.1.Later), t.is word ∧ c.next? = some (t, d) ∧
      read d.1 = .ok (a, f) ∧ f.1 = e.1) ∨ c.current.is word = false ∧ other = .ok (a, e) := by
  cases his : c.current.is word with
  | false =>
      rw [followedBy_eq_other his] at h
      exact .inr ⟨rfl, h⟩
  | true =>
      cases hnext : c.next? with
      | none =>
          rw [followedBy_of_none his hnext] at h
          cases h
      | some r =>
          obtain ⟨t, d, hd⟩ := r
          rw [current_of_next? hnext] at his
          rw [followedBy_of_next? his hnext] at h
          obtain ⟨⟨a', f⟩, hread, h⟩ := ok_of_bind_iff.mp h
          cases h
          exact .inl ⟨t, ⟨d, hd⟩, f, his, rfl, hread, rfl⟩

end Choice

section Advance

variable {c : Cursor} {t : Token} {text : String}

theorem advance_of_next? {d : Cursor} {hd : d.left < c.left} (h : c.next? = some (t, ⟨d, hd⟩)) :
    c.advance = ⟨d, Nat.le_of_lt hd⟩ := by
  rw [advance, h]

theorem advance_of_none (h : c.next? = none) : c.advance = ⟨c, left_le c⟩ := by
  rw [advance, h]

end Advance

/-- At the end of the text there is no length of an array. -/
theorem arrayLength_of_none {c : Cursor} (h : c.current.is "[") (hnext : c.next? = none) :
    c.arrayLength = .error c.unexpected := by
  rw [arrayLength, hnext, Token.is_eq_false_of_is h (by decide), if_neg Bool.false_ne_true]

theorem parseType_eq (c : Cursor) :
    c.parseType = c.followedBy "*" pointerType c.endless (c.followedBy "(" enclosedType c.endless
      (c.followedBy "[" bracketedType c.unexpected (c.followedBy "map" mapType
        ⟨.expected "[" c.current.text, c.current.pos⟩ c.plainType))) := by
  rw [parseType]
  unfold followedBy
  cases hnext : c.next? with
  | some r =>
      obtain ⟨t, d, hd⟩ := r
      rw [advance_of_next? hnext]
      refine if_congr Iff.rfl ?_
        (if_congr Iff.rfl ?_ (if_congr Iff.rfl ?_ (if_congr Iff.rfl ?_ rfl)))
      · simp only [pointerType, bind_assoc, pure_bind]
      · simp only [enclosedType, bind_assoc, pure_bind]
      · simp only [bracketedType]
        cases d.eat? "]" <;> simp only [bind_assoc, pure_bind]
      · simp only [mapType, bind_assoc, pure_bind]
  | none =>
      rw [advance_of_none hnext]
      refine if_congr Iff.rfl rfl (if_congr Iff.rfl rfl (if_ctx_congr Iff.rfl (fun hopening => ?_)
        fun _ => if_ctx_congr Iff.rfl (fun hmap => ?_) fun _ => rfl))
      · have hclosing := Token.is_eq_false_of_is hopening (by decide : "[" ≠ "]")
        simp only [eat?_eq_none_of_current hclosing, arrayLength_of_none hopening hnext]
        rfl
      · have hbracket := Token.is_eq_false_of_is hmap (by decide : "map" ≠ "[")
        simp only [expect_eq_error hbracket]
        rfl

end GoSchema.Go.Cursor
