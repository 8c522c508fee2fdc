import GoSchema.Proofs.Mapping.SourceNames
import GoSchema.Proofs.Naming.SchemaNames
import GoSchema.Proofs.Schema.FirstFault

/-!
# Names that fold to the same

Different names can have the same schema name: `UserID`, `UserId` and `User_id` all fold to
`user_id`.  This file says how far such names can be apart.  Folding makes capitals small and puts
in underscores, and it does nothing else, so a folded name without its underscores is the name in
small letters without those it had (`core`).  Names that fold to the same agree in that.

## Strategy

`Underscored` relates a name to what may be written for it: each character in its small form, and
between them underscores that are put in, each directly before a capital and away from the beginning
and from other underscores.  The folding looks at the name to decide where it puts one, and the
relation looks at what is written.  The two agree because the small form of a character ends in an
underscore only if it is one (`eq_underscore_of_mem_small`), although it may be longer than one
character (`underscored_snakeAfter`).  What holds of a folded name follows from the relation.
-/

namespace GoSchema.Naming

open Text

/-! ## Underscores that are put in -/

/-- What is written for a name, or for the rest of one after a given last character was written: the
characters in their small forms, and underscores put in between.  Each of these stands directly
before what is written for a capital, not at the beginning and not next to another underscore. -/
inductive Underscored : Option Char → List Char → List Char → Prop
  | nil {last? : Option Char} : Underscored last? [] []
  | keep {last? : Option Char} {c : Char} {rest written : List Char}
      (h : Underscored (small c).getLast? rest written) :
      Underscored last? (c :: rest) (small c ++ written)
  | putIn {last c next : Char} {rest written : List Char} (hcapital : isUppercase c)
      (hlast : last ≠ '_') (hhead : (small c).head? = some next) (hnext : next ≠ '_')
      (h : Underscored (small c).getLast? rest written) :
      Underscored (some last) (c :: rest) ('_' :: (small c ++ written))

theorem small_ne_nil (c : Char) : small c ≠ [] := by
  unfold small
  split
  · exact lowercase_ne_nil c
  · exact List.cons_ne_nil c []

theorem startsWord_eq_true_iff {before? after? : Option Char} :
    startsWord before? after? ↔ ∃ before, before? = some before ∧ before ≠ '_' ∧
      (isUppercase before = false ∨ after?.any isLowercase) := by
  cases before? with
  | none => simp [startsWord]
  | some before => simp [startsWord]

/-- What the folding writes after a given character. -/
theorem underscored_snakeAfter (before? : Option Char) (name : List Char) :
    Underscored (before?.bind fun before => (small before).getLast?) name
      (snakeAfter before? name) := by
  induction name generalizing before? with
  | nil => exact .nil
  | cons c rest ih =>
      have hrest : Underscored (small c).getLast? rest (snakeAfter (some c) rest) := ih (some c)
      rw [snakeAfter]
      cases hupper : isUppercase c with
      | false =>
          have hkept : Underscored (before?.bind fun before => (small before).getLast?) (c :: rest)
              (small c ++ snakeAfter (some c) rest) :=
            .keep hrest
          rwa [small_of_not_isUppercase hupper] at hkept
      | true =>
          rw [if_pos rfl, ← small_of_isUppercase hupper]
          split
          case isFalse => exact .keep hrest
          case isTrue hstarts =>
            obtain ⟨before, rfl, hbefore, -⟩ := startsWord_eq_true_iff.mp hstarts
            have hlast := List.getLast?_eq_some_getLast (small_ne_nil before)
            have hnext := List.head?_eq_some_head (small_ne_nil c)
            rw [Option.bind_some, hlast]
            refine .putIn hupper (fun heq => ?_) hnext (fun heq => ?_) hrest
            · have hmem := List.getLast_mem (small_ne_nil before)
              rw [heq] at hmem
              exact hbefore (eq_underscore_of_mem_small hmem)
            · have hmem := List.head_mem (small_ne_nil c)
              rw [heq] at hmem
              rw [eq_underscore_of_mem_small hmem] at hupper
              exact absurd hupper (by decide)

/-- **Folding puts in underscores.** -/
theorem underscored_snakeCase (name : String) :
    Underscored none name.toList (snakeCase name).toList := by
  rw [snakeCase, String.toList_ofList]
  exact underscored_snakeAfter none name.toList

/-- Apart from underscores, what is written is the name in small letters. -/
theorem Underscored.filter_eq {last? : Option Char} {name written : List Char}
    (h : Underscored last? name written) :
    written.filter (· != '_') = (folded name).filter (· != '_') := by
  induction h with
  | nil => rfl
  | keep _ ih => rw [folded_cons, List.filter_append, List.filter_append, ih]
  | putIn _ _ _ _ _ ih =>
      rw [List.filter_cons_of_neg (by simp), folded_cons, List.filter_append,
        List.filter_append, ih]

/-! ## Names without capitals and underscores -/

/-- What is left of a name in small letters and without underscores. -/
def core (name : String) : List Char := (folded name.toList).filter (· != '_')

theorem filter_snakeCase (name : String) :
    (snakeCase name).toList.filter (· != '_') = core name :=
  (underscored_snakeCase name).filter_eq

/-- Names that fold to the same agree apart from capitals and underscores. -/
theorem core_eq_of_snakeCase_eq {name other : String} (h : snakeCase name = snakeCase other) :
    core name = core other := by
  rw [← filter_snakeCase, h, filter_snakeCase]

/-- Names that differ in more than capitals and underscores have different schema names. -/
theorem nodup_map_snakeCase {names : List String} (h : (names.map core).Nodup) :
    (names.map snakeCase).Nodup := by
  have hcore : (fun folded : String => folded.toList.filter (· != '_')) ∘ snakeCase = core :=
    funext filter_snakeCase
  refine List.Nodup.of_map (fun folded => folded.toList.filter (· != '_')) ?_
  rw [List.map_map, hcore]
  exact h

/-! ## Folding twice -/

/-- A folded name is folded already, if making its capitals small leaves none. -/
theorem snakeCase_snakeCase {name : String}
    (h : ∀ c ∈ name.toList, ∀ d ∈ small c, isUppercase d = false) :
    snakeCase (snakeCase name) = snakeCase name := by
  have hsmall : ∀ d ∈ (snakeCase name).toList, isUppercase d = false := by
    intro d hd
    by_cases hunderscore : d = '_'
    · rw [hunderscore]
      decide
    · have hcore : d ∈ core name := by
        rw [← filter_snakeCase, List.mem_filter]
        exact ⟨hd, bne_iff_ne.mpr hunderscore⟩
      obtain ⟨c, hc, hmem⟩ := List.mem_flatMap.mp (List.mem_filter.mp hcore).1
      exact h c hc d hmem
  rw [snakeCase, snakeAfter_of_no_capitals hsmall, String.ofList_toList]

/-- A capital without a small form stays a capital, and then stands behind a small letter. -/
example : snakeCase "A𝐀" = "a𝐀" ∧ snakeCase (snakeCase "A𝐀") = "a_𝐀" := by decide +kernel

/-- Among the characters that are encoded in a single byte, small forms are no capitals. -/
theorem isUppercase_of_mem_small {c d : Char} (hc : c.toNat < 128) (hd : d ∈ small c) :
    isUppercase d = false := by
  have hall : (List.range 128).all fun n => (small (.ofNat n)).all fun d => !isUppercase d := by
    decide +kernel
  have hsmall := List.all_eq_true.mp hall c.toNat (List.mem_range.mpr hc)
  rw [Char.ofNat_toNat] at hsmall
  exact Bool.not_eq_eq_eq_not.mp (List.all_eq_true.mp hsmall d hd)

/-! ## Fields of one name -/

open Mapping

/-- The verifier reports a field twice only if there are two fields of its name. -/
theorem not_fieldTwice_of_nodup {message : Schema.Message}
    (h : (message.fields.map Schema.Field.name).Nodup) (field owner : String) :
    message.verify ≠ .error (.violation (.fieldTwice field owner)) := by
  intro herror
  obtain ⟨earlier, f, later, hfields, -, hfault⟩ := Schema.exists_of_checkFields_eq_error herror
  cases hfault with
  | twice hseen =>
      rw [hfields, List.map_append, List.map_cons, List.nodup_append] at h
      rw [List.append_nil] at hseen
      exact h.2.2 _ hseen _ List.mem_cons_self rfl

/-- **Folding changes case and marks words, and nothing else.**  What it writes is the name in small
letters with underscores put in; without underscores it is the name without capitals and
underscores; and a name of single-byte characters is not changed by folding it again.  So names that
fold to the same agree apart from capitals and underscores, and in the message of a record no two
fields have one name if the names of the eligible source fields differ in more than that. -/
theorem snakeCase_marks_words (name : String) :
    Underscored none name.toList (snakeCase name).toList ∧
      (snakeCase name).toList.filter (· != '_') = core name ∧
      ((∀ c ∈ name.toList, c.toNat < 128) → snakeCase (snakeCase name) = snakeCase name) ∧
      (∀ other, snakeCase name = snakeCase other → core name = core other) ∧
      ∀ (m : Mapper) (record docs : String) (sources : List Go.Field) (message : Schema.Message),
        (m.message record docs sources).value = .ok message →
        (((sources.filterMap visibleName?).map Prod.fst).map core).Nodup →
          (message.fields.map Schema.Field.name).Nodup ∧
            ∀ field owner, message.verify ≠ .error (.violation (.fieldTwice field owner)) := by
  refine ⟨underscored_snakeCase name, filter_snakeCase name, fun hascii => ?_,
    fun other => core_eq_of_snakeCase_eq, fun m record docs sources message hmessage hcore => ?_⟩
  · exact snakeCase_snakeCase fun c hc d hd => isUppercase_of_mem_small (hascii c hc) hd
  · obtain ⟨rfl, -⟩ := Mapper.message_eq_of_ok hmessage
    have hnodup : ((m.schemaFields 1 sources).map Schema.Field.name).Nodup := by
      rw [Mapper.map_name_schemaFields]
      exact nodup_map_snakeCase hcore
    exact ⟨hnodup, not_fieldTwice_of_nodup hnodup⟩

/-- Two names with two runs of capitals each that fold to the same, and a record in which no two
names do. -/
theorem snakeCase_marks_words_audit :
    (∀ c ∈ "HTTPServerID".toList, c.toNat < 128) ∧
      snakeCase (snakeCase "HTTPServerID") = snakeCase "HTTPServerID" ∧
      snakeCase "HTTPServerID" = snakeCase "Http_serverId" ∧
      core "HTTPServerID" = core "Http_serverId" ∧
      (((auditFields.filterMap visibleName?).map Prod.fst).map core).Nodup ∧
      ((plainMapper.schemaFields 1 auditFields).map Schema.Field.name).Nodup := by
  have hascii : ∀ c ∈ "HTTPServerID".toList, c.toNat < 128 := by
    have hall : "HTTPServerID".toList.all fun c => c.toNat < 128 := by decide
    exact fun c hc => of_decide_eq_true (List.all_eq_true.mp hall c hc)
  have hsame : snakeCase "HTTPServerID" = snakeCase "Http_serverId" := by decide +kernel
  have hmessage : (plainMapper.message "Audit" "" auditFields).value =
      .ok ⟨"Audit", "", plainMapper.schemaFields 1 auditFields⟩ := by
    decide +kernel
  have hcore : (((auditFields.filterMap visibleName?).map Prod.fst).map core).Nodup := by
    decide +kernel
  obtain ⟨-, -, htwice, hcollide, -⟩ := snakeCase_marks_words "HTTPServerID"
  obtain ⟨-, -, -, -, hfields⟩ := snakeCase_marks_words "Audit"
  have hnodup := (hfields _ _ _ _ _ hmessage hcore).1
  exact ⟨hascii, htwice hascii, hsame, hcollide _ hsame, hcore, hnodup⟩

end GoSchema.Naming
