import GoSchema.Proofs.Mapping.Atomicity
import GoSchema.Proofs.Mapping.Consistency

/-!
# Labels

The flags of a field type exclude each other in two ways.  A field is not both repeated and
optional, because it has a single label; and what may be absent is not marked as always present.
Pointers, sequences and definitions set and clear these flags, and the table of overrides can bring
in any of them.  If the entries of the table respect the two rules, all types do
(`Mapper.coherent_resolve`).

The builders refuse a field that is both repeated and optional.  With such a table they never have
to, so their failures come from names only: a message or a service of that name is there already
(`Building.FailsOnNames`).  For a contract this is an induction over its members, where every step
is one that cannot fail or one that adds a message.
-/

namespace GoSchema.Schema

/-- The flags of a type do not contradict each other. -/
structure FieldType.Coherent (type : FieldType) : Prop where
  single : ¬(type.repeated ∧ type.optional)
  present : ¬(type.optional ∧ type.nonNullable)

theorem FieldType.coherent_iff {type : FieldType} :
    type.Coherent ↔
      ¬(type.repeated ∧ type.optional) ∧ ¬(type.optional ∧ type.nonNullable) :=
  ⟨fun h => ⟨h.single, h.present⟩, fun h => ⟨h.1, h.2⟩⟩

instance (type : FieldType) : Decidable type.Coherent :=
  decidable_of_iff' _ FieldType.coherent_iff

/-- A name that is to be added to a document is there already. -/
def Problem.IsTakenName : Problem → Prop
  | conflictingMessage .. | duplicateService .. => True
  | optionalRepeated .. | violation .. => False

theorem isTakenName_of_addMessage {doc : Document} {message : Message} {problem : Problem}
    (h : doc.addMessage message = .error problem) : problem.IsTakenName := by
  unfold Document.addMessage at h
  split at h
  · split at h
    · cases h
    · cases h
      trivial
  · cases h

theorem isTakenName_of_addService {doc : Document} {service : Service} {problem : Problem}
    (h : doc.addService service = .error problem) : problem.IsTakenName := by
  unfold Document.addService at h
  split at h
  · cases h
    trivial
  · cases h

end GoSchema.Schema

namespace GoSchema.Mapping

open Schema Go

variable {α β : Type} {m : Mapper}

/-! ## Types -/

private theorem kept_present
    (h : ∀ key entry, m.overrides.get? key = some entry → ¬(entry.optional ∧ entry.nonNullable)) :
    m.Kept fun type => ¬(type.optional ∧ type.nonNullable) where
  primitive name type hprimitive := by
    unfold primitive? at hprimitive
    split at hprimitive <;> cases hprimitive <;> decide
  bytes := by decide
  placeholder key hboth := Bool.false_ne_true hboth.1
  override := h
  reference name d fields _ _ _ hboth := Bool.false_ne_true hboth.1
  -- a pointer makes a message optional, and what it points to may be absent from then on
  pointer r _ hboth := Bool.false_ne_true hboth.2
  castTo r name hr := by
    unfold Resolution.castTo
    split
    · exact hr
    · exact hr
  sequence type _ _ hboth := Bool.false_ne_true hboth.1

/-- If the flags of no override contradict each other, those of no type do. -/
theorem Mapper.coherent_resolve
    (h : ∀ key entry, m.overrides.get? key = some entry → entry.Coherent) (t : TypeExpr) :
    (m.resolve t).type.Coherent where
  single := m.not_repeated_and_optional (fun key entry hget => (h key entry hget).single) t
  present := (kept_present fun key entry hget => (h key entry hget).present).resolve t

/-! ## Work that fails on names only -/

namespace Building

/-- Work fails only where a name is there already. -/
def FailsOnNames (x : Building α) : Prop :=
  ∀ doc refusal doc', x.Refuses doc refusal doc' → refusal.problem.IsTakenName

theorem failsOnNames_pure (a : α) : FailsOnNames (pure a) := by
  intro doc refusal doc' h
  cases h

theorem failsOnNames_report (e : Event) : FailsOnNames (report e) := by
  intro doc refusal doc' h
  cases h

theorem failsOnNames_make {x : Making α} {a : α} (hx : x.value = .ok a) :
    FailsOnNames (make x) := by
  intro doc refusal doc' h
  obtain ⟨hfails, -⟩ := refuses_make_iff.mp h
  rw [hx] at hfails
  cases hfails

theorem FailsOnNames.bind {x : Building α} {f : α → Building β} (hx : x.FailsOnNames)
    (hf : ∀ a, (f a).FailsOnNames) : (x >>= f).FailsOnNames := by
  intro doc refusal doc' h
  rcases refuses_bind_iff.mp h with h | ⟨a, doc₁, -, h⟩
  · exact hx _ _ _ h
  · exact hf a _ _ _ h

theorem failsOnNames_register (message : Message) : FailsOnNames (register message) := by
  intro doc refusal doc' h
  obtain ⟨problem, hadd, rfl, -⟩ := refuses_register_iff.mp h
  exact isTakenName_of_addMessage hadd

theorem failsOnNames_settle (r : Reduction) : FailsOnNames (settle r) := by
  cases r with
  | reuse type =>
      intro doc refusal doc' h
      cases h
  | wrap message => exact (failsOnNames_register message).bind fun held => failsOnNames_pure _

section Builders

variable (hlabels : ∀ t, ¬((m.resolve t).type.repeated ∧ (m.resolve t).type.optional))
include hlabels

theorem failsOnNames_record (name docs : String) (sources : List Go.Field) :
    FailsOnNames (record m name docs sources) :=
  (failsOnNames_make (Mapper.value_message_eq_ok hlabels name docs sources)).bind
    failsOnNames_register

/-- The message for one list of members is made and added. -/
theorem failsOnNames_list (wrapperName : String) (members : List Param) {f : String → Building β}
    (hf : ∀ name, (f name).FailsOnNames) :
    FailsOnNames (make (m.reduce wrapperName members) >>= fun r => settle r >>= f) :=
  (failsOnNames_make (Mapper.value_reduce_eq_ok hlabels wrapperName members)).bind fun r =>
    (failsOnNames_settle r).bind hf

theorem failsOnNames_method (stem name docs : String) (params results : List Param) :
    FailsOnNames (method m stem name docs params results) :=
  failsOnNames_list hlabels _ _ fun _ => failsOnNames_list hlabels _ _ fun _ => failsOnNames_pure _

theorem failsOnNames_methods (contract stem : String) (members : List Member) :
    FailsOnNames (methods m contract stem members) := by
  induction members with
  | nil => exact failsOnNames_pure []
  | cons member rest ih =>
      cases member with
      | embedded type? docs pos => exact (failsOnNames_report _).bind fun _ => ih
      | method name params results docs pos =>
          refine (failsOnNames_method hlabels stem name docs params results).bind fun first => ?_
          exact ih.bind fun more => failsOnNames_pure _

theorem failsOnNames_contract (name docs : String) (members : List Member) :
    FailsOnNames (contract m name docs members) := by
  refine (failsOnNames_methods hlabels name _ members).bind fun settled => ?_
  intro doc refusal doc' h
  have hservice := refuses_get_bind_iff.mp h
  split at hservice
  case h_1 => cases hservice
  case h_2 problem hadd =>
    obtain ⟨rfl, -⟩ := refuses_throw_iff.mp hservice
    exact isTakenName_of_addService hadd

end Builders

/-- Work that fails on names only is never refused for the labels of a field. -/
theorem FailsOnNames.ne_optionalRepeated {x : Building α} (hx : x.FailsOnNames)
    {doc doc' : Document} {refusal : Refusal} (h : x.Refuses doc refusal doc')
    (field message : String) : refusal.problem ≠ .optionalRepeated field message := by
  intro hproblem
  have htaken := hx _ _ _ h
  rw [hproblem] at htaken
  exact htaken

end Building

/-- **The flags of types stay coherent.**  If the flags of no override contradict each other, those
of no type do, however deep it is nested and through whatever definitions; and then no record and no
contract is ever refused because a field is both optional and repeated. -/
theorem coherent_of_overrides
    (h : ∀ key entry, m.overrides.get? key = some entry → entry.Coherent) :
    (∀ t, (m.resolve t).type.Coherent) ∧
      (∀ name docs sources doc refusal doc',
        (Building.record m name docs sources).Refuses doc refusal doc' →
          ∀ field message, refusal.problem ≠ .optionalRepeated field message) ∧
      ∀ name docs members doc refusal doc',
        (Building.contract m name docs members).Refuses doc refusal doc' →
          ∀ field message, refusal.problem ≠ .optionalRepeated field message := by
  have hcoherent := Mapper.coherent_resolve h
  have hlabels := fun t => (hcoherent t).single
  refine ⟨hcoherent, ?_, ?_⟩
  · intro name docs sources doc refusal doc' hrefuses
    exact (Building.failsOnNames_record hlabels name docs sources).ne_optionalRepeated hrefuses
  · intro name docs members doc refusal doc' hrefuses
    exact (Building.failsOnNames_contract hlabels name docs members).ne_optionalRepeated hrefuses

/-- A mapper with overrides for a text that may be absent, for several numbers and for a message. -/
def flaggedMapper : Mapper :=
  { plainMapper with
    overrides := .ofList
      [("sql.NullString", { FieldType.scalar "string" with optional := true }),
       ("sql.Keys", { FieldType.scalar "int64" with repeated := true }),
       ("big.Money", .message "Money")] }

/-- Several pointers to an optional text, and a record and a contract whose names are taken. -/
theorem coherent_flagged :
    (flaggedMapper.resolve (.slice (.pointer (.named (some "sql") "NullString")))).type.Coherent ∧
      (∃ refusal doc', (Building.record flaggedMapper "Tag" ""
            [plainField "Keys" (.pointer (.named (some "sql") "Keys"))]).Refuses
          tagDocument refusal doc' ∧
        ∀ field message, refusal.problem ≠ .optionalRepeated field message) ∧
      ∃ refusal doc', (Building.contract flaggedMapper "Store" "" [pingMember]).Refuses
          pingDocument refusal doc' ∧
        ∀ field message, refusal.problem ≠ .optionalRepeated field message := by
  have hentries : ∀ entry ∈ flaggedMapper.overrides.values, entry.Coherent := by decide +kernel
  have hcoherent : ∀ key entry, flaggedMapper.overrides.get? key = some entry → entry.Coherent :=
    fun key entry hget => hentries entry ((TextMap.mem_values_iff ..).mpr ⟨key, hget⟩)
  have hrecord : (Building.record flaggedMapper "Tag" ""
      [plainField "Keys" (.pointer (.named (some "sql") "Keys"))]).Refuses tagDocument
      ⟨"Tag", .conflictingMessage "Tag" "shop.proto"⟩
      ((Building.record flaggedMapper "Tag" ""
        [plainField "Keys" (.pointer (.named (some "sql") "Keys"))]).after tagDocument) := by
    unfold Building.Refuses
    decide +kernel
  have hcontract : (Building.contract flaggedMapper "Store" "" [pingMember]).Refuses pingDocument
      ⟨"Store", .duplicateService "Store" "shop.proto"⟩
      ((Building.contract flaggedMapper "Store" "" [pingMember]).after pingDocument) := by
    unfold Building.Refuses
    decide +kernel
  obtain ⟨htypes, hrecords, hcontracts⟩ := coherent_of_overrides hcoherent
  exact ⟨htypes _, ⟨_, _, hrecord, hrecords _ _ _ _ _ _ hrecord⟩,
    ⟨_, _, hcontract, hcontracts _ _ _ _ _ _ hcontract⟩⟩

end GoSchema.Mapping
