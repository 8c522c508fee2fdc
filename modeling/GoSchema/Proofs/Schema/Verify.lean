import GoSchema.Proofs.Distinct
import GoSchema.Schema.Verify

/-!
# What a verified document satisfies

`Document.verify` goes through a document in order and stops at the first fault.  This file says
which documents pass, without an order (`verify_eq_ok_iff`): those that are `Sound`, and whose
messages and services declare no member twice.

The two conditions are kept apart because they come from different places.  A sound document is
one that was put together properly: distinct names, types wherever one is needed, tags that count
up from one.  Whether the members of a message have distinct names is up to the source.

Each of the four checks carries the names seen so far.  `Fresh` is what such a check asks of the
names to come, and `fresh_cons_iff` its step.
-/

namespace GoSchema.Schema

/-! ## The statement -/

/-- A field has a type, and one of its labels at most. -/
def Field.Typed (f : Field) : Prop := ¬(f.type.repeated ∧ f.type.optional) ∧ f.type.name ≠ ""

/-- The fields of a message are typed, and tagged one, two, three and so on. -/
structure Message.Sound (msg : Message) : Prop where
  typed : ∀ f ∈ msg.fields, f.Typed
  tags_eq : msg.fields.map Field.tag = List.range' 1 msg.fields.length

/-- A method takes a message and returns one. -/
def Method.Typed (method : Method) : Prop := method.argument ≠ "" ∧ method.returns ≠ ""

/-- A document declares each message and each service once, and all of them properly. -/
structure Document.Sound (doc : Document) : Prop where
  nodup_messages : (doc.messages.map Message.name).Nodup
  nodup_services : (doc.services.map Service.name).Nodup
  messages : ∀ msg ∈ doc.messages, msg.Sound
  methods : ∀ svc ∈ doc.services, ∀ method ∈ svc.methods, method.Typed

/-- No message has two fields of one name, and no service two methods. -/
def Document.MembersDistinct (doc : Document) : Prop :=
  (∀ msg ∈ doc.messages, (msg.fields.map Field.name).Nodup) ∧
    ∀ svc ∈ doc.services, (svc.methods.map Method.name).Nodup

instance (doc : Document) : Decidable doc.MembersDistinct :=
  inferInstanceAs (Decidable (_ ∧ _))

/-! ## Names seen so far -/

/-- Names that are distinct and have not been seen. -/
def Fresh (seen names : List String) : Prop := names.Nodup ∧ names.Disjoint seen

theorem fresh_nil (seen : List String) : Fresh seen [] :=
  ⟨List.nodup_nil, List.disjoint_nil_left seen⟩

theorem fresh_cons_iff {seen names : List String} {name : String} :
    Fresh seen (name :: names) ↔ name ∉ seen ∧ Fresh (name :: seen) names := by
  simp only [Fresh, List.nodup_cons, List.disjoint_cons_left, List.disjoint_cons_right]
  exact ⟨fun ⟨⟨hname, hnodup⟩, hseen, hdisjoint⟩ => ⟨hseen, hnodup, hname, hdisjoint⟩,
    fun ⟨hseen, hnodup, hname, hdisjoint⟩ => ⟨⟨hname, hnodup⟩, hseen, hdisjoint⟩⟩

theorem fresh_nil_iff {names : List String} : Fresh [] names ↔ names.Nodup :=
  and_iff_left (List.disjoint_nil_right names)

/-! ## The checks -/

/-- A check in front of others passes when its fault is absent and they pass. -/
private theorem check_ite_iff {fault : Prop} [Decidable fault] {problem : Problem}
    {rest : Except Problem Unit} :
    (if fault then .error problem else rest) = .ok () ↔ ¬fault ∧ rest = .ok () := by
  by_cases h : fault
  · simp [h]
  · simp [h]

/-- Two checks pass when both of them do. -/
private theorem check_bind_iff {first second : Except Problem Unit} :
    (do first; second) = .ok () ↔ first = .ok () ∧ second = .ok () := by
  cases first with
  | error problem => exact ⟨fun h => (by cases h), fun h => (by cases h.1)⟩
  | ok u => exact ⟨fun h => ⟨rfl, h⟩, fun h => h.2⟩

theorem checkFields_eq_ok_iff {message : String} {seen : List String} {tag : Nat}
    {fields : List Field} :
    Message.checkFields message seen tag fields = .ok () ↔
      (∀ f ∈ fields, f.Typed) ∧ fields.map Field.tag = List.range' tag fields.length ∧
        Fresh seen (fields.map Field.name) := by
  induction fields generalizing seen tag with
  | nil => simp [Message.checkFields, fresh_nil]
  | cons f rest ih =>
      have htyped : f.Typed ↔
          ¬(f.type.repeated && f.type.optional) ∧ ¬f.type.name.isEmpty := by
        simp [Field.Typed]
      rw [Message.checkFields, check_ite_iff, check_ite_iff, check_ite_iff, check_ite_iff, ih,
        List.forall_mem_cons, List.map_cons, List.map_cons, List.length_cons, List.range'_succ,
        List.cons.injEq, fresh_cons_iff, htyped, List.contains_iff_mem, not_not]
      tauto

theorem message_verify_eq_ok_iff {msg : Message} :
    msg.verify = .ok () ↔ msg.Sound ∧ (msg.fields.map Field.name).Nodup := by
  rw [Message.verify, checkFields_eq_ok_iff, fresh_nil_iff, ← and_assoc]
  exact and_congr_left fun _ => ⟨fun h => ⟨h.1, h.2⟩, fun h => ⟨h.1, h.2⟩⟩

theorem checkMethods_eq_ok_iff {service : String} {seen : List String} {methods : List Method} :
    Service.checkMethods service seen methods = .ok () ↔
      (∀ method ∈ methods, method.Typed) ∧ Fresh seen (methods.map Method.name) := by
  induction methods generalizing seen with
  | nil => simp [Service.checkMethods, fresh_nil]
  | cons method rest ih =>
      have htyped : method.Typed ↔ ¬(method.argument.isEmpty || method.returns.isEmpty) := by
        simp [Method.Typed]
      rw [Service.checkMethods, check_ite_iff, check_ite_iff, ih, List.forall_mem_cons,
        List.map_cons, fresh_cons_iff, htyped, List.contains_iff_mem]
      tauto

theorem service_verify_eq_ok_iff {svc : Service} :
    svc.verify = .ok () ↔
      (∀ method ∈ svc.methods, method.Typed) ∧ (svc.methods.map Method.name).Nodup := by
  rw [Service.verify, checkMethods_eq_ok_iff, fresh_nil_iff]

theorem checkMessages_eq_ok_iff {seen : List String} {messages : List Message} :
    Document.checkMessages seen messages = .ok () ↔
      (∀ msg ∈ messages, msg.verify = .ok ()) ∧ Fresh seen (messages.map Message.name) := by
  induction messages generalizing seen with
  | nil => simp [Document.checkMessages, fresh_nil]
  | cons msg rest ih =>
      rw [Document.checkMessages, check_ite_iff, check_bind_iff, ih, List.forall_mem_cons,
        List.map_cons, fresh_cons_iff, List.contains_iff_mem]
      tauto

theorem checkServices_eq_ok_iff {seen : List String} {services : List Service} :
    Document.checkServices seen services = .ok () ↔
      (∀ svc ∈ services, svc.verify = .ok ()) ∧ Fresh seen (services.map Service.name) := by
  induction services generalizing seen with
  | nil => simp [Document.checkServices, fresh_nil]
  | cons svc rest ih =>
      rw [Document.checkServices, check_ite_iff, check_bind_iff, ih, List.forall_mem_cons,
        List.map_cons, fresh_cons_iff, List.contains_iff_mem]
      tauto

/-- **A document passes when it is sound and declares no member twice.** -/
theorem verify_eq_ok_iff {doc : Document} :
    doc.verify = .ok () ↔ doc.Sound ∧ doc.MembersDistinct := by
  rw [Document.verify, check_bind_iff, checkMessages_eq_ok_iff, checkServices_eq_ok_iff,
    fresh_nil_iff, fresh_nil_iff]
  simp only [message_verify_eq_ok_iff, service_verify_eq_ok_iff, forall₂_and]
  constructor
  · rintro ⟨⟨⟨hmessages, hfields⟩, hnodup⟩, ⟨hmethods, hnames⟩, hnodup'⟩
    exact ⟨⟨hnodup, hnodup', hmessages, hmethods⟩, hfields, hnames⟩
  · rintro ⟨hsound, hfields, hnames⟩
    exact ⟨⟨⟨hsound.messages, hfields⟩, hsound.nodup_messages⟩,
      ⟨hsound.methods, hnames⟩, hsound.nodup_services⟩

end GoSchema.Schema
