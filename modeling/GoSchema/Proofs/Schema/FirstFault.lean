import GoSchema.Proofs.Schema.Verify
import GoSchema.Schema.Emit

/-!
# The first fault of a document

A document is written exactly if it is sound and declares no member twice.  If it is not written,
the writer is told of a fault of the first message or service that has one
(`emit_eq_ok_iff_and_first_fault`).

## Strategy

The verifier walks over the messages and then over the services, and each walk carries the names
that it has seen.  Messages and services may share names, so the two are one walk over the `items`
of the document that carries labels: a name, and which of the two has it (`verify_eq_check`).  Where
such a walk fails, it splits the items into those that pass together, the one at fault, and those
that are not looked at (`exists_of_check_eq_error`).  The walks over the members of an item fail in
the same way.
-/

namespace GoSchema.Schema

/-! ## Members at fault -/

/-- What is wrong with a field after fields of given names, where a given tag comes next. -/
inductive Field.Fault (message : String) (seen : List String) (tag : Nat) (f : Field) :
    Problem → Prop
  | optionalRepeated (h : f.type.repeated ∧ f.type.optional) :
      Fault message seen tag f (.optionalRepeated f.name message)
  | withoutType (h : f.type.name = "") :
      Fault message seen tag f (.violation (.fieldWithoutType f.name message))
  | twice (h : f.name ∈ seen) : Fault message seen tag f (.violation (.fieldTwice f.name message))
  | wrongTag (h : f.tag ≠ tag) :
      Fault message seen tag f (.violation (.wrongTag f.name message tag f.tag))

/-- What is wrong with a method after methods of given names. -/
inductive Method.Fault (service : String) (seen : List String) (method : Method) : Problem → Prop
  | twice (h : method.name ∈ seen) :
      Fault service seen method (.violation (.methodTwice method.name service))
  | withoutType (h : method.argument = "" ∨ method.returns = "") :
      Fault service seen method (.violation (.methodWithoutType method.name service))

theorem Field.Fault.mono {message : String} {seen seen' : List String} {tag : Nat} {f : Field}
    {problem : Problem} (h : f.Fault message seen tag problem) (hseen : seen ⊆ seen') :
    f.Fault message seen' tag problem := by
  cases h with
  | optionalRepeated h => exact .optionalRepeated h
  | withoutType h => exact .withoutType h
  | twice h => exact .twice (hseen h)
  | wrongTag h => exact .wrongTag h

theorem Method.Fault.mono {service : String} {seen seen' : List String} {method : Method}
    {problem : Problem} (h : method.Fault service seen problem) (hseen : seen ⊆ seen') :
    method.Fault service seen' problem := by
  cases h with
  | twice h => exact .twice (hseen h)
  | withoutType h => exact .withoutType h

/-- The names seen before are those of the members before, and it does not matter in which order. -/
private theorem cons_append_subset (name : String) (names seen : List String) :
    names ++ name :: seen ⊆ (name :: names) ++ seen := by
  intro other hother
  simp only [List.mem_append, List.mem_cons] at hother ⊢
  tauto

/-- A walk over fields that fails. -/
theorem exists_of_checkFields_eq_error {message : String} {seen : List String} {tag : Nat}
    {fields : List Field} {problem : Problem}
    (h : Message.checkFields message seen tag fields = .error problem) :
    ∃ earlier f later, fields = earlier ++ f :: later ∧
      Message.checkFields message seen tag earlier = .ok () ∧
      f.Fault message (earlier.map Field.name ++ seen) (tag + earlier.length) problem := by
  induction fields generalizing seen tag with
  | nil => cases h
  | cons f rest ih =>
      have hfirst (hfault : f.Fault message seen tag problem) :
          ∃ earlier g later, f :: rest = earlier ++ g :: later ∧
            Message.checkFields message seen tag earlier = .ok () ∧
            g.Fault message (earlier.map Field.name ++ seen) (tag + earlier.length) problem :=
        ⟨[], f, rest, rfl, rfl, hfault⟩
      rw [Message.checkFields] at h
      split_ifs at h with hlabels htype hseen htag
      · cases h
        exact hfirst (.optionalRepeated (by simpa using hlabels))
      · cases h
        exact hfirst (.withoutType (by simpa using htype))
      · cases h
        exact hfirst (.twice (by simpa using hseen))
      · cases h
        exact hfirst (.wrongTag htag)
      · obtain ⟨earlier, g, later, rfl, hearlier, hfault⟩ := ih h
        refine ⟨f :: earlier, g, later, rfl, ?_, ?_⟩
        · rw [Message.checkFields, if_neg hlabels, if_neg htype, if_neg hseen, if_neg htag]
          exact hearlier
        · have htags : tag + (f :: earlier).length = tag + 1 + earlier.length := by
            rw [List.length_cons]
            omega
          rw [htags]
          exact hfault.mono (cons_append_subset _ _ _)

/-- A walk over methods that fails. -/
theorem exists_of_checkMethods_eq_error {service : String} {seen : List String}
    {methods : List Method} {problem : Problem}
    (h : Service.checkMethods service seen methods = .error problem) :
    ∃ earlier method later, methods = earlier ++ method :: later ∧
      Service.checkMethods service seen earlier = .ok () ∧
      method.Fault service (earlier.map Method.name ++ seen) problem := by
  induction methods generalizing seen with
  | nil => cases h
  | cons method rest ih =>
      rw [Service.checkMethods] at h
      split_ifs at h with hseen htypes
      · cases h
        exact ⟨[], method, rest, rfl, rfl, .twice (by simpa using hseen)⟩
      · cases h
        exact ⟨[], method, rest, rfl, rfl, .withoutType (by simpa using htypes)⟩
      · obtain ⟨earlier, other, later, rfl, hearlier, hfault⟩ := ih h
        refine ⟨method :: earlier, other, later, rfl, ?_, hfault.mono (cons_append_subset _ _ _)⟩
        rw [Service.checkMethods, if_neg hseen, if_neg htypes]
        exact hearlier

/-! ## Items -/

/-- A message or a service of a document. -/
inductive Item where
  | message (msg : Message)
  | service (svc : Service)

/-- A name together with what it is a name of. -/
inductive Label where
  | message (name : String)
  | service (name : String)
deriving DecidableEq

/-- The messages of a document and after them its services, in their order. -/
def Document.items (doc : Document) : List Item :=
  doc.messages.map .message ++ doc.services.map .service

/-- The problem of a label that is there twice. -/
def Label.twice : Label → Problem
  | message name => .violation (.messageTwice name)
  | service name => .violation (.serviceTwice name)

namespace Item

/-- What an item is called, and whether it is a message or a service. -/
def label : Item → Label
  | message msg => .message msg.name
  | service svc => .service svc.name

/-- Whether an item can be written, apart from what else there is in the document. -/
def WellFormed : Item → Prop
  | message msg => msg.Sound ∧ (msg.fields.map Field.name).Nodup
  | service svc =>
    (∀ method ∈ svc.methods, method.Typed) ∧ (svc.methods.map Method.name).Nodup

/-- What is wrong with an item after other items: it is there twice, or it has a member at fault
and would pass if it ended before that. -/
inductive Fault (before : List Item) : Item → Problem → Prop
  | twice {item : Item} (h : item.label ∈ before.map label) : Fault before item item.label.twice
  | field {msg : Message} {earlier later : List Field} {f : Field} {problem : Problem}
      (hfields : msg.fields = earlier ++ f :: later)
      (hearlier : (message { msg with fields := earlier }).WellFormed)
      (h : f.Fault msg.name (earlier.map Field.name) (earlier.length + 1) problem) :
      Fault before (message msg) problem
  | method {svc : Service} {earlier later : List Method} {method : Method} {problem : Problem}
      (hmethods : svc.methods = earlier ++ method :: later)
      (hearlier : (service { svc with methods := earlier }).WellFormed)
      (h : method.Fault svc.name (earlier.map Method.name) problem) :
      Fault before (service svc) problem

/-- Whether an item has a fault after other items. -/
def Offends (before : List Item) (item : Item) : Prop :=
  item.label ∈ before.map label ∨ ¬item.WellFormed

/-- Checks an item by itself. -/
def verify : Item → Except Problem Unit
  | message msg => msg.verify
  | service svc => svc.verify

/-- Checks items against the labels seen before them. -/
def check (seen : List Label) : List Item → Except Problem Unit
  | [] => .ok ()
  | item :: rest =>
    if item.label ∈ seen then .error item.label.twice
    else do
      item.verify
      check (item.label :: seen) rest

theorem verify_eq_ok_iff_wellFormed {item : Item} : item.verify = .ok () ↔ item.WellFormed := by
  cases item with
  | message msg => exact message_verify_eq_ok_iff
  | service svc => exact service_verify_eq_ok_iff

/-- An item that does not pass by itself has a member at fault. -/
theorem fault_of_verify_eq_error {item : Item} {problem : Problem}
    (h : item.verify = .error problem) (before : List Item) : Fault before item problem := by
  cases item with
  | message msg =>
      obtain ⟨earlier, f, later, hfields, hearlier, hfault⟩ := exists_of_checkFields_eq_error h
      rw [List.append_nil, Nat.add_comm] at hfault
      exact .field hfields (verify_eq_ok_iff_wellFormed.mp hearlier) hfault
  | service svc =>
      obtain ⟨earlier, method, later, hmethods, hearlier, hfault⟩ :=
        exists_of_checkMethods_eq_error h
      rw [List.append_nil] at hfault
      exact .method hmethods (verify_eq_ok_iff_wellFormed.mp hearlier) hfault

/-! ## One walk over all items -/

theorem check_cons_of_mem {seen : List Label} {item : Item} {rest : List Item}
    (h : item.label ∈ seen) : check seen (item :: rest) = .error item.label.twice := if_pos h

theorem check_cons_of_notMem {seen : List Label} {item : Item} {rest : List Item}
    (h : item.label ∉ seen) :
    check seen (item :: rest) = (do item.verify; check (item.label :: seen) rest) := if_neg h

/-- Items that pass together. -/
theorem wellFormed_of_check_eq_ok {seen : List Label} {items : List Item}
    (h : check seen items = .ok ()) :
    (items.map label).Nodup ∧ (∀ item ∈ items, item.label ∉ seen) ∧
      ∀ item ∈ items, item.WellFormed := by
  induction items generalizing seen with
  | nil => exact ⟨List.nodup_nil, nofun, nofun⟩
  | cons item rest ih =>
      by_cases hlabel : item.label ∈ seen
      · rw [check_cons_of_mem hlabel] at h
        cases h
      rw [check_cons_of_notMem hlabel] at h
      cases hverify : item.verify with
      | error problem =>
          rw [hverify] at h
          cases h
      | ok u =>
          rw [hverify] at h
          obtain ⟨hnodup, hfresh, hrest⟩ := ih h
          refine ⟨?_, ?_, ?_⟩
          · rw [List.map_cons, List.nodup_cons]
            refine ⟨fun hmem => ?_, hnodup⟩
            obtain ⟨other, hother, hsame⟩ := List.mem_map.mp hmem
            exact hfresh other hother (hsame ▸ List.mem_cons_self)
          · rw [List.forall_mem_cons]
            exact ⟨hlabel, fun other hother hmem =>
              hfresh other hother (List.mem_cons_of_mem _ hmem)⟩
          · rw [List.forall_mem_cons]
            exact ⟨verify_eq_ok_iff_wellFormed.mp hverify, hrest⟩

/-- **Items that do not pass together.**  Those before one of them do, and that one is there twice
or does not pass by itself. -/
theorem exists_of_check_eq_error {seen : List Label} {items : List Item} {problem : Problem}
    (h : check seen items = .error problem) :
    ∃ before item after, items = before ++ item :: after ∧ check seen before = .ok () ∧
      (item.label ∈ before.map label ++ seen ∧ problem = item.label.twice ∨
        item.verify = .error problem) := by
  induction items generalizing seen with
  | nil => cases h
  | cons item rest ih =>
      by_cases hlabel : item.label ∈ seen
      · rw [check_cons_of_mem hlabel] at h
        cases h
        exact ⟨[], item, rest, rfl, rfl, .inl ⟨hlabel, rfl⟩⟩
      rw [check_cons_of_notMem hlabel] at h
      cases hverify : item.verify with
      | error problem' =>
          rw [hverify] at h
          cases h
          exact ⟨[], item, rest, rfl, rfl, .inr hverify⟩
      | ok u =>
          rw [hverify] at h
          obtain ⟨before, other, after, rfl, hbefore, hother⟩ := ih h
          refine ⟨item :: before, other, after, rfl, ?_, ?_⟩
          · rw [check_cons_of_notMem hlabel, hverify]
            exact hbefore
          · refine hother.imp_left fun ⟨hmem, hproblem⟩ => ⟨?_, hproblem⟩
            simp only [List.map_cons, List.cons_append, List.mem_append, List.mem_cons] at hmem ⊢
            tauto

end Item

namespace Document

theorem check_services {seen : List String} {labels : List Label}
    (h : ∀ name, .service name ∈ labels ↔ name ∈ seen) (services : List Service) :
    Item.check labels (services.map .service) = checkServices seen services := by
  induction services generalizing seen labels with
  | nil => rfl
  | cons svc rest ih =>
      have hseen : seen.contains svc.name ↔ (Item.service svc).label ∈ labels :=
        List.contains_iff_mem.trans (h svc.name).symm
      rw [List.map_cons, checkServices]
      by_cases hlabel : (Item.service svc).label ∈ labels
      · rw [Item.check_cons_of_mem hlabel, if_pos (hseen.mpr hlabel)]
        rfl
      · rw [Item.check_cons_of_notMem hlabel, if_neg (mt hseen.mp hlabel)]
        have hnext : ∀ name, .service name ∈ (Item.service svc).label :: labels ↔
            name ∈ svc.name :: seen := by
          intro name
          simp [Item.label, h name]
        rw [ih hnext]
        rfl

/-- The labels of messages do not count for the services. -/
theorem check_messages_append {seen : List String} {labels : List Label}
    (h : ∀ name, .message name ∈ labels ↔ name ∈ seen)
    (hservices : ∀ name, .service name ∉ labels) (messages : List Message)
    (services : List Service) :
    Item.check labels (messages.map .message ++ services.map .service) = (do
      checkMessages seen messages
      checkServices [] services) := by
  induction messages generalizing seen labels with
  | nil =>
      refine check_services (fun name => ?_) services
      exact iff_of_false (hservices name) List.not_mem_nil
  | cons msg rest ih =>
      have hseen : seen.contains msg.name ↔ (Item.message msg).label ∈ labels :=
        List.contains_iff_mem.trans (h msg.name).symm
      rw [List.map_cons, List.cons_append, checkMessages]
      by_cases hlabel : (Item.message msg).label ∈ labels
      · rw [Item.check_cons_of_mem hlabel, if_pos (hseen.mpr hlabel)]
        rfl
      · rw [Item.check_cons_of_notMem hlabel, if_neg (mt hseen.mp hlabel)]
        have hnext : ∀ name, .message name ∈ (Item.message msg).label :: labels ↔
            name ∈ msg.name :: seen := by
          intro name
          simp [Item.label, h name]
        have hapart : ∀ name, .service name ∉ (Item.message msg).label :: labels := by
          intro name
          simp [Item.label, hservices name]
        rw [ih hnext hapart, bind_assoc]
        rfl

/-- The walks over messages and services are one walk. -/
theorem verify_eq_check (doc : Document) : doc.verify = Item.check [] doc.items := by
  refine (check_messages_append (fun name => ?_) (fun name => ?_) doc.messages doc.services).symm
  · exact iff_of_false List.not_mem_nil List.not_mem_nil
  · exact List.not_mem_nil

/-- A document that does not pass splits at its first item at fault. -/
theorem exists_of_verify_eq_error {doc : Document} {problem : Problem}
    (h : doc.verify = .error problem) :
    ∃ before item after, doc.items = before ++ item :: after ∧
      ((before.map Item.label).Nodup ∧ ∀ earlier ∈ before, earlier.WellFormed) ∧
      item.Offends before ∧ item.Fault before problem := by
  rw [verify_eq_check] at h
  obtain ⟨before, item, after, hitems, hbefore, hfault⟩ := Item.exists_of_check_eq_error h
  obtain ⟨hnodup, -, hwellFormed⟩ := Item.wellFormed_of_check_eq_ok hbefore
  refine ⟨before, item, after, hitems, ⟨hnodup, hwellFormed⟩, ?_⟩
  rcases hfault with ⟨hlabel, rfl⟩ | hverify
  · rw [List.append_nil] at hlabel
    exact ⟨.inl hlabel, .twice hlabel⟩
  · have hmember : ¬item.WellFormed := by
      rw [← Item.verify_eq_ok_iff_wellFormed, hverify]
      exact nofun
    exact ⟨.inr hmember, Item.fault_of_verify_eq_error hverify before⟩

theorem emit_eq (doc : Document) : doc.emit = doc.verify.map fun _ => doc.render := by
  rw [emit]
  cases doc.verify with
  | error problem => rfl
  | ok u => rfl

/-- **Which documents are written, and what is said of the others.**  A document is written exactly
if it is sound and declares no member twice.  Of any other document the first message or service is
at fault that is there twice or is not well-formed, the messages standing before the services, and
a fault of it is what is reported. -/
theorem emit_eq_ok_iff_and_first_fault (doc : Document) :
    ((∃ text, doc.emit = .ok text) ↔ doc.Sound ∧ doc.MembersDistinct) ∧
      (¬(doc.Sound ∧ doc.MembersDistinct) →
        ∃ before item after problem, doc.items = before ++ item :: after ∧
          ((before.map Item.label).Nodup ∧ ∀ earlier ∈ before, earlier.WellFormed) ∧
          item.Offends before ∧ doc.emit = .error problem ∧ item.Fault before problem) := by
  rw [← verify_eq_ok_iff, emit_eq]
  cases hverify : doc.verify with
  | ok u => exact ⟨iff_of_true ⟨doc.render, rfl⟩ rfl, fun hfails => absurd rfl hfails⟩
  | error problem =>
      refine ⟨iff_of_false (fun ⟨_, h⟩ => by cases h) nofun, fun _ => ?_⟩
      obtain ⟨before, item, after, hitems, hbefore, hoffends, hfault⟩ :=
        exists_of_verify_eq_error hverify
      exact ⟨before, item, after, problem, hitems, hbefore, hoffends, rfl, hfault⟩

/-- The tag of a field that is skipped, the second message of a name, and a service that is named as
a message is. -/
def muddled : Document :=
  let text (name : String) (tag : Nat) : Field :=
    ⟨name, "", tag, .scalar "string", ⟨none, false, none⟩⟩
  { empty "shop/v1/shop.proto" "shop.v1" with
    messages :=
      [⟨"Cart", "", [text "id" 1]⟩, ⟨"Item", "", [text "x" 1, text "y" 3]⟩, ⟨"Cart", "", []⟩]
    services := [⟨"Cart", "", [⟨"Empty", "", "", "Cart"⟩]⟩] }

/-- The skipped tag comes before the second message of a name. -/
theorem emit_muddled : ¬(muddled.Sound ∧ muddled.MembersDistinct) ∧
    muddled.emit = .error (.violation (.wrongTag "y" "Item" 2 3)) ∧
      ∃ before item after problem, muddled.items = before ++ item :: after ∧
        ((before.map Item.label).Nodup ∧ ∀ earlier ∈ before, earlier.WellFormed) ∧
        item.Offends before ∧ muddled.emit = .error problem ∧ item.Fault before problem := by
  have hunsound : ¬(muddled.Sound ∧ muddled.MembersDistinct) := by
    rw [← verify_eq_ok_iff]
    decide +kernel
  exact ⟨hunsound, rfl, (emit_eq_ok_iff_and_first_fault muddled).2 hunsound⟩

end Document

end GoSchema.Schema
