import GoSchema.Proofs.Mapping.Assembly
import GoSchema.Proofs.Mapping.Wrappers

/-!
# What failing work leaves behind

A document that work has failed on is still there, and a caller may go on with it.  This file says
what is in it then.

The message of a record is added in one go.  Whether there is room for it is known before anything
is written, so a failure leaves the document as it was; and once the message is there, adding it
again finds it and changes nothing (`record_atomic`).

The service of a contract is not.  The messages of its methods are settled one after the other, and
each of them stays when a later one is refused, or when in the end the service itself is.
`Mapper.settled` is how far the methods come in a document, and `contract_leaves` says that a
failing contract leaves exactly what was settled.  So the document is as it was only if it knew all
of that already.

## Strategy

An addition that a document knows (`Addition.KnownTo`) changes nothing in it
(`addTo?_eq_self_of_knownTo`), and an addition that was made is known from then on
(`knownTo_of_addTo?`).  For a record this gives the second call.  For a contract it gives both
directions: what is settled is known afterwards, and if nothing has changed, it was known before.
-/

namespace GoSchema.Mapping

open Schema Go

variable {α β : Type} {doc doc' doc₁ : Document}

/-! ## Messages that are refused -/

namespace Building

variable {refusal : Refusal}

theorem Refuses.after_eq {x : Building α} (h : x.Refuses doc refusal doc') : x.after doc = doc' :=
  congrArg Prod.snd h

theorem Yields.after_eq {x : Building α} {a : α} (h : x.Yields doc a doc') : x.after doc = doc' :=
  congrArg Prod.snd h

/-- A report in front of work does not count. -/
private theorem refuses_ite_report_iff {c : Prop} [Decidable c] {e : Event} {x : Building α} :
    (if c then (do report e; x) else x).Refuses doc refusal doc' ↔ x.Refuses doc refusal doc' := by
  split <;> rfl

/-- A message is refused before anything is written. -/
theorem refuses_register_iff {message : Message} :
    (register message).Refuses doc refusal doc' ↔
      ∃ problem, doc.addMessage message = .error problem ∧ refusal = ⟨message.name, problem⟩ ∧
        doc' = doc := by
  unfold register
  rw [refuses_get_bind_iff]
  refine refuses_ite_report_iff.trans ?_
  cases doc.addMessage message with
  | error problem => simp [refuses_throw_iff]
  | ok held =>
      obtain ⟨held, doc₁⟩ := held
      refine iff_of_false ?_ (by simp)
      rintro h
      cases h

theorem refuses_record_iff {m : Mapper} {name docs : String} {fields : List Go.Field} :
    (record m name docs fields).Refuses doc refusal doc' ↔
      ((m.message name docs fields).value = .error refusal ∧ doc' = doc) ∨
        ∃ message, (m.message name docs fields).value = .ok message ∧
          (register message).Refuses doc refusal doc' := by
  simp only [record, refuses_bind_iff, refuses_make_iff, yields_make_iff]
  constructor
  · rintro (h | ⟨message, _, ⟨hmessage, rfl⟩, h⟩)
    · exact Or.inl h
    · exact Or.inr ⟨message, hmessage, h⟩
  · rintro (h | ⟨message, hmessage, h⟩)
    · exact Or.inl h
    · exact Or.inr ⟨message, doc, ⟨hmessage, rfl⟩, h⟩

end Building

/-! ## What a document knows -/

/-- A document needs no further import for some files. -/
def HasImports (doc : Document) (paths : List String) : Prop :=
  ∀ path ∈ paths, path ∈ doc.imports ∨ path = doc.fileName

/-- A document needs no change for an addition: it has the imports, and holds a message of that name
with the same fields. A service is always new. -/
def Addition.KnownTo (doc : Document) : Addition → Prop
  | .message msg =>
    HasImports doc (importsOf msg) ∧
      ∃ held, doc.message? msg.name = some held ∧ held.fields = msg.fields
  | .reuse type => HasImports doc type.origin?.toList
  | .service _ => False

section Known

variable {paths : List String} {a : Addition} {r : Reduction}

theorem hasImports_foldl_addImport (doc : Document) (paths : List String) :
    HasImports (paths.foldl Document.addImport doc) paths := by
  intro path hpath
  rw [foldl_addImport]
  by_cases hself : path = doc.fileName
  · exact Or.inr hself
  · exact Or.inl ((mem_withImports_iff ..).mpr (Or.inr ⟨hpath, hself⟩))

theorem foldl_addImport_eq_self (h : HasImports doc paths) :
    paths.foldl Document.addImport doc = doc := by
  have himports : withImports doc.fileName doc.imports paths = doc.imports := by
    refine TextSet.ext_mem fun path => ?_
    rw [mem_withImports_iff]
    refine or_iff_left_of_imp fun hpath => ?_
    exact (h path hpath.1).resolve_right hpath.2
  rw [foldl_addImport, himports]

theorem HasImports.follows (h : HasImports doc paths) (hfollows : doc.Follows doc') :
    HasImports doc' paths := by
  intro path hpath
  rw [hfollows.fileName_eq]
  exact (h path hpath).imp_left (hfollows.imports path)

theorem Addition.KnownTo.follows (h : a.KnownTo doc) (hfollows : doc.Follows doc') :
    a.KnownTo doc' := by
  cases a with
  | message msg =>
      obtain ⟨himports, held, hheld, hfields⟩ := h
      exact ⟨himports.follows hfollows, held, message?_of_follows hfollows hheld, hfields⟩
  | reuse type => exact HasImports.follows h hfollows
  | service svc => exact h

/-- Only the messages and the imports of a document count. -/
theorem Addition.KnownTo.congr (h : a.KnownTo doc) (hmessages : doc.messages = doc'.messages)
    (himports : doc.imports = doc'.imports) (hname : doc.fileName = doc'.fileName) :
    a.KnownTo doc' := by
  have hpaths {paths : List String} (h : HasImports doc paths) : HasImports doc' paths := by
    intro path hpath
    rw [← himports, ← hname]
    exact h path hpath
  cases a with
  | message msg =>
      refine ⟨hpaths h.1, ?_⟩
      rw [Document.message?, ← hmessages]
      exact h.2
  | reuse type => exact hpaths h
  | service svc => exact h

/-- A message that is held already stays, whatever is said of it. -/
theorem addMessage_eq_self {held msg : Message} (hheld : doc.message? msg.name = some held)
    (hfields : held.fields = msg.fields) : doc.addMessage msg = .ok (held, doc) := by
  rw [Document.addMessage, hheld]
  exact if_pos hfields

/-- What is known changes nothing. -/
theorem addTo?_eq_self_of_knownTo (h : a.KnownTo doc) : a.addTo? doc = some doc := by
  cases a with
  | message msg =>
      obtain ⟨himports, held, hheld, hfields⟩ := h
      refine Building.exists_yields_register_iff.mp ⟨held, Building.yields_register_iff.mpr ?_⟩
      exact ⟨doc, addMessage_eq_self hheld hfields, (foldl_addImport_eq_self himports).symm⟩
  | reuse type => exact congrArg some (foldl_addImport_eq_self h)
  | service svc => exact h.elim

/-- What stands for some members is known once it is added. -/
theorem knownTo_of_addTo? (h : r.addition.addTo? doc = some doc') : r.addition.KnownTo doc' := by
  cases r with
  | reuse type =>
      cases h
      exact hasImports_foldl_addImport doc _
  | wrap message =>
      refine ⟨?_, exists_message?_of_addTo? h⟩
      obtain ⟨held, hyields⟩ := Building.exists_yields_register_iff.mpr h
      obtain ⟨doc₁, -, rfl⟩ := Building.yields_register_iff.mp hyields
      exact hasImports_foldl_addImport doc₁ (importsOf message)

/-- A document that knows a message holds one with its name and its fields. -/
theorem exists_message?_of_knownTo {name docs : String} {fields : List Schema.Field}
    (h : (Reduction.wrap ⟨name, docs, fields⟩).addition.KnownTo doc) :
    ∃ held, doc.message? name = some held ∧ held.fields = fields := h.2

theorem services_addTo? (h : r.addition.addTo? doc = some doc') : doc'.services = doc.services := by
  cases r with
  | reuse type =>
      cases h
      rw [foldl_addImport]
  | wrap message =>
      obtain ⟨held, hyields⟩ := Building.exists_yields_register_iff.mpr h
      obtain ⟨doc₁, hadded, rfl⟩ := Building.yields_register_iff.mp hyields
      rw [foldl_addImport]
      unfold Document.addMessage at hadded
      split at hadded
      · split at hadded <;> cases hadded
        rfl
      · cases hadded
        rfl

end Known

/-! ## Records -/

/-- **The message of a record is added in one go, and only once.**  If it is refused, the document
is as it was.  Otherwise the document holds a message of that name with the fields of the record,
and the same record, whatever is said of it, gives that message again and leaves the document
alone. -/
theorem record_atomic (m : Mapper) (name docs : String) (sources : List Go.Field)
    (doc : Document) :
    (∀ refusal doc', (Building.record m name docs sources).Refuses doc refusal doc' →
        doc' = doc) ∧
      ∀ held doc', (Building.record m name docs sources).Yields doc held doc' →
        held.name = name ∧ (m.fields name 1 sources).value = .ok held.fields ∧
          doc'.message? name = some held ∧
          ∀ docs', (Building.record m name docs' sources).Yields doc' held doc' := by
  constructor
  · intro refusal doc' hrefuses
    rcases Building.refuses_record_iff.mp hrefuses with ⟨-, heq⟩ | ⟨message, -, hregister⟩
    · exact heq
    · obtain ⟨problem, -, -, heq⟩ := Building.refuses_register_iff.mp hregister
      exact heq
  · intro held doc' hyields
    obtain ⟨message, _, hmake, hregister⟩ := Building.yields_bind_iff.mp hyields
    obtain ⟨hmessage, rfl⟩ := Building.yields_make_iff.mp hmake
    obtain ⟨fs, hfs, rfl⟩ := Mapper.value_message_eq_ok_iff.mp hmessage
    obtain ⟨doc₁, hadded, rfl⟩ := Building.yields_register_iff.mp hregister
    obtain ⟨hheld, hfields⟩ := message?_of_addMessage hadded
    have hfollows := Document.follows_foldl_addImport doc₁ (importsOf ⟨name, docs, fs⟩)
    have hfound := message?_of_follows hfollows hheld
    have hname : held.name = name := by simpa using List.find?_some hfound
    refine ⟨hname, hfields ▸ hfs, hfound, fun docs' => ?_⟩
    -- neither the fields nor the imports depend on what is said of the record
    have hagain : (m.message name docs' sources).value = .ok ⟨name, docs', fs⟩ :=
      Mapper.value_message_eq_ok_iff.mpr ⟨fs, hfs, rfl⟩
    refine Building.yields_bind_iff.mpr ⟨_, _, Building.yields_make_iff.mpr ⟨hagain, rfl⟩, ?_⟩
    refine Building.yields_register_iff.mpr ⟨_, addMessage_eq_self hfound hfields, ?_⟩
    exact (foldl_addImport_eq_self (hasImports_foldl_addImport doc₁ _)).symm

/-- The fields of a record. -/
def tagFields : List Go.Field := [plainField "Name" (.ofName "string")]

/-- A document with the message of the record. -/
def tagDocument : Document :=
  (Building.record plainMapper "Tag" "" tagFields).after (.empty "shop.proto" "shop")

/-- The record once more, and another record of that name, both leave the document as it is. -/
theorem record_atomic_tag :
    ∃ held, (Building.record plainMapper "Tag" "" tagFields).Yields
        (.empty "shop.proto" "shop") held tagDocument ∧
      tagDocument.message? "Tag" = some held ∧
      (Building.record plainMapper "Tag" "A tag." tagFields).Yields tagDocument held tagDocument ∧
      (Building.record plainMapper "Tag" "" []).Refuses tagDocument
        ⟨"Tag", .conflictingMessage "Tag" "shop.proto"⟩ tagDocument := by
  have hyields : (Building.record plainMapper "Tag" "" tagFields).Yields
      (.empty "shop.proto" "shop") ⟨"Tag", "", plainMapper.schemaFields 1 tagFields⟩
      tagDocument := by
    unfold Building.Yields
    decide +kernel
  have hrefuses : (Building.record plainMapper "Tag" "" []).Refuses tagDocument
      ⟨"Tag", .conflictingMessage "Tag" "shop.proto"⟩
      ((Building.record plainMapper "Tag" "" []).after tagDocument) := by
    unfold Building.Refuses
    decide +kernel
  obtain ⟨-, -, hheld, hagain⟩ := (record_atomic ..).2 _ _ hyields
  rw [(record_atomic ..).1 _ _ hrefuses] at hrefuses
  exact ⟨_, hyields, hheld, hagain "A tag.", hrefuses⟩

/-! ## Contracts -/

/-- The messages that stand for lists of members, as far as a document takes them one after the
other. -/
def Mapper.settled (m : Mapper) (doc : Document) : List (String × List Param) → List Reduction
  | [] => []
  | list :: rest =>
    match (m.reduce list.1 list.2).value with
    | .error _ => []
    | .ok r =>
      match r.addition.addTo? doc with
      | none => []
      | some doc => r :: m.settled doc rest

namespace Building

theorem after_bind_of_yields {x : Building α} {f : α → Building β} {a : α}
    (h : x.Yields doc a doc₁) : (x >>= f).after doc = (f a).after doc₁ := by
  rw [after_bind, h]

theorem after_bind_of_refuses {x : Building α} {f : α → Building β} {refusal : Refusal}
    (h : x.Refuses doc refusal doc₁) : (x >>= f).after doc = doc₁ := by
  rw [after_bind, h]

theorem after_bind_pure (x : Building α) (f : α → β) :
    (x >>= fun a => pure (f a)).after doc = x.after doc := by
  rw [after_bind, after]
  rcases (x.run.run doc).value with ⟨_ | a, doc₁⟩ <;> rfl

/-- A message that there is no room for is refused, and nothing is written. -/
theorem exists_refuses_settle {r : Reduction} (h : r.addition.addTo? doc = none) :
    ∃ refusal, (settle r).Refuses doc refusal doc := by
  cases r with
  | reuse type => cases h
  | wrap message =>
      cases hadd : doc.addMessage message with
      | error problem =>
          have hrefuses := refuses_register_iff.mpr ⟨problem, hadd, rfl, rfl⟩
          exact ⟨_, refuses_bind_iff.mpr (.inl hrefuses)⟩
      | ok added =>
          have hsome := Option.map_eq_none_iff.mp h
          rw [hadd] at hsome
          cases hsome

variable {m : Mapper}

/-- **One list.**  Whatever is done with its message, what was settled of it and of the lists after
it is what work leaves that settles the one and goes on with the others. -/
private theorem addAll?_settled_cons {list : String × List Param}
    {rest : List (String × List Param)} {f : String → Building β}
    (hrest : ∀ name doc, Addition.addAll? ((m.settled doc rest).map Reduction.addition) doc =
      some ((f name).after doc))
    (doc : Document) :
    Addition.addAll? ((m.settled doc (list :: rest)).map Reduction.addition) doc =
      some ((make (m.reduce list.1 list.2) >>= fun r => settle r >>= f).after doc) := by
  unfold Mapper.settled
  cases hreduce : (m.reduce list.1 list.2).value with
  | error refusal =>
      rw [after_bind_of_refuses (refuses_make_iff.mpr ⟨hreduce, rfl⟩)]
      rfl
  | ok r =>
      rw [after_bind_of_yields (yields_make_iff.mpr ⟨hreduce, rfl⟩)]
      cases hadd : r.addition.addTo? doc with
      | none =>
          obtain ⟨refusal, hrefuses⟩ := exists_refuses_settle hadd
          rw [after_bind_of_refuses hrefuses]
          simp only [hadd]
          rfl
      | some doc₁ =>
          rw [after_bind_of_yields (yields_settle_iff.mpr ⟨rfl, hadd⟩)]
          simp only [hadd, List.map_cons, Addition.addAll?_cons, Option.bind_some]
          exact hrest r.name doc₁

/-- The methods of a contract leave what they settled, whether all of it or not. -/
theorem addAll?_settled (contract stem : String) (members : List Member) (doc : Document) :
    Addition.addAll? ((m.settled doc (namedLists stem members)).map Reduction.addition) doc =
      some ((methods m contract stem members).after doc) := by
  induction members generalizing doc with
  | nil => rfl
  | cons member rest ih =>
      cases member with
      | embedded type? docs pos => exact ih doc
      | method name params results docs pos =>
          have hmethods : methods m contract stem (.method name params results docs pos :: rest) =
              (make (m.reduce (stem ++ name ++ argumentSuffix) (withoutContext params)) >>= fun r =>
                settle r >>= fun argument =>
                make (m.reduce (stem ++ name ++ returnSuffix) (withoutError results)) >>= fun r =>
                settle r >>= fun returns =>
                methods m contract stem rest >>= fun more =>
                pure (⟨name, docs, argument, returns⟩ :: more)) := by
            simp only [methods, method, bind_assoc, pure_bind]
          rw [hmethods]
          -- the list of the parameters, the list of the results, and then the later methods
          refine addAll?_settled_cons (fun argument doc => ?_) doc
          refine addAll?_settled_cons (fun returns doc => ?_) doc
          rw [after_bind_pure]
          exact ih doc

/-- A contract fails with one of its methods, or with the service when all methods are settled. -/
theorem Refuses.eq_after_methods {name docs : String} {members : List Member} {refusal : Refusal}
    (h : (contract m name docs members).Refuses doc refusal doc') :
    doc' = (methods m name (Naming.serviceStem name) members).after doc := by
  rcases refuses_bind_iff.mp h with hmethods | ⟨settled, doc₁, hmethods, hservice⟩
  · exact hmethods.after_eq.symm
  · rw [hmethods.after_eq]
    have hservice := refuses_get_bind_iff.mp hservice
    split at hservice
    · cases hservice
    · exact (refuses_throw_iff.mp hservice).2

end Building

theorem services_addAll? {reductions : List Reduction}
    (h : Addition.addAll? (reductions.map Reduction.addition) doc = some doc') :
    doc'.services = doc.services := by
  induction reductions generalizing doc with
  | nil =>
      cases h
      rfl
  | cons r rest ih =>
      rw [List.map_cons, Addition.addAll?_cons] at h
      obtain ⟨doc₁, hfirst, hrest⟩ := Option.bind_eq_some_iff.mp h
      rw [ih hrest, services_addTo? hfirst]

/-- What is added is known at the end. -/
theorem knownTo_of_addAll? {additions : List Addition} {r : Reduction}
    (h : Addition.addAll? additions doc = some doc') (hr : r.addition ∈ additions) :
    r.addition.KnownTo doc' := by
  induction additions generalizing doc with
  | nil => cases hr
  | cons a rest ih =>
      rw [Addition.addAll?_cons] at h
      obtain ⟨doc₁, hfirst, hrest⟩ := Option.bind_eq_some_iff.mp h
      rcases List.mem_cons.mp hr with rfl | hr
      · exact (knownTo_of_addTo? hfirst).follows (follows_addAll? hrest)
      · exact ih hrest hr

/-- What is known already changes nothing. -/
theorem addAll?_eq_self {additions : List Addition} (h : ∀ a ∈ additions, a.KnownTo doc) :
    Addition.addAll? additions doc = some doc := by
  induction additions with
  | nil => rfl
  | cons a rest ih =>
      obtain ⟨hfirst, hrest⟩ := List.forall_mem_cons.mp h
      rw [Addition.addAll?_cons, addTo?_eq_self_of_knownTo hfirst]
      exact ih hrest

/-- **What a failing contract leaves.**  Its messages stay as far as they were settled, and the
services are those from before.  So the document is as it was exactly if it knew all of these
messages already. -/
theorem contract_leaves {m : Mapper} {name docs : String} {members : List Member}
    {refusal : Refusal}
    (h : (Building.contract m name docs members).Refuses doc refusal doc') :
    Addition.addAll? ((m.settled doc (namedLists (Naming.serviceStem name) members)).map
        Reduction.addition) doc = some doc' ∧
      doc'.services = doc.services ∧
      (doc'.messages = doc.messages ∧ doc'.services = doc.services ∧ doc'.imports = doc.imports ↔
        ∀ r ∈ m.settled doc (namedLists (Naming.serviceStem name) members),
          r.addition.KnownTo doc) := by
  have hsettled := Building.addAll?_settled (m := m) name (Naming.serviceStem name) members doc
  rw [← h.eq_after_methods] at hsettled
  refine ⟨hsettled, services_addAll? hsettled, ?_, ?_⟩
  · -- what is added is known at the end, and so it was before if nothing has changed
    rintro ⟨hmessages, -, himports⟩ r hr
    have hname : doc'.fileName = doc.fileName := (follows_addAll? hsettled).fileName_eq
    exact (knownTo_of_addAll? hsettled (List.mem_map_of_mem hr)).congr hmessages himports hname
  · intro hknown
    have hself := addAll?_eq_self (List.forall_mem_map.mpr hknown)
    obtain rfl := Option.some.inj (hsettled.symm.trans hself)
    exact ⟨rfl, rfl, rfl⟩

/-- A method without parameters and results. -/
def pingMember : Member := .method "Ping" [] [] "" ⟨4, 2⟩

/-- A document with the service of a contract. -/
def pingDocument : Document :=
  (Building.contract plainMapper "Store" "" [pingMember]).after (.empty "shop.proto" "shop")

/-- The same contract once more is refused, but all of its messages are known. -/
theorem contract_leaves_known :
    ∃ doc', (Building.contract plainMapper "Store" "" [pingMember]).Refuses pingDocument
        ⟨"Store", .duplicateService "Store" "shop.proto"⟩ doc' ∧
      doc'.messages = pingDocument.messages ∧ doc'.services = pingDocument.services ∧
        doc'.imports = pingDocument.imports := by
  have hrefuses : (Building.contract plainMapper "Store" "" [pingMember]).Refuses pingDocument
      ⟨"Store", .duplicateService "Store" "shop.proto"⟩
      ((Building.contract plainMapper "Store" "" [pingMember]).after pingDocument) := by
    unfold Building.Refuses
    decide +kernel
  have hsettled : plainMapper.settled pingDocument (namedLists "Store" [pingMember]) =
      [.wrap ⟨"StorePingOp", "", []⟩, .wrap ⟨"StorePingResult", "", []⟩] := by
    decide +kernel
  refine ⟨_, hrefuses, (contract_leaves hrefuses).2.2.mpr ?_⟩
  rw [show Naming.serviceStem "Store" = "Store" by decide +kernel, hsettled]
  refine List.forall_mem_cons.mpr ⟨?_, List.forall_mem_singleton.mpr ?_⟩
  · exact ⟨nofun, ⟨"StorePingOp", "", []⟩, by decide +kernel, rfl⟩
  · exact ⟨nofun, ⟨"StorePingResult", "", []⟩, by decide +kernel, rfl⟩

/-- A service of that name without methods, and a contract that is refused because of it: the
messages of the contract stay. -/
theorem exists_messages_ne_of_refuses :
    ∃ doc doc' : Document, (Building.contract plainMapper "Store" "" [pingMember]).Refuses doc
        ⟨"Store", .duplicateService "Store" "shop.proto"⟩ doc' ∧
      doc.messages = [] ∧
      doc'.messages.map Message.name = ["StorePingOp", "StorePingResult"] := by
  refine ⟨{ Document.empty "shop.proto" "shop" with services := [⟨"Store", "", []⟩] },
    (Building.contract plainMapper "Store" "" [pingMember]).after
      { Document.empty "shop.proto" "shop" with services := [⟨"Store", "", []⟩] }, ?_, rfl, ?_⟩
  · unfold Building.Refuses
    decide +kernel
  · decide +kernel

end GoSchema.Mapping
