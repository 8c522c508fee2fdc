import GoSchema.Proofs.TextMap
import GoSchema.Proofs.Mapping.Addition
import Mathlib.Data.List.Induction

/-!
# The document that additions make

A new document takes a list of additions one after the other, and each step looks at what is held
already.  This file says what comes out without going through the steps:

* the document has room for all additions exactly when they are `Compatible`: messages of one name
  have the same fields, and services have distinct names (`addAll?_eq_some_iff`);
* it then holds the first message of each name, all services, and the imports of all additions
  (`assemble`).

Neither side mentions what is held at some point in between, and `Compatible` treats the additions
alike whatever their order.
-/

namespace GoSchema.Mapping

open Schema

/-! ## The first message of each name -/

/-- Adds a message unless one of its name is held. -/
def addFirst (held : List Message) (msg : Message) : List Message :=
  match held.find? fun h => h.name == msg.name with
  | some _ => held
  | none => held ++ [msg]

/-- The first message of each name, in order. -/
def firsts (messages : List Message) : List Message := messages.foldl addFirst []

theorem firsts_append_singleton (messages : List Message) (msg : Message) :
    firsts (messages ++ [msg]) = addFirst (firsts messages) msg := by
  rw [firsts, List.foldl_append]
  rfl

theorem find?_addFirst (held : List Message) (msg : Message) (name : String) :
    (addFirst held msg).find? (fun h => h.name == name) =
      (held.find? fun h => h.name == name).or (if msg.name = name then some msg else none) := by
  unfold addFirst
  split
  case h_1 present hfind =>
    by_cases hname : msg.name = name
    · rw [← hname, hfind, Option.some_or]
    · rw [if_neg hname, Option.or_none]
  case h_2 =>
    rw [List.find?_append, List.find?_singleton]
    simp

/-- Looking for a name in the first messages is looking for it in all of them. -/
theorem find?_firsts (messages : List Message) (name : String) :
    (firsts messages).find? (fun h => h.name == name) =
      messages.find? fun h => h.name == name := by
  induction messages using List.reverseRecOn with
  | nil => rfl
  | append_singleton messages msg ih =>
      rw [firsts_append_singleton, find?_addFirst, ih, List.find?_append, List.find?_singleton]
      simp

theorem nodup_firsts (messages : List Message) : ((firsts messages).map Message.name).Nodup := by
  induction messages using List.reverseRecOn with
  | nil => exact List.nodup_nil
  | append_singleton messages msg ih =>
      rw [firsts_append_singleton, addFirst]
      split
      case h_1 => exact ih
      case h_2 hfind =>
        rw [List.map_append, List.map_singleton]
        refine List.nodup_append.mpr ⟨ih, List.nodup_singleton _, ?_⟩
        rintro name hname _ hmsg rfl
        obtain ⟨held, hheld, rfl⟩ := List.mem_map.mp hname
        exact List.find?_eq_none.mp hfind held hheld (by simpa using hmsg)

theorem mem_firsts_iff (messages : List Message) (msg : Message) :
    msg ∈ firsts messages ↔ messages.find? (fun m => m.name == msg.name) = some msg := by
  rw [← find?_firsts, find?_name_eq_some_iff (nodup_firsts messages), and_iff_left rfl]

theorem mem_of_mem_firsts {messages : List Message} {msg : Message} (h : msg ∈ firsts messages) :
    msg ∈ messages :=
  List.mem_of_find?_eq_some ((mem_firsts_iff ..).mp h)

/-- For each message there is a first one of its name. -/
theorem exists_mem_firsts {messages : List Message} {msg : Message} (h : msg ∈ messages) :
    ∃ held ∈ firsts messages, held.name = msg.name := by
  obtain ⟨held, hfind⟩ := Option.isSome_iff_exists.mp
    (List.find?_isSome (p := fun m : Message => m.name == msg.name) |>.mpr
      ⟨msg, h, beq_self_eq_true _⟩)
  have hname : held.name = msg.name := by simpa using List.find?_some hfind
  exact ⟨held, (mem_firsts_iff ..).mpr (hname ▸ hfind), hname⟩

/-! ## Imports -/

/-- A set of imports with further ones, without the document itself. -/
def withImports (fileName : String) (imports : TextSet) (paths : List String) : TextSet :=
  (paths.filter fun path => path ≠ fileName).foldl .add imports

theorem mem_withImports_iff (fileName : String) (imports : TextSet) (paths : List String)
    (path : String) :
    path ∈ withImports fileName imports paths ↔
      path ∈ imports ∨ path ∈ paths ∧ path ≠ fileName := by
  unfold withImports
  induction paths generalizing imports with
  | nil => simp
  | cons first rest ih =>
      by_cases hfirst : first = fileName
      · rw [List.filter_cons_of_neg (by simpa using hfirst), ih]
        grind
      · rw [List.filter_cons_of_pos (by simpa using hfirst), List.foldl_cons, ih,
          TextSet.mem_add]
        grind

theorem withImports_append (fileName : String) (imports : TextSet) (first second : List String) :
    withImports fileName imports (first ++ second) =
      withImports fileName (withImports fileName imports first) second := by
  rw [withImports, List.filter_append, List.foldl_append]
  rfl

theorem foldl_addImport (doc : Document) (paths : List String) :
    paths.foldl Document.addImport doc =
      { doc with imports := withImports doc.fileName doc.imports paths } := by
  induction paths generalizing doc with
  | nil => rfl
  | cons first rest ih =>
      rw [List.foldl_cons, ih, Document.addImport]
      by_cases hfirst : first = doc.fileName
      · rw [if_pos hfirst, withImports, withImports,
          List.filter_cons_of_neg (by simpa using hfirst)]
      · rw [if_neg hfirst, withImports, withImports,
          List.filter_cons_of_pos (by simpa using hfirst)]
        rfl

/-! ## Compatible additions -/

/-- The messages among additions. -/
def messagesOf (additions : List Addition) : List Message :=
  additions.filterMap fun
    | .message msg => some msg
    | _ => none

/-- The services among additions. -/
def servicesOf (additions : List Addition) : List Service :=
  additions.filterMap fun
    | .service svc => some svc
    | _ => none

/-- Messages of one name have the same fields. -/
def FieldsAgree (messages : List Message) : Prop :=
  ∀ first ∈ messages, ∀ second ∈ messages, first.name = second.name → first.fields = second.fields

/-- Where messages of one name have the same fields, the first ones say all that is said. -/
theorem exists_firsts_iff {messages : List Message} (h : FieldsAgree messages)
    (P : String → List Field → Prop) :
    (∃ msg ∈ firsts messages, P msg.name msg.fields) ↔
      ∃ msg ∈ messages, P msg.name msg.fields := by
  constructor
  · rintro ⟨msg, hmsg, hholds⟩
    exact ⟨msg, mem_of_mem_firsts hmsg, hholds⟩
  · rintro ⟨msg, hmsg, hholds⟩
    obtain ⟨held, hheld, hname⟩ := exists_mem_firsts hmsg
    have hfields := h held (mem_of_mem_firsts hheld) msg hmsg hname
    exact ⟨held, hheld, by rwa [hname, hfields]⟩

/-- A document has room for some additions: messages of one name have the same fields, and no two
services have the same name. -/
structure Compatible (additions : List Addition) : Prop where
  fieldsAgree : FieldsAgree (messagesOf additions)
  nodup_services : ((servicesOf additions).map Service.name).Nodup

/-- A document with some additions, all at once. -/
def assemble (doc : Document) (additions : List Addition) : Document :=
  { doc with
    imports := withImports doc.fileName doc.imports (additions.flatMap Addition.imports)
    messages := firsts (messagesOf additions)
    services := servicesOf additions }

variable {additions : List Addition} {a : Addition} {doc doc' : Document}

theorem messagesOf_append (first second : List Addition) :
    messagesOf (first ++ second) = messagesOf first ++ messagesOf second := List.filterMap_append

theorem servicesOf_append (first second : List Addition) :
    servicesOf (first ++ second) = servicesOf first ++ servicesOf second := List.filterMap_append

theorem mem_messagesOf_iff {msg : Message} :
    msg ∈ messagesOf additions ↔ Addition.message msg ∈ additions := by
  unfold messagesOf
  rw [List.mem_filterMap]
  constructor
  · rintro ⟨_ | _ | _, hmem, heq⟩ <;> cases heq
    exact hmem
  · exact fun hmem => ⟨_, hmem, rfl⟩

theorem mem_servicesOf_iff {svc : Service} :
    svc ∈ servicesOf additions ↔ Addition.service svc ∈ additions := by
  unfold servicesOf
  rw [List.mem_filterMap]
  constructor
  · rintro ⟨_ | _ | _, hmem, heq⟩ <;> cases heq
    exact hmem
  · exact fun hmem => ⟨_, hmem, rfl⟩

/-- A contract adds one service. -/
theorem servicesOf_contractAdditions (stem docs : String) (rpcs : List Rpc) :
    servicesOf (contractAdditions stem docs rpcs) = [⟨stem, docs, rpcs.map Rpc.method⟩] := by
  have hnone : servicesOf (rpcs.flatMap Rpc.additions) = [] := by
    refine List.filterMap_eq_nil_iff.mpr fun a ha => ?_
    obtain ⟨rpc, -, ha⟩ := List.mem_flatMap.mp ha
    rcases List.mem_cons.mp ha with rfl | ha
    · cases rpc.argument <;> rfl
    · rw [List.mem_singleton.mp ha]
      cases rpc.returns <;> rfl
  rw [contractAdditions, servicesOf_append, hnone]
  rfl

/-- The messages that a contract adds are those of its methods. -/
theorem messagesOf_contractAdditions (stem docs : String) (rpcs : List Rpc) :
    messagesOf (contractAdditions stem docs rpcs) = messagesOf (rpcs.flatMap Rpc.additions) := by
  rw [contractAdditions, messagesOf_append]
  exact List.append_nil _

theorem compatible_iff : Compatible additions ↔
    FieldsAgree (messagesOf additions) ∧ ((servicesOf additions).map Service.name).Nodup :=
  ⟨fun h => ⟨h.1, h.2⟩, fun h => ⟨h.1, h.2⟩⟩

theorem compatible_nil : Compatible [] := ⟨by simp [FieldsAgree, messagesOf], List.nodup_nil⟩

/-- Where there is room for additions there is room for some of them. -/
theorem Compatible.sublist {additions' : List Addition} (h : Compatible additions)
    (hsublist : additions'.Sublist additions) : Compatible additions' := by
  have hmessages : (messagesOf additions').Sublist (messagesOf additions) := hsublist.filterMap _
  have hservices : (servicesOf additions').Sublist (servicesOf additions) := hsublist.filterMap _
  constructor
  · intro first hfirst second hsecond
    exact h.fieldsAgree first (hmessages.subset hfirst) second (hmessages.subset hsecond)
  · exact h.nodup_services.sublist (hservices.map Service.name)

theorem fieldsAgree_append_singleton_iff {messages : List Message} {msg : Message} :
    FieldsAgree (messages ++ [msg]) ↔
      FieldsAgree messages ∧
        ∀ held ∈ messages, held.name = msg.name → held.fields = msg.fields := by
  constructor
  · intro h
    have hleft {held : Message} (hheld : held ∈ messages) : held ∈ messages ++ [msg] :=
      List.mem_append_left _ hheld
    exact ⟨fun first hfirst second hsecond => h first (hleft hfirst) second (hleft hsecond),
      fun held hheld => h held (hleft hheld) msg (List.mem_append_right _ (by simp))⟩
  · rintro ⟨hagree, hmsg⟩ first hfirst second hsecond hname
    rcases List.mem_append.mp hfirst with hfirst | hfirst <;>
      rcases List.mem_append.mp hsecond with hsecond | hsecond
    · exact hagree first hfirst second hsecond hname
    · rw [List.mem_singleton.mp hsecond] at hname ⊢
      exact hmsg first hfirst hname
    · rw [List.mem_singleton.mp hfirst] at hname ⊢
      exact (hmsg second hsecond hname.symm).symm
    · rw [List.mem_singleton.mp hfirst, List.mem_singleton.mp hsecond]

/-! ## One step and all steps -/

/-- One more addition fits to others. -/
def Fits (additions : List Addition) : Addition → Prop
  | .message msg => ∀ held ∈ messagesOf additions, held.name = msg.name → held.fields = msg.fields
  | .reuse _ => True
  | .service svc => svc.name ∉ (servicesOf additions).map Service.name

theorem compatible_append_singleton_iff :
    Compatible (additions ++ [a]) ↔ Compatible additions ∧ Fits additions a := by
  rw [compatible_iff, compatible_iff, messagesOf_append, servicesOf_append]
  cases a with
  | message msg =>
      show FieldsAgree (messagesOf additions ++ [msg]) ∧
        ((servicesOf additions ++ []).map Service.name).Nodup ↔ _
      rw [fieldsAgree_append_singleton_iff, List.append_nil]
      exact and_right_comm
  | reuse type =>
      show FieldsAgree (messagesOf additions ++ []) ∧
        ((servicesOf additions ++ []).map Service.name).Nodup ↔ _
      rw [List.append_nil, List.append_nil]
      exact (and_iff_left trivial).symm
  | service svc =>
      show FieldsAgree (messagesOf additions ++ []) ∧
        ((servicesOf additions ++ [svc]).map Service.name).Nodup ↔ _
      rw [List.append_nil, List.map_append, List.map_singleton, ← List.concat_eq_append,
        List.nodup_concat, and_assoc, and_comm (a := svc.name ∉ _)]
      rfl

theorem assemble_append_message (msg : Message) :
    assemble doc (additions ++ [.message msg]) =
      (importsOf msg).foldl Document.addImport
        { assemble doc additions with
          messages := addFirst (firsts (messagesOf additions)) msg } := by
  rw [foldl_addImport, ← firsts_append_singleton]
  simp [assemble, messagesOf, servicesOf, withImports_append, Addition.imports]

theorem assemble_append_reuse (type : FieldType) :
    assemble doc (additions ++ [.reuse type]) =
      type.origin?.toList.foldl Document.addImport (assemble doc additions) := by
  rw [foldl_addImport]
  simp [assemble, messagesOf, servicesOf, withImports_append, Addition.imports]

theorem assemble_append_service (svc : Service) :
    assemble doc (additions ++ [.service svc]) =
      { assemble doc additions with services := servicesOf additions ++ [svc] } := by
  simp [assemble, messagesOf, servicesOf, Addition.imports]

theorem assemble_nil (hmessages : doc.messages = []) (hservices : doc.services = []) :
    assemble doc [] = doc := by
  cases doc
  simp_all [assemble, messagesOf, servicesOf, firsts, withImports]

theorem message?_assemble (name : String) :
    (assemble doc additions).message? name =
      (messagesOf additions).find? fun m => m.name == name :=
  find?_firsts (messagesOf additions) name

theorem service?_assemble (name : String) :
    (assemble doc additions).service? name =
      (servicesOf additions).find? fun s => s.name == name := rfl

/-- Where messages agree, the one held under a name speaks for all others of that name. -/
private theorem fits_message_iff (h : FieldsAgree (messagesOf additions)) (msg : Message) :
    Fits additions (.message msg) ↔
      ∀ held ∈ (messagesOf additions).find? fun m => m.name == msg.name,
        held.fields = msg.fields := by
  constructor
  · intro hfits held hfind
    exact hfits held (List.mem_of_find?_eq_some hfind) (by simpa using List.find?_some hfind)
  · intro hfields other hother hname
    obtain ⟨held, hfind⟩ := Option.isSome_iff_exists.mp
      (List.find?_isSome (p := fun m : Message => m.name == msg.name) |>.mpr
        ⟨other, hother, beq_iff_eq.mpr hname⟩)
    have hheldName : held.name = msg.name := by simpa using List.find?_some hfind
    calc other.fields
        = held.fields := h other hother held (List.mem_of_find?_eq_some hfind)
          (hname.trans hheldName.symm)
      _ = msg.fields := hfields held hfind

private theorem fits_service_iff (svc : Service) :
    Fits additions (.service svc) ↔
      ((servicesOf additions).find? fun s => s.name == svc.name) = none := by
  rw [List.find?_eq_none]
  show svc.name ∉ (servicesOf additions).map Service.name ↔ _
  simp only [List.mem_map, not_exists, not_and, beq_iff_eq]

/-- **One step.**  A document with compatible additions takes one more exactly when it fits. -/
theorem addTo?_assemble_eq_some_iff (h : FieldsAgree (messagesOf additions)) :
    a.addTo? (assemble doc additions) = some doc' ↔
      Fits additions a ∧ doc' = assemble doc (additions ++ [a]) := by
  cases a with
  | message msg =>
      have hheld : (firsts (messagesOf additions)).find? (fun m => m.name == msg.name) =
          (messagesOf additions).find? fun m => m.name == msg.name := find?_firsts ..
      rw [fits_message_iff h, assemble_append_message, Addition.addTo?, Document.addMessage,
        message?_assemble, addFirst, hheld]
      -- what is held under the name decides
      cases (messagesOf additions).find? fun m => m.name == msg.name with
      | none => simp [Except.toOption, eq_comm, assemble]
      | some present =>
          by_cases heq : present.fields = msg.fields
          · simp [heq, Except.toOption, eq_comm, assemble]
          · simp [heq, Except.toOption]
  | reuse type =>
      rw [assemble_append_reuse, Addition.addTo?, Option.some.injEq, eq_comm]
      exact (and_iff_right trivial).symm
  | service svc =>
      rw [fits_service_iff, assemble_append_service, Addition.addTo?, Document.addService,
        service?_assemble]
      cases (servicesOf additions).find? fun s => s.name == svc.name with
      | none => simp [Except.toOption, eq_comm, assemble]
      | some present => simp [Except.toOption]

/-- **All steps.**  A new document takes additions exactly when they are compatible. -/
theorem addAll?_eq_some_iff (hmessages : doc.messages = []) (hservices : doc.services = []) :
    Addition.addAll? additions doc = some doc' ↔
      Compatible additions ∧ doc' = assemble doc additions := by
  induction additions using List.reverseRecOn generalizing doc' with
  | nil =>
      rw [Addition.addAll?_nil, Option.some.injEq, assemble_nil hmessages hservices, eq_comm]
      exact (and_iff_right compatible_nil).symm
  | append_singleton additions a ih =>
      rw [Addition.addAll?_append, Option.bind_eq_some_iff, compatible_append_singleton_iff]
      simp only [Addition.addAll?_singleton, ih]
      constructor
      · rintro ⟨_, ⟨hcompatible, rfl⟩, hadd⟩
        obtain ⟨hfits, heq⟩ := (addTo?_assemble_eq_some_iff hcompatible.fieldsAgree).mp hadd
        exact ⟨⟨hcompatible, hfits⟩, heq⟩
      · rintro ⟨⟨hcompatible, hfits⟩, heq⟩
        exact ⟨_, ⟨hcompatible, rfl⟩,
          (addTo?_assemble_eq_some_iff hcompatible.fieldsAgree).mpr ⟨hfits, heq⟩⟩

end GoSchema.Mapping
