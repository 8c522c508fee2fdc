import GoSchema.Mapping.Documents
import GoSchema.Proofs.Mapping.Fields

/-!
# What a declaration adds to its document

Building a declaration reads the package and writes to a document.  This file separates the two.
`Mapper.additions` computes from the package alone what a declaration adds: the message of a
record, or the messages that stand for parameters and results and then the service of a contract.
`Addition.addTo?` puts one addition into a document, if there is room for it.

The main statement is `yields_addDeclaration_iff`: building a declaration succeeds exactly when
its additions can be computed and the document takes all of them, and the document it leaves is
the one with them.  So what is added never depends on what the document holds already.
-/

namespace GoSchema.Mapping

open Schema Go

/-! ## Additions -/

/-- Something that is added to a document. -/
inductive Addition where
  /-- A message, with all that its fields import. -/
  | message (message : Message)
  /-- A message that is declared elsewhere and used by a method. -/
  | reuse (type : FieldType)
  | service (service : Service)
deriving DecidableEq

namespace Addition

/-- The files that a document with this addition imports. -/
def imports : Addition → List String
  | .message msg => importsOf msg
  | .reuse type => type.origin?.toList
  | .service _ => []

/-- The document with an addition, if there is room for it. -/
def addTo? (a : Addition) (doc : Document) : Option Document :=
  match a with
  | .message msg =>
    (doc.addMessage msg).toOption.map fun held => (importsOf msg).foldl .addImport held.2
  | .reuse type => some (type.origin?.toList.foldl .addImport doc)
  | .service svc => (doc.addService svc).toOption

/-- The document with several additions, one after the other. -/
def addAll? (additions : List Addition) (doc : Document) : Option Document :=
  additions.foldlM (fun doc a => a.addTo? doc) doc

theorem addAll?_nil (doc : Document) : addAll? [] doc = some doc := rfl

theorem addAll?_cons (a : Addition) (rest : List Addition) (doc : Document) :
    addAll? (a :: rest) doc = (a.addTo? doc).bind fun doc => addAll? rest doc := rfl

theorem addAll?_append (first second : List Addition) (doc : Document) :
    addAll? (first ++ second) doc = (addAll? first doc).bind fun doc => addAll? second doc :=
  List.foldlM_append

theorem addAll?_singleton (a : Addition) (doc : Document) : addAll? [a] doc = a.addTo? doc := by
  rw [addAll?_cons]
  exact Option.bind_fun_some _

end Addition

/-! ## Methods -/

/-- The message that a method takes or returns. -/
def Reduction.name : Reduction → String
  | reuse type => type.name
  | wrap message => message.name

/-- What the document of a method needs for the message. -/
def Reduction.addition : Reduction → Addition
  | reuse type => .reuse type
  | wrap message => .message message

/-- A method of a contract, with what stands for its parameters and for its results. -/
structure Rpc where
  name : String
  docs : String
  argument : Reduction
  returns : Reduction

namespace Rpc

/-- The method of the service. -/
def method (r : Rpc) : Schema.Method := ⟨r.name, r.docs, r.argument.name, r.returns.name⟩

/-- What the method adds to the document of the service. -/
def additions (r : Rpc) : List Addition := [r.argument.addition, r.returns.addition]

end Rpc

namespace Mapper

/-- What stands for the parameters and the results of a method. -/
def rpc (m : Mapper) (stem name docs : String) (params results : List Param) :
    Except Refusal Rpc := do
  let argument ← (m.reduce (stem ++ name ++ argumentSuffix) (withoutContext params)).value
  let returns ← (m.reduce (stem ++ name ++ returnSuffix) (withoutError results)).value
  return ⟨name, docs, argument, returns⟩

/-- The same for each method of a contract, in order. -/
def rpcs (m : Mapper) (stem : String) : List Member → Except Refusal (List Rpc)
  | [] => .ok []
  | .embedded .. :: rest => m.rpcs stem rest
  | .method name params results docs _ :: rest => do
    let rpc ← m.rpc stem name docs params results
    return rpc :: (← m.rpcs stem rest)

end Mapper

/-- What a contract adds: the messages of its methods, and then the service. -/
def contractAdditions (stem docs : String) (rpcs : List Rpc) : List Addition :=
  rpcs.flatMap Rpc.additions ++ [.service ⟨stem, docs, rpcs.map Rpc.method⟩]

/-- What a declaration adds to its document. -/
def Mapper.additions (m : Mapper) (d : Declaration) : Except Refusal (List Addition) :=
  match d.kind with
  | .record fields => (m.message d.name d.docs fields).value.map fun message => [.message message]
  | .contract members =>
    (m.rpcs (Naming.serviceStem d.name) members).map
      (contractAdditions (Naming.serviceStem d.name) d.docs)
  | .defined _ => .ok []

/-- The names of the methods of a contract. An embedded contract has none. -/
def methodNames (members : List Member) : List String :=
  members.filterMap fun
    | .method name .. => some name
    | .embedded .. => none

/-- The lists of parameters and of results that a contract needs messages for, in order. -/
def memberLists (members : List Member) : List (List Param) :=
  members.flatMap fun
    | .method _ params results _ _ => [withoutContext params, withoutError results]
    | .embedded .. => []

/-- The same lists, each with the name that a wrapper for it takes. -/
def namedLists (stem : String) (members : List Member) : List (String × List Param) :=
  members.flatMap fun
    | .method name params results _ _ =>
      [(stem ++ name ++ argumentSuffix, withoutContext params),
        (stem ++ name ++ returnSuffix, withoutError results)]
    | .embedded .. => []

theorem map_snd_namedLists (stem : String) (members : List Member) :
    (namedLists stem members).map Prod.snd = memberLists members := by
  rw [namedLists, memberLists, List.map_flatMap]
  congr 1
  funext member
  cases member <;> rfl

namespace Mapper

variable {m : Mapper}

theorem rpc_eq_ok_iff {stem name docs : String} {params results : List Param} {rpc : Rpc} :
    m.rpc stem name docs params results = .ok rpc ↔
      (m.reduce (stem ++ name ++ argumentSuffix) (withoutContext params)).value =
          .ok rpc.argument ∧
        (m.reduce (stem ++ name ++ returnSuffix) (withoutError results)).value = .ok rpc.returns ∧
        rpc.name = name ∧ rpc.docs = docs := by
  simp only [Mapper.rpc, ok_of_bind_iff]
  constructor
  · rintro ⟨argument, hargument, returns, hreturns, heq⟩
    cases heq
    exact ⟨hargument, hreturns, rfl, rfl⟩
  · rintro ⟨hargument, hreturns, rfl, rfl⟩
    exact ⟨_, hargument, _, hreturns, rfl⟩

/-- One method, and then the others. -/
theorem rpcs_cons_eq_ok_iff {stem name docs : String} {params results : List Param}
    {pos : Position} {rest : List Member} {rpcs : List Rpc} :
    m.rpcs stem (.method name params results docs pos :: rest) = .ok rpcs ↔
      ∃ first more, m.rpc stem name docs params results = .ok first ∧
        m.rpcs stem rest = .ok more ∧ rpcs = first :: more := by
  simp only [Mapper.rpcs, ok_of_bind_iff]
  constructor
  · rintro ⟨first, hfirst, more, hmore, heq⟩
    cases heq
    exact ⟨first, more, hfirst, hmore, rfl⟩
  · rintro ⟨first, more, hfirst, hmore, rfl⟩
    exact ⟨first, hfirst, more, hmore, rfl⟩

theorem map_name_rpcs {stem : String} {members : List Member} {rpcs : List Rpc}
    (h : m.rpcs stem members = .ok rpcs) : rpcs.map Rpc.name = methodNames members := by
  induction members generalizing rpcs with
  | nil =>
      cases h
      rfl
  | cons member rest ih =>
      cases member with
      | embedded type? docs pos => exact ih h
      | method name params results docs pos =>
          obtain ⟨first, more, hfirst, hmore, rfl⟩ := rpcs_cons_eq_ok_iff.mp h
          obtain ⟨-, -, hname, -⟩ := rpc_eq_ok_iff.mp hfirst
          rw [List.map_cons, hname, ih hmore]
          rfl

theorem rpcs_append_eq_ok_iff {stem : String} {first second : List Member} {rpcs : List Rpc} :
    m.rpcs stem (first ++ second) = .ok rpcs ↔
      ∃ before after, m.rpcs stem first = .ok before ∧ m.rpcs stem second = .ok after ∧
        rpcs = before ++ after := by
  induction first generalizing rpcs with
  | nil => simp [Mapper.rpcs]
  | cons member rest ih =>
      cases member with
      | embedded type? docs pos => exact ih
      | method name params results docs pos =>
          simp only [List.cons_append, rpcs_cons_eq_ok_iff, ih]
          constructor
          · rintro ⟨rpc, _, hrpc, ⟨before, after, hbefore, hafter, rfl⟩, rfl⟩
            exact ⟨_, after, ⟨rpc, before, hrpc, hbefore, rfl⟩, hafter, rfl⟩
          · rintro ⟨_, after, ⟨rpc, before, hrpc, hbefore, rfl⟩, hafter, rfl⟩
            exact ⟨rpc, _, hrpc, ⟨before, after, hbefore, hafter, rfl⟩, rfl⟩

/-- Each method of a contract has its place among those that the contract is made into. -/
theorem exists_rpc_at {stem : String} {before after : List Member} {rpcs : List Rpc}
    {name docs : String} {params results : List Param} {pos : Position}
    (h : m.rpcs stem (before ++ .method name params results docs pos :: after) = .ok rpcs) :
    ∃ rpc, m.rpc stem name docs params results = .ok rpc ∧
      rpcs[(methodNames before).length]? = some rpc := by
  obtain ⟨first, _, hfirst, hsecond, rfl⟩ := rpcs_append_eq_ok_iff.mp h
  obtain ⟨rpc, second, hrpc, -, rfl⟩ := rpcs_cons_eq_ok_iff.mp hsecond
  refine ⟨rpc, hrpc, ?_⟩
  rw [← map_name_rpcs hfirst, List.length_map, List.getElem?_append_right le_rfl, Nat.sub_self]
  rfl

/-- What stands for the parameters and the results of a method comes from their reductions. -/
theorem exists_reduce_of_mem_rpcs {stem : String} {members : List Member} {rpcs : List Rpc}
    (h : m.rpcs stem members = .ok rpcs) {rpc : Rpc} (hrpc : rpc ∈ rpcs) :
    (∃ method params, (m.reduce (method ++ argumentSuffix) params).value = .ok rpc.argument) ∧
      ∃ method results, (m.reduce (method ++ returnSuffix) results).value = .ok rpc.returns := by
  induction members generalizing rpcs with
  | nil =>
      cases h
      cases hrpc
  | cons member rest ih =>
      cases member with
      | embedded type? docs pos => exact ih h hrpc
      | method name params results docs pos =>
          obtain ⟨first, more, hfirst, hmore, rfl⟩ := rpcs_cons_eq_ok_iff.mp h
          obtain ⟨hargument, hreturns, -⟩ := rpc_eq_ok_iff.mp hfirst
          rcases List.mem_cons.mp hrpc with rfl | hrpc
          · exact ⟨⟨_, _, hargument⟩, ⟨_, _, hreturns⟩⟩
          · exact ih hmore hrpc

/-- What is the same of a list of members and of the message that stands for it is the same of all
lists of a contract and of what its methods take and return. -/
theorem exists_rpc_iff {Q : Reduction → Prop} {Q' : List Param → Prop}
    (hsame : ∀ wrapperName members r,
      (m.reduce wrapperName members).value = .ok r → (Q r ↔ Q' members))
    {stem : String} {members : List Member} {rpcs : List Rpc}
    (h : m.rpcs stem members = .ok rpcs) :
    (∃ rpc ∈ rpcs, Q rpc.argument ∨ Q rpc.returns) ↔ ∃ list ∈ memberLists members, Q' list := by
  induction members generalizing rpcs with
  | nil =>
      cases h
      simp [memberLists]
  | cons member rest ih =>
      cases member with
      | embedded type? docs pos => exact ih h
      | method name params results docs pos =>
          obtain ⟨first, more, hfirst, hmore, rfl⟩ := rpcs_cons_eq_ok_iff.mp h
          obtain ⟨hargument, hreturns, -⟩ := rpc_eq_ok_iff.mp hfirst
          have hlists : memberLists (.method name params results docs pos :: rest) =
              withoutContext params :: withoutError results :: memberLists rest := rfl
          simp only [hlists, List.exists_mem_cons_iff, ih hmore, hsame _ _ _ hargument,
            hsame _ _ _ hreturns, or_assoc]

/-- The two kinds of additions: those of a record and those of a contract. -/
theorem additions_eq_ok_cases {d : Declaration} {additions : List Addition}
    (h : m.additions d = .ok additions) :
    (∃ fields message, d.kind = .record fields ∧
      (m.message d.name d.docs fields).value = .ok message ∧ additions = [.message message]) ∨
    (∃ members rpcs, d.kind = .contract members ∧
      m.rpcs (Naming.serviceStem d.name) members = .ok rpcs ∧
        additions = contractAdditions (Naming.serviceStem d.name) d.docs rpcs) ∨
    (∃ type, d.kind = .defined type ∧ additions = []) := by
  unfold Mapper.additions at h
  cases hkind : d.kind with
  | record fields =>
      rw [hkind] at h
      obtain ⟨message, hmessage, rfl⟩ := ok_of_map_iff.mp h
      exact Or.inl ⟨fields, message, rfl, hmessage, rfl⟩
  | contract members =>
      rw [hkind] at h
      obtain ⟨rpcs, hrpcs, rfl⟩ := ok_of_map_iff.mp h
      exact Or.inr (Or.inl ⟨members, rpcs, rfl, hrpcs, rfl⟩)
  | defined type =>
      rw [hkind] at h
      cases h
      exact Or.inr (Or.inr ⟨type, rfl, rfl⟩)

/-- Mappers that resolve alike make the same of a declaration. -/
theorem additions_congr {m₁ m₂ : Mapper} (h : ∀ t, m₁.resolve t = m₂.resolve t)
    (d : Declaration) : m₁.additions d = m₂.additions d := by
  have hrpcs (stem : String) (members : List Member) :
      m₁.rpcs stem members = m₂.rpcs stem members := by
    induction members with
    | nil => rfl
    | cons member rest ih =>
        cases member with
        | embedded type? docs pos => exact ih
        | method name params results docs pos =>
            simp only [Mapper.rpcs, Mapper.rpc, reduce_congr h, ih]
  simp only [Mapper.additions, message_congr h, hrpcs]

end Mapper

theorem mem_contractAdditions_iff {stem docs : String} {rpcs : List Rpc} {a : Addition} :
    a ∈ contractAdditions stem docs rpcs ↔
      (∃ rpc ∈ rpcs, a = rpc.argument.addition ∨ a = rpc.returns.addition) ∨
        a = .service ⟨stem, docs, rpcs.map Rpc.method⟩ := by
  simp [contractAdditions, Rpc.additions, List.mem_flatMap]

/-- What changes the additions of each method and the service accordingly, changes what a contract
adds one by one. -/
theorem contractAdditions_map {g : Rpc → Rpc} {k : Addition → Addition} {stem docs docs' : String}
    {rpcs : List Rpc} (hadditions : ∀ rpc : Rpc, (g rpc).additions = rpc.additions.map k)
    (hservice : k (.service ⟨stem, docs, rpcs.map Rpc.method⟩) =
      .service ⟨stem, docs', (rpcs.map g).map Rpc.method⟩) :
    contractAdditions stem docs' (rpcs.map g) = (contractAdditions stem docs rpcs).map k := by
  rw [contractAdditions, contractAdditions, List.map_append, List.map_singleton, hservice,
    List.flatMap_map, List.map_flatMap]
  simp only [hadditions]

/-- The message that a reduction adds has the name that the method uses. -/
theorem Reduction.name_of_addition {r : Reduction} {msg : Message}
    (h : r.addition = .message msg) : r.name = msg.name := by
  cases r with
  | reuse type => cases h
  | wrap message =>
      cases h
      rfl

/-! ## Building adds -/

namespace Building

variable {α : Type} {doc doc' : Document}

/-- A report in front of work does not count. -/
private theorem yields_ite_report_iff {c : Prop} [Decidable c] {e : Event} {x : Building α}
    {a : α} :
    (if c then (do report e; x) else x).Yields doc a doc' ↔ x.Yields doc a doc' := by
  by_cases hc : c
  · rw [if_pos hc, yields_bind_iff]
    constructor
    · rintro ⟨u, doc₁, hreport, hx⟩
      rwa [yields_report_iff.mp hreport] at hx
    · exact fun hx => ⟨(), doc, yields_report_iff.mpr rfl, hx⟩
  · rw [if_neg hc]

theorem yields_register_iff {message held : Message} :
    (register message).Yields doc held doc' ↔
      ∃ doc₁, doc.addMessage message = .ok (held, doc₁) ∧
        doc' = (importsOf message).foldl Document.addImport doc₁ := by
  unfold register
  rw [yields_get_bind_iff]
  refine yields_ite_report_iff.trans ?_
  cases doc.addMessage message with
  | error problem => simp [not_yields_throw]
  | ok held' =>
      obtain ⟨held', doc₁⟩ := held'
      simp only [yields_bind_iff, yields_set_iff, yields_pure_iff]
      constructor
      · rintro ⟨u, doc₂, rfl, rfl, rfl⟩
        exact ⟨doc₁, rfl, rfl⟩
      · rintro ⟨doc₂, heq, rfl⟩
        cases heq
        exact ⟨⟨⟩, _, rfl, rfl, rfl⟩

/-- A message is registered as an addition. -/
theorem exists_yields_register_iff {message : Message} :
    (∃ held, (register message).Yields doc held doc') ↔
      (Addition.message message).addTo? doc = some doc' := by
  simp only [yields_register_iff, Addition.addTo?]
  cases doc.addMessage message with
  | error problem => simp [Except.toOption]
  | ok held =>
      obtain ⟨held, doc₁⟩ := held
      simp only [Except.toOption, Option.map_some, Option.some.injEq]
      constructor
      · rintro ⟨_, _, heq, rfl⟩
        cases heq
        rfl
      · exact fun heq => ⟨held, doc₁, rfl, heq.symm⟩

theorem yields_settle_iff {r : Reduction} {name : String} :
    (settle r).Yields doc name doc' ↔ name = r.name ∧ r.addition.addTo? doc = some doc' := by
  cases r with
  | reuse type =>
      simp only [settle, yields_bind_iff, yields_modify_iff, yields_pure_iff, Reduction.name,
        Reduction.addition, Addition.addTo?]
      cases type.origin? <;> simp [eq_comm]
  | wrap message =>
      simp only [settle, yields_bind_iff, yields_pure_iff, Reduction.name, Reduction.addition,
        ← exists_yields_register_iff]
      constructor
      · rintro ⟨held, doc₁, hregister, rfl, rfl⟩
        exact ⟨rfl, held, hregister⟩
      · rintro ⟨rfl, held, hregister⟩
        exact ⟨held, doc', hregister, rfl, rfl⟩

theorem yields_method_iff {m : Mapper} {stem name docs : String} {params results : List Param}
    {method : Schema.Method} :
    (Building.method m stem name docs params results).Yields doc method doc' ↔
      ∃ rpc, m.rpc stem name docs params results = .ok rpc ∧ method = rpc.method ∧
        Addition.addAll? rpc.additions doc = some doc' := by
  simp only [Building.method, yields_bind_iff, yields_make_iff, yields_settle_iff, yields_pure_iff,
    Mapper.rpc, ok_of_bind_iff]
  constructor
  · rintro ⟨argument, _, ⟨hargument, rfl⟩, _, doc₁, ⟨rfl, hadd⟩, returns, _, ⟨hreturns, rfl⟩, _, _,
      ⟨rfl, hadd'⟩, rfl, rfl⟩
    refine ⟨_, ⟨argument, hargument, returns, hreturns, rfl⟩, rfl, ?_⟩
    rw [Rpc.additions, Addition.addAll?_cons, hadd, Option.bind_some, Addition.addAll?_singleton]
    exact hadd'
  · rintro ⟨rpc, ⟨argument, hargument, returns, hreturns, heq⟩, rfl, hadd⟩
    cases heq
    rw [Rpc.additions, Addition.addAll?_cons] at hadd
    obtain ⟨doc₁, hfirst, hsecond⟩ := Option.bind_eq_some_iff.mp hadd
    rw [Addition.addAll?_singleton] at hsecond
    exact ⟨argument, doc, ⟨hargument, rfl⟩, _, doc₁, ⟨rfl, hfirst⟩, returns, doc₁,
      ⟨hreturns, rfl⟩, _, doc', ⟨rfl, hsecond⟩, rfl, rfl⟩

theorem yields_methods_iff {m : Mapper} {contract stem : String} {members : List Member}
    {methods : List Schema.Method} :
    (Building.methods m contract stem members).Yields doc methods doc' ↔
      ∃ rpcs, m.rpcs stem members = .ok rpcs ∧ methods = rpcs.map Rpc.method ∧
        Addition.addAll? (rpcs.flatMap Rpc.additions) doc = some doc' := by
  induction members generalizing doc doc' methods with
  | nil =>
      simp only [Building.methods, Mapper.rpcs, yields_pure_iff]
      constructor
      · rintro ⟨rfl, rfl⟩
        exact ⟨[], rfl, rfl, rfl⟩
      · rintro ⟨_, heq, rfl, hadd⟩
        cases heq
        exact ⟨rfl, (Option.some.inj hadd).symm⟩
  | cons member rest ih =>
      cases member with
      | embedded type? docs pos =>
          simp only [Building.methods, Mapper.rpcs, yields_bind_iff, yields_report_iff, ih]
          exact ⟨fun ⟨_, _, heq, h⟩ => heq ▸ h, fun h => ⟨(), doc, rfl, h⟩⟩
      | method name params results docs pos =>
          simp only [Building.methods, Mapper.rpcs, yields_bind_iff, yields_method_iff,
            yields_pure_iff, ih, ok_of_bind_iff]
          constructor
          · rintro ⟨_, doc₁, ⟨rpc, hrpc, rfl, hadd⟩, _, _, ⟨rpcs, hrpcs, rfl, hrest⟩, rfl, rfl⟩
            refine ⟨_, ⟨rpc, hrpc, rpcs, hrpcs, rfl⟩, rfl, ?_⟩
            rw [List.flatMap_cons, Addition.addAll?_append, hadd]
            exact hrest
          · rintro ⟨_, ⟨rpc, hrpc, rpcs, hrpcs, heq⟩, rfl, hadd⟩
            cases heq
            rw [List.flatMap_cons, Addition.addAll?_append] at hadd
            obtain ⟨doc₁, hfirst, hrest⟩ := Option.bind_eq_some_iff.mp hadd
            exact ⟨_, doc₁, ⟨rpc, hrpc, rfl, hfirst⟩, _, doc', ⟨rpcs, hrpcs, rfl, hrest⟩, rfl, rfl⟩

private theorem yields_addService_iff (name : String) {service held : Service} :
    Yields (do
      match (← get).addService service with
      | .ok doc => do
        set doc
        return service
      | .error problem => throw ⟨name, problem⟩) doc held doc' ↔
      held = service ∧ (Addition.service service).addTo? doc = some doc' := by
  simp only [yields_get_bind_iff, Addition.addTo?]
  cases doc.addService service with
  | error problem => simp [not_yields_throw, Except.toOption]
  | ok doc₁ =>
      simp only [yields_bind_iff, yields_set_iff, yields_pure_iff, Except.toOption,
        Option.some.injEq]
      constructor
      · rintro ⟨_, _, rfl, rfl, rfl⟩
        exact ⟨rfl, rfl⟩
      · rintro ⟨rfl, rfl⟩
        exact ⟨⟨⟩, _, rfl, rfl, rfl⟩

theorem yields_contract_iff {m : Mapper} {name docs : String} {members : List Member}
    {service : Service} :
    (Building.contract m name docs members).Yields doc service doc' ↔
      ∃ rpcs, m.rpcs (Naming.serviceStem name) members = .ok rpcs ∧
        service = ⟨Naming.serviceStem name, docs, rpcs.map Rpc.method⟩ ∧
        Addition.addAll? (contractAdditions (Naming.serviceStem name) docs rpcs) doc =
          some doc' := by
  unfold Building.contract
  constructor
  · intro hcontract
    obtain ⟨methods, doc₁, hmethods, hservice⟩ := yields_bind_iff.mp hcontract
    obtain ⟨rpcs, hrpcs, rfl, hadd⟩ := yields_methods_iff.mp hmethods
    obtain ⟨hheld, hadded⟩ := (yields_addService_iff name).mp hservice
    refine ⟨rpcs, hrpcs, hheld, ?_⟩
    rw [contractAdditions, Addition.addAll?_append, hadd, Option.bind_some,
      Addition.addAll?_singleton]
    exact hadded
  · rintro ⟨rpcs, hrpcs, rfl, hadd⟩
    rw [contractAdditions, Addition.addAll?_append] at hadd
    obtain ⟨doc₁, hmessages, hservice⟩ := Option.bind_eq_some_iff.mp hadd
    rw [Addition.addAll?_singleton] at hservice
    refine yields_bind_iff.mpr ⟨_, doc₁, yields_methods_iff.mpr ⟨rpcs, hrpcs, rfl, hmessages⟩, ?_⟩
    exact (yields_addService_iff name).mpr ⟨rfl, hservice⟩

theorem exists_yields_contract_iff {m : Mapper} {name docs : String} {members : List Member} :
    (∃ service, (Building.contract m name docs members).Yields doc service doc') ↔
      ∃ rpcs, m.rpcs (Naming.serviceStem name) members = .ok rpcs ∧
        Addition.addAll? (contractAdditions (Naming.serviceStem name) docs rpcs) doc =
          some doc' := by
  simp only [yields_contract_iff]
  constructor
  · rintro ⟨_, rpcs, hrpcs, -, hadd⟩
    exact ⟨rpcs, hrpcs, hadd⟩
  · rintro ⟨rpcs, hrpcs, hadd⟩
    exact ⟨_, rpcs, hrpcs, rfl, hadd⟩

theorem exists_yields_record_iff {m : Mapper} {name docs : String} {fields : List Go.Field} :
    (∃ held, (record m name docs fields).Yields doc held doc') ↔
      ∃ message, (m.message name docs fields).value = .ok message ∧
        (Addition.message message).addTo? doc = some doc' := by
  simp only [record, yields_bind_iff, yields_make_iff, ← exists_yields_register_iff]
  constructor
  · rintro ⟨held, message, _, ⟨hmessage, rfl⟩, hregister⟩
    exact ⟨message, hmessage, held, hregister⟩
  · rintro ⟨message, hmessage, held, hregister⟩
    exact ⟨held, message, doc, ⟨hmessage, rfl⟩, hregister⟩

/-- Work whose value is dropped. -/
private theorem yields_discard_iff {x : Building α} :
    Yields (do let _ ← x) doc () doc' ↔ ∃ a, x.Yields doc a doc' := by
  simp only [yields_bind_iff, yields_pure_iff]
  constructor
  · rintro ⟨a, _, hx, -, rfl⟩
    exact ⟨a, hx⟩
  · rintro ⟨a, hx⟩
    exact ⟨a, doc', hx, trivial, rfl⟩

end Building

/-- **What a declaration adds does not depend on the document.**  Building it succeeds exactly when
its additions can be computed and the document has room for them, one after the other. -/
theorem yields_addDeclaration_iff {m : Mapper} {d : Declaration} {doc doc' : Document} :
    (addDeclaration m d).Yields doc () doc' ↔
      ∃ additions, m.additions d = .ok additions ∧ Addition.addAll? additions doc = some doc' := by
  unfold addDeclaration Mapper.additions
  cases d.kind with
  | record fields =>
      rw [Building.yields_discard_iff, Building.exists_yields_record_iff]
      simp only [ok_of_map_iff]
      constructor
      · rintro ⟨message, hmessage, hadd⟩
        exact ⟨_, ⟨message, hmessage, rfl⟩, (Addition.addAll?_singleton ..).trans hadd⟩
      · rintro ⟨_, ⟨message, hmessage, rfl⟩, hadd⟩
        exact ⟨message, hmessage, (Addition.addAll?_singleton ..).symm.trans hadd⟩
  | contract members =>
      rw [Building.yields_discard_iff, Building.exists_yields_contract_iff]
      simp only [ok_of_map_iff]
      constructor
      · rintro ⟨rpcs, hrpcs, hadd⟩
        exact ⟨_, ⟨rpcs, hrpcs, rfl⟩, hadd⟩
      · rintro ⟨_, ⟨rpcs, hrpcs, rfl⟩, hadd⟩
        exact ⟨rpcs, hrpcs, hadd⟩
  | defined type =>
      simp [Building.yields_pure_iff, Addition.addAll?_nil, eq_comm]

end GoSchema.Mapping
