import GoSchema.Mapping.Service
import GoSchema.Proofs.Distinct
import GoSchema.Proofs.TextMap

/-!
# Documents only grow

A document is built by calls of six kinds: imports, options, messages and services are added as
they are, or messages and services are made from the fields of a record and the methods of a
contract.  A call may fail, and a contract may fail when some of its messages have been added
already.  This file shows that nothing is ever lost or doubled on the way (`grows_runCalls`).

## Strategy

`Building.after` is the document that work leaves behind, whether it succeeds or fails.
`Building.Safe` work keeps a document `Orderly` and lets it grow, and `Document.Follows` is the one
relation that says both.  Since it is reflexive and transitive, safe work can be put together in any
way (`Building.safe_bind`), also when the first failure cuts it short.  So only the places where a
document is written have to be looked at: `follows_addImport`, `follows_addMessage`,
`follows_addService` and `follows_setOption`.
-/

namespace GoSchema.Schema.Document

variable {doc doc' doc'' : Document}

/-! ## Growth and order -/

/-- A document holds all that an earlier one held, in the same order. -/
structure Grows (doc doc' : Document) : Prop where
  messages : doc.messages <+: doc'.messages
  services : doc.services <+: doc'.services
  imports : ∀ path ∈ doc.imports, path ∈ doc'.imports
  fileName_eq : doc'.fileName = doc.fileName
  package_eq : doc'.package = doc.package

/-- A document declares each message and each service once and does not import itself. -/
structure Orderly (doc : Document) : Prop where
  nodup_messages : (doc.messages.map Message.name).Nodup
  nodup_services : (doc.services.map Service.name).Nodup
  fileName_notMem_imports : doc.fileName ∉ doc.imports

/-- A document has grown from an earlier one, and is orderly if that one was. -/
structure Follows (doc doc' : Document) : Prop extends Grows doc doc' where
  orderly : doc.Orderly → doc'.Orderly

theorem Follows.refl (doc : Document) : doc.Follows doc where
  messages := List.prefix_refl _
  services := List.prefix_refl _
  imports := fun _ hpath => hpath
  fileName_eq := rfl
  package_eq := rfl
  orderly := id

theorem Follows.trans (h : doc.Follows doc') (h' : doc'.Follows doc'') : doc.Follows doc'' where
  messages := h.messages.trans h'.messages
  services := h.services.trans h'.services
  imports := fun path hpath => h'.imports path (h.imports path hpath)
  fileName_eq := h'.fileName_eq.trans h.fileName_eq
  package_eq := h'.package_eq.trans h.package_eq
  orderly := fun horderly => h'.orderly (h.orderly horderly)

theorem orderly_empty (fileName package : String) : (empty fileName package).Orderly where
  nodup_messages := List.nodup_nil
  nodup_services := List.nodup_nil
  fileName_notMem_imports := by
    intro hmem
    rw [TextSet.mem_iff] at hmem
    cases hmem

/-! ## The steps that write -/

theorem follows_addImport (doc : Document) (path : String) : doc.Follows (doc.addImport path) := by
  unfold addImport
  split
  case isTrue => exact Follows.refl doc
  case isFalse hpath =>
    refine { Follows.refl doc with imports := ?_, orderly := ?_ }
    · intro other hother
      exact (TextSet.mem_add ..).mpr (Or.inr hother)
    · intro horderly
      refine { horderly with fileName_notMem_imports := ?_ }
      intro hmem
      rcases (TextSet.mem_add ..).mp hmem with heq | hmem
      · exact hpath heq.symm
      · exact horderly.fileName_notMem_imports hmem

theorem follows_foldl_addImport (doc : Document) (paths : List String) :
    doc.Follows (paths.foldl addImport doc) := by
  induction paths generalizing doc with
  | nil => exact Follows.refl doc
  | cons path rest ih => exact (follows_addImport doc path).trans (ih _)

theorem follows_setOption (doc : Document) (key value : String) :
    doc.Follows (doc.setOption key value) :=
  { Follows.refl doc with orderly := fun horderly => { horderly with } }

/-- A name that is not found can be added. -/
private theorem nodup_append_of_find?_eq_none {α : Type} {name : α → String} {held : List α} {x : α}
    (hnodup : (held.map name).Nodup) (hnone : held.find? (fun y => name y == name x) = none) :
    ((held ++ [x]).map name).Nodup := by
  have hfresh : name x ∉ held.map name := by
    intro hmem
    obtain ⟨y, hy, hname⟩ := List.mem_map.mp hmem
    have hdistinct := List.find?_eq_none.mp hnone y hy
    simp [hname] at hdistinct
  rw [List.map_append, List.map_singleton]
  exact List.nodup_append.mpr ⟨hnodup, List.nodup_singleton _, by simpa using hfresh⟩

theorem follows_addMessage {message held : Message}
    (h : doc.addMessage message = .ok (held, doc')) : doc.Follows doc' := by
  unfold addMessage at h
  split at h
  case h_1 present _ =>
    split at h
    · cases h
      exact Follows.refl doc
    · cases h
  case h_2 hnone =>
    cases h
    refine { Follows.refl doc with messages := List.prefix_append .., orderly := ?_ }
    intro horderly
    have hnodup := nodup_append_of_find?_eq_none horderly.nodup_messages hnone
    exact { horderly with nodup_messages := hnodup }

theorem follows_addService {service : Service} (h : doc.addService service = .ok doc') :
    doc.Follows doc' := by
  unfold addService at h
  split at h
  case h_1 => cases h
  case h_2 hnone =>
    cases h
    refine { Follows.refl doc with services := List.prefix_append .., orderly := ?_ }
    intro horderly
    have hnodup := nodup_append_of_find?_eq_none horderly.nodup_services hnone
    exact { horderly with nodup_services := hnodup }

end GoSchema.Schema.Document

namespace GoSchema.Mapping

open Schema Go

namespace Building

variable {α β : Type}

/-! ## What work leaves behind -/

/-- The document that work leaves behind, whether it succeeds or fails. -/
def after (x : Building α) (doc : Document) : Document := (x.run.run doc).value.2

/-- Work that lets every document grow and keeps it orderly. -/
def Safe (x : Building α) : Prop := ∀ doc : Document, doc.Follows (x.after doc)

theorem safe_pure (a : α) : Safe (pure a) := fun doc => .refl doc

theorem safe_make (x : Making α) : Safe (make x) := fun doc => .refl doc

theorem safe_report (e : Event) : Safe (report e) := fun doc => .refl doc

theorem safe_modify {f : Document → Document} (h : ∀ doc : Document, doc.Follows (f doc)) :
    Safe (modify f) := h

/-- Work goes on where the work before it ends, unless that failed. -/
theorem after_bind (x : Building α) (f : α → Building β) (doc : Document) :
    (x >>= f).after doc =
      match (x.run.run doc).value with
      | (.ok a, doc') => (f a).after doc'
      | (.error _, doc') => doc' := by
  simp only [after, ExceptT.run_bind, StateT.run_bind, Logged.value_bind]
  rcases (x.run.run doc).value with ⟨_ | a, doc'⟩ <;> rfl

theorem safe_bind {x : Building α} {f : α → Building β} (hx : x.Safe) (hf : ∀ a, (f a).Safe) :
    (x >>= f).Safe := by
  intro doc
  have hfirst := hx doc
  rw [after] at hfirst
  rw [after_bind]
  split
  case h_1 a doc' hvalue =>
    rw [hvalue] at hfirst
    exact hfirst.trans (hf a doc')
  case h_2 refusal doc' hvalue =>
    rw [hvalue] at hfirst
    exact hfirst

/-- Work that begins with a look at the document is followed document by document. -/
theorem safe_get_bind {f : Document → Building α}
    (h : ∀ doc : Document, doc.Follows ((f doc).after doc)) : (get >>= f).Safe := h

/-! ## Messages and services -/

/-- A message that is present already is reported, which leaves no trace in the document. -/
private theorem after_report_if (present : Prop) [Decidable present] (e : Event) (x : Building α)
    (doc : Document) : (if present then do report e; x else x).after doc = x.after doc := by
  split
  · rw [after_bind]
    rfl
  · rfl

theorem safe_register (message : Message) : (register message).Safe := by
  refine safe_get_bind fun doc => ?_
  cases h : doc.addMessage message with
  | error problem =>
      show doc.Follows (after (if _ then do report _; throw _ else throw _) doc)
      rw [after_report_if]
      exact .refl doc
  | ok held =>
      show doc.Follows (after (if _ then do report _; _ else _) doc)
      rw [after_report_if]
      have hadded : doc.Follows held.2 := Document.follows_addMessage h
      exact hadded.trans (Document.follows_foldl_addImport held.2 (importsOf message))

theorem safe_record (m : Mapper) (name docs : String) (fields : List Go.Field) :
    (record m name docs fields).Safe :=
  safe_bind (safe_make _) fun message => safe_register message

theorem safe_settle (r : Reduction) : (settle r).Safe := by
  cases r with
  | reuse type =>
      refine safe_bind (safe_modify fun doc => ?_) fun _ => safe_pure _
      cases type.origin? with
      | none => exact .refl doc
      | some origin => exact Document.follows_addImport doc origin
  | wrap message => exact safe_bind (safe_register message) fun _ => safe_pure _

theorem safe_method (m : Mapper) (stem name docs : String) (params results : List Param) :
    (method m stem name docs params results).Safe := by
  refine safe_bind (safe_make _) fun argument => ?_
  refine safe_bind (safe_settle argument) fun argumentName => ?_
  refine safe_bind (safe_make _) fun returns => ?_
  exact safe_bind (safe_settle returns) fun _ => safe_pure _

theorem safe_methods (m : Mapper) (contract stem : String) (members : List Member) :
    (methods m contract stem members).Safe := by
  induction members with
  | nil => exact safe_pure _
  | cons member rest ih =>
      cases member with
      | embedded type? docs pos => exact safe_bind (safe_report _) fun _ => ih
      | method name params results docs pos =>
          refine safe_bind (safe_method m stem name docs params results) fun first => ?_
          exact safe_bind ih fun _ => safe_pure _

/-- A contract may fail half way, and what was added by then stays. -/
theorem safe_contract (m : Mapper) (name docs : String) (members : List Member) :
    (contract m name docs members).Safe := by
  refine safe_bind (safe_methods m name (Naming.serviceStem name) members) fun methods => ?_
  refine safe_get_bind fun doc => ?_
  split
  case h_1 doc' hadded => exact Document.follows_addService hadded
  case h_2 => exact .refl doc

end Building

/-! ## Calls -/

/-- A call that builds a document. -/
inductive Call where
  | addImport (path : String)
  | setOption (key value : String)
  | addMessage (message : Message)
  | addService (service : Service)
  /-- The message of a record. -/
  | record (m : Mapper) (name docs : String) (fields : List Go.Field)
  /-- The service of a contract, with the messages of its methods. -/
  | contract (m : Mapper) (name docs : String) (members : List Member)

namespace Call

/-- What a call does to the document. -/
def perform : Call → Building Unit
  | addImport path => modify fun doc => doc.addImport path
  | setOption key value => modify fun doc => doc.setOption key value
  | addMessage message => do
    match (← get).addMessage message with
    | .ok (_, doc) => set doc
    | .error problem => throw ⟨message.name, problem⟩
  | addService service => do
    match (← get).addService service with
    | .ok doc => set doc
    | .error problem => throw ⟨service.name, problem⟩
  | record m name docs fields => do let _ ← Building.record m name docs fields
  | contract m name docs members => do let _ ← Building.contract m name docs members

/-- The document after a call, which may have failed. -/
def run (doc : Document) (call : Call) : Document := call.perform.after doc

theorem safe_perform (call : Call) : call.perform.Safe := by
  cases call with
  | addImport path => exact Building.safe_modify fun doc => doc.follows_addImport path
  | setOption key value => exact Building.safe_modify fun doc => doc.follows_setOption key value
  | addMessage message =>
      refine Building.safe_get_bind fun doc => ?_
      split
      case h_1 held doc' hadded => exact Document.follows_addMessage hadded
      case h_2 => exact .refl doc
  | addService service =>
      refine Building.safe_get_bind fun doc => ?_
      split
      case h_1 doc' hadded => exact Document.follows_addService hadded
      case h_2 => exact .refl doc
  | record m name docs fields =>
      exact Building.safe_bind (Building.safe_record m name docs fields) fun _ =>
        Building.safe_pure _
  | contract m name docs members =>
      exact Building.safe_bind (Building.safe_contract m name docs members) fun _ =>
        Building.safe_pure _

end Call

/-- The document after some calls, each of which may have failed. -/
def runCalls (doc : Document) (calls : List Call) : Document := calls.foldl Call.run doc

theorem follows_runCalls (doc : Document) (calls : List Call) :
    doc.Follows (runCalls doc calls) := by
  induction calls generalizing doc with
  | nil => exact .refl doc
  | cons call rest ih => exact (call.safe_perform doc).trans (ih _)

/-- **Documents only grow.**  After any calls on an empty document, successful or not, names are
distinct and the document does not import itself; and one call more, successful or not, leaves all
that is there in its place. -/
theorem grows_runCalls (fileName package : String) (calls : List Call) :
    (runCalls (.empty fileName package) calls).Orderly ∧
      ∀ call : Call, (runCalls (.empty fileName package) calls).Grows
        (call.run (runCalls (.empty fileName package) calls)) := by
  constructor
  · have hfollows := follows_runCalls (.empty fileName package) calls
    exact hfollows.orderly (Document.orderly_empty fileName package)
  · intro call
    exact (call.safe_perform _).toGrows

end GoSchema.Mapping
