import GoSchema.Proofs.Mapping.Growth
import GoSchema.Proofs.Mapping.Verified

/-!
# What a wrapper keeps of its members

The parameters or results of a method that are no message by themselves become the fields of a
wrapper.  Each member gets a Go name of its own (`nodup_wrapperNames`), and then the wrapper is made
like the message of a record, which looks at the Go names once more: a field that is not exported is
passed over, and the others go by their schema names.  So there are two ways in which a wrapper does
not keep its members.  A name such as `_1` is not exported, whatever is done to its first letter, and
its member has no field; and two Go names such as `XY` and `Xy` have the same schema name, so that
the wrapper does not verify.

`keepsMembers_wrapper_iff` says that there is no third way, apart from types without a name, which
only an override can have.

## Strategy

`message_fields_wrapper` is about the wrapper by itself: which members its fields come from, and their
tags, types and names.  That the document holds it in the end is the same for every message that a
contract adds (`exists_message?_of_mem`): each addition puts its message there, or finds one with the
same fields, and later additions leave it there.
-/

namespace GoSchema.Mapping

open Schema Go

/-! ## Names that are not in use yet -/

theorem toString_injective : Function.Injective (fun n : Nat => toString n) := by
  intro i j h
  have hdigits : Nat.toDigits 10 i = Nat.toDigits 10 j := by
    simpa only [Nat.toString_eq_repr, Nat.toList_repr] using congrArg String.toList h
  simpa using congrArg (fun digits => Nat.ofDigitChars 10 digits 0) hdigits

theorem numbered_injective (base : String) : Function.Injective (numbered base) := by
  have hne : ∀ n : Nat, base ≠ base ++ toString n := fun n h => by
    have hlength := congrArg String.length h
    rw [String.length_append, Nat.toString_eq_repr] at hlength
    have := Nat.length_repr_pos (n := n)
    omega
  intro i j h
  match i, j with
  | 0, 0 => rfl
  | 0, j + 1 => exact absurd h (hne _)
  | i + 1, 0 => exact absurd h.symm (hne _)
  | i + 1, j + 1 =>
      have hnumbers := toString_injective (String.append_right_inj base |>.mp h)
      omega

/-- More names than are in use cannot all be in use. -/
theorem exists_numbered_notMem (used : List String) (base : String) :
    ∃ name ∈ (List.range (used.length + 1)).map (numbered base), name ∉ used := by
  by_contra! hall
  have hnodup : ((List.range (used.length + 1)).map (numbered base)).Nodup :=
    List.nodup_range.map (numbered_injective base)
  have hlength := (List.subperm_of_subset hnodup hall).length_le
  rw [List.length_map, List.length_range] at hlength
  omega

theorem freshName_notMem (used : List String) (base : String) : freshName used base ∉ used := by
  obtain ⟨name, hmem, hfree⟩ := exists_numbered_notMem used base
  obtain ⟨found, hfound⟩ := Option.isSome_iff_exists.mp
    (List.find?_isSome (p := fun name => !used.contains name) |>.mpr
      ⟨name, hmem, by simpa using hfree⟩)
  rw [freshName, hfound, Option.getD_some]
  simpa using List.find?_some hfound

theorem exists_freshName_eq (used : List String) (base : String) :
    ∃ n, freshName used base = numbered base n := by
  unfold freshName
  cases hfound : ((List.range (used.length + 1)).map (numbered base)).find? _ with
  | none => exact ⟨0, rfl⟩
  | some name =>
      obtain ⟨n, -, rfl⟩ := List.mem_map.mp (List.mem_of_find?_eq_some hfound)
      exact ⟨n, rfl⟩

/-! ## The Go names of a wrapper -/

/-- The Go names that a wrapper gives to its members. -/
def wrapperNames (used : List String) (members : List Param) : List String :=
  (wrapperFields used members).filterMap Go.Field.name?

theorem wrapperFields_cons (used : List String) (p : Param) (rest : List Param) :
    wrapperFields used (p :: rest) =
      plainField (freshName used (memberName p)) p.type ::
        wrapperFields (freshName used (memberName p) :: used) rest := rfl

theorem wrapperNames_cons (used : List String) (p : Param) (rest : List Param) :
    wrapperNames used (p :: rest) =
      freshName used (memberName p) :: wrapperNames (freshName used (memberName p) :: used) rest :=
  rfl

theorem fresh_wrapperNames (used : List String) (members : List Param) :
    Fresh used (wrapperNames used members) := by
  induction members generalizing used with
  | nil => exact fresh_nil used
  | cons p rest ih =>
      rw [wrapperNames_cons, fresh_cons_iff]
      exact ⟨freshName_notMem used (memberName p), ih _⟩

/-- No two members go by one Go name. -/
theorem nodup_wrapperNames (members : List Param) : (wrapperNames [] members).Nodup :=
  (fresh_wrapperNames [] members).1

theorem memberName_ne_empty (p : Param) : memberName p ≠ "" := by
  unfold memberName
  dsimp only
  split
  · decide
  · next h => simpa using h

theorem isExported_append {first : String} (h : first ≠ "") (second : String) :
    Naming.isExported (first ++ second) = Naming.isExported first := by
  cases hchars : first.toList with
  | nil => exact absurd (String.toList_eq_nil_iff.mp hchars) h
  | cons c more => simp [Naming.isExported, hchars]

/-- A number after a name does not change whether it is exported. -/
theorem isExported_freshName (used : List String) (p : Param) :
    Naming.isExported (freshName used (memberName p)) = Naming.isExported (memberName p) := by
  obtain ⟨n, hname⟩ := exists_freshName_eq used (memberName p)
  rw [hname]
  cases n with
  | zero => rfl
  | succ n => exact isExported_append (memberName_ne_empty p) _

/-! ## The fields of a wrapper -/

/-- The members whose names are exported. -/
def exportedMembers (members : List Param) : List Param :=
  members.filter fun p => Naming.isExported (memberName p)

theorem visibleName?_plainField (name : String) (type : TypeExpr) :
    visibleName? (plainField name type) =
      if Naming.isExported name then some (name, false) else none := by
  cases h : Naming.isExported name <;> simp [visibleName?, sourceName?, plainField, h]

section Fields

variable {m : Mapper}

theorem visibleTypes_wrapperFields (used : List String) (members : List Param) :
    visibleTypes (wrapperFields used members) = (exportedMembers members).map Param.type := by
  induction members generalizing used with
  | nil => rfl
  | cons p rest ih =>
      have hname := visibleName?_plainField (freshName used (memberName p)) p.type
      rw [isExported_freshName] at hname
      rw [wrapperFields_cons]
      cases hexported : Naming.isExported (memberName p) with
      | false =>
          rw [hexported, if_neg (by decide)] at hname
          rw [visibleTypes_cons_of_none hname, ih, exportedMembers, exportedMembers,
            List.filter_cons_of_neg (by simp [hexported])]
      | true =>
          rw [hexported, if_pos rfl] at hname
          rw [visibleTypes_cons_of_some hname, ih, exportedMembers, exportedMembers,
            List.filter_cons_of_pos (by exact hexported), List.map_cons]
          rfl

theorem map_name_schemaFields_wrapper (tag : Nat) (used : List String) (members : List Param) :
    (m.schemaFields tag (wrapperFields used members)).map Schema.Field.name =
      ((wrapperNames used members).filter Naming.isExported).map Naming.snakeCase := by
  induction members generalizing tag used with
  | nil => rfl
  | cons p rest ih =>
      have hname := visibleName?_plainField (freshName used (memberName p)) p.type
      rw [wrapperFields_cons, wrapperNames_cons]
      cases hexported : Naming.isExported (freshName used (memberName p)) with
      | false =>
          rw [hexported, if_neg (by decide)] at hname
          rw [Mapper.schemaFields_cons_of_none hname, ih,
            List.filter_cons_of_neg (by simp [hexported])]
      | true =>
          rw [hexported, if_pos rfl] at hname
          rw [Mapper.schemaFields_cons_of_some hname, List.map_cons, ih,
            List.filter_cons_of_pos hexported, List.map_cons]
          rfl

/-- All names are exported if those of all members are. -/
theorem forall_isExported_wrapperNames_iff (used : List String) (members : List Param) :
    (∀ name ∈ wrapperNames used members, Naming.isExported name) ↔
      ∀ p ∈ members, Naming.isExported (memberName p) := by
  induction members generalizing used with
  | nil => exact iff_of_true (fun _ h => nomatch h) fun _ h => nomatch h
  | cons p rest ih =>
      rw [wrapperNames_cons, List.forall_mem_cons, List.forall_mem_cons, ih, isExported_freshName]

/-- The fields of a message are those of some members, in their order. -/
structure FieldsFor (m : Mapper) (members : List Param) (message : Message) : Prop where
  tags_eq : message.fields.map Schema.Field.tag = List.range' 1 members.length
  types_eq : message.fields.map Schema.Field.type = members.map fun p => (m.resolve p.type).type

/-- A message has one field for each member, and it can be written. -/
structure KeepsMembers (m : Mapper) (members : List Param) (message : Message) : Prop extends
    FieldsFor m members message where
  nodup_names : (message.fields.map Schema.Field.name).Nodup
  verify_eq : message.verify = .ok ()

section Message

variable {members : List Param} {message : Message}
  (h : message.fields = m.schemaFields 1 (wrapperFields [] members))
include h

theorem fieldsFor_exportedMembers : FieldsFor m (exportedMembers members) message := by
  have htypes := Mapper.map_type_schemaFields (m := m) 1 (wrapperFields [] members)
  rw [visibleTypes_wrapperFields, List.map_map, ← h] at htypes
  have hlength := congrArg List.length htypes
  rw [List.length_map, List.length_map] at hlength
  refine ⟨?_, htypes⟩
  have htags := Mapper.map_tag_schemaFields (m := m) 1 (wrapperFields [] members)
  rwa [← h, hlength] at htags

/-- A wrapper keeps its members exactly if all their names are exported, no two of the Go names that
they get have one schema name, and no type is without a name. -/
theorem keepsMembers_iff (hlabels : ∀ f ∈ message.fields, ¬(f.type.repeated ∧ f.type.optional)) :
    KeepsMembers m members message ↔
      (∀ p ∈ members, Naming.isExported (memberName p)) ∧
        ((wrapperNames [] members).map Naming.snakeCase).Nodup ∧
        ∀ p ∈ members, (m.resolve p.type).type.name ≠ "" := by
  have hfields := fieldsFor_exportedMembers h
  have hnames := map_name_schemaFields_wrapper (m := m) 1 [] members
  rw [← h] at hnames
  have hall_iff : exportedMembers members = members ↔
      ∀ p ∈ members, Naming.isExported (memberName p) := List.filter_eq_self
  have hnames_of_all (hall : ∀ p ∈ members, Naming.isExported (memberName p)) :
      message.fields.map Schema.Field.name =
        (wrapperNames [] members).map Naming.snakeCase := by
    have hexported := (forall_isExported_wrapperNames_iff [] members).mpr hall
    rw [hnames, List.filter_eq_self.mpr hexported]
  have htypes_iff : FieldsFor m members message →
      ((∀ f ∈ message.fields, f.type.name ≠ "") ↔
        ∀ p ∈ members, (m.resolve p.type).type.name ≠ "") := fun hkeeps => by
    have hmap := congrArg (∀ type ∈ ·, FieldType.name type ≠ "") hkeeps.types_eq
    simpa only [List.forall_mem_map] using iff_of_eq hmap
  constructor
  · intro hkeeps
    have hall : ∀ p ∈ members, Naming.isExported (memberName p) := by
      have hlength := congrArg List.length (hkeeps.types_eq.symm.trans hfields.types_eq)
      rw [List.length_map, List.length_map] at hlength
      exact hall_iff.mp (List.filter_sublist.eq_of_length hlength.symm)
    obtain ⟨hsound, hnodup⟩ := message_verify_eq_ok_iff.mp hkeeps.verify_eq
    refine ⟨hall, hnames_of_all hall ▸ hnodup, ?_⟩
    exact (htypes_iff hkeeps.toFieldsFor).mp fun f hf => (hsound.typed f hf).2
  · rintro ⟨hall, hnodup, hgiven⟩
    rw [hall_iff.mpr hall] at hfields
    rw [← hnames_of_all hall] at hnodup
    have htyped : ∀ f ∈ message.fields, f.Typed := fun f hf =>
      ⟨hlabels f hf, (htypes_iff hfields).mpr hgiven f hf⟩
    have htags := Mapper.map_tag_schemaFields (m := m) 1 (wrapperFields [] members)
    rw [← h] at htags
    exact ⟨hfields, hnodup, message_verify_eq_ok_iff.mpr ⟨⟨htyped, htags⟩, hnodup⟩⟩

end Message

end Fields

/-! ## What the document holds -/

section Held

variable {doc doc' : Document} {name : String} {held msg : Message}

/-- A message that is found stays the one that is found. -/
theorem message?_of_follows (h : doc.Follows doc') (hheld : doc.message? name = some held) :
    doc'.message? name = some held :=
  h.messages.find?_eq_some hheld

theorem follows_addTo? {a : Addition} (h : a.addTo? doc = some doc') : doc.Follows doc' := by
  cases a with
  | message msg =>
      obtain ⟨held, hyields⟩ := Building.exists_yields_register_iff.mpr h
      obtain ⟨doc₁, hadded, rfl⟩ := Building.yields_register_iff.mp hyields
      exact (Document.follows_addMessage hadded).trans (Document.follows_foldl_addImport _ _)
  | reuse type =>
      cases h
      exact Document.follows_foldl_addImport _ _
  | service svc =>
      cases hadd : doc.addService svc with
      | error problem =>
          rw [Addition.addTo?, hadd] at h
          cases h
      | ok added =>
          rw [Addition.addTo?, hadd] at h
          cases h
          exact Document.follows_addService hadd

theorem follows_addAll? {additions : List Addition}
    (h : Addition.addAll? additions doc = some doc') : doc.Follows doc' := by
  induction additions generalizing doc with
  | nil =>
      cases h
      exact .refl _
  | cons a rest ih =>
      rw [Addition.addAll?_cons] at h
      obtain ⟨doc₁, hfirst, hrest⟩ := Option.bind_eq_some_iff.mp h
      exact (follows_addTo? hfirst).trans (ih hrest)

/-- The message that adding gives back is there afterwards, with the fields that were added. -/
theorem message?_of_addMessage (h : doc.addMessage msg = .ok (held, doc')) :
    doc'.message? msg.name = some held ∧ held.fields = msg.fields := by
  unfold Document.addMessage at h
  cases hpresent : doc.message? msg.name with
  | some present =>
      simp only [hpresent] at h
      split at h
      · next hsame =>
        cases h
        exact ⟨hpresent, hsame⟩
      · cases h
  | none =>
      simp only [hpresent] at h
      cases h
      refine ⟨?_, rfl⟩
      show (doc.messages ++ [held]).find? _ = some held
      rw [List.find?_append, show doc.messages.find? _ = none from hpresent]
      simp

/-- A message that is added is there afterwards, or one with the same fields. -/
theorem exists_message?_of_addTo? (h : (Addition.message msg).addTo? doc = some doc') :
    ∃ held, doc'.message? msg.name = some held ∧ held.fields = msg.fields := by
  obtain ⟨held, hyields⟩ := Building.exists_yields_register_iff.mpr h
  obtain ⟨doc₁, hadded, rfl⟩ := Building.yields_register_iff.mp hyields
  obtain ⟨hheld, hfields⟩ := message?_of_addMessage hadded
  have hfollows := Document.follows_foldl_addImport doc₁ (importsOf msg)
  exact ⟨held, message?_of_follows hfollows hheld, hfields⟩

theorem exists_message?_of_mem {additions : List Addition}
    (h : Addition.addAll? additions doc = some doc') (hmem : .message msg ∈ additions) :
    ∃ held, doc'.message? msg.name = some held ∧ held.fields = msg.fields := by
  induction additions generalizing doc with
  | nil => cases hmem
  | cons a rest ih =>
      rw [Addition.addAll?_cons] at h
      obtain ⟨doc₁, hfirst, hrest⟩ := Option.bind_eq_some_iff.mp h
      cases hmem with
      | head =>
          obtain ⟨held, hheld, hfields⟩ := exists_message?_of_addTo? hfirst
          exact ⟨held, message?_of_follows (follows_addAll? hrest) hheld, hfields⟩
      | tail _ hmem => exact ih hrest hmem

end Held

/-! ## The wrappers of a contract -/

/-- Each method of a contract is among those that it is made into. -/
theorem Mapper.exists_rpc_of_mem {m : Mapper} {stem : String} {members : List Member}
    {rpcs : List Rpc} (h : m.rpcs stem members = .ok rpcs) {name docs : String}
    {params results : List Param} {pos : Position}
    (hmem : .method name params results docs pos ∈ members) :
    ∃ rpc ∈ rpcs, m.rpc stem name docs params results = .ok rpc := by
  obtain ⟨before, after, rfl⟩ := List.append_of_mem hmem
  obtain ⟨rpc, hrpc, hat⟩ := Mapper.exists_rpc_at h
  exact ⟨rpc, List.mem_of_getElem? hat, hrpc⟩

/-- Members that are no message by themselves have a wrapper. -/
theorem Mapper.reduce_eq_wrap {m : Mapper} {wrapperName : String} {members : List Param}
    {r : Reduction} (h : (m.reduce wrapperName members).value = .ok r)
    (hmembers : ∀ only, members = [only] → ¬(m.resolve only.type).type.isMessage) :
    ∃ message, r = .wrap message ∧ message.name = wrapperName ∧
      message.fields = m.schemaFields 1 (wrapperFields [] members) ∧
      ∀ f ∈ message.fields, ¬(f.type.repeated ∧ f.type.optional) := by
  have hvalue : (m.reduce wrapperName members).value =
      (m.message wrapperName "" (wrapperFields [] members)).value.map .wrap := by
    by_cases hsingle : ∃ only, members = [only]
    · obtain ⟨only, rfl⟩ := hsingle
      rw [value_reduce_singleton, if_neg (hmembers only rfl)]
    · exact value_reduce_of_ne_singleton m wrapperName fun only heq => hsingle ⟨only, heq⟩
  rw [hvalue] at h
  obtain ⟨message, hmessage, rfl⟩ := ok_of_map_iff.mp h
  obtain ⟨rfl, hlabels⟩ := message_eq_of_ok hmessage
  exact ⟨_, rfl, rfl, rfl, hlabels⟩

/-- **What the wrappers of a contract keep.**  If the service of a contract can be built, the document
holds a wrapper for each list of parameters or results that is neither a message nor a list of
messages.  Its members have distinct Go names there; those with exported names have a field each, in
order and under the schema name; and it keeps all members exactly if all their names are exported,
no two of their Go names have one schema name, and no type is without a name. -/
theorem keepsMembers_wrapper_iff {m : Mapper} {doc doc' : Document} {contract docs : String}
    {members : List Member} {service : Service}
    (h : (Building.contract m contract docs members).Yields doc service doc')
    {method methodDocs suffix : String} {params results list : List Param} {pos : Position}
    (hmethod : .method method params results methodDocs pos ∈ members)
    (hlist : (suffix, list) ∈
      [(argumentSuffix, withoutContext params), (returnSuffix, withoutError results)])
    (hmembers : ∀ only, list = [only] → ¬(m.resolve only.type).type.isMessage) :
    ∃ message, doc'.message? (Naming.serviceStem contract ++ method ++ suffix) = some message ∧
      (wrapperNames [] list).Nodup ∧
      FieldsFor m (exportedMembers list) message ∧
      message.fields.map Schema.Field.name =
        ((wrapperNames [] list).filter Naming.isExported).map Naming.snakeCase ∧
      (KeepsMembers m list message ↔
        (∀ p ∈ list, Naming.isExported (memberName p)) ∧
          ((wrapperNames [] list).map Naming.snakeCase).Nodup ∧
          ∀ p ∈ list, (m.resolve p.type).type.name ≠ "") := by
  obtain ⟨rpcs, hrpcs, hadd⟩ := Building.exists_yields_contract_iff.mp ⟨service, h⟩
  obtain ⟨rpc, hmem, hrpc⟩ := Mapper.exists_rpc_of_mem hrpcs hmethod
  obtain ⟨argument, hargument, hrpc⟩ := ok_of_bind_iff.mp hrpc
  obtain ⟨returns, hreturns, hrpc⟩ := ok_of_bind_iff.mp hrpc
  cases hrpc
  obtain ⟨r, hreduce, hadded⟩ : ∃ r,
      (m.reduce (Naming.serviceStem contract ++ method ++ suffix) list).value = .ok r ∧
        r.addition ∈ contractAdditions (Naming.serviceStem contract) docs rpcs := by
    simp only [List.mem_cons, Prod.mk.injEq, List.not_mem_nil, or_false] at hlist
    rcases hlist with ⟨rfl, rfl⟩ | ⟨rfl, rfl⟩
    · exact ⟨argument, hargument, mem_contractAdditions_iff.mpr (.inl ⟨_, hmem, .inl rfl⟩)⟩
    · exact ⟨returns, hreturns, mem_contractAdditions_iff.mpr (.inl ⟨_, hmem, .inr rfl⟩)⟩
  obtain ⟨message, rfl, hname, hfields, hlabels⟩ := Mapper.reduce_eq_wrap hreduce hmembers
  obtain ⟨held, hheld, hsame⟩ := exists_message?_of_mem hadd hadded
  rw [hname] at hheld
  rw [← hsame] at hfields hlabels
  refine ⟨held, hheld, nodup_wrapperNames list, fieldsFor_exportedMembers hfields, ?_,
    keepsMembers_iff hfields hlabels⟩
  rw [hfields, map_name_schemaFields_wrapper]

/-- A mapper for a package without declarations. -/
def plainMapper : Mapper := ⟨⟨"shop", []⟩, .empty, .empty⟩

/-- A search with a name for each parameter, and two results of one type before the error. -/
def searchMember : Member :=
  .method "Search" [⟨some "query", .ofName "string"⟩, ⟨some "page_size", .ofName "int"⟩]
    [⟨none, .ofName "string"⟩, ⟨none, .ofName "string"⟩, ⟨none, .ofName "error"⟩] "" ⟨4, 2⟩

/-- The wrapper of two results that take their names from their types. -/
theorem keepsMembers_search :
    ∃ service doc',
      (Building.contract plainMapper "Catalog" "" [searchMember]).Yields
        (.empty "shop.proto" "shop") service doc' ∧
      ∃ message, doc'.message? "CatalogSearchResult" = some message ∧
        KeepsMembers plainMapper [⟨none, .ofName "string"⟩, ⟨none, .ofName "string"⟩] message := by
  have hyields : (Building.contract plainMapper "Catalog" "" [searchMember]).Yields
      (.empty "shop.proto" "shop")
      ⟨"Catalog", "", [⟨"Search", "", "CatalogSearchOp", "CatalogSearchResult"⟩]⟩
      ((Building.contract plainMapper "Catalog" "" [searchMember]).after
        (.empty "shop.proto" "shop")) := by
    unfold Building.Yields
    decide +kernel
  have hlist : (returnSuffix, [⟨none, .ofName "string"⟩, ⟨none, .ofName "string"⟩]) ∈
      [(argumentSuffix, withoutContext [⟨some "query", .ofName "string"⟩,
        ⟨some "page_size", .ofName "int"⟩]),
      (returnSuffix, withoutError [⟨none, .ofName "string"⟩, ⟨none, .ofName "string"⟩,
        ⟨none, .ofName "error"⟩])] := by
    decide
  obtain ⟨message, hheld, -, -, -, hkeeps⟩ := keepsMembers_wrapper_iff hyields
    (List.mem_singleton_self searchMember) hlist (by simp)
  exact ⟨_, _, hyields, message, hheld, hkeeps.mpr (by decide +kernel)⟩

/-- A move by two numbers whose names differ in a capital. -/
def moveMember : Member :=
  .method "Move" [⟨some "xY", .ofName "int"⟩, ⟨some "xy", .ofName "int"⟩] [] "" ⟨4, 2⟩

/-- A method with a parameter whose name does not begin with a letter. -/
def shiftMember : Member := .method "Shift" [⟨some "_1", .ofName "int"⟩] [] "" ⟨5, 2⟩

/-- A wrapper with two fields of one name, and one without a field for its member. -/
theorem not_keepsMembers_move_and_shift :
    ∃ service doc',
      (Building.contract plainMapper "Grid" "" [moveMember, shiftMember]).Yields
        (.empty "shop.proto" "shop") service doc' ∧
      (∃ message, doc'.message? "GridMoveOp" = some message ∧
        message.fields.map Schema.Field.name = ["xy", "xy"] ∧ message.verify ≠ .ok ()) ∧
      ∃ message, doc'.message? "GridShiftOp" = some message ∧ message.fields = [] := by
  refine ⟨⟨"Grid", "", [⟨"Move", "", "GridMoveOp", "GridMoveResult"⟩,
      ⟨"Shift", "", "GridShiftOp", "GridShiftResult"⟩]⟩,
    (Building.contract plainMapper "Grid" "" [moveMember, shiftMember]).after
      (.empty "shop.proto" "shop"), ?_, ?_, ?_⟩
  · unfold Building.Yields
    decide +kernel
  · refine ⟨⟨"GridMoveOp", "", plainMapper.schemaFields 1 (wrapperFields []
      [⟨some "xY", .ofName "int"⟩, ⟨some "xy", .ofName "int"⟩])⟩, ?_, ?_, ?_⟩
    all_goals decide +kernel
  · exact ⟨⟨"GridShiftOp", "", []⟩, by decide +kernel, rfl⟩

end GoSchema.Mapping
