import GoSchema.Proofs.Mapping.ListMessages

/-!
# Contracts that agree with themselves

All methods of a contract put their messages into one document, and messages of one name have to
have the same fields there.  The names of wrappers end in `Op` or `Result` and hold the name of the
method; those of lists end in `List` and hold the short name of the elements.  So no two messages
of one name are made for different purposes, and the wrappers of different methods have different
names.

What is left is two lists whose elements have one short name.  Their messages agree exactly if the
lists have the same type by value (`fieldsAgree_wrappers_iff`).  They do if they are spelled from
one element: by value or by pointer, as slices or as arrays (`elementsByValue_eq_of_listOf`).  They
need not if the elements are messages of different packages.  This is all there is to it, since a
document without messages takes a contract exactly if its messages agree
(`exists_yields_contract_iff_fieldsAgree`).
-/

namespace GoSchema.Mapping

open Schema Go

/-! ## Labels -/

private theorem kept_labels {m : Mapper}
    (h : ∀ key entry, m.overrides.get? key = some entry → ¬(entry.repeated ∧ entry.optional)) :
    m.Kept fun type => ¬(type.repeated ∧ type.optional) where
  primitive name type hprimitive := by
    unfold primitive? at hprimitive
    split at hprimitive <;> cases hprimitive <;> decide
  bytes := by decide
  placeholder key hboth := Bool.false_ne_true hboth.1
  override := h
  reference name d fields _ _ _ hboth := Bool.false_ne_true hboth.1
  pointer r hr := by
    rintro ⟨hrepeated, hoptional⟩
    have hrepeated : r.type.repeated := hrepeated
    -- a pointer to several messages adds nothing
    exact hr ⟨hrepeated, by simpa [Resolution.pointer, hrepeated] using hoptional⟩
  castTo r name hr := by
    unfold Resolution.castTo
    split
    · exact hr
    · exact hr
  sequence type _ _ hboth := Bool.false_ne_true hboth.2

/-- If no override is both repeated and optional, no type is. -/
theorem Mapper.not_repeated_and_optional {m : Mapper}
    (h : ∀ key entry, m.overrides.get? key = some entry → ¬(entry.repeated ∧ entry.optional))
    (t : TypeExpr) : ¬((m.resolve t).type.repeated ∧ (m.resolve t).type.optional) :=
  (kept_labels h).resolve t

/-! ## The names of wrappers -/

/-- Texts with different endings are different. -/
theorem append_ne_append_of_not_suffix {a b : String} (hab : ¬a.toList <:+ b.toList)
    (hba : ¬b.toList <:+ a.toList) (x y : String) : x ++ a ≠ y ++ b := by
  intro heq
  have htexts : x.toList ++ a.toList = y.toList ++ b.toList := by
    simpa only [String.toList_append] using congrArg String.toList heq
  have ha : a.toList <:+ y.toList ++ b.toList := ⟨x.toList, htexts⟩
  rcases List.suffix_or_suffix_of_suffix ha (List.suffix_append ..) with hsuffix | hsuffix
  · exact hab hsuffix
  · exact hba hsuffix

section Names

variable {stem wrapperName : String} {members : List Member} {list : List Param}

/-- The name of a wrapper is made of that of a method. -/
theorem exists_methodName_of_mem_namedLists (h : (wrapperName, list) ∈ namedLists stem members) :
    ∃ name ∈ methodNames members, ∃ suffix ∈ [argumentSuffix, returnSuffix],
      wrapperName = stem ++ name ++ suffix := by
  induction members with
  | nil => cases h
  | cons member rest ih =>
      cases member with
      | embedded type? docs pos => exact ih h
      | method name params results docs pos =>
          have hnames : methodNames (.method name params results docs pos :: rest) =
              name :: methodNames rest := rfl
          rw [hnames]
          rcases List.mem_cons.mp h with heq | h
          · cases heq
            exact ⟨name, List.mem_cons_self, argumentSuffix, by simp, rfl⟩
          rcases List.mem_cons.mp h with heq | h
          · cases heq
            exact ⟨name, List.mem_cons_self, returnSuffix, by simp, rfl⟩
          obtain ⟨name', hname', hwrapper⟩ := ih h
          exact ⟨name', List.mem_cons_of_mem _ hname', hwrapper⟩

/-- The name of a wrapper gives back the method, and whether it is for arguments or for results. -/
theorem wrapperName_injective {name name' suffix suffix' : String}
    (hsuffix : suffix ∈ [argumentSuffix, returnSuffix])
    (hsuffix' : suffix' ∈ [argumentSuffix, returnSuffix])
    (h : stem ++ name ++ suffix = stem ++ name' ++ suffix') : name = name' ∧ suffix = suffix' := by
  have hends : suffix = suffix' := by
    by_contra hne
    simp only [List.mem_cons, List.not_mem_nil, or_false] at hsuffix hsuffix'
    rcases hsuffix with rfl | rfl <;> rcases hsuffix' with rfl | rfl
    · exact hne rfl
    · exact append_ne_append_of_not_suffix (by decide) (by decide) _ _ h
    · exact append_ne_append_of_not_suffix (by decide) (by decide) _ _ h
    · exact hne rfl
  subst hends
  have hstems := (String.append_left_inj suffix).mp h
  exact ⟨(String.append_right_inj stem).mp hstems, rfl⟩

/-- Where methods have different names, so have their wrappers. -/
theorem nodup_fst_namedLists (h : (methodNames members).Nodup) :
    ((namedLists stem members).map Prod.fst).Nodup := by
  induction members with
  | nil => exact List.nodup_nil
  | cons member rest ih =>
      cases member with
      | embedded type? docs pos => exact ih h
      | method name params results docs pos =>
          obtain ⟨hname, hrest⟩ := List.nodup_cons.mp h
          -- neither of the two names is that of a wrapper for a later method
          have hfresh : ∀ suffix ∈ [argumentSuffix, returnSuffix],
              stem ++ name ++ suffix ∉ (namedLists stem rest).map Prod.fst := by
            intro suffix hsuffix hmem
            obtain ⟨⟨_, list⟩, hlist, rfl⟩ := List.mem_map.mp hmem
            obtain ⟨name', hname', suffix', hsuffix', heq⟩ :=
              exists_methodName_of_mem_namedLists hlist
            exact hname ((wrapperName_injective hsuffix hsuffix' heq).1 ▸ hname')
          have hpair : stem ++ name ++ argumentSuffix ≠ stem ++ name ++ returnSuffix := by
            intro heq
            have hends := (wrapperName_injective (by simp) (by simp) heq).2
            exact absurd hends (by decide)
          show ((stem ++ name ++ argumentSuffix) :: (stem ++ name ++ returnSuffix) ::
            (namedLists stem rest).map Prod.fst).Nodup
          refine List.nodup_cons.mpr ⟨?_, List.nodup_cons.mpr ⟨?_, ih hrest⟩⟩
          · rw [List.mem_cons, not_or]
            exact ⟨hpair, hfresh argumentSuffix (by simp)⟩
          · exact hfresh returnSuffix (by simp)

end Names

/-! ## The messages of the methods -/

namespace Mapper

variable {m : Mapper} {stem wrapperName : String} {members : List Member} {list : List Param}

/-- The messages that are made for the methods of a contract. -/
def wrappers (m : Mapper) (stem : String) (members : List Member) : List Message :=
  messagesOf ((namedLists stem members).map fun list => (m.reduced list.1 list.2).addition)

theorem flatMap_additions_rpcs {rpcs : List Rpc} (h : m.rpcs stem members = .ok rpcs) :
    rpcs.flatMap Rpc.additions =
      (namedLists stem members).map fun list => (m.reduced list.1 list.2).addition := by
  induction members generalizing rpcs with
  | nil =>
      cases h
      rfl
  | cons member rest ih =>
      cases member with
      | embedded type? docs pos => exact ih h
      | method name params results docs pos =>
          obtain ⟨first, more, hfirst, hmore, rfl⟩ := rpcs_cons_eq_ok_iff.mp h
          obtain ⟨hargument, hreturns, -⟩ := rpc_eq_ok_iff.mp hfirst
          rw [List.flatMap_cons, ih hmore, Rpc.additions, eq_reduced_of_ok hargument,
            eq_reduced_of_ok hreturns]
          rfl

/-- Without refusals there is a message for each list. -/
theorem exists_rpcs
    (hlabels : ∀ t, ¬((m.resolve t).type.repeated ∧ (m.resolve t).type.optional))
    (stem : String) (members : List Member) : ∃ rpcs, m.rpcs stem members = .ok rpcs := by
  induction members with
  | nil => exact ⟨[], rfl⟩
  | cons member rest ih =>
      cases member with
      | embedded type? docs pos => exact ih
      | method name params results docs pos =>
          obtain ⟨more, hmore⟩ := ih
          have hargument := value_reduce_eq_ok hlabels
            (stem ++ name ++ argumentSuffix) (withoutContext params)
          have hreturns := value_reduce_eq_ok hlabels
            (stem ++ name ++ returnSuffix) (withoutError results)
          have hfirst : m.rpc stem name docs params results = .ok ⟨name, docs, _, _⟩ :=
            rpc_eq_ok_iff.mpr ⟨hargument, hreturns, rfl, rfl⟩
          exact ⟨_, rpcs_cons_eq_ok_iff.mpr ⟨_, more, hfirst, hmore, rfl⟩⟩

/-- A list of messages, alone among the parameters or the results of a method. -/
structure ListMember (m : Mapper) (members : List Member) (p : Param) : Prop where
  mem : [p] ∈ memberLists members
  isMessage : (m.resolve p.type).type.isMessage
  repeated : (m.resolve p.type).type.repeated

theorem ListMember.mem_wrappers {p : Param} (h : m.ListMember members p) (stem : String) :
    ⟨(m.resolve p.type).type.shortName ++ "List", "", m.schemaFields 1 [m.listField p]⟩ ∈
      m.wrappers stem members := by
  have hmem := h.mem
  rw [← map_snd_namedLists stem] at hmem
  obtain ⟨⟨wrapperName, _⟩, hlist, rfl⟩ := List.mem_map.mp hmem
  refine mem_messagesOf_iff.mpr (List.mem_map.mpr ⟨_, hlist, ?_⟩)
  rw [reduced_of_list h.isMessage h.repeated]
  rfl

/-- A message is made for a list of messages, or it is a wrapper. -/
theorem mem_wrappers_cases {message : Message} (h : message ∈ m.wrappers stem members) :
    (∃ p, m.ListMember members p ∧
      message.name = (m.resolve p.type).type.shortName ++ "List" ∧
      message.fields = m.schemaFields 1 [m.listField p]) ∨
    ∃ list, (message.name, list) ∈ namedLists stem members ∧
      message.fields = m.schemaFields 1 (wrapperFields [] list) := by
  obtain ⟨⟨wrapperName, list⟩, hlist, hadds⟩ := List.mem_map.mp (mem_messagesOf_iff.mp h)
  rcases m.reduced_cases wrapperName list with
    ⟨type, hreduced⟩ | ⟨only, rfl, hmessage, hrepeated⟩ | hreduced
  · rw [hreduced] at hadds
    cases hadds
  · have hmem : [only] ∈ memberLists members := by
      rw [← map_snd_namedLists stem]
      exact List.mem_map_of_mem hlist
    rw [reduced_of_list hmessage hrepeated] at hadds
    cases hadds
    refine .inl ⟨only, ⟨hmem, hmessage, hrepeated⟩, ?_⟩
    dsimp only
    exact ⟨rfl, rfl⟩
  · rw [hreduced] at hadds
    cases hadds
    refine .inr ⟨list, hlist, ?_⟩
    dsimp only

/-- Lists whose elements have one short name have the same type by value, if they have a field at
all. -/
def ListsAgree (m : Mapper) (members : List Member) : Prop :=
  ∀ p q, m.ListMember members p → m.ListMember members q →
    (m.resolve p.type).type.shortName = (m.resolve q.type).type.shortName →
    Naming.isExported (listFieldName (m.resolve p.type).type.shortName) →
    (m.resolve (elementsByValue p.type)).type = (m.resolve (elementsByValue q.type)).type

/-- No list is called like a wrapper. -/
theorem list_ne_wrapperName (h : (wrapperName, list) ∈ namedLists stem members) (element : String) :
    element ++ "List" ≠ wrapperName := by
  obtain ⟨name, -, suffix, hsuffix, rfl⟩ := exists_methodName_of_mem_namedLists h
  simp only [List.mem_cons, List.not_mem_nil, or_false] at hsuffix
  rcases hsuffix with rfl | rfl
  · exact append_ne_append_of_not_suffix (by decide) (by decide) _ _
  · exact append_ne_append_of_not_suffix (by decide) (by decide) _ _

/-- **Only lists can disagree.**  Where methods have different names, the messages that are made for
them agree exactly if the lists do. -/
theorem fieldsAgree_wrappers_iff (hnames : (methodNames members).Nodup) :
    FieldsAgree (m.wrappers stem members) ↔ m.ListsAgree members := by
  constructor
  · intro hagree p q hp hq hshort hexported
    have hfields := hagree _ (hp.mem_wrappers stem) _ (hq.mem_wrappers stem)
      (congrArg (· ++ "List") hshort)
    have hexported' := hshort ▸ hexported
    simp only [schemaFields_listField, if_pos hexported, if_pos hexported',
      List.singleton_inj] at hfields
    exact congrArg Schema.Field.type hfields
  · intro hlists first hfirst second hsecond hname
    rcases mem_wrappers_cases hfirst with ⟨p, hp, hlist, hfields⟩ | ⟨list, hmem, hfields⟩ <;>
      rcases mem_wrappers_cases hsecond with ⟨q, hq, hlist', hfields'⟩ | ⟨list', hmem', hfields'⟩
    · -- two lists of one name have elements of one short name
      rw [hlist, hlist'] at hname
      have hshort := (String.append_left_inj "List").mp hname
      have hagree := hlists p q hp hq hshort
      rw [hfields, hfields', schemaFields_listField, schemaFields_listField, ← hshort]
      split
      case isTrue hexported => rw [hagree hexported]
      case isFalse => rfl
    · exact absurd (hlist.symm.trans hname) (list_ne_wrapperName hmem' _)
    · exact absurd (hlist'.symm.trans hname.symm) (list_ne_wrapperName hmem _)
    · -- one name is given to one list only
      rw [hname] at hmem
      have hsame := List.inj_on_of_nodup_map (nodup_fst_namedLists hnames) hmem hmem' rfl
      rw [hfields, hfields', (Prod.mk.inj hsame).2]

end Mapper

/-! ## The contract -/

section Contract

variable {m : Mapper} {doc : Document} {name docs : String} {members : List Member}

/-- A document without messages and services takes a contract exactly if its messages agree, and
then these are its messages. -/
theorem exists_yields_contract_iff_fieldsAgree (hmessages : doc.messages = [])
    (hservices : doc.services = [])
    (hoverrides : ∀ key entry, m.overrides.get? key = some entry →
      ¬(entry.repeated ∧ entry.optional)) :
    (∃ service doc', (Building.contract m name docs members).Yields doc service doc' ∧
        doc'.messages = firsts (m.wrappers (Naming.serviceStem name) members)) ↔
      FieldsAgree (m.wrappers (Naming.serviceStem name) members) := by
  obtain ⟨rpcs, hrpcs⟩ := Mapper.exists_rpcs (Mapper.not_repeated_and_optional hoverrides)
    (Naming.serviceStem name) members
  have hadded : messagesOf (contractAdditions (Naming.serviceStem name) docs rpcs) =
      m.wrappers (Naming.serviceStem name) members := by
    rw [messagesOf_contractAdditions, Mapper.flatMap_additions_rpcs hrpcs, Mapper.wrappers]
  constructor
  · rintro ⟨service, doc', hyields, -⟩
    obtain ⟨rpcs', hrpcs', -, hadd⟩ := Building.yields_contract_iff.mp hyields
    obtain rfl : rpcs = rpcs' := Except.ok.inj (hrpcs.symm.trans hrpcs')
    exact hadded ▸ ((addAll?_eq_some_iff hmessages hservices).mp hadd).1.fieldsAgree
  · intro hagree
    -- a contract adds only one service, so nothing but its messages can be in the way
    have hcompatible : Compatible (contractAdditions (Naming.serviceStem name) docs rpcs) := by
      refine ⟨hadded ▸ hagree, ?_⟩
      rw [servicesOf_contractAdditions]
      exact List.nodup_singleton _
    refine ⟨_, _, Building.yields_contract_iff.mpr ⟨rpcs, hrpcs, rfl,
      (addAll?_eq_some_iff hmessages hservices).mpr ⟨hcompatible, rfl⟩⟩, ?_⟩
    exact congrArg firsts hadded

/-- A list of an element in one of the ways to spell it: as a slice or an array, of the element by
value or by pointer, below any number of pointers. -/
inductive ListOf (element : TypeExpr) : TypeExpr → Prop where
  | slice : ListOf element (.slice element)
  | array (length : String) : ListOf element (.array length element)
  | slicePointers : ListOf element (.slice (.pointer element))
  | arrayPointers (length : String) : ListOf element (.array length (.pointer element))
  | pointer {t : TypeExpr} (h : ListOf element t) : ListOf element (.pointer t)

/-- Two ways to spell a list of one element, which is no pointer itself. -/
def SpelledAlike (t t' : TypeExpr) : Prop :=
  ∃ element, (∀ target, element ≠ .pointer target) ∧ ListOf element t ∧ ListOf element t'

/-- By value, all spellings of a list are one. -/
theorem elementsByValue_eq_of_listOf {element t : TypeExpr}
    (hvalue : ∀ target, element ≠ .pointer target) (h : ListOf element t) :
    elementsByValue t = .slice element := by
  induction h with
  | slice =>
      cases element with
      | pointer target => exact absurd rfl (hvalue target)
      | _ => rfl
  | array length =>
      cases element with
      | pointer target => exact absurd rfl (hvalue target)
      | _ => rfl
  | slicePointers => rfl
  | arrayPointers length => rfl
  | pointer h ih => exact ih

theorem SpelledAlike.elementsByValue_eq {t t' : TypeExpr} (h : SpelledAlike t t') :
    elementsByValue t = elementsByValue t' := by
  obtain ⟨element, hvalue, ht, ht'⟩ := h
  rw [elementsByValue_eq_of_listOf hvalue ht, elementsByValue_eq_of_listOf hvalue ht']

/-- **A contract does not conflict with itself.**  Its methods have different names, and no
override is both repeated and optional.  Lists of one element may be spelled by value or by
pointer, as slices or as arrays; other lists whose elements share a short name need to have one
type by value.  Then the messages for its methods have different names or the same fields, and a
document without messages and services takes the contract with these messages. -/
theorem contract_consistent (hmessages : doc.messages = []) (hservices : doc.services = [])
    (hoverrides : ∀ key entry, m.overrides.get? key = some entry →
      ¬(entry.repeated ∧ entry.optional))
    (hnames : (methodNames members).Nodup)
    (hlists : ∀ p q, m.ListMember members p → m.ListMember members q →
      (m.resolve p.type).type.shortName = (m.resolve q.type).type.shortName →
      ¬SpelledAlike p.type q.type →
      (m.resolve (elementsByValue p.type)).type = (m.resolve (elementsByValue q.type)).type) :
    FieldsAgree (m.wrappers (Naming.serviceStem name) members) ∧
      ∃ service doc', (Building.contract m name docs members).Yields doc service doc' ∧
        doc'.messages = firsts (m.wrappers (Naming.serviceStem name) members) := by
  have hagree : m.ListsAgree members := by
    intro p q hp hq hshort _
    by_cases halike : SpelledAlike p.type q.type
    · rw [halike.elementsByValue_eq]
    · exact hlists p q hp hq hshort halike
  have hfields : FieldsAgree (m.wrappers (Naming.serviceStem name) members) :=
    (Mapper.fieldsAgree_wrappers_iff hnames).mpr hagree
  refine ⟨hfields, ?_⟩
  exact (exists_yields_contract_iff_fieldsAgree hmessages hservices hoverrides).mpr hfields

end Contract

/-- A method that takes an array of widgets. -/
def importMember : Member :=
  .method "Import" [⟨some "items", .array "4" (.ofName "Widget")⟩] [] "" ⟨9, 2⟩

/-- One list by pointer and one as an array. -/
theorem contract_consistent_widgets :
    ∃ service doc', (Building.contract widgetMapper "Catalog" "" [allMember, importMember]).Yields
        (.empty "shop.proto" "shop") service doc' ∧
      doc'.messages = firsts
        (widgetMapper.wrappers (Naming.serviceStem "Catalog") [allMember, importMember]) := by
  have hwidgets : ∀ p, widgetMapper.ListMember [allMember, importMember] p →
      ListOf (.ofName "Widget") p.type := by
    intro p hp
    have hlists : memberLists [allMember, importMember] =
        [[], [⟨none, .slice (.pointer (.ofName "Widget"))⟩],
          [⟨some "items", .array "4" (.ofName "Widget")⟩], []] := by
      decide
    have hmem := hp.mem
    simp only [hlists, List.mem_cons, List.not_mem_nil, List.cons.injEq, reduceCtorEq, and_true,
      false_or, or_false] at hmem
    rcases hmem with rfl | rfl
    · exact .slicePointers
    · exact .array "4"
  have hvalue : ∀ target, TypeExpr.ofName "Widget" ≠ .pointer target := by
    simp [TypeExpr.ofName]
  have hoverrides : ∀ key entry, widgetMapper.overrides.get? key = some entry →
      ¬(entry.repeated ∧ entry.optional) := by
    simp [widgetMapper]
  refine (contract_consistent rfl rfl hoverrides (by decide) fun p q hp hq _ hdiffer => ?_).2
  exact absurd ⟨_, hvalue, hwidgets p hp, hwidgets q hq⟩ hdiffer

/-- A mapper with two types of one short name, for which there are overrides. -/
def itemMapper : Mapper :=
  ⟨⟨"shop", []⟩, .empty,
    .ofList
      [("crm.Item", FieldType.message "crm.Item"), ("erp.Item", FieldType.message "erp.Item")]⟩

/-- Two methods that return lists of these. -/
def itemMembers : List Member :=
  [.method "Old" [] [⟨none, .slice (.named (some "crm") "Item")⟩] "" ⟨4, 2⟩,
    .method "New" [] [⟨none, .slice (.named (some "erp") "Item")⟩] "" ⟨5, 2⟩]

/-- Two messages of one name for different elements. -/
theorem refuses_items :
    (∀ key entry, itemMapper.overrides.get? key = some entry →
        ¬(entry.repeated ∧ entry.optional)) ∧
      (methodNames itemMembers).Nodup ∧
      ∃ doc', (Building.contract itemMapper "Catalog" "" itemMembers).Refuses
        (.empty "shop.proto" "shop") ⟨"ItemList", .conflictingMessage "ItemList" "shop.proto"⟩
        doc' := by
  refine ⟨fun key entry hget => ?_, by decide, ?_⟩
  · have hmem := (TextMap.mem_values_iff ..).mpr ⟨key, hget⟩
    have hall : ∀ entry ∈ itemMapper.overrides.values, ¬(entry.repeated ∧ entry.optional) := by
      decide +kernel
    exact hall entry hmem
  · refine ⟨(Building.contract itemMapper "Catalog" "" itemMembers).after
      (.empty "shop.proto" "shop"), ?_⟩
    unfold Building.Refuses
    decide +kernel

end GoSchema.Mapping
