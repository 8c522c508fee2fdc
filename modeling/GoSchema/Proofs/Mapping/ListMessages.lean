import GoSchema.Proofs.Mapping.Atomicity

/-!
# What the message of a list says

A method that takes or returns a list of messages does so through a message with one field, the
list.  The type of the member decides that such a message is made and what it is called.  The field
is made from other data: it is named after the plural of the short name, folded to a Go name and
back, and its type is that of the member written anew, as a slice of elements by value.

So there are two detours, and each of them can go astray.  The name can change on the way, because
words such as `http` and `api` run together in Go (`HTTPAPICalls`); and it can be lost, if it does
not come out exported.  The type can change where lists of lists have overrides: a member of type
`[3][]Point` is found in the table under that key, its field is looked up as `[][]Point`.
`describesList_iff` says that there is nothing else: apart from these, the field has the plural for
its name and the elements of the member for its type.

## Strategy

The elements of a list are the same whether they are held by pointer or by value, in an array or in
a slice, as long as they are no lists themselves (`resolve_elementsByValue`).  If they are, the
resolution looks up the whole type (`resolve_elementsByValue_of_nested`).  That the document holds
the message in the end is what it knows after adding it (`exists_rpc_of_yields`).
-/

namespace GoSchema.Mapping

open Schema Go

/-! ## Lists by value -/

/-- Two types have the same elements, and the same number of them. Flags that pointers and casts
change do not count. -/
structure SameElements (type type' : FieldType) : Prop where
  name_eq : type.name = type'.name
  kind_eq : type.kind = type'.kind
  repeated_eq : type.repeated = type'.repeated
  origin_eq : type.origin? = type'.origin?

theorem SameElements.refl (type : FieldType) : SameElements type type := ⟨rfl, rfl, rfl, rfl⟩

theorem SameElements.trans {first second third : FieldType} (h : SameElements first second)
    (h' : SameElements second third) : SameElements first third :=
  ⟨h.name_eq.trans h'.name_eq, h.kind_eq.trans h'.kind_eq, h.repeated_eq.trans h'.repeated_eq,
    h.origin_eq.trans h'.origin_eq⟩

/-- The type of the elements of a sequence, which may be held by pointers. -/
def elements? : TypeExpr → Option TypeExpr
  | .pointer inner => elements? inner
  | .slice element | .array _ element => some element
  | _ => none

namespace Mapper

variable {m : Mapper}

section Sequences

variable {whole whole' element element' : TypeExpr} {r r' : Resolution}

theorem type_sequence_of_repeated (hbyte : ¬element.isByte) (hrepeated : r.type.repeated) :
    (resolveBy.sequence m whole element r).type = (m.lookUp whole).type := by
  rw [resolveBy.sequence, if_neg hbyte, if_pos hrepeated]

theorem type_sequence_of_not_repeated (hbyte : ¬element.isByte) (hrepeated : ¬r.type.repeated) :
    (resolveBy.sequence m whole element r).type =
      { r.type with repeated := true, optional := false } := by
  rw [resolveBy.sequence, if_neg hbyte, if_neg hrepeated]

/-- Bytes are scalars. -/
theorem kind_resolve_of_isByte (h : element.isByte) : (m.resolve element).type.kind = .scalar ∧
    ¬(m.resolve element).type.repeated := by
  rw [TypeExpr.isByte, Bool.or_eq_true_iff, beq_iff_eq, beq_iff_eq] at h
  rcases h with rfl | rfl
  · exact ⟨rfl, Bool.false_ne_true⟩
  · exact ⟨rfl, Bool.false_ne_true⟩

theorem not_isByte_of_isMessage (h : (resolveBy.sequence m whole element r).type.isMessage) :
    ¬element.isByte := by
  intro hbyte
  rw [resolveBy.sequence, if_pos hbyte] at h
  exact absurd h (by decide)

/-- Two ways to write a sequence of messages. -/
theorem sameElements_sequence (h : (resolveBy.sequence m whole element r).type.isMessage)
    (hbyte : ¬element'.isByte) (helements : SameElements r'.type r.type)
    (hflat : ¬r.type.repeated) :
    SameElements (resolveBy.sequence m whole' element' r').type
      (resolveBy.sequence m whole element r).type := by
  have hflat' : ¬r'.type.repeated := by rwa [helements.repeated_eq]
  rw [type_sequence_of_not_repeated (not_isByte_of_isMessage h) hflat,
    type_sequence_of_not_repeated hbyte hflat']
  exact ⟨helements.name_eq, helements.kind_eq, rfl, helements.origin_eq⟩

end Sequences

variable {t element : TypeExpr}

theorem sameElements_resolve_pointer (m : Mapper) (target : TypeExpr) :
    SameElements (m.resolve target).type (m.resolve (.pointer target)).type := ⟨rfl, rfl, rfl, rfl⟩

theorem not_isByte_pointer (target : TypeExpr) : ¬(TypeExpr.pointer target).isByte := by
  simp [TypeExpr.isByte, TypeExpr.ofName]

/-- A pointer to bytes is no message, nor are several. -/
private theorem not_isByte_of_isMessage_pointer {whole target : TypeExpr} {r : Resolution}
    (h : (resolveBy.sequence m whole (.pointer target) r).type.isMessage)
    (hr : r = m.resolve (.pointer target)) (hflat : ¬r.type.repeated) : ¬target.isByte := by
  intro hbyte
  rw [type_sequence_of_not_repeated (not_isByte_pointer target) hflat, hr] at h
  exact not_isMessage_of_scalar (kind_resolve_of_isByte hbyte).1 h

/-- **Lists by value.**  A sequence of messages that are not lists themselves is a sequence of the
same messages by value. -/
theorem resolve_elementsByValue (h : (m.resolve t).type.isMessage)
    (hflat : ∀ element, elements? t = some element → ¬(m.resolve element).type.repeated) :
    SameElements (m.resolve (elementsByValue t)).type (m.resolve t).type := by
  fun_induction elementsByValue t with
  | case1 inner ih => exact (ih h hflat).trans (sameElements_resolve_pointer m inner)
  | case2 target =>
      -- the elements lose their pointers, which the name and the origin do not show
      have htarget := hflat _ rfl
      exact sameElements_sequence h (not_isByte_of_isMessage_pointer h rfl htarget)
        (sameElements_resolve_pointer m target) htarget
  | case3 length target =>
      have htarget := hflat _ rfl
      exact sameElements_sequence h (not_isByte_of_isMessage_pointer h rfl htarget)
        (sameElements_resolve_pointer m target) htarget
  | case4 element => exact .refl _
  | case5 length element =>
      exact sameElements_sequence h (not_isByte_of_isMessage h) (.refl _) (hflat _ rfl)
  | case6 t => exact .refl _

/-- A sequence of lists is looked up, by value. -/
theorem resolve_elementsByValue_of_nested (helement : elements? t = some element)
    (hnested : (m.resolve element).type.repeated) :
    (m.resolve (elementsByValue t)).type = (m.lookUp (elementsByValue t)).type := by
  have hbyte {element : TypeExpr} (h : (m.resolve element).type.repeated) : ¬element.isByte :=
    fun hbyte => (kind_resolve_of_isByte hbyte).2 h
  fun_induction elementsByValue t with
  | case1 inner ih => exact ih helement
  | case2 target =>
      cases helement
      exact type_sequence_of_repeated (hbyte hnested) hnested
  | case3 length target =>
      cases helement
      exact type_sequence_of_repeated (hbyte hnested) hnested
  | case4 element =>
      cases helement
      exact type_sequence_of_repeated (hbyte hnested) hnested
  | case5 length element =>
      cases helement
      exact type_sequence_of_repeated (hbyte hnested) hnested
  | case6 t =>
      unfold elements? at helement
      split at helement <;> simp_all

/-- A list of lists is found in the table by value as well, with the same elements. -/
def FindsByValue (m : Mapper) (t : TypeExpr) : Prop :=
  ∀ element, elements? t = some element → (m.resolve element).type.repeated →
    ∃ entry, m.overrides.get? (m.key (elementsByValue t)) = some entry ∧
      SameElements entry (m.resolve t).type

/-- Whether a list by value has the same elements is a question about lists of lists alone. -/
theorem sameElements_elementsByValue_iff (h : (m.resolve t).type.isMessage) :
    SameElements (m.resolve (elementsByValue t)).type (m.resolve t).type ↔ m.FindsByValue t := by
  constructor
  · intro hsame element helement hnested
    rw [resolve_elementsByValue_of_nested helement hnested] at hsame
    cases hget : m.overrides.get? (m.key (elementsByValue t)) with
    | some entry =>
        rw [lookUp, hget] at hsame
        exact ⟨entry, rfl, hsame⟩
    | none =>
        -- a placeholder is no message
        rw [lookUp, hget] at hsame
        exact absurd h (not_isMessage_of_scalar hsame.kind_eq.symm)
  · intro hfinds
    by_cases hflat : ∀ element, elements? t = some element → ¬(m.resolve element).type.repeated
    · exact resolve_elementsByValue h hflat
    · push Not at hflat
      obtain ⟨element, helement, hnested⟩ := hflat
      obtain ⟨entry, hget, hsame⟩ := hfinds element helement hnested
      rw [resolve_elementsByValue_of_nested helement hnested, lookUp, hget]
      exact hsame

end Mapper

/-! ## The field of a list -/

/-- The Go name of the field that holds a list. -/
def listFieldName (element : String) : String :=
  Naming.exportedName (Naming.plural (Naming.snakeCase element))

/-- The schema field of a list, given the short name of its elements and its type by value. -/
def listSchemaField (element : String) (type : FieldType) : Schema.Field :=
  ⟨Naming.snakeCase (listFieldName element), "", 1, type,
    extensionsOf (plainField (listFieldName element) (.ofName element)) (listFieldName element)
      false⟩

theorem visibleName?_listField (m : Mapper) (only : Param) :
    visibleName? (m.listField only) =
      if Naming.isExported (listFieldName (m.resolve only.type).type.shortName) then
        some (listFieldName (m.resolve only.type).type.shortName, false)
      else none :=
  visibleName?_plainField ..

theorem schemaField_listField (m : Mapper) (only : Param) :
    m.schemaField (m.listField only) 1 (listFieldName (m.resolve only.type).type.shortName, false) =
      listSchemaField (m.resolve only.type).type.shortName
        (m.resolve (elementsByValue only.type)).type := rfl

theorem schemaFields_listField (m : Mapper) (only : Param) :
    m.schemaFields 1 [m.listField only] =
      if Naming.isExported (listFieldName (m.resolve only.type).type.shortName) then
        [listSchemaField (m.resolve only.type).type.shortName
          (m.resolve (elementsByValue only.type)).type]
      else [] := by
  have hname := visibleName?_listField m only
  split
  case isTrue hexported =>
    rw [if_pos hexported] at hname
    rw [Mapper.schemaFields_cons_of_some hname, schemaField_listField, Mapper.schemaFields]
  case isFalse hexported =>
    rw [if_neg hexported] at hname
    rw [Mapper.schemaFields_cons_of_none hname, Mapper.schemaFields]

/-- The plural of a name comes back from its Go spelling. -/
def PluralKept (element : String) : Prop :=
  Naming.isExported (listFieldName element) ∧
    Naming.snakeCase (listFieldName element) = Naming.plural (Naming.snakeCase element)

/-- A message with one field, which holds a list. -/
def DescribesList (type : FieldType) (message : Message) : Prop :=
  ∃ field, message.fields = [field] ∧
    field.name = Naming.plural (Naming.snakeCase type.shortName) ∧ SameElements field.type type

theorem describesList_iff_of_fields {m : Mapper} {only : Param} {message : Message}
    (hmessage : (m.resolve only.type).type.isMessage)
    (hfields : message.fields = m.schemaFields 1 [m.listField only]) :
    DescribesList (m.resolve only.type).type message ↔
      PluralKept (m.resolve only.type).type.shortName ∧ m.FindsByValue only.type := by
  rw [schemaFields_listField] at hfields
  rw [← Mapper.sameElements_elementsByValue_iff hmessage]
  split at hfields
  case isTrue hexported =>
    constructor
    · rintro ⟨field, heq, hname, hsame⟩
      rw [hfields, List.singleton_inj] at heq
      subst heq
      exact ⟨⟨hexported, hname⟩, hsame⟩
    · rintro ⟨⟨-, hname⟩, hsame⟩
      exact ⟨_, hfields, hname, hsame⟩
  case isFalse hexported =>
    refine iff_of_false ?_ fun hkept => hexported hkept.1.1
    rintro ⟨field, heq, -⟩
    rw [hfields] at heq
    cases heq

/-! ## In the document of a contract -/

section Contract

variable {m : Mapper} {doc doc' : Document} {contract docs name methodDocs : String}
  {before after : List Member} {params results : List Param} {pos : Position} {service : Service}

/-- A method of a contract becomes the method of the service in its place, and the document knows
what stands for its parameters and its results. -/
theorem exists_rpc_of_yields
    (h : (Building.contract m contract docs
      (before ++ .method name params results methodDocs pos :: after)).Yields doc service doc') :
    ∃ rpc, m.rpc (Naming.serviceStem contract) name methodDocs params results = .ok rpc ∧
      service.methods[(methodNames before).length]? = some rpc.method ∧
      rpc.argument.addition.KnownTo doc' ∧ rpc.returns.addition.KnownTo doc' := by
  obtain ⟨rpcs, hrpcs, rfl, hadd⟩ := Building.yields_contract_iff.mp h
  obtain ⟨rpc, hrpc, hat⟩ := Mapper.exists_rpc_at hrpcs
  have hmem : rpc ∈ rpcs := List.mem_of_getElem? hat
  refine ⟨rpc, hrpc, ?_, ?_, ?_⟩
  · rw [List.getElem?_map, hat]
    rfl
  · exact knownTo_of_addAll? hadd (mem_contractAdditions_iff.mpr (.inl ⟨rpc, hmem, .inl rfl⟩))
  · exact knownTo_of_addAll? hadd (mem_contractAdditions_iff.mpr (.inl ⟨rpc, hmem, .inr rfl⟩))

/-- **What the message of a list says.**  If the service of a contract can be built, a method of it
that takes or returns nothing but a list of messages does so through the message that is named
after the short name of the elements.  The document holds that message.  It has exactly one field,
which is called the plural of the short name and has the elements of the member, exactly if the
plural comes back from its Go spelling and lists of lists are found by value as well. -/
theorem describesList_iff
    (h : (Building.contract m contract docs
      (before ++ .method name params results methodDocs pos :: after)).Yields doc service doc') :
    ∃ method, service.methods[(methodNames before).length]? = some method ∧ method.name = name ∧
      ∀ used only,
        (used, [only]) ∈ [(method.argument, withoutContext params),
          (method.returns, withoutError results)] →
        (m.resolve only.type).type.isMessage → (m.resolve only.type).type.repeated →
        used = (m.resolve only.type).type.shortName ++ "List" ∧
          ∃ message, doc'.message? used = some message ∧
            (DescribesList (m.resolve only.type).type message ↔
              PluralKept (m.resolve only.type).type.shortName ∧ m.FindsByValue only.type) := by
  obtain ⟨rpc, hrpc, hat, hargument, hreturns⟩ := exists_rpc_of_yields h
  obtain ⟨hreduceArgument, hreduceReturns, hname, -⟩ := Mapper.rpc_eq_ok_iff.mp hrpc
  refine ⟨_, hat, hname, fun used only hlist hmessage hrepeated => ?_⟩
  -- for the parameters and for the results it is the same from here on
  obtain ⟨wrapperName, r, hreduce, hused, hknown⟩ : ∃ wrapperName r,
      (m.reduce wrapperName [only]).value = .ok r ∧ used = r.name ∧ r.addition.KnownTo doc' := by
    simp only [List.mem_cons, Prod.mk.injEq, List.not_mem_nil, or_false] at hlist
    rcases hlist with ⟨hused, hlist⟩ | ⟨hused, hlist⟩
    · exact ⟨_, rpc.argument, hlist ▸ hreduceArgument, hused, hargument⟩
    · exact ⟨_, rpc.returns, hlist ▸ hreduceReturns, hused, hreturns⟩
  obtain rfl := Mapper.eq_reduced_of_ok hreduce
  rw [Mapper.reduced_of_list hmessage hrepeated] at hused hknown
  obtain ⟨held, hheld, hfields⟩ := exists_message?_of_knownTo hknown
  subst hused
  exact ⟨rfl, held, hheld, describesList_iff_of_fields hmessage hfields⟩

end Contract

/-- A mapper for a package with one record. -/
def widgetMapper : Mapper :=
  ⟨⟨"shop", [⟨"Widget", "", "shop.go", ⟨3, 6⟩, .record []⟩]⟩, .empty, .empty⟩

/-- A method that returns widgets by pointer. -/
def allMember : Member := .method "All" [] [⟨none, .slice (.pointer (.ofName "Widget"))⟩] "" ⟨8, 2⟩

/-- The message of a list by pointer. -/
theorem describesList_widgets :
    ∃ service doc', (Building.contract widgetMapper "Catalog" "" [allMember]).Yields
        (.empty "shop.proto" "shop") service doc' ∧
      ∃ message, doc'.message? "WidgetList" = some message ∧
        DescribesList ⟨"Widget", .message, true, false, false, none, none⟩ message := by
  have hyields : (Building.contract widgetMapper "Catalog" "" ([] ++ [allMember])).Yields
      (.empty "shop.proto" "shop")
      ⟨"Catalog", "", [⟨"All", "", "CatalogAllOp", "WidgetList"⟩]⟩
      ((Building.contract widgetMapper "Catalog" "" [allMember]).after
        (.empty "shop.proto" "shop")) := by
    unfold Building.Yields
    decide +kernel
  have htype : (widgetMapper.resolve (.slice (.pointer (.ofName "Widget")))).type =
      ⟨"Widget", .message, true, false, false, none, none⟩ := by
    decide +kernel
  have hfinds : widgetMapper.FindsByValue (.slice (.pointer (.ofName "Widget"))) := by
    intro element helement hnested
    cases helement
    exact absurd hnested (by decide +kernel)
  obtain ⟨method, hmethod, -, hlists⟩ := describesList_iff hyields
  cases hmethod
  obtain ⟨-, message, hheld, hdescribes⟩ := hlists "WidgetList"
    ⟨none, .slice (.pointer (.ofName "Widget"))⟩ (by decide) (by decide +kernel) (by decide +kernel)
  rw [htype] at hdescribes
  refine ⟨_, _, hyields, message, hheld, hdescribes.mpr ⟨?_, hfinds⟩⟩
  unfold PluralKept
  decide +kernel

/-- A mapper for a package with a record, and with an override for an array of slices. -/
def callMapper : Mapper :=
  ⟨⟨"shop", [⟨"HttpApiCall", "", "shop.go", ⟨3, 6⟩, .record []⟩]⟩, .empty,
    .ofList [("[3][]Point", { FieldType.message "Point" with repeated := true })]⟩

/-- A method that returns calls. -/
def callsMember : Member := .method "Calls" [] [⟨none, .slice (.ofName "HttpApiCall")⟩] "" ⟨8, 2⟩

/-- A method that returns an array of slices. -/
def gridMember : Member :=
  .method "Grid" [] [⟨none, .array "3" (.slice (.ofName "Point"))⟩] "" ⟨9, 2⟩

/-- The message of the calls. The words of the plural run together in Go. -/
def callList : Message :=
  ⟨"HttpApiCallList", "",
    [⟨"httpapi_calls", "", 1, { FieldType.message "HttpApiCall" with repeated := true },
      ⟨some "HTTPAPICalls", false, none⟩⟩]⟩

/-- The message of the array. There is no override for slices of slices. -/
def pointList : Message :=
  ⟨"PointList", "", [⟨"points", "", 1, .scalar "UNRESOLVED.[][]Point", ⟨none, false, none⟩⟩]⟩

/-- A document with both methods. -/
def registryDocument : Document :=
  { (Document.empty "shop.proto" "shop").addImport extensionsFile with
    messages := [⟨"RegistryCallsOp", "", []⟩, callList, ⟨"RegistryGridOp", "", []⟩, pointList]
    services := [⟨"Registry", "", [⟨"Calls", "", "RegistryCallsOp", "HttpApiCallList"⟩,
      ⟨"Grid", "", "RegistryGridOp", "PointList"⟩]⟩] }

/-- One field has another name, and the other one another type. -/
theorem not_describesList_calls_and_grid :
    (∃ service, (Building.contract callMapper "Registry" "" [callsMember, gridMember]).Yields
        (.empty "shop.proto" "shop") service registryDocument) ∧
      (registryDocument.message? "HttpApiCallList" = some callList ∧
        ¬DescribesList (callMapper.resolve (.slice (.ofName "HttpApiCall"))).type callList) ∧
      registryDocument.message? "PointList" = some pointList ∧
        ¬DescribesList (callMapper.resolve (.array "3" (.slice (.ofName "Point")))).type
          pointList := by
  refine ⟨⟨⟨"Registry", "", [⟨"Calls", "", "RegistryCallsOp", "HttpApiCallList"⟩,
    ⟨"Grid", "", "RegistryGridOp", "PointList"⟩]⟩, ?_⟩, ⟨by decide, ?_⟩, by decide, ?_⟩
  · unfold Building.Yields
    decide +kernel
  · rintro ⟨field, heq, hname, -⟩
    obtain rfl := List.singleton_inj.mp heq
    exact absurd hname (by decide +kernel)
  · rintro ⟨field, heq, -, hsame⟩
    obtain rfl := List.singleton_inj.mp heq
    exact absurd hsame.kind_eq (by decide +kernel)

end GoSchema.Mapping
