import GoSchema.Mapping.Overrides
import GoSchema.Proofs.Json.Printing
import GoSchema.Schema.Dump

/-!
# Printed types as overrides

The type of a field is printed with a document as a JSON object, and the same object says in a table
of overrides which type is meant.  What is printed leaves out members that hold nothing, and what is
read fills in members that are missing; the two fit together, so the object can be copied from one
place to the other (`entries_parse?_printed`).
-/

namespace GoSchema.Schema

open Json Text.Quoted

namespace FieldType

/-! ## The members of a type -/

/-- The members that are printed of a type. -/
def members (t : FieldType) : List (String × Json) :=
  [("name", .ofText t.name), ("kind", .ofText t.kind.name), ("repeated", .bool t.repeated),
    ("optional", .bool t.optional), ("non_nullable", .bool t.nonNullable)] ++
  optionalMember "cast_type" t.castType? ++ optionalMember "origin" t.origin?

theorem toJson_eq (t : FieldType) : t.toJson = .ofMembers t.members := rfl

theorem isAtom_of_mem_members (t : FieldType) : ∀ m ∈ t.members, IsAtom m.2 := by
  have hoptional (key : String) (value? : Option String) :
      ∀ m ∈ optionalMember key value?, IsAtom m.2 := by
    cases value? with
    | none => exact List.forall_mem_nil _
    | some value => exact List.forall_mem_singleton.mpr (.text value)
  intro m hm
  simp only [members, List.mem_append, List.mem_cons, List.not_mem_nil, or_false] at hm
  rcases hm with ((rfl | rfl | rfl | rfl | rfl) | hm) | hm
  · exact .text _
  · exact .text _
  · exact .bool _
  · exact .bool _
  · exact .bool _
  · exact hoptional _ _ m hm
  · exact hoptional _ _ m hm

/-! ## Reading the members -/

theorem text?_string_pieces (s : String) : (Json.string (pieces s)).text? = some s := by
  rw [text?, pieces, join_map_char, Option.map_some, String.ofList_toList]

theorem text?_ofText (s : String) : (Json.ofText s).text? = some s := text?_string_pieces s

/-- Members of different names that all mean something are read as they are. -/
theorem knownMembers?_eq {members : List (String × Json)}
    (hknown : ∀ m ∈ members, m.1 ∈ memberNames) (hnodup : (members.map (·.1)).Nodup) :
    knownMembers? (members.map fun m => (pieces m.1, m.2)) = some members := by
  have hnamed : ((members.map fun m => (pieces m.1, m.2)).mapM fun m => do
      return (← (Json.string m.1).text?, m.2)) = some members := by
    clear hknown hnodup
    induction members with
    | nil => rfl
    | cons m members ih =>
        rw [List.map_cons, List.mapM_cons, ih]
        dsimp only
        rw [text?_string_pieces]
        rfl
  have hall : (members.filter fun m => memberNames.contains m.1) = members :=
    List.filter_eq_self.mpr fun m hm => List.contains_iff_mem.mpr (hknown m hm)
  show Option.bind ((members.map fun m => (pieces m.1, m.2)).mapM fun m => do
      return (← (Json.string m.1).text?, m.2)) _ = _
  rw [hnamed, Option.bind_some, hall]
  exact if_pos hnodup

theorem kind_ofJson?_ofText (kind : Kind) : Kind.ofJson? (.ofText kind.name) = some kind := by
  have htext : Kind.ofJson? (.ofText kind.name) = (Json.ofText kind.name).text?.bind Kind.ofName? := rfl
  rw [htext, text?_ofText]
  cases kind <;> rfl

theorem optionalText?_ofText (s : String) : optionalText? (.ofText s) = some (some s) := by
  have htext : optionalText? (.ofText s) = (Json.ofText s).text?.map some := rfl
  rw [htext, text?_ofText, Option.map_some]

/-- Read by their names, the printed members are the type again: those left out held nothing. -/
theorem ofLookup?_members (t : FieldType) :
    ofLookup? (fun name => t.members.lookup name) = some t := by
  obtain ⟨name, kind, repeated, optional, nonNullable, castType?, origin?⟩ := t
  cases castType? <;> cases origin? <;>
    simp [ofLookup?, members, optionalMember, memberOr, List.lookup_cons, kind_ofJson?_ofText,
      text?_ofText, optionalText?_ofText, bool?]

theorem ofJson?_toJson (t : FieldType) : FieldType.ofJson? t.toJson = some t := by
  have hknown : (∀ m ∈ t.members, m.1 ∈ memberNames) ∧ (t.members.map (·.1)).Nodup := by
    obtain ⟨name, kind, repeated, optional, nonNullable, castType?, origin?⟩ := t
    cases castType? <;> cases origin? <;> simp [members, optionalMember, memberNames]
  rw [toJson_eq, ofMembers, FieldType.ofJson?, knownMembers?_eq hknown.1 hknown.2,
    Option.bind_eq_bind, Option.bind_some]
  exact ofLookup?_members t

/-! ## The printed type -/

/-- The object that is printed for the type of a field in a document. -/
def printed (t : FieldType) : List Char := print 5 t.toJson

/-- The object stands in the document, as the type of the field. -/
theorem printed_infix_dump {doc : Document} {m : Message} (hm : m ∈ doc.messages) {f : Field}
    (hf : f ∈ m.fields) : "\"type_\": ".toList ++ f.type.printed <:+: doc.dump.toList := by
  have hmessages : print 1 (.array (doc.messages.map Message.toJson)) <:+: print 0 doc.toJson :=
    isInfix_print_value "messages" (by simp)
  have hmessage : print 2 m.toJson <:+: print 1 (.array (doc.messages.map Message.toJson)) :=
    isInfix_print_item (List.mem_map_of_mem hm)
  have hfields : print 3 (.array (m.fields.map Field.toJson)) <:+: print 2 m.toJson :=
    isInfix_print_value "fields" (by simp)
  have hfield : print 4 f.toJson <:+: print 3 (.array (m.fields.map Field.toJson)) :=
    isInfix_print_item (List.mem_map_of_mem hf)
  have htype : printMember 5 (pieces "type_", f.type.toJson) <:+: print 4 f.toJson :=
    isInfix_print_member (by simp)
  have hmember : printMember 5 (pieces "type_", f.type.toJson) =
      "\"type_\": ".toList ++ f.type.printed := by
    rw [printMember, printPieces_pieces]
    rfl
  have hdump : doc.dump.toList = print 0 doc.toJson := String.toList_ofList
  rw [hdump, ← hmember]
  exact htype.trans (hfield.trans (hfields.trans (hmessage.trans hmessages)))

theorem yields_printed (t : FieldType) {spaces : List Char} (h : Spaces spaces) (rest : List Char) :
    Yields (spaces ++ (t.printed ++ rest)) t.toJson rest :=
  yields_print_ofMembers t.isAtom_of_mem_members h 5 rest

end FieldType

/-- **A printed type is read as the type that it was printed for.**  The object that is printed for
the type of a field stands in the printed document.  As the value of a member in an object of its
own, under whatever key, it is a table of overrides with one entry: the key with the type. -/
theorem entries_parse?_printed (doc : Document) {m : Message} (hm : m ∈ doc.messages) {f : Field}
    (hf : f ∈ m.fields) (key : String) {written : List Char}
    (h : HoldsMember key f.type.printed written) :
    "\"type_\": ".toList ++ f.type.printed <:+: doc.dump.toList ∧
      (Overrides.parse? (String.ofList written)).map TextMap.entries = some [(key, f.type)] := by
  obtain ⟨keyPieces, hread, hkey⟩ :=
    parse?_of_holdsMember h fun _ hspaces rest => f.type.yields_printed hspaces rest
  refine ⟨FieldType.printed_infix_dump hm hf, ?_⟩
  rw [Overrides.parse?, String.toList_ofList, hread, Option.bind_eq_bind, Option.bind_some,
    Overrides.ofJson?]
  simp only [List.mapM_cons, List.mapM_nil, hkey, FieldType.ofJson?_toJson, Option.bind_eq_bind,
    Option.bind_some, Option.pure_def]
  rfl

/-- A field whose type has everything that a type may have, and names with signs to be escaped. -/
def worth : Field :=
  ⟨"worth", "", 1, ⟨"money.\"Amount\"", .message, true, false, true, some "a\\b\n", some "€.proto"⟩,
    ⟨none, false, none⟩⟩

/-- A document with this field. -/
def coinage : Document := ⟨"shop.proto", "shop", .empty, .empty, [⟨"Coin", "", [worth]⟩], []⟩

/-- An object that gives a type the key of a struct with a tag. -/
def taggedEntry (type : FieldType) : List Char :=
  '\x7b' :: (encode "struct\x7bA int\"a\"\x7d".toList ++ ':' :: ' ' :: (type.printed ++ ['\x7d']))

theorem entries_parse?_printed_worth :
    (⟨"Coin", "", [worth]⟩ : Message) ∈ coinage.messages ∧
      HoldsMember "struct\x7bA int\"a\"\x7d" worth.type.printed (taggedEntry worth.type) ∧
      "\"type_\": ".toList ++ worth.type.printed <:+: coinage.dump.toList ∧
      (Overrides.parse? (String.ofList (taggedEntry worth.type))).map TextMap.entries =
        some [("struct\x7bA int\"a\"\x7d", worth.type)] :=
  ⟨List.mem_singleton_self _, holdsMember_encode _ _,
    entries_parse?_printed coinage (List.mem_singleton_self _) (List.mem_singleton_self _) _
      (holdsMember_encode _ _)⟩

end GoSchema.Schema
